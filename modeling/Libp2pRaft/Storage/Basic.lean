import Libp2pRaft.Library.TaggedLog
import Libp2pRaft.Raft.Types

/-!
# The storage interface

The functions of the `Storage` trait that the consensus core calls, and the
contract its documentation states: `persist` is one atomic batch, so a failed
call leaves the stored state as it was, and a successful one records the hard
state and splices a contiguous batch into the log.
-/

namespace Libp2pRaft

open Consensus

instance : Tagged LogEntry where
  term := LogEntry.term

/-- Hard state and log persistence. -/
class Storage (S : Type) where
  /-- The stored term and vote. -/
  hardState : S → HardState
  /-- The stored entry at an index. -/
  entry : S → Nat → Option LogEntry
  /-- Index and term of the last entry, `(0, 0)` for an empty log. -/
  lastIndexTerm : S → Nat × Nat
  /-- Drop every entry from an index on. -/
  truncateFrom : S → Nat → S
  /-- Write a hard state and a batch of entries. -/
  persist : S → Option HardState → List LogEntry → Except StorageError Unit × S

/-- The indices of a batch count up from a first one. -/
def Consecutive (first : Nat) (batch : List LogEntry) : Prop :=
  batch.map LogEntry.index = List.range' first batch.length

instance (first : Nat) (batch : List LogEntry) :
    Decidable (Consecutive first batch) :=
  inferInstanceAs (Decidable (_ = _))

/-- The indices of a whole log count up from `1`. -/
abbrev Contiguous (log : List LogEntry) : Prop :=
  Consecutive 1 log

/-- A storage that holds a contiguous log and a hard state, and whose
successful writes splice contiguous batches into the log. -/
class LawfulStorage (S : Type) [Storage S] where
  /-- The stored entries in order. -/
  log : S → List LogEntry
  contiguous : ∀ storage : S, Contiguous (log storage)
  entry_eq : ∀ (storage : S) index, Storage.entry storage index =
    if index = 0 then none else (log storage)[index - 1]?
  lastIndexTerm_eq : ∀ storage : S, Storage.lastIndexTerm storage =
    ((log storage).length, lastTerm (log storage))
  log_truncateFrom : ∀ (storage : S) index,
    log (Storage.truncateFrom storage index) = (log storage).take (index - 1)
  hardState_truncateFrom : ∀ (storage : S) index,
    Storage.hardState (Storage.truncateFrom storage index) =
      Storage.hardState storage
  persist_ok : ∀ (storage : S) hardState first batch written,
    Storage.persist storage hardState batch = (.ok (), written) →
    Consecutive first batch → 0 < first → first ≤ (log storage).length + 1 →
    Storage.hardState written = hardState.getD (Storage.hardState storage) ∧
      log written = if batch = [] then log storage else
        (log storage).take (first - 1) ++ batch

/-- A storage whose failed writes leave the stored state as it was. -/
class AtomicStorage (S : Type) [Storage S] [LawfulStorage S] : Prop where
  persist_error : ∀ (storage : S) hardState batch error written,
    Storage.persist storage hardState batch = (.error error, written) →
    Storage.hardState written = Storage.hardState storage ∧
      LawfulStorage.log written = LawfulStorage.log storage

namespace Consecutive

variable {first : Nat} {batch : List LogEntry}

theorem nil : Consecutive first [] := rfl

/-- The entry at position `i` carries index `first + i`. -/
theorem index_eq
    (consecutive : Consecutive first batch)
    {position : Nat}
    {entry : LogEntry}
    (stored : batch[position]? = some entry) :
    entry.index = first + position := by
  have indexed : (batch.map LogEntry.index)[position]? = some entry.index := by
    rw [List.getElem?_map, stored]
    rfl
  obtain ⟨inside, -⟩ := List.getElem?_eq_some_iff.mp stored
  rw [consecutive, List.getElem?_range' inside] at indexed
  injection indexed with equal
  omega

theorem cons_iff
    {entry : LogEntry} :
    Consecutive first (entry :: batch) ↔
      entry.index = first ∧ Consecutive (first + 1) batch := by
  simp [Consecutive, List.range'_succ]

/-- A batch stays consecutive when its next entry is appended. -/
theorem concat
    (consecutive : Consecutive first batch)
    {entry : LogEntry}
    (next : entry.index = first + batch.length) :
    Consecutive first (batch ++ [entry]) := by
  unfold Consecutive at consecutive ⊢
  rw [List.map_append, consecutive, List.length_append, List.length_singleton,
    List.range'_concat]
  simp [next]

theorem take
    (consecutive : Consecutive first batch)
    (count : Nat) :
    Consecutive first (batch.take count) := by
  unfold Consecutive at consecutive ⊢
  rw [List.map_take, consecutive, List.length_take]
  rcases Nat.le_total count batch.length with short | long
  · rw [List.take_range'_of_length_ge short, Nat.min_eq_left short]
  · rw [List.take_range'_of_length_le long, Nat.min_eq_right long]

theorem drop
    (consecutive : Consecutive first batch)
    (count : Nat) :
    Consecutive (first + count) (batch.drop count) := by
  induction count generalizing first batch with
  | zero => simpa using consecutive
  | succ count inductionHypothesis =>
      cases batch with
      | nil => exact nil
      | cons entry batch =>
          rw [List.drop_succ_cons, Nat.add_comm count 1, ← Nat.add_assoc]
          exact inductionHypothesis (cons_iff.mp consecutive).2

end Consecutive

end Libp2pRaft
