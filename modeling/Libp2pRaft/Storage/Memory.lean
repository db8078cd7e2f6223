import Libp2pRaft.Storage.Basic
import Mathlib.Data.List.Basic
import Mathlib.Data.List.Range

/-!
# The in-memory storage

`MemoryStorage` of `storage/memory.rs`.  The vector of entries is private to
the source module and only `persist` and `truncate_from` change it, so the
invariant they keep, that the entry at position `i` carries index `i + 1`, is
a field of the model.
-/

namespace Libp2pRaft

open Consensus

/-- One round of the batch loop of `persist`: push at the end, or overwrite a
stored slot and drop what follows it. -/
def writeEntry
    (log : List LogEntry)
    (entry : LogEntry) : Except StorageError (List LogEntry) :=
  if entry.index = 0 then
    .error (.msg "log index must be >= 1")
  else if entry.index - 1 = log.length then
    .ok (log ++ [entry])
  else if entry.index - 1 < log.length then
    .ok ((log.set (entry.index - 1) entry).take entry.index)
  else
    .error (.msg ("non-contiguous append at index " ++ toString entry.index))

/-- The batch loop of `persist`.  An error leaves what was written before it. -/
def writeEntries
    (log : List LogEntry) :
    List LogEntry → Except StorageError Unit × List LogEntry
  | [] => (.ok (), log)
  | entry :: rest =>
      match writeEntry log entry with
      | .ok written => writeEntries written rest
      | .error error => (.error error, log)

/-- The entry overwrites a slot of a log of the given length or extends it. -/
def Fits (length : Nat) (entry : LogEntry) : Prop :=
  0 < entry.index ∧ entry.index ≤ length + 1

instance (length : Nat) (entry : LogEntry) : Decidable (Fits length entry) :=
  inferInstanceAs (Decidable (_ ∧ _))

/-- A successful write at index `i` keeps the first `i - 1` entries and puts
the new entry behind them. -/
theorem writeEntry_ok
    {log written : List LogEntry}
    {entry : LogEntry}
    (done : writeEntry log entry = .ok written) :
    0 < entry.index ∧ entry.index ≤ log.length + 1 ∧
      written = log.take (entry.index - 1) ++ [entry] := by
  unfold writeEntry at done
  split_ifs at done with zero last inside
  · cases done
    refine ⟨by omega, by omega, ?_⟩
    rw [last, List.take_length]
  · cases done
    refine ⟨by omega, by omega, ?_⟩
    obtain ⟨slot, slotEq⟩ : ∃ slot, entry.index = slot + 1 :=
      ⟨entry.index - 1, by omega⟩
    rw [slotEq, Nat.add_sub_cancel] at inside ⊢
    rw [List.take_set, List.take_succ_eq_append_getElem inside,
      List.set_append_right _ _ (List.length_take_le _ _)]
    simp [Nat.min_eq_left (Nat.le_of_lt inside)]

theorem writeEntry_of_fits
    {log : List LogEntry}
    {entry : LogEntry}
    (fits : Fits log.length entry) :
    writeEntry log entry = .ok (log.take (entry.index - 1) ++ [entry]) := by
  obtain ⟨positive, bounded⟩ := fits
  cases done : writeEntry log entry with
  | ok written => rw [(writeEntry_ok done).2.2]
  | error error =>
      unfold writeEntry at done
      split_ifs at done with zero last inside
      · omega
      · omega

theorem writeEntry_of_not_fits
    {log : List LogEntry}
    {entry : LogEntry}
    (refused : ¬ Fits log.length entry) :
    ∃ error, writeEntry log entry = .error error := by
  cases done : writeEntry log entry with
  | error error => exact ⟨error, rfl⟩
  | ok written =>
      have fits := writeEntry_ok done
      exact absurd ⟨fits.1, fits.2.1⟩ refused

/-- The new entry is the last one. -/
theorem Fits.length_written
    {log : List LogEntry}
    {entry : LogEntry}
    (fits : Fits log.length entry) :
    (log.take (entry.index - 1) ++ [entry]).length = entry.index := by
  obtain ⟨positive, bounded⟩ := fits
  rw [List.length_append, List.length_take, List.length_singleton]
  omega

theorem writeEntry_contiguous
    {log written : List LogEntry}
    {entry : LogEntry}
    (contiguous : Contiguous log)
    (done : writeEntry log entry = .ok written) :
    Contiguous written := by
  obtain ⟨positive, bounded, rfl⟩ := writeEntry_ok done
  apply (contiguous.take (entry.index - 1)).concat
  rw [List.length_take]
  omega

theorem writeEntries_contiguous
    {log : List LogEntry}
    (contiguous : Contiguous log)
    (entries : List LogEntry) :
    Contiguous (writeEntries log entries).2 := by
  induction entries generalizing log with
  | nil => exact contiguous
  | cons entry rest inductionHypothesis =>
      unfold writeEntries
      cases done : writeEntry log entry with
      | error error => exact contiguous
      | ok written =>
          exact inductionHypothesis (writeEntry_contiguous contiguous done)

/-- The batch loop writes nothing but entries of the batch. -/
theorem mem_of_mem_writeEntries
    {log batch : List LogEntry}
    {entry : LogEntry}
    (stored : entry ∈ (writeEntries log batch).2) :
    entry ∈ log ∨ entry ∈ batch := by
  induction batch generalizing log with
  | nil => exact .inl stored
  | cons first rest inductionHypothesis =>
      unfold writeEntries at stored
      cases done : writeEntry log first with
      | error error =>
          rw [done] at stored
          exact .inl stored
      | ok written =>
          rw [done] at stored
          obtain ⟨-, -, rfl⟩ := writeEntry_ok done
          rcases inductionHypothesis stored with old | new
          · rcases List.mem_append.mp old with kept | isFirst
            · exact .inl (List.mem_of_mem_take kept)
            · rw [List.mem_singleton.mp isFirst]
              exact .inr List.mem_cons_self
          · exact .inr (List.mem_cons_of_mem _ new)

/-- A consecutive batch that starts inside the log or right behind it is
written as a whole. -/
theorem writeEntries_consecutive
    {log batch : List LogEntry}
    {first : Nat}
    (consecutive : Consecutive first batch)
    (positive : 0 < first)
    (bounded : first ≤ log.length + 1) :
    writeEntries log batch =
      (.ok (), if batch = [] then log else log.take (first - 1) ++ batch) := by
  induction batch generalizing log first with
  | nil => rfl
  | cons entry rest inductionHypothesis =>
      obtain ⟨atFirst, restConsecutive⟩ := Consecutive.cons_iff.mp consecutive
      subst atFirst
      have fits : Fits log.length entry := ⟨positive, bounded⟩
      have next : writeEntries (log.take (entry.index - 1) ++ [entry]) rest =
          (.ok (), log.take (entry.index - 1) ++ entry :: rest) := by
        have spliced := inductionHypothesis restConsecutive
          (Nat.succ_pos entry.index) (Nat.succ_le_succ fits.length_written.ge)
        rw [Nat.add_sub_cancel, List.take_of_length_le fits.length_written.le]
          at spliced
        rw [spliced]
        cases rest with
        | nil => rfl
        | cons => simp
      simp only [writeEntries, writeEntry_of_fits fits, next,
        List.cons_ne_nil, if_false]

/-- Every entry the batch loop writes, up to an error, has an index above a
bound. -/
def WritesAbove (bound : Nat) (log : List LogEntry) : List LogEntry → Prop
  | [] => True
  | entry :: rest =>
      match writeEntry log entry with
      | .ok written => bound < entry.index ∧ WritesAbove bound written rest
      | .error _ => True

/-- Such a batch leaves everything up to the bound as it is. -/
theorem WritesAbove.take_eq
    {bound : Nat}
    {log batch : List LogEntry}
    (above : WritesAbove bound log batch) :
    (writeEntries log batch).2.take bound = log.take bound := by
  induction batch generalizing log with
  | nil => rfl
  | cons entry rest inductionHypothesis =>
      unfold WritesAbove at above
      unfold writeEntries
      cases done : writeEntry log entry with
      | error error => rfl
      | ok written =>
          rw [done] at above
          obtain ⟨positive, bounded, writtenEq⟩ := writeEntry_ok done
          show (writeEntries written rest).2.take bound = _
          rw [inductionHypothesis above.2, writtenEq,
            List.take_append_of_le_length, List.take_take, Nat.min_eq_left]
          · have beyond := above.1
            omega
          · rw [List.length_take]
            have beyond := above.1
            omega

/-- Hard state and log of one process. -/
structure MemoryStorage where
  hardState : HardState
  entries : List LogEntry
  contiguous : Contiguous entries
  deriving DecidableEq

namespace MemoryStorage

/-- An empty storage. -/
def new : MemoryStorage where
  hardState := HardState.default
  entries := []
  contiguous := Consecutive.nil

/-- The stored entry at an index; index `0` holds nothing. -/
def entry (self : MemoryStorage) (index : Nat) : Option LogEntry :=
  if index = 0 then none else self.entries[index - 1]?

/-- Index and term of the last entry. -/
def lastIndexTerm (self : MemoryStorage) : Nat × Nat :=
  match self.entries.getLast? with
  | some e => (e.index, e.term)
  | none => (0, 0)

/-- Drop every entry from an index on. -/
def truncateFrom (self : MemoryStorage) (index : Nat) : MemoryStorage :=
  if index = 0 then
    { self with entries := [], contiguous := Consecutive.nil }
  else
    { self with
      entries := self.entries.take (index - 1)
      contiguous := self.contiguous.take (index - 1) }

/-- Record the hard state, then write the batch entry by entry. -/
def persist
    (self : MemoryStorage)
    (hardState : Option HardState)
    (entries : List LogEntry) : Except StorageError Unit × MemoryStorage :=
  let batch := writeEntries self.entries entries
  (batch.1,
    { hardState := hardState.getD self.hardState
      entries := batch.2
      contiguous := writeEntries_contiguous self.contiguous entries })

instance : Storage MemoryStorage where
  hardState := MemoryStorage.hardState
  entry := entry
  lastIndexTerm := lastIndexTerm
  truncateFrom := truncateFrom
  persist := persist

@[simp] theorem storage_hardState (self : MemoryStorage) :
    Storage.hardState self = self.hardState := rfl

/-- A consecutive batch at the end of the log or inside it is stored. -/
theorem persist_consecutive
    (self : MemoryStorage)
    (hardState : Option HardState)
    {first : Nat}
    {batch : List LogEntry}
    (consecutive : Consecutive first batch)
    (positive : 0 < first)
    (bounded : first ≤ self.entries.length + 1) :
    (self.persist hardState batch).1 = .ok () ∧
      (self.persist hardState batch).2.hardState =
        hardState.getD self.hardState ∧
      (self.persist hardState batch).2.entries =
        if batch = [] then self.entries
        else self.entries.take (first - 1) ++ batch := by
  have whole := writeEntries_consecutive consecutive positive bounded
  refine ⟨?_, rfl, ?_⟩
  · simp only [persist, whole]
  · simp only [persist, whole]

instance : LawfulStorage MemoryStorage where
  log := MemoryStorage.entries
  contiguous := MemoryStorage.contiguous
  entry_eq _ _ := rfl
  lastIndexTerm_eq self := by
    show self.lastIndexTerm = _
    unfold lastIndexTerm lastTerm
    rw [List.getLast?_eq_getElem?]
    cases last : self.entries[self.entries.length - 1]? with
    | none =>
        rw [List.getElem?_eq_none_iff] at last
        simp
        omega
    | some entry =>
        have inside := (List.getElem?_eq_some_iff.mp last).1
        have atEnd := self.contiguous.index_eq last
        simp only [Option.map_some, Option.getD_some]
        rw [atEnd]
        congr 1
        omega
  log_truncateFrom self index := by
    show (self.truncateFrom index).entries = _
    unfold truncateFrom
    split_ifs with zero
    · simp [zero]
    · rfl
  hardState_truncateFrom self index := by
    show (self.truncateFrom index).hardState = _
    unfold truncateFrom
    split_ifs <;> rfl
  persist_ok self hardState first batch written done consecutive positive
      bounded := by
    have stored := self.persist_consecutive hardState consecutive positive
      bounded
    rw [show self.persist hardState batch = _ from done] at stored
    exact stored.2

@[simp] theorem storage_log (self : MemoryStorage) :
    LawfulStorage.log self = self.entries := rfl

end MemoryStorage

end Libp2pRaft
