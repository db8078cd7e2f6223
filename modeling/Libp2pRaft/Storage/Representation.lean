import Libp2pRaft.Library.TransitionSystem
import Libp2pRaft.Storage.Memory

/-!
# How the in-memory storage represents the log

`entry` reads the vector by position, `last_index_term` reads the index field
of its last element, and the type of the source says nothing about the two.
This module models its fields without the invariant that `MemoryStorage`
carries and proves that every run of writes, failed ones included, keeps it.
On a 64-bit target the casts of an index to `usize` change nothing.
-/

namespace Libp2pRaft

open TransitionSystem

namespace MemoryStorage

/-- A call that changes the hard state or the log. -/
inductive Write
  | persist (hardState : Option HardState) (entries : List LogEntry)
  | truncateFrom (index : Nat)
  deriving DecidableEq

/-- The fields of the storage, with entries of any index. -/
structure Raw where
  hardState : HardState
  entries : List LogEntry
  deriving DecidableEq

namespace Raw

/-- An empty storage. -/
def new : Raw where
  hardState := HardState.default
  entries := []

/-- The entry at a position of the vector; index `0` holds nothing. -/
def entry (self : Raw) (index : Nat) : Option LogEntry :=
  if index = 0 then none else self.entries[index - 1]?

/-- The index field and the term of the last entry. -/
def lastIndexTerm (self : Raw) : Nat × Nat :=
  match self.entries.getLast? with
  | some e => (e.index, e.term)
  | none => (0, 0)

/-- Drop every position from an index on. -/
def truncateFrom (self : Raw) (index : Nat) : Raw :=
  if index = 0 then
    { self with entries := [] }
  else if index - 1 < self.entries.length then
    { self with entries := self.entries.take (index - 1) }
  else
    self

/-- Record the hard state, then write the batch entry by entry. -/
def persist
    (self : Raw)
    (hardState : Option HardState)
    (entries : List LogEntry) : Except StorageError Unit × Raw :=
  let batch := writeEntries self.entries entries
  (batch.1,
    { hardState := hardState.getD self.hardState
      entries := batch.2 })

/-- The storage after a write, whatever the write returned. -/
def write (self : Raw) : Write → Raw
  | .persist hardState entries => (self.persist hardState entries).2
  | .truncateFrom index => self.truncateFrom index

/-- A new storage and the writes it goes through. -/
def operation : System Raw Write where
  init := new
  step := write

/-- The positions of the vector are the indices `1..n` of a log. -/
structure Indexed (storage : Raw) : Prop where
  ownIndex : ∀ {index stored}, storage.entry index = some stored →
    stored.index = index
  indices : storage.entries.map LogEntry.index =
    List.range' 1 storage.lastIndexTerm.1
  holds : ∀ index, (storage.entry index).isSome ↔
    1 ≤ index ∧ index ≤ storage.lastIndexTerm.1
  lastTerm : storage.lastIndexTerm.2 =
    ((storage.entry storage.lastIndexTerm.1).map LogEntry.term).getD 0

end Raw

/-- Forget that the log is contiguous. -/
def raw (self : MemoryStorage) : Raw where
  hardState := self.hardState
  entries := self.entries

theorem raw_entry (self : MemoryStorage) (index : Nat) :
    self.raw.entry index = self.entry index := rfl

theorem raw_lastIndexTerm (self : MemoryStorage) :
    self.raw.lastIndexTerm =
      (self.entries.length, Consensus.lastTerm self.entries) :=
  LawfulStorage.lastIndexTerm_eq self

theorem raw_persist
    (self : MemoryStorage)
    (hardState : Option HardState)
    (entries : List LogEntry) :
    self.raw.persist hardState entries =
      ((self.persist hardState entries).1,
        (self.persist hardState entries).2.raw) := rfl

/-- The check of the length before the cut makes no difference. -/
theorem raw_truncateFrom
    (self : MemoryStorage)
    (index : Nat) :
    self.raw.truncateFrom index = (self.truncateFrom index).raw := by
  unfold Raw.truncateFrom truncateFrom
  split_ifs with zero inside
  · rfl
  · rfl
  · have whole : self.entries.take (index - 1) = self.entries :=
      List.take_of_length_le (Nat.le_of_not_lt inside)
    simp only [raw, whole]

/-- A storage with a contiguous log has every entry at its own index. -/
theorem raw_indexed (self : MemoryStorage) : self.raw.Indexed where
  ownIndex := by
    intro index stored found
    rw [raw_entry] at found
    unfold entry at found
    split_ifs at found with zero
    have own := self.contiguous.index_eq found
    omega
  indices := by
    rw [raw_lastIndexTerm]
    exact self.contiguous
  holds := by
    intro index
    rw [raw_lastIndexTerm, raw_entry]
    unfold entry
    split_ifs with zero
    · simp [zero]
    · rw [isSome_getElem?]
      omega
  lastTerm := by
    rw [raw_lastIndexTerm, raw_entry]
    unfold entry Consensus.lastTerm
    split_ifs with zero
    · have empty := List.length_eq_zero_iff.mp zero
      simp [empty]
    · rw [List.getLast?_eq_getElem?]
      rfl

namespace Raw

/-- The vectors that represent a log are those of a storage with a contiguous
one. -/
theorem indexed_iff
    {self : Raw} :
    self.Indexed ↔ ∃ storage : MemoryStorage, storage.raw = self := by
  constructor
  · intro indexed
    have length : self.entries.length = self.lastIndexTerm.1 := by
      simpa using congrArg List.length indexed.indices
    have contiguous : Contiguous self.entries := by
      unfold Contiguous Consecutive
      rw [length]
      exact indexed.indices
    exact ⟨⟨self.hardState, self.entries, contiguous⟩, rfl⟩
  · rintro ⟨storage, rfl⟩
    exact storage.raw_indexed

/-- A write keeps every entry at its own index, also when it fails. -/
theorem Indexed.write
    {self : Raw}
    (indexed : self.Indexed)
    (call : Write) :
    (self.write call).Indexed := by
  obtain ⟨storage, rfl⟩ := indexed_iff.mp indexed
  cases call with
  | persist hardState entries =>
      exact (storage.persist hardState entries).2.raw_indexed
  | truncateFrom index =>
      show (storage.raw.truncateFrom index).Indexed
      rw [raw_truncateFrom]
      exact (storage.truncateFrom index).raw_indexed

theorem run_indexed (calls : List Write) :
    (operation.run calls).Indexed :=
  operation.invariant (raw_indexed .new)
    (fun _ call indexed => indexed.write call) calls

/-- A batch that starts inside the log or right behind it replaces what
follows. -/
theorem Indexed.persist
    {self : Raw}
    (indexed : self.Indexed)
    (hardState : Option HardState)
    {first : Nat}
    {batch : List LogEntry}
    (nonempty : batch ≠ [])
    (consecutive : Consecutive first batch)
    (positive : 1 ≤ first)
    (bounded : first ≤ self.lastIndexTerm.1 + 1) :
    (self.persist hardState batch).1 = .ok () ∧
      (self.persist hardState batch).2.entries =
        self.entries.take (first - 1) ++ batch := by
  obtain ⟨storage, rfl⟩ := indexed_iff.mp indexed
  rw [raw_lastIndexTerm] at bounded
  obtain ⟨ok, -, spliced⟩ :=
    storage.persist_consecutive hardState consecutive positive bounded
  rw [if_neg nonempty] at spliced
  rw [raw_persist]
  exact ⟨ok, spliced⟩

/-- After any writes the vector holds the entries `1..n` at their indices, and
a consecutive batch that starts at one of them or right behind them is stored
behind the entries before it. -/
theorem log_representation (calls : List Write) :
    (operation.run calls).Indexed ∧
      ∀ hardState first batch, batch ≠ [] → Consecutive first batch →
        1 ≤ first → first ≤ (operation.run calls).lastIndexTerm.1 + 1 →
        ((operation.run calls).persist hardState batch).1 = .ok () ∧
          ((operation.run calls).persist hardState batch).2.entries =
            (operation.run calls).entries.take (first - 1) ++ batch := by
  have indexed := run_indexed calls
  refine ⟨indexed, ?_⟩
  intro hardState first batch nonempty consecutive positive bounded
  exact indexed.persist hardState nonempty consecutive positive bounded

/-- Three entries are stored, the last one is cut off, and a batch with a gap
fails after it has overwritten the first. -/
def brokenOff : List Write :=
  [.persist none
      [⟨1, 1, .command [1]⟩, ⟨2, 1, .command [2]⟩, ⟨3, 1, .command [3]⟩],
    .truncateFrom 3,
    .persist (some ⟨2, none⟩) [⟨1, 2, .command [4]⟩, ⟨3, 2, .command [5]⟩]]

/-- The theorem applies to a batch that follows a failed one. -/
theorem log_representation_brokenOff :
    (operation.run brokenOff).entries = [⟨1, 2, .command [4]⟩] ∧
      ((operation.run brokenOff).persist none [⟨2, 2, .command [5]⟩]).1 =
        .ok () ∧
      ((operation.run brokenOff).persist none
          [⟨2, 2, .command [5]⟩]).2.entries =
        (operation.run brokenOff).entries.take 1 ++ [⟨2, 2, .command [5]⟩] :=
  ⟨by decide, (log_representation brokenOff).2 none 2 [⟨2, 2, .command [5]⟩]
    (by decide) (by decide) (by decide) (by decide)⟩

end Raw

end MemoryStorage

end Libp2pRaft
