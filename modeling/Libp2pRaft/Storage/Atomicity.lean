import Libp2pRaft.Storage.Memory
import Mathlib.Order.Basic

/-!
# When a failed write leaves the storage as it was

`MemoryStorage::persist` records the hard state and then writes the batch entry
by entry, so an entry that is refused leaves what was written before it.  The
stored state is the old one exactly when what was written was there already.
-/

namespace Libp2pRaft

/-- The entries of a batch before the first one that is refused.  A written
entry ends the log, so the next one has to fit right behind it. -/
def accepted : Nat → List LogEntry → List LogEntry
  | _, [] => []
  | length, entry :: rest =>
      if Fits length entry then entry :: accepted entry.index rest else []

/-- The entries of a batch that no later entry of the batch overwrites or cuts
off. -/
def survivors : List LogEntry → List LogEntry
  | [] => []
  | entry :: rest =>
      if ∀ later ∈ rest, entry.index < later.index then
        entry :: survivors rest
      else
        survivors rest

/-- The lowest index of a batch, or a bound below it. -/
def lowestIndex (bound : Nat) (batch : List LogEntry) : Nat :=
  batch.foldr (fun entry lowest => min entry.index lowest) bound

theorem le_lowestIndex
    {bound index : Nat}
    {batch : List LogEntry} :
    index ≤ lowestIndex bound batch ↔
      index ≤ bound ∧ ∀ entry ∈ batch, index ≤ entry.index := by
  induction batch with
  | nil => simp [lowestIndex]
  | cons entry rest inductionHypothesis =>
      have unfolded : lowestIndex bound (entry :: rest) =
          min entry.index (lowestIndex bound rest) := rfl
      rw [unfolded, Nat.le_min, inductionHypothesis, List.forall_mem_cons]
      tauto

theorem survivors_eq_nil
    {batch : List LogEntry} :
    survivors batch = [] ↔ batch = [] := by
  induction batch with
  | nil => simp [survivors]
  | cons entry rest inductionHypothesis =>
      unfold survivors
      split_ifs with above
      · simp
      · -- An entry that is overwritten is not the last one.
        have more : rest ≠ [] := by
          rintro rfl
          simp at above
        simp [inductionHypothesis, more]

/-- A batch is written as a whole exactly when each entry fits behind the one
before it. -/
theorem writeEntries_ok_iff
    {log batch : List LogEntry} :
    (writeEntries log batch).1 = .ok () ↔ accepted log.length batch = batch := by
  induction batch generalizing log with
  | nil => simp [writeEntries, accepted]
  | cons entry rest inductionHypothesis =>
      unfold writeEntries accepted
      split_ifs with fits
      · rw [writeEntry_of_fits fits]
        simp only [inductionHypothesis, fits.length_written, List.cons.injEq,
          true_and]
      · obtain ⟨error, failed⟩ := writeEntry_of_not_fits fits
        simp [failed]

/-- The log after a batch: what is below every written index, and the written
entries that survive. -/
theorem writeEntries_eq
    (log batch : List LogEntry) :
    (writeEntries log batch).2 =
      log.take (lowestIndex (log.length + 1) (accepted log.length batch) - 1) ++
        survivors (accepted log.length batch) := by
  induction batch generalizing log with
  | nil => simp [writeEntries, accepted, survivors, lowestIndex]
  | cons entry rest inductionHypothesis =>
      unfold writeEntries accepted
      by_cases fits : Fits log.length entry
      case neg =>
        obtain ⟨error, failed⟩ := writeEntry_of_not_fits fits
        simp [failed, fits, survivors, lowestIndex]
      have length := fits.length_written
      rw [writeEntry_of_fits fits, if_pos fits]
      obtain ⟨positive, bounded⟩ := fits
      simp only [inductionHypothesis, length]
      generalize accepted entry.index rest = later
      by_cases above : ∀ next ∈ later, entry.index < next.index
      · -- Everything later lies above: the new entry stays where it is.
        have whole : lowestIndex (entry.index + 1) later = entry.index + 1 := by
          refine eq_of_forall_le_iff fun index => ?_
          rw [le_lowestIndex]
          exact ⟨And.left, fun low => ⟨low, fun next inside =>
            low.trans (above next inside)⟩⟩
        have here : lowestIndex (log.length + 1) (entry :: later) =
            entry.index := by
          refine eq_of_forall_le_iff fun index => ?_
          rw [le_lowestIndex, List.forall_mem_cons]
          exact ⟨fun bounds => bounds.2.1, fun low => ⟨low.trans bounded, low,
            fun next inside => low.trans (above next inside).le⟩⟩
        rw [whole, here, Nat.add_sub_cancel, survivors, if_pos above,
          List.take_of_length_le length.le, List.append_assoc,
          List.singleton_append]
      · -- Something later reaches down to the new entry and drops it.
        have reached := above
        push Not at reached
        obtain ⟨next, inside, low⟩ := reached
        have same : lowestIndex (log.length + 1) (entry :: later) =
            lowestIndex (entry.index + 1) later := by
          refine eq_of_forall_le_iff fun index => ?_
          rw [le_lowestIndex, le_lowestIndex, List.forall_mem_cons]
          constructor
          · rintro ⟨-, -, all⟩
            have here := all next inside
            exact ⟨by omega, all⟩
          · rintro ⟨-, all⟩
            have here := all next inside
            exact ⟨by omega, by omega, all⟩
        have below : lowestIndex (entry.index + 1) later ≤ entry.index :=
          ((le_lowestIndex.mp le_rfl).2 next inside).trans low
        rw [same, survivors, if_neg above]
        congr 1
        rw [List.take_append_of_le_length, List.take_take, Nat.min_eq_left]
        · omega
        · rw [List.length_take]
          omega

/-- A batch leaves a log as it is exactly when what it writes is the end of
the log already. -/
theorem writeEntries_eq_self_iff
    {log : List LogEntry}
    (contiguous : Contiguous log)
    (batch : List LogEntry) :
    (writeEntries log batch).2 = log ↔
      survivors (accepted log.length batch) <:+ log := by
  have after := writeEntries_contiguous contiguous batch
  rw [writeEntries_eq] at after ⊢
  constructor
  · intro same
    exact ⟨_, same⟩
  · rintro ⟨before, split⟩
    cases written : survivors (accepted log.length batch) with
    | nil =>
        rw [survivors_eq_nil.mp written, List.append_nil, lowestIndex,
          List.foldr_nil, Nat.add_sub_cancel, List.take_length]
    | cons entry rest =>
        rw [written] at after split
        generalize lowestIndex (log.length + 1) (accepted log.length batch) -
          1 = kept at after ⊢
        -- Both logs put the first surviving entry at its index.
        have inLog : log[before.length]? = some entry := by
          rw [← split]
          simp
        have inAfter : (log.take kept ++ entry :: rest)[(log.take kept).length]? =
            some entry := by
          simp
        have position : (log.take kept).length = before.length := by
          have first := contiguous.index_eq inLog
          have second := after.index_eq inAfter
          omega
        have same : log.take kept = before := by
          have isPrefix : before <+: log := ⟨_, split⟩
          exact (List.prefix_of_prefix_length_le (List.take_prefix _ _) isPrefix
            position.le).eq_of_length position
        rw [same, split]

namespace MemoryStorage

variable (self : MemoryStorage)

/-- Every read gives the same in both storages. -/
structure SameReads (before after : MemoryStorage) : Prop where
  hardState : after.hardState = before.hardState
  lastIndexTerm : after.lastIndexTerm = before.lastIndexTerm
  entry : ∀ index, after.entry index = before.entry index

theorem sameReads_iff
    {before after : MemoryStorage} :
    SameReads before after ↔
      after.hardState = before.hardState ∧ after.entries = before.entries := by
  constructor
  · intro same
    refine ⟨same.hardState, List.ext_getElem? fun position => ?_⟩
    simpa [entry] using same.entry (position + 1)
  · rintro ⟨hardState, entries⟩
    constructor
    · exact hardState
    · simp only [lastIndexTerm, entries]
    · intro index
      simp only [entry, entries]

/-- The write fails at an entry that does not fit behind the one before it. -/
theorem persist_error_iff
    {hardState : Option HardState}
    {batch : List LogEntry} :
    (∃ error, (self.persist hardState batch).1 = .error error) ↔
      accepted self.entries.length batch ≠ batch := by
  rw [ne_eq, ← writeEntries_ok_iff, persist]
  cases (writeEntries self.entries batch).1 with
  | ok done => simp
  | error error => simp

/-- A failed write leaves every read as it was exactly when the hard state it
recorded was the stored one and the entries it wrote before the refused one
were the end of the log. -/
theorem persist_atomic_iff
    (hardState : Option HardState)
    (batch : List LogEntry) :
    ((∃ error, (self.persist hardState batch).1 = .error error) →
        SameReads self (self.persist hardState batch).2) ↔
      accepted self.entries.length batch = batch ∨
        ((hardState = none ∨ hardState = some self.hardState) ∧
          survivors (accepted self.entries.length batch) <:+ self.entries) := by
  have recorded : hardState.getD self.hardState = self.hardState ↔
      hardState = none ∨ hardState = some self.hardState := by
    cases hardState with
    | none => simp
    | some written => simp
  rw [persist_error_iff, sameReads_iff]
  show _ → hardState.getD self.hardState = self.hardState ∧
    (writeEntries self.entries batch).2 = self.entries ↔ _
  rw [recorded, writeEntries_eq_self_iff self.contiguous, imp_iff_not_or,
    not_not]

/-- A batch with a gap is refused after the hard state and its first entry were
written. -/
theorem persist_not_atomic :
    ¬ ∀ (storage : MemoryStorage) (hardState : Option HardState)
        (batch : List LogEntry),
      (∃ error, (storage.persist hardState batch).1 = .error error) →
        SameReads storage (storage.persist hardState batch).2 := by
  intro atomic
  have same := atomic .new (some { currentTerm := 1, votedFor := some 1 })
    [{ index := 1, term := 1, entryType := .command [1] },
      { index := 3, term := 1, entryType := .command [3] }]
    ⟨.msg "non-contiguous append at index 3", by decide +kernel⟩
  have first := same.entry 1
  revert first
  decide +kernel

end MemoryStorage

end Libp2pRaft
