import Libp2pRaft.Raft.View

/-!
# Committed entries of one engine

The log below the commit index of a single engine, over every sequence of calls
with arbitrary messages.  The comment "never truncate committed entries" of the
source rests on a `debug_assert`, which a release build leaves out.
-/

namespace Libp2pRaft

open Consensus TransitionSystem

namespace RaftEngine

variable (self : MemoryEngine)

/-- The entry at every index up to the earlier commit index is still there. -/
def KeepsCommitted (before after : MemoryEngine) : Prop :=
  ∀ index ≤ before.commitIndex, ∀ entry,
    before.storage.entry index = some entry →
      after.storage.entry index = some entry

/-- An AppendEntries that the engine accepts cuts and writes its log only above
the commit index. -/
def SparesCommitted : Call → Prop
  | .rpc _ (.appendEntries term _ prevLogIndex prevLogTerm entries _) _ =>
      self.currentTerm ≤ term →
      PrevTerm self.storage.entries prevLogIndex prevLogTerm →
      self.skipped prevLogIndex entries < entries.length →
        (prevLogIndex + self.skipped prevLogIndex entries <
            self.storage.entries.length →
          self.commitIndex ≤ prevLogIndex + self.skipped prevLogIndex entries) ∧
        WritesAbove self.commitIndex
          (self.storage.entries.take
            (prevLogIndex + self.skipped prevLogIndex entries))
          (entries.drop (self.skipped prevLogIndex entries))
  | _ => True

/-- The log after storing an arbitrary batch. -/
theorem log_storeEntries
    (prevLogIndex : Nat)
    (entries : List LogEntry) :
    (self.storeEntries prevLogIndex entries).view.log =
      if self.skipped prevLogIndex entries < entries.length then
        (writeEntries
          (self.storage.entries.take
            (prevLogIndex + self.skipped prevLogIndex entries))
          (entries.drop (self.skipped prevLogIndex entries))).2
      else
        self.storage.entries := by
  have cut := self.log_cutConflict prevLogIndex entries
  simp only [MemoryStorage.storage_log] at cut
  rw [view_log, storeEntries_eq]
  by_cases remains : self.skipped prevLogIndex entries < entries.length
  · rw [if_pos remains] at cut
    simp only [if_pos remains, ← cut]
    rfl
  · rw [if_neg remains] at cut
    simp only [if_neg remains, cut]

/-- Storing a batch puts nothing into the log but entries of the batch. -/
theorem mem_of_mem_storeEntries
    {prevLogIndex : Nat}
    {entries : List LogEntry}
    {entry : LogEntry}
    (stored : entry ∈ (self.storeEntries prevLogIndex entries).view.log) :
    entry ∈ self.storage.entries ∨ entry ∈ entries := by
  rw [log_storeEntries] at stored
  split_ifs at stored with remains
  · exact (mem_of_mem_writeEntries stored).imp List.mem_of_mem_take
      List.mem_of_mem_drop
  · exact .inl stored

/-- A call leaves the log as it is, appends a proposed command, or stores the
batch of an AppendEntries that it accepts. -/
theorem Outcome.log_eq
    {self : MemoryEngine}
    {call : Call}
    {result : MemoryEngine × List Action}
    (outcome : Outcome self call result) :
    result.1.view.log = self.storage.entries ∨
      (∃ data, call = .propose data ∧ self.role = .leader ∧
        result.1.view.log =
          self.storage.entries ++ [self.commandEntry data]) ∨
      ∃ sender term leaderId prevLogIndex prevLogTerm entries leaderCommit now,
        call = .rpc sender (.appendEntries term leaderId prevLogIndex
          prevLogTerm entries leaderCommit) now ∧
        self.currentTerm ≤ term ∧
        PrevTerm self.storage.entries prevLogIndex prevLogTerm ∧
        result.1.view.log =
          (self.storeEntries prevLogIndex entries).view.log := by
  have followed : ∀ term leaderId now,
      (self.follow term leaderId now).1.storage.entries =
        self.storage.entries := by
    intro term leaderId now
    rw [← view_log, view_follow]
    split_ifs <;> rfl
  have entered : ∀ term,
      (self.enterTerm term).1.view.log = self.storage.entries := by
    intro term
    rw [view_enterTerm]
    split_ifs <;> rfl
  cases outcome with
  | proposed data leading =>
      right
      left
      refine ⟨data, rfl, leading, ?_⟩
      rw [view_replicateActions, view_appendCommand]
      rfl
  | appendAccepted sender term leaderId prevLogIndex prevLogTerm entries
      leaderCommit now recent agreed stored storedEq =>
      right
      right
      rw [prevOk_iff] at agreed
      simp only [MemoryStorage.storage_log, followed] at agreed
      refine ⟨sender, term, leaderId, prevLogIndex, prevLogTerm, entries,
        leaderCommit, now, rfl, recent, agreed, ?_⟩
      have sameSkip : (self.follow term leaderId now).1.skipped prevLogIndex
          entries = self.skipped prevLogIndex entries := by
        unfold skipped
        simp only [MemoryStorage.storage_log, followed]
      rw [view_advanceCommitAndApply, storedEq, log_storeEntries,
        log_storeEntries, sameSkip, followed]
  | ignored => exact .inl rfl
  | campaigned => exact .inl rfl
  | heartbeat now leading =>
      left
      show self.replicateActions.1.view.log = _
      rw [view_replicateActions]
      rfl
  | failed => exact .inl rfl
  | voteStale => exact .inl rfl
  | voteRefused sender term => exact .inl (entered term)
  | voteGranted sender term =>
      left
      rw [view_recordVote, entered]
  | deposed sender msg now term reply newer =>
      left
      rw [view_becomeFollower, if_pos newer]
      rfl
  | counted => exact .inl rfl
  | elected => exact .inl rfl
  | appendStale => exact .inl rfl
  | appendRefused =>
      left
      rw [view_log, followed]
  | matched =>
      left
      rw [view_handleAppendSuccess]
      rfl
  | unmatched =>
      left
      rw [view_handleAppendReject]
      rfl

/-- Only an accepted AppendEntries does more to the log than appending. -/
theorem Outcome.log_cases
    {self : MemoryEngine}
    {call : Call}
    {result : MemoryEngine × List Action}
    (outcome : Outcome self call result) :
    self.storage.entries <+: result.1.view.log ∨
      ∃ sender term leaderId prevLogIndex prevLogTerm entries leaderCommit now,
        call = .rpc sender (.appendEntries term leaderId prevLogIndex
          prevLogTerm entries leaderCommit) now ∧
        self.currentTerm ≤ term ∧
        PrevTerm self.storage.entries prevLogIndex prevLogTerm ∧
        result.1.view.log =
          (self.storeEntries prevLogIndex entries).view.log := by
  rcases outcome.log_eq with same | ⟨data, -, -, appended⟩ | stored
  · left
    rw [same]
  · left
    rw [appended]
    exact List.prefix_append _ _
  · exact .inr stored

/-- A log that agrees with the old one up to the commit index keeps what is
committed. -/
theorem keepsCommitted_of_take_eq
    {before after : MemoryEngine}
    (agreed : after.storage.entries.take before.commitIndex =
      before.storage.entries.take before.commitIndex) :
    KeepsCommitted before after := by
  intro index bounded entry stored
  unfold MemoryStorage.entry at stored ⊢
  split_ifs at stored ⊢ with zero
  rw [getElem?_of_take_eq agreed (by omega), stored]

/-- A call that spares what is committed keeps it. -/
theorem keepsCommitted_call
    {call : Call}
    (spared : self.SparesCommitted call) :
    KeepsCommitted self (self.call call).1 := by
  rcases (self.call_outcome call).log_cases with
    grown | ⟨sender, term, leaderId, prevLogIndex, prevLogTerm, entries,
      leaderCommit, now, rfl, recent, known, stored⟩
  · intro index bounded entry present
    unfold MemoryStorage.entry at present ⊢
    split_ifs at present ⊢ with zero
    exact getElem?_of_isPrefix grown present
  · apply keepsCommitted_of_take_eq
    rw [← view_log, stored, log_storeEntries]
    have safe := spared recent known
    by_cases remains : self.skipped prevLogIndex entries < entries.length
    · obtain ⟨cutAbove, writesAbove⟩ := safe remains
      rw [if_pos remains, writesAbove.take_eq, List.take_take]
      by_cases inside : prevLogIndex + self.skipped prevLogIndex entries <
          self.storage.entries.length
      · rw [Nat.min_eq_left (cutAbove inside)]
      · rcases Nat.le_total self.commitIndex
            (prevLogIndex + self.skipped prevLogIndex entries) with below | above
        · rw [Nat.min_eq_left below]
        · rw [Nat.min_eq_right above, List.take_of_length_le (by omega),
            List.take_of_length_le (by omega)]
    · rw [if_neg remains]

/-- Along every run whose accepted AppendEntries spare what is committed, no
call removes or replaces a committed entry. -/
theorem committed_entries_kept
    (config : RaftConfig)
    (storage : MemoryStorage)
    (start : Nat)
    (calls : List Call)
    (spared : (lifetime config storage start).Along SparesCommitted calls) :
    (lifetime config storage start).Along
      (fun before call => KeepsCommitted before (before.call call).1) calls := by
  refine spared.imp ?_
  intro before call spares
  exact before.keepsCommitted_call spares

/-- A leader's first entry, committed with it. -/
def committedAppend : Call :=
  .rpc 2
    (.appendEntries 1 2 0 0
      [{ index := 1, term := 1, entryType := .command [1] }] 1) 0

/-- A later leader that never saw the entry overwrites it. -/
def conflictingAppend : Call :=
  .rpc 3
    (.appendEntries 2 3 0 0
      [{ index := 1, term := 2, entryType := .command [2] }] 0) 0

/-- The condition holds of an append behind the committed entry. -/
theorem committed_entries_kept_behind :
    (lifetime (.cfg 1 [1, 2, 3]) MemoryStorage.new 0).Along
      (fun before call => KeepsCommitted before (before.call call).1)
      [committedAppend, .rpc 3
        (.appendEntries 2 3 1 1
          [{ index := 2, term := 2, entryType := .command [2] }] 1) 0] := by
  apply committed_entries_kept
  have first : ((lifetime (.cfg 1 [1, 2, 3]) MemoryStorage.new 0).run
      []).SparesCommitted committedAppend := by
    intro _ _ _
    exact ⟨by decide, by decide, trivial⟩
  have second : ((lifetime (.cfg 1 [1, 2, 3]) MemoryStorage.new 0).run
      [committedAppend]).SparesCommitted (.rpc 3
        (.appendEntries 2 3 1 1
          [{ index := 2, term := 2, entryType := .command [2] }] 1) 0) := by
    intro _ _ _
    exact ⟨by decide, by decide, trivial⟩
  rw [show ([committedAppend, _] : List Call) =
    [] ++ [committedAppend] ++ [_] from rfl]
  rw [System.along_concat, System.along_concat]
  exact ⟨⟨System.along_nil _, first⟩, second⟩

/-- A committed entry is replaced by a conflicting leader. -/
theorem committed_entry_replaced :
    ¬ (lifetime (.cfg 1 [1, 2, 3]) MemoryStorage.new 0).Along
      (fun before call => KeepsCommitted before (before.call call).1)
      [committedAppend, conflictingAppend] := by
  intro kept
  have replaced := kept [committedAppend] conflictingAppend
    (List.prefix_refl _) 1 (by decide)
    { index := 1, term := 1, entryType := .command [1] } (by decide)
  revert replaced
  decide

end RaftEngine

end Libp2pRaft
