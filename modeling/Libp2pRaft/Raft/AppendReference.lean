import Libp2pRaft.Raft.Replies
import Libp2pRaft.Raft.Roles

/-!
# What an AppendEntries asks for

A reference definition of `handle_append_entries` in terms of the whole log: the
batch replaces the log from the first entry on that is not stored with its term.
The loop of the engine, its cut and the write of the rest compute this log, and
handling the request once more changes nothing.
-/

namespace Libp2pRaft

open Consensus

/-- The log holds an entry of a term right before a batch, or the batch starts
the log. -/
def PrevKnown (log : List LogEntry) (prev prevTerm : Nat) : Bool :=
  if prev = 0 then
    prevTerm = 0
  else
    log[prev - 1]?.map LogEntry.term = some prevTerm

/-- An entry of a batch is missing in the log, or stored with another term. -/
def Unstored
    (log : List LogEntry)
    (prev : Nat)
    (entries : List LogEntry)
    (position : Nat) : Bool :=
  log[prev + position]?.map LogEntry.term ≠
    entries[position]?.map LogEntry.term

/-- The first entry of a batch that is not stored. -/
def firstUnstored
    (log : List LogEntry)
    (prev : Nat)
    (entries : List LogEntry) : Option Nat :=
  (List.range entries.length).find? (Unstored log prev entries)

/-- What the engine and its reply are to be after an AppendEntries. -/
structure AppendReference where
  log : List LogEntry
  commitIndex : Nat
  success : Bool
  matchIndex : Nat
  deriving DecidableEq, Repr

/-- The reference definition. -/
def appendReference
    (log : List LogEntry)
    (commitIndex prev prevTerm : Nat)
    (entries : List LogEntry)
    (leaderCommit : Nat) : AppendReference :=
  if PrevKnown log prev prevTerm then
    { log :=
        match firstUnstored log prev entries with
        | none => log
        | some k => log.take (prev + k) ++ entries.drop k
      commitIndex := max commitIndex (min leaderCommit (prev + entries.length))
      success := true
      matchIndex := prev + entries.length }
  else
    { log := log
      commitIndex := commitIndex
      success := false
      matchIndex := log.length }

theorem prevKnown_iff
    {log : List LogEntry}
    {prev prevTerm : Nat} :
    PrevKnown log prev prevTerm = true ↔ PrevTerm log prev prevTerm := by
  unfold PrevKnown PrevTerm
  by_cases first : prev = 0
  · simp [first]
  · simp [first, Nat.pos_of_ne_zero first]

theorem firstUnstored_eq
    (log : List LogEntry)
    (prev : Nat)
    (entries : List LogEntry) :
    firstUnstored log prev entries =
      if matchLength (log.drop prev) entries < entries.length then
        some (matchLength (log.drop prev) entries)
      else
        none := by
  have skipped : ∀ position < matchLength (log.drop prev) entries,
      Unstored log prev entries position = false := by
    intro position early
    obtain ⟨stored, sent, storedAt, sentAt, same⟩ :=
      term_eq_of_lt_matchLength early
    rw [List.getElem?_drop] at storedAt
    have sameTerm : stored.term = sent.term := same
    simp [Unstored, storedAt, sentAt, sameTerm]
  unfold firstUnstored
  split_ifs with remains
  · rw [List.find?_range_eq_some]
    refine ⟨?_, List.mem_range.mpr remains, ?_⟩
    · have sentAt := List.getElem?_eq_getElem remains
      unfold Unstored
      rw [sentAt, decide_eq_true_eq]
      intro same
      obtain ⟨stored, storedAt, sameTerm⟩ := Option.map_eq_some_iff.mp same
      rw [← List.getElem?_drop] at storedAt
      exact term_ne_at_matchLength storedAt sentAt sameTerm
    · intro position early
      simp [skipped position early]
  · rw [List.find?_range_eq_none]
    intro position inside
    simp [skipped position (by omega)]

/-- The reference log is the splice of the batch. -/
theorem appendReference_log
    {log : List LogEntry}
    {prev prevTerm : Nat}
    (known : PrevTerm log prev prevTerm)
    (commitIndex : Nat)
    (entries : List LogEntry)
    (leaderCommit : Nat) :
    (appendReference log commitIndex prev prevTerm entries leaderCommit).log =
      splice log prev entries := by
  have bounded := matchLength_le (log.drop prev) entries
  unfold appendReference
  rw [if_pos (prevKnown_iff.mpr known), firstUnstored_eq]
  unfold splice
  simp only
  split_ifs with whole remains remains
  · omega
  · rfl
  · rfl
  · omega

namespace RaftEngine

/-- A commit index that is reached and applied stays. -/
theorem advanceCommitAndApply_idle
    {S : Type} [Storage S]
    {self : RaftEngine S}
    {leaderCommit lastNew : Nat}
    (reached : min leaderCommit lastNew ≤ self.commitIndex)
    (applied : self.commitIndex ≤ self.lastApplied) :
    self.advanceCommitAndApply leaderCommit lastNew = (self, []) := by
  unfold advanceCommitAndApply
  simp only [if_neg (Nat.not_lt.mpr reached), if_pos applied]

/-- An engine, and what it emits, are what the reference asks for. -/
structure Meets
    (before after : MemoryEngine)
    (sender : NodeId)
    (actions : List Action)
    (reference : AppendReference) : Prop where
  log : after.storage.entries = reference.log
  commitIndex : after.commitIndex = reference.commitIndex
  lastApplied : reference.success = false →
    after.lastApplied = before.lastApplied
  reply : ∀ others, outgoing others actions =
    [(sender, .appendEntriesResp after.currentTerm reference.success
      reference.matchIndex)]

variable (self : MemoryEngine)

/-- The log an engine follows a leader with is its own. -/
theorem entries_follow
    (term : Nat)
    (leaderId : NodeId)
    (now : Nat) :
    (self.follow term leaderId now).1.storage.entries =
      self.storage.entries := by
  rw [← view_log, view_follow]
  split_ifs
  · rfl
  · rfl

theorem prevOk_follow_iff
    (term : Nat)
    (leaderId : NodeId)
    (now : Nat)
    {prev prevTerm : Nat} :
    (self.follow term leaderId now).1.prevOk prev prevTerm = true ↔
      PrevTerm self.storage.entries prev prevTerm := by
  rw [prevOk_iff, MemoryStorage.storage_log, entries_follow]

/-- A request whose previous entry is not known is refused. -/
theorem append_refused
    (sender : NodeId)
    {term : Nat}
    (recent : self.currentTerm ≤ term)
    (leaderId : NodeId)
    {prev prevTerm : Nat}
    (unknown : ¬ PrevTerm self.storage.entries prev prevTerm)
    (entries : List LogEntry)
    (leaderCommit now : Nat) :
    Meets self
        (self.handleAppendEntries sender term leaderId prev prevTerm entries
          leaderCommit now).1 sender
        (self.handleAppendEntries sender term leaderId prev prevTerm entries
          leaderCommit now).2
        (appendReference self.storage.entries self.commitIndex prev prevTerm
          entries leaderCommit) ∧
      ∀ batch, .apply batch ∉
        (self.handleAppendEntries sender term leaderId prev prevTerm entries
          leaderCommit now).2 := by
  have followed := self.follow_progress term leaderId now
  have sameLog := self.entries_follow term leaderId now
  have refused : ¬ (self.follow term leaderId now).1.prevOk prev prevTerm =
      true := fun agreed =>
    unknown ((self.prevOk_follow_iff term leaderId now).mp agreed)
  have reference : appendReference self.storage.entries self.commitIndex prev
      prevTerm entries leaderCommit =
        ⟨self.storage.entries, self.commitIndex, false,
          self.storage.entries.length⟩ := by
    unfold appendReference
    rw [if_neg fun known => unknown (prevKnown_iff.mp known)]
  rw [self.handleAppendEntries_of_recent sender leaderId prev prevTerm entries
    leaderCommit now recent]
  simp only [if_neg refused, reference]
  refine ⟨⟨sameLog, followed.commitIndex, fun _ => followed.lastApplied, ?_⟩, ?_⟩
  · intro others
    rw [outgoing_append, (self.follow_outgoing others term leaderId now).1,
      lastIndexTerm_fst, MemoryStorage.storage_log, sameLog]
    rfl
  · intro batch inside
    rcases List.mem_append.mp inside with early | last
    · exact Action.noConfusion (follow_actions early)
    · exact Action.noConfusion (List.mem_singleton.mp last)

/-- A consecutive batch behind a known entry is spliced into the log. -/
theorem append_accepted
    (sender : NodeId)
    {term : Nat}
    (recent : self.currentTerm ≤ term)
    (leaderId : NodeId)
    {prev prevTerm : Nat}
    (known : PrevTerm self.storage.entries prev prevTerm)
    {entries : List LogEntry}
    (consecutive : Consecutive (prev + 1) entries)
    (leaderCommit now : Nat) :
    Meets self
        (self.handleAppendEntries sender term leaderId prev prevTerm entries
          leaderCommit now).1 sender
        (self.handleAppendEntries sender term leaderId prev prevTerm entries
          leaderCommit now).2
        (appendReference self.storage.entries self.commitIndex prev prevTerm
          entries leaderCommit) ∧
      (self.handleAppendEntries sender term leaderId prev prevTerm entries
          leaderCommit now).1.commitIndex ≤
        (self.handleAppendEntries sender term leaderId prev prevTerm entries
          leaderCommit now).1.lastApplied ∧
      (min leaderCommit (prev + entries.length) ≤ self.commitIndex →
        self.commitIndex ≤ self.lastApplied →
        ∀ batch, .apply batch ∉
          (self.handleAppendEntries sender term leaderId prev prevTerm entries
            leaderCommit now).2) := by
  have followed := self.follow_progress term leaderId now
  have agreed := (self.prevOk_follow_iff term leaderId now).mpr known
  have sameLog := self.entries_follow term leaderId now
  have inside : prev ≤
      (self.follow term leaderId now).1.storage.entries.length := by
    rw [sameLog]
    exact known.le_length
  have stored := congrArg Consensus.View.log
    ((self.follow term leaderId now).1.view_storeEntries inside consecutive)
  simp only [view_log, sameLog] at stored
  have kept : SameProgress (self.follow term leaderId now).1
      ((self.follow term leaderId now).1.storeEntries prev entries) := by
    rw [storeEntries_eq]
    exact ⟨rfl, rfl, rfl, rfl⟩
  have commitEq := kept.commitIndex.trans followed.commitIndex
  have appliedEq := kept.lastApplied.trans followed.lastApplied
  have silent := ((self.follow term leaderId now).1.storeEntries prev
    entries).advanceCommitAndApply_outgoing
  have log := appendReference_log known self.commitIndex entries leaderCommit
  rw [self.handleAppendEntries_of_recent sender leaderId prev prevTerm entries
    leaderCommit now recent]
  simp only [if_pos agreed]
  generalize (self.follow term leaderId now).1.storeEntries prev entries =
    engine at stored commitEq appliedEq silent ⊢
  refine ⟨⟨?_, ?_, ?_, ?_⟩, ?_, ?_⟩
  · rw [advanceCommitAndApply_eq, log]
    exact stored
  · rw [advanceCommitAndApply_eq, appendReference,
      if_pos (prevKnown_iff.mpr known), commitEq]
  · intro refused
    rw [appendReference, if_pos (prevKnown_iff.mpr known)] at refused
    contradiction
  · intro others
    rw [appendReference, if_pos (prevKnown_iff.mpr known), outgoing_append,
      outgoing_append, (self.follow_outgoing others term leaderId now).1,
      (silent others leaderCommit (prev + entries.length)).1]
    rfl
  · rw [advanceCommitAndApply_eq]
    exact Nat.le_max_right _ _
  · intro reached applied batch emitted
    rw [← commitEq, ← appliedEq] at applied
    rw [← commitEq] at reached
    rw [advanceCommitAndApply_idle reached applied, List.append_nil] at emitted
    rcases List.mem_append.mp emitted with early | last
    · exact Action.noConfusion (follow_actions early)
    · exact Action.noConfusion (List.mem_singleton.mp last)

/-- An AppendEntries that is not of an earlier term leaves a follower of its
term. -/
theorem handleAppendEntries_following
    (sender : NodeId)
    {term : Nat}
    (recent : self.currentTerm ≤ term)
    (leaderId : NodeId)
    (prevLogIndex prevLogTerm : Nat)
    (entries : List LogEntry)
    (leaderCommit now : Nat) :
    (self.handleAppendEntries sender term leaderId prevLogIndex prevLogTerm
        entries leaderCommit now).1.role = .follower ∧
      (self.handleAppendEntries sender term leaderId prevLogIndex prevLogTerm
        entries leaderCommit now).1.currentTerm = term := by
  have following := self.follow_role term leaderId now
  have sameTerm := self.currentTerm_follow recent leaderId now
  rw [self.handleAppendEntries_of_recent sender leaderId prevLogIndex prevLogTerm
    entries leaderCommit now recent]
  split_ifs
  · have stored := currentTerm_storeEntries (self.follow term leaderId now).1
      prevLogIndex entries
    refine ⟨?_, ?_⟩
    · rw [advanceCommitAndApply_eq, storeEntries_eq]
      exact following
    · rw [advanceCommitAndApply_eq]
      exact stored.trans sameTerm
  · exact ⟨following, sameTerm⟩

/-- What a follower makes of an AppendEntries that a leader built: it refuses, or
it splices the leader's log into its own and acknowledges all of it. -/
inductive Answered
    (follower leader : MemoryEngine)
    (sender : NodeId)
    (prev : Nat)
    (result : MemoryEngine × List Action) : Prop
  | refused
      (positive : 0 < prev)
      (sameLog : result.1.storage.entries = follower.storage.entries)
      (sameCommit : result.1.commitIndex = follower.commitIndex)
      (reply : ∀ others, outgoing others result.2 =
        [(sender, .appendEntriesResp leader.currentTerm false
          follower.storage.entries.length)])
  | accepted
      (agree : AgreeBefore prev follower.storage.entries leader.storage.entries)
      (inside : prev ≤ leader.storage.entries.length)
      (spliced : result.1.storage.entries = splice follower.storage.entries prev
        (leader.storage.entries.drop prev))
      (reply : ∀ others, outgoing others result.2 =
        [(sender, .appendEntriesResp leader.currentTerm true
          leader.storage.entries.length)])

theorem handleRpc_of_built
    {follower leader : MemoryEngine}
    {target : NodeId}
    {msg : RaftMessage}
    {prev len : Nat}
    (built : leader.buildAppendEntries target = some (msg, prev, len))
    (recent : follower.currentTerm ≤ leader.currentTerm)
    (sender : NodeId)
    (now : Nat) :
    (follower.handleRpc sender msg now).1.role = .follower ∧
      (follower.handleRpc sender msg now).1.currentTerm = leader.currentTerm ∧
      Answered follower leader sender prev (follower.handleRpc sender msg now) := by
  obtain ⟨prevTerm, known, -, rfl, rfl⟩ := leader.buildAppendEntries_some built
  simp only [MemoryStorage.storage_log] at known ⊢
  obtain ⟨following, sameTerm⟩ := follower.handleAppendEntries_following sender
    recent leader.config.nodeId prev prevTerm (leader.storage.entries.drop prev)
    leader.commitIndex now
  refine ⟨following, sameTerm, ?_⟩
  by_cases agreed : PrevTerm follower.storage.entries prev prevTerm
  · have consecutive := leader.storage.contiguous.drop prev
    rw [Nat.add_comm] at consecutive
    have accepted := (follower.append_accepted sender recent leader.config.nodeId
      agreed consecutive leader.commitIndex now).1
    have log := accepted.log
    rw [appendReference_log agreed] at log
    refine .accepted (agreed.agreeBefore known) known.le_length log ?_
    intro others
    have reply := accepted.reply others
    rw [sameTerm, appendReference, if_pos (prevKnown_iff.mpr agreed)] at reply
    rw [List.length_drop, Nat.add_sub_cancel' known.le_length] at reply
    exact reply
  · have refused := (follower.append_refused sender recent leader.config.nodeId
      agreed (leader.storage.entries.drop prev) leader.commitIndex now).1
    rw [appendReference, if_neg fun found => agreed (prevKnown_iff.mp found)]
      at refused
    refine .refused ?_ refused.log refused.commitIndex ?_
    · -- Nothing is asked of the log before the first position.
      by_contra first
      rw [Nat.not_lt, Nat.le_zero] at first
      subst first
      refine agreed (.inl ⟨rfl, ?_⟩)
      rcases known with ⟨-, zero⟩ | ⟨entry, positive, -⟩
      · exact zero
      · contradiction
    · intro others
      have reply := refused.reply others
      rw [sameTerm] at reply
      exact reply

/-- Handling an AppendEntries of no earlier term gives the log, the commit index
and the reply of the reference definition.  Handling it again changes neither
log nor commit index and applies nothing. -/
theorem handle_append_entries_reference
    (sender : NodeId)
    (term : Nat)
    (recent : self.currentTerm ≤ term)
    (leaderId : NodeId)
    (prev prevTerm : Nat)
    (entries : List LogEntry)
    (consecutive : Consecutive (prev + 1) entries)
    (leaderCommit now : Nat) :
    Meets self
        (self.handleAppendEntries sender term leaderId prev prevTerm entries
          leaderCommit now).1 sender
        (self.handleAppendEntries sender term leaderId prev prevTerm entries
          leaderCommit now).2
        (appendReference self.storage.entries self.commitIndex prev prevTerm
          entries leaderCommit) ∧
      ∀ first later,
        first = (self.handleAppendEntries sender term leaderId prev prevTerm
          entries leaderCommit now).1 →
        (first.handleAppendEntries sender term leaderId prev prevTerm entries
            leaderCommit later).1.storage.entries = first.storage.entries ∧
          (first.handleAppendEntries sender term leaderId prev prevTerm entries
            leaderCommit later).1.commitIndex = first.commitIndex ∧
          ∀ batch, .apply batch ∉
            (first.handleAppendEntries sender term leaderId prev prevTerm entries
              leaderCommit later).2 := by
  have entered := (self.handleAppendEntries_following sender recent leaderId prev
    prevTerm entries leaderCommit now).2.le
  by_cases known : PrevTerm self.storage.entries prev prevTerm
  · have accepted := self.append_accepted sender recent leaderId known
      consecutive leaderCommit now
    refine ⟨accepted.1, ?_⟩
    rintro first later firstEq
    rw [← firstEq] at accepted entered
    have log := accepted.1.log.trans
      (appendReference_log known self.commitIndex entries leaderCommit)
    have commit := accepted.1.commitIndex
    rw [appendReference, if_pos (prevKnown_iff.mpr known)] at commit
    have stillKnown : PrevTerm first.storage.entries prev prevTerm := by
      refine known.imp id ?_
      rintro ⟨entry, positive, storedAt, same⟩
      refine ⟨entry, positive, ?_, same⟩
      rw [log, getElem?_of_take_eq (take_splice known.le_length) (by omega)]
      exact storedAt
    have again := first.append_accepted sender entered leaderId stillKnown
      consecutive leaderCommit later
    have logAgain := again.1.log.trans
      (appendReference_log stillKnown first.commitIndex entries leaderCommit)
    have commitAgain := again.1.commitIndex
    rw [appendReference, if_pos (prevKnown_iff.mpr stillKnown)] at commitAgain
    have reached : min leaderCommit (prev + entries.length) ≤
        first.commitIndex := by
      rw [commit]
      exact Nat.le_max_right _ _
    refine ⟨?_, ?_, again.2.2 reached accepted.2.1⟩
    · rw [logAgain, log, splice_splice known.le_length]
    · rw [commitAgain]
      exact Nat.max_eq_left reached
  · have refused := self.append_refused sender recent leaderId known entries
      leaderCommit now
    refine ⟨refused.1, ?_⟩
    rintro first later firstEq
    rw [← firstEq] at refused entered
    have log := refused.1.log
    rw [appendReference, if_neg fun found => known (prevKnown_iff.mp found)]
      at log
    have stillUnknown : ¬ PrevTerm first.storage.entries prev prevTerm := by
      rw [log]
      exact known
    have again := first.append_refused sender entered leaderId stillUnknown
      entries leaderCommit later
    have logAgain := again.1.log
    have commitAgain := again.1.commitIndex
    rw [appendReference, if_neg fun found => stillUnknown
      (prevKnown_iff.mp found)] at logAgain commitAgain
    exact ⟨logAgain, commitAgain, again.2⟩

/-- Two entries of term 1. -/
def twoEntries : MemoryStorage where
  hardState := ⟨1, none⟩
  entries := [⟨1, 1, .command [1]⟩, ⟨2, 1, .command [2]⟩]
  contiguous := rfl

theorem handle_append_entries_reference_conflict :
    ((new (.cfg 1 [1, 2, 3]) twoEntries 0).handleAppendEntries 2 2 2 1 1
        [⟨2, 2, .command [3]⟩, ⟨3, 2, .command [4]⟩] 2 10).1.storage.entries =
      [⟨1, 1, .command [1]⟩, ⟨2, 2, .command [3]⟩, ⟨3, 2, .command [4]⟩] ∧
    ((new (.cfg 1 [1, 2, 3]) twoEntries 0).handleAppendEntries 2 2 2 1 1
        [⟨2, 2, .command [3]⟩, ⟨3, 2, .command [4]⟩] 2 10).1.commitIndex = 2 := by
  have meets := (handle_append_entries_reference
    (new (.cfg 1 [1, 2, 3]) twoEntries 0) 2 2 (by decide) 2 1 1
    [⟨2, 2, .command [3]⟩, ⟨3, 2, .command [4]⟩] rfl 2 10).1
  exact ⟨meets.log, meets.commitIndex⟩

end RaftEngine

end Libp2pRaft
