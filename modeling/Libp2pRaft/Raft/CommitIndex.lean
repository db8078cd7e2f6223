import Libp2pRaft.Raft.Emissions
import Libp2pRaft.Raft.Roles

/-!
# The commit index across a call

A call leaves the commit index alone, follows the one a leader sent, or commits
as a leader.  What becomes committed is handed over in the same call.  The match
indices a leader commits by start at zero, and move only when a peer reports a
success.
-/

namespace Libp2pRaft

open Consensus

/-- The entries an action hands over. -/
def Action.appliedEntries : Action → List LogEntry
  | .apply entries => entries
  | _ => []

/-- The entries a list of actions hands over, in order. -/
def appliedEntries (actions : List Action) : List LogEntry :=
  actions.flatMap Action.appliedEntries

@[simp] theorem appliedEntries_append (first second : List Action) :
    appliedEntries (first ++ second) =
      appliedEntries first ++ appliedEntries second := by
  simp [appliedEntries]

theorem appliedEntries_eq_nil
    {actions : List Action}
    (silent : ∀ action ∈ actions, action.appliedEntries = []) :
    appliedEntries actions = [] := by
  unfold appliedEntries
  rw [List.flatMap_eq_nil_iff]
  exact silent

namespace RaftEngine

variable {S : Type} [Storage S] [LawfulStorage S]

open LawfulStorage (log)

/-- The commit index after moving up to a bound, and what is handed over. -/
structure Advances
    (before : RaftEngine S)
    (bound : Nat)
    (result : RaftEngine S × List Action) : Prop where
  commitIndex : result.1.commitIndex = max before.commitIndex bound
  lastApplied : result.1.lastApplied =
    max before.lastApplied (max before.commitIndex bound)
  applied : appliedEntries result.2 =
    ((log result.1.storage).drop before.lastApplied).take
      (max before.commitIndex bound - before.lastApplied)

/-- What a call can do to the commit index. -/
inductive Progress (self : RaftEngine S) :
    Call → RaftEngine S × List Action → Prop
  | quiet (call : Call) (result : RaftEngine S × List Action)
      (sameCommit : result.1.commitIndex = self.commitIndex)
      (sameApplied : result.1.lastApplied = self.lastApplied)
      (silent : appliedEntries result.2 = []) :
      Progress self call result
  | followed (sender : NodeId) (term : Nat) (leaderId : NodeId)
      (prevLogIndex prevLogTerm : Nat) (entries : List LogEntry)
      (leaderCommit now : Nat) (result : RaftEngine S × List Action)
      (recent : self.currentTerm ≤ term)
      (agreed : (self.follow term leaderId now).1.prevOk prevLogIndex
        prevLogTerm = true)
      (stored : result.1.storage =
        ((self.follow term leaderId now).1.storeEntries prevLogIndex
          entries).storage)
      (following : result.1.role = .follower)
      (advances : Advances self (min leaderCommit
        (prevLogIndex + entries.length)) result) :
      Progress self
        (.rpc sender
          (.appendEntries term leaderId prevLogIndex prevLogTerm entries
            leaderCommit) now)
        result
  | committed (sender : NodeId) (matchIndex now index : Nat)
      (entry : LogEntry) (result : RaftEngine S × List Action)
      (leading : self.role = .leader)
      (stillLeading : result.1.role = .leader)
      (sameStorage : result.1.storage = self.storage)
      (newer : self.commitIndex < index)
      (inside : index ≤ (log self.storage).length)
      (stored : (log self.storage)[index - 1]? = some entry)
      (ownTerm : entry.term = self.currentTerm)
      (replicated :
        result.1.membership.quorum ≤ result.1.replicationCount index)
      (advances : Advances self index result) :
      Progress self
        (.rpc sender
          (.appendEntriesResp self.currentTerm true matchIndex) now)
        result

omit [LawfulStorage S] in
theorem replicateActions_silent (self : RaftEngine S) :
    appliedEntries self.replicateActions.2 = [] := by
  apply appliedEntries_eq_nil
  intro action emitted
  obtain ⟨target, msg, prev, len, rfl, -⟩ := replicateActions_actions emitted
  rfl

omit [LawfulStorage S] in
theorem sendAppendEntriesTo_silent
    (self : RaftEngine S)
    (target : NodeId) :
    appliedEntries (self.sendAppendEntriesTo target).2.toList = [] := by
  apply appliedEntries_eq_nil
  intro action emitted
  obtain ⟨msg, prev, len, rfl, -⟩ := sendAppendEntriesTo_actions emitted
  rfl

omit [LawfulStorage S] in
theorem enterTerm_silent
    (self : RaftEngine S)
    (term : Nat) :
    appliedEntries (self.enterTerm term).2 = [] := by
  apply appliedEntries_eq_nil
  intro action emitted
  rw [enterTerm_actions emitted]
  rfl

omit [LawfulStorage S] in
theorem follow_silent
    (self : RaftEngine S)
    (term : Nat)
    (leaderId : NodeId)
    (now : Nat) :
    appliedEntries (self.follow term leaderId now).2 = [] := by
  apply appliedEntries_eq_nil
  intro action emitted
  rw [follow_actions emitted]
  rfl

theorem advanceCommitAndApply_advances
    (self : RaftEngine S)
    (leaderCommit lastNew : Nat) :
    Advances self (min leaderCommit lastNew)
      (self.advanceCommitAndApply leaderCommit lastNew) := by
  rw [advanceCommitAndApply_eq]
  refine ⟨rfl, rfl, ?_⟩
  simp only
  split_ifs with empty
  · exact empty.symm
  · simp [appliedEntries, Action.appliedEntries]

variable {self : RaftEngine S} {call : Call}
  {result : RaftEngine S × List Action}

theorem handleAppendSuccess_progress
    (self cleared : RaftEngine S)
    {aeInflight : Finset NodeId}
    (clearedEq : cleared = { self with aeInflight := aeInflight })
    (sender : NodeId)
    (matchIndex now reqPrev reqLen : Nat)
    (leading : self.role = .leader) :
    Progress self
      (.rpc sender (.appendEntriesResp self.currentTerm true matchIndex) now)
      (cleared.handleAppendSuccess sender reqPrev reqLen) := by
  have moved : ∀ result : RaftEngine S × List Action,
      (∃ lastAe aeInflight, result.1 =
        { (cleared.recordMatch sender (reqPrev + reqLen)).maybeCommit.1 with
          lastAe := lastAe, aeInflight := aeInflight }) →
      appliedEntries result.2 = appliedEntries
        (cleared.recordMatch sender (reqPrev + reqLen)).maybeCommit.2 →
      Progress self
        (.rpc sender (.appendEntriesResp self.currentTerm true matchIndex) now)
        result := by
    rintro result ⟨lastAe, aeInflight, resultEq⟩ sameApplied
    rcases (cleared.recordMatch sender (reqPrev + reqLen)).maybeCommit_cases with
      idle | ⟨index, entry, newer, inside, stored, ownTerm, replicated, applied⟩
    · rw [idle] at resultEq sameApplied
      subst clearedEq
      exact .quiet _ _ (by rw [resultEq]; rfl) (by rw [resultEq]; rfl)
        sameApplied
    · have advances := (cleared.recordMatch sender
        (reqPrev + reqLen)).advanceCommitAndApply_advances index index
      rw [← applied, Nat.min_self] at advances
      obtain ⟨_, _, frame⟩ :=
        (cleared.recordMatch sender (reqPrev + reqLen)).maybeCommit_frame
      subst clearedEq
      refine .committed sender matchIndex now index entry result leading ?_ ?_
        newer inside stored ownTerm ?_ ⟨?_, ?_, ?_⟩
      · rw [resultEq, frame]
        exact leading
      · rw [resultEq, frame]
        rfl
      · rw [resultEq, frame]
        exact replicated
      · rw [resultEq]
        exact advances.commitIndex
      · rw [resultEq]
        exact advances.lastApplied
      · rw [sameApplied, resultEq]
        exact advances.applied
  rcases cleared.handleAppendSuccess_cases sender reqPrev reqLen with done | sent
  · rw [done]
    exact moved _ ⟨_, _, rfl⟩ rfl
  · rw [sent]
    refine moved _ (sendAppendEntriesTo_frame _ sender) ?_
    rw [appliedEntries_append, sendAppendEntriesTo_silent, List.append_nil]

/-- Every call has one of the effects on the commit index. -/
theorem Outcome.progress
    (outcome : Outcome self call result) :
    Progress self call result := by
  cases outcome with
  | ignored => exact .quiet _ _ rfl rfl rfl
  | campaigned now =>
      exact .quiet _ _ rfl rfl rfl
  | heartbeat now leading =>
      obtain ⟨_, _, frame⟩ := self.replicateActions_frame
      refine .quiet _ _ ?_ ?_ self.replicateActions_silent
      · simp only [frame]
      · simp only [frame]
  | proposed data leading =>
      obtain ⟨_, _, frame⟩ := (self.appendCommand data).replicateActions_frame
      refine .quiet _ _ ?_ ?_ (replicateActions_silent _)
      · rw [frame]
        rfl
      · rw [frame]
        rfl
  | failed => exact .quiet _ _ rfl rfl rfl
  | voteStale => exact .quiet _ _ rfl rfl rfl
  | voteRefused sender term =>
      have entered := self.enterTerm_progress term
      refine .quiet _ _ entered.commitIndex entered.lastApplied ?_
      rw [appliedEntries_append, enterTerm_silent]
      rfl
  | voteGranted sender term =>
      have entered := self.enterTerm_progress term
      refine .quiet _ _ entered.commitIndex entered.lastApplied ?_
      rw [appliedEntries_append, enterTerm_silent]
      rfl
  | deposed sender msg now term =>
      have stepped := self.becomeFollower_progress term none
      exact .quiet _ _ stepped.commitIndex stepped.lastApplied rfl
  | counted => exact .quiet _ _ rfl rfl rfl
  | elected => exact .quiet _ _ rfl rfl rfl
  | appendStale => exact .quiet _ _ rfl rfl rfl
  | appendRefused sender term leaderId prevLogIndex prevLogTerm entries
      leaderCommit now =>
      have followed := self.follow_progress term leaderId now
      refine .quiet _ _ followed.commitIndex followed.lastApplied ?_
      rw [appliedEntries_append, follow_silent]
      rfl
  | appendAccepted sender term leaderId prevLogIndex prevLogTerm entries
      leaderCommit now recent agreed stored storedEq =>
      have followed := self.follow_progress term leaderId now
      have advances := stored.advanceCommitAndApply_advances leaderCommit
        (prevLogIndex + entries.length)
      have sameCommit : stored.commitIndex = self.commitIndex := by
        rw [storedEq, storeEntries_eq]
        exact followed.commitIndex
      have sameApplied : stored.lastApplied = self.lastApplied := by
        rw [storedEq, storeEntries_eq]
        exact followed.lastApplied
      refine .followed _ _ _ _ _ _ _ _ _ recent agreed ?_ ?_ ⟨?_, ?_, ?_⟩
      · rw [advanceCommitAndApply_eq, storedEq]
      · rw [advanceCommitAndApply_eq, storedEq, storeEntries_eq]
        exact follow_role self term leaderId now
      · rw [advances.commitIndex, sameCommit]
      · rw [advances.lastApplied, sameCommit, sameApplied]
      · rw [appliedEntries_append, appliedEntries_append, follow_silent,
          advances.applied, sameCommit, sameApplied]
        exact List.append_nil _
  | matched sender matchIndex now reqPrev reqLen leading recorded =>
      exact handleAppendSuccess_progress self _ rfl sender matchIndex now
        reqPrev reqLen leading
  | unmatched sender matchIndex now reqPrev reqLen leading recorded =>
      rcases handleAppendReject_cases
        { self with aeInflight := self.aeInflight.erase sender } sender
        reqPrev with ignored | ⟨next, sent⟩
      · rw [ignored]
        exact .quiet _ _ rfl rfl rfl
      · obtain ⟨_, _, frame⟩ := sendAppendEntriesTo_frame
          { self with
            aeInflight := self.aeInflight.erase sender
            nextIndex := self.nextIndex.insert sender next } sender
        rw [sent]
        exact .quiet _ _ (by rw [frame]) (by rw [frame])
          (sendAppendEntriesTo_silent _ _)

/-- The commit index never decreases. -/
theorem Outcome.commitIndex_le
    (outcome : Outcome self call result) :
    self.commitIndex ≤ result.1.commitIndex := by
  cases outcome.progress with
  | quiet _ _ sameCommit => exact sameCommit.ge
  | followed _ _ _ _ _ _ _ _ _ _ _ _ _ advances =>
      rw [advances.commitIndex]
      exact Nat.le_max_left _ _
  | committed _ _ _ _ _ _ _ _ _ _ _ _ _ _ advances =>
      rw [advances.commitIndex]
      exact Nat.le_max_left _ _

/-- A call that moves up to a bound applies up to it. -/
theorem Advances.caughtUp
    {bound : Nat}
    (advances : Advances self bound result)
    (applied : self.lastApplied = self.commitIndex) :
    result.1.lastApplied = result.1.commitIndex := by
  rw [advances.lastApplied, advances.commitIndex, applied]
  exact max_eq_right (le_max_left _ _)

/-- Whatever is committed is applied as well. -/
theorem Progress.caughtUp
    (progress : Progress self call result)
    (applied : self.lastApplied = self.commitIndex) :
    result.1.lastApplied = result.1.commitIndex := by
  cases progress with
  | quiet _ _ sameCommit sameApplied => rw [sameCommit, sameApplied, applied]
  | followed _ _ _ _ _ _ _ _ _ _ _ _ _ advances => exact advances.caughtUp applied
  | committed _ _ _ _ _ _ _ _ _ _ _ _ _ _ advances =>
      exact advances.caughtUp applied

theorem Advances.handsOver
    {bound position : Nat}
    {entry : LogEntry}
    (advances : Advances self bound result)
    (applied : self.lastApplied = self.commitIndex)
    (stored : (log result.1.storage)[position]? = some entry)
    (new : self.commitIndex ≤ position)
    (committed : position < result.1.commitIndex) :
    entry ∈ appliedEntries result.2 := by
  rw [advances.commitIndex] at committed
  rw [advances.applied, applied]
  apply List.mem_of_getElem? (i := position - self.commitIndex)
  rw [List.getElem?_take_of_lt (by omega), List.getElem?_drop,
    Nat.add_sub_cancel' new]
  exact stored

/-- A call hands over what it commits. -/
theorem Progress.handsOver
    {position : Nat}
    {entry : LogEntry}
    (progress : Progress self call result)
    (applied : self.lastApplied = self.commitIndex)
    (stored : (log result.1.storage)[position]? = some entry)
    (new : self.commitIndex ≤ position)
    (committed : position < result.1.commitIndex) :
    ∃ entries, .apply entries ∈ result.2 ∧ entry ∈ entries := by
  have handedOver : entry ∈ appliedEntries result.2 := by
    cases progress with
    | quiet _ _ sameCommit =>
        rw [sameCommit] at committed
        omega
    | followed _ _ _ _ _ _ _ _ _ _ _ _ _ advances =>
        exact advances.handsOver applied stored new committed
    | committed _ _ _ _ _ _ _ _ _ _ _ _ _ _ advances =>
        exact advances.handsOver applied stored new committed
  obtain ⟨action, emitted, inside⟩ := List.mem_flatMap.mp handedOver
  cases action with
  | apply entries => exact ⟨entries, emitted, inside⟩
  | _ => exact absurd inside List.not_mem_nil

/-! ## The match indices of a leader -/

/-- What a call makes of the match indices of the leader it leaves. -/
inductive MatchChange (before : MemoryEngine) : Call → MemoryEngine → Prop
  | kept (call : Call) (after : MemoryEngine)
      (led : before.role = .leader)
      (sameTerm : after.currentTerm = before.currentTerm)
      (grown : before.storage.entries <+: after.storage.entries)
      (sameMatch : after.matchIndex = before.matchIndex) :
      MatchChange before call after
  | acknowledged (sender : NodeId) (matchIndex now prev len : Nat)
      (after : MemoryEngine)
      (led : before.role = .leader)
      (recorded : before.lastAe.lookup sender = some (prev, len))
      (sameStorage : after.storage = before.storage)
      (counted : after.matchIndex = before.matchIndex.insert sender
        (max ((before.matchIndex.lookup sender).getD 0) (prev + len))) :
      MatchChange before
        (.rpc sender
          (.appendEntriesResp before.currentTerm true matchIndex) now)
        after
  | elected (call : Call) (after : MemoryEngine)
      (reset : ∀ peer, (after.matchIndex.lookup peer).getD 0 = 0) :
      MatchChange before call after

/-- Giving every key of a list one value. -/
theorem lookup_fill
    (peers : List NodeId)
    (value : Nat)
    (map : HashMap NodeId Nat)
    (peer : NodeId) :
    (peers.foldl (fun map voter => map.insert voter value) map).lookup peer =
      if peer ∈ peers then some value else map.lookup peer := by
  induction peers generalizing map with
  | nil => rfl
  | cons voter peers inductionHypothesis =>
      rw [List.foldl_cons, inductionHypothesis]
      by_cases later : peer ∈ peers
      · simp [later]
      · by_cases same : peer = voter
        · subst same
          simp [later]
        · simp [later, same, AList.lookup_insert_ne same]

/-- A new leader knows of no match. -/
theorem matchIndex_becomeLeader
    (self : MemoryEngine)
    (term now : Nat)
    (peer : NodeId) :
    (((self.becomeLeader term now).1.matchIndex).lookup peer).getD 0 = 0 := by
  have filled := lookup_fill self.otherVoters 0 ∅ peer
  have reset : (self.becomeLeader term now).1.matchIndex.lookup peer =
      if peer ∈ self.otherVoters then some 0 else none := filled
  rw [reset]
  split_ifs
  · rfl
  · rfl

section

variable {self : MemoryEngine} {call : Call}
  {result : MemoryEngine × List Action}

/-- Every call that leaves a leader has one of the effects on its match
indices. -/
theorem Outcome.matchChange
    (outcome : Outcome self call result)
    (leading : result.1.role = .leader) :
    MatchChange self call result.1 := by
  by_cases led : self.role = .leader
  · cases outcome.leaderCall led leading with
    | idle => exact .kept _ _ led rfl (List.prefix_refl _) rfl
    | heartbeat now =>
        obtain ⟨_, _, frame⟩ := self.replicateActions_frame
        rw [frame]
        exact .kept _ _ led rfl (List.prefix_refl _) rfl
    | proposed data =>
        have grown : self.storage.entries <+:
            (self.appendCommand data).storage.entries := by
          have appended := congrArg View.log (self.view_appendCommand data)
          simp only [view_log] at appended
          rw [appended]
          exact List.prefix_append _ _
        have sameTerm := congrArg View.term (self.view_appendCommand data)
        obtain ⟨_, _, frame⟩ :=
        (self.appendCommand data).replicateActions_frame
        rw [frame]
        exact .kept _ _ led sameTerm grown rfl
    | failed => exact .kept _ _ led rfl (List.prefix_refl _) rfl
    | matched sender matchIndex now reqPrev reqLen recorded =>
        obtain ⟨_, _, _, _, _, _, frame⟩ := handleAppendSuccess_frame
          { self with aeInflight := self.aeInflight.erase sender } sender reqPrev
          reqLen
        have tables := handleAppendSuccess_tables
          { self with aeInflight := self.aeInflight.erase sender } sender reqPrev
          reqLen
        refine .acknowledged _ _ _ _ _ _ led recorded ?_ tables.2
        rw [frame]
    | unmatched sender matchIndex now reqPrev reqLen recorded =>
        obtain ⟨_, _, _, frame⟩ := handleAppendReject_frame
          { self with aeInflight := self.aeInflight.erase sender } sender reqPrev
        rw [frame]
        exact .kept _ _ led rfl (List.prefix_refl _) rfl
  · obtain ⟨sender, now, -, -, -, elected⟩ := outcome.elected_of led leading
    rw [elected]
    exact .elected _ _ (matchIndex_becomeLeader _ self.currentTerm now)

end

end RaftEngine

end Libp2pRaft
