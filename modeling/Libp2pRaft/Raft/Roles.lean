import Libp2pRaft.Raft.View

/-!
# Roles, votes and terms across a call

Which calls make an engine a candidate or a leader, and what a call never
changes.
-/

namespace Libp2pRaft

open Consensus TransitionSystem

namespace RaftEngine

section

variable {S : Type} [Storage S] [LawfulStorage S]

theorem handleAppendSuccess_config
    (self : RaftEngine S)
    (sender : NodeId)
    (reqPrev reqLen : Nat) :
    (self.handleAppendSuccess sender reqPrev reqLen).1.config = self.config ∧
      (self.handleAppendSuccess sender reqPrev reqLen).1.membership =
        self.membership ∧
      (self.handleAppendSuccess sender reqPrev reqLen).1.role = self.role := by
  obtain ⟨_, _, _, _, _, _, frame⟩ :=
    self.handleAppendSuccess_frame sender reqPrev reqLen
  rw [frame]
  exact ⟨rfl, rfl, rfl⟩

omit [LawfulStorage S] in
theorem handleAppendReject_config
    (self : RaftEngine S)
    (sender : NodeId)
    (reqPrev : Nat) :
    (self.handleAppendReject sender reqPrev).1.config = self.config ∧
      (self.handleAppendReject sender reqPrev).1.membership =
        self.membership ∧
      (self.handleAppendReject sender reqPrev).1.role = self.role := by
  obtain ⟨_, _, _, frame⟩ := self.handleAppendReject_frame sender reqPrev
  rw [frame]
  exact ⟨rfl, rfl, rfl⟩

variable {self : RaftEngine S} {call : Call}
  {result : RaftEngine S × List Action}

/-- No call changes the configuration or the voter set. -/
theorem Outcome.config_eq (outcome : Outcome self call result) :
    result.1.config = self.config ∧ result.1.membership = self.membership := by
  cases outcome with
  | ignored => exact ⟨rfl, rfl⟩
  | campaigned => exact ⟨rfl, rfl⟩
  | heartbeat now leading =>
      obtain ⟨_, _, frame⟩ := self.replicateActions_frame
      rw [frame]
      exact ⟨rfl, rfl⟩
  | proposed data leading =>
      obtain ⟨_, _, frame⟩ := (self.appendCommand data).replicateActions_frame
      rw [frame]
      exact ⟨rfl, rfl⟩
  | failed => exact ⟨rfl, rfl⟩
  | voteStale => exact ⟨rfl, rfl⟩
  | voteRefused sender term =>
      have entered := self.enterTerm_progress term
      exact ⟨entered.config, entered.membership⟩
  | voteGranted sender term =>
      have entered := self.enterTerm_progress term
      exact ⟨entered.config, entered.membership⟩
  | deposed sender msg now term =>
      have stepped := self.becomeFollower_progress term none
      exact ⟨stepped.config, stepped.membership⟩
  | counted => exact ⟨rfl, rfl⟩
  | elected => exact ⟨rfl, rfl⟩
  | appendStale => exact ⟨rfl, rfl⟩
  | appendRefused sender term leaderId prevLogIndex prevLogTerm entries
      leaderCommit now =>
      have followed := self.follow_progress term leaderId now
      exact ⟨followed.config, followed.membership⟩
  | appendAccepted sender term leaderId prevLogIndex prevLogTerm entries
      leaderCommit now recent agreed stored storedEq =>
      have followed := self.follow_progress term leaderId now
      rw [advanceCommitAndApply_eq, storedEq, storeEntries_eq]
      exact ⟨followed.config, followed.membership⟩
  | matched sender matchIndex now reqPrev reqLen =>
      have handled := handleAppendSuccess_config
        { self with aeInflight := self.aeInflight.erase sender } sender
        reqPrev reqLen
      exact ⟨handled.1, handled.2.1⟩
  | unmatched sender matchIndex now reqPrev =>
      have handled := handleAppendReject_config
        { self with aeInflight := self.aeInflight.erase sender } sender reqPrev
      exact ⟨handled.1, handled.2.1⟩

/-- Configuration and voter set stay what `new` made them. -/
theorem lifetime_config
    (config : RaftConfig)
    (storage : S)
    (start : Nat)
    (calls : List Call) :
    ((lifetime config storage start).run calls).config = config ∧
      ((lifetime config storage start).run calls).membership =
        Membership.new config.voters := by
  refine (lifetime config storage start).invariant
    (motive := fun engine => engine.config = config ∧
      engine.membership = Membership.new config.voters) ⟨rfl, rfl⟩ ?_ calls
  rintro engine call ⟨sameConfig, sameVoters⟩
  have kept := (engine.call_outcome call).config_eq
  exact ⟨kept.1.trans sameConfig, kept.2.trans sameVoters⟩

omit [LawfulStorage S] in
/-- Following a sender ends in the follower role. -/
theorem follow_role
    (self : RaftEngine S)
    (term : Nat)
    (leaderId : NodeId)
    (now : Nat) :
    (self.follow term leaderId now).1.role = .follower := by
  unfold follow
  split_ifs with newer active
  · show (self.becomeFollower term (some leaderId)).1.role = _
    rw [becomeFollower_eq]
  · show (self.becomeFollower term (some leaderId)).1.role = _
    rw [becomeFollower_eq]
  · show self.role = _
    simpa using active

omit [LawfulStorage S] in
theorem enterTerm_eq_or_follower
    (self : RaftEngine S)
    (term : Nat) :
    (self.enterTerm term).1 = self ∨
      (self.enterTerm term).1.role = .follower := by
  unfold enterTerm
  split_ifs
  · right
    rw [becomeFollower_eq]
  · exact .inl rfl

/-- A call that leaves a candidate starts its campaign, counts a vote for it, or
leaves campaign and votes alone. -/
theorem Outcome.candidate_cases
    (outcome : Outcome self call result)
    (campaigning : result.1.role = .candidate) :
    (self.role = .candidate ∧ result.1.votes = self.votes ∧
        result.1.storage = self.storage) ∨
      (∃ now, call = .tick now ∧ self.role ≠ .leader ∧
        self.electionDeadline ≤ now ∧
        result.1 = (self.startElection now).1) ∨
      ∃ sender now,
        call = .rpc sender (.requestVoteResp self.currentTerm true) now ∧
        self.role = .candidate ∧
        result.1 = { self with votes := insert sender self.votes } := by
  cases outcome with
  | ignored => exact .inl ⟨campaigning, rfl, rfl⟩
  | campaigned now waiting due =>
      exact .inr (.inl ⟨now, rfl, waiting, due, rfl⟩)
  | heartbeat now leading =>
      obtain ⟨_, _, frame⟩ := self.replicateActions_frame
      rw [frame] at campaigning
      simp [leading] at campaigning
  | proposed data leading =>
      obtain ⟨_, _, frame⟩ := (self.appendCommand data).replicateActions_frame
      rw [frame] at campaigning
      exact absurd campaigning (by simp [appendCommand, persist, leading])
  | failed => exact .inl ⟨campaigning, rfl, rfl⟩
  | voteStale => exact .inl ⟨campaigning, rfl, rfl⟩
  | voteRefused sender term =>
      rcases self.enterTerm_eq_or_follower term with same | following
      · rw [same] at campaigning ⊢
        exact .inl ⟨campaigning, rfl, rfl⟩
      · simp [following] at campaigning
  | voteGranted => contradiction
  | deposed =>
      rw [becomeFollower_eq] at campaigning
      contradiction
  | counted sender now candidate few =>
      exact .inr (.inr ⟨sender, now, rfl, candidate, rfl⟩)
  | elected => contradiction
  | appendStale => exact .inl ⟨campaigning, rfl, rfl⟩
  | appendRefused => simp [follow_role] at campaigning
  | appendAccepted sender term leaderId prevLogIndex prevLogTerm entries
      leaderCommit now recent agreed stored storedEq =>
      rw [advanceCommitAndApply_eq, storedEq, storeEntries_eq] at campaigning
      simp [follow_role] at campaigning
  | matched sender matchIndex now reqPrev reqLen leading =>
      rw [(handleAppendSuccess_config _ sender reqPrev reqLen).2.2] at campaigning
      simp [leading] at campaigning
  | unmatched sender matchIndex now reqPrev reqLen leading =>
      rw [(handleAppendReject_config _ sender reqPrev).2.2] at campaigning
      simp [leading] at campaigning

/-- Only the deciding vote makes a leader. -/
theorem Outcome.elected_of
    (outcome : Outcome self call result)
    (waiting : self.role ≠ .leader)
    (leading : result.1.role = .leader) :
    ∃ sender now,
      call = .rpc sender (.requestVoteResp self.currentTerm true) now ∧
      self.role = .candidate ∧
      self.membership.quorum ≤ (insert sender self.votes).card ∧
      result = { self with votes := insert sender self.votes }.becomeLeader
        self.currentTerm now := by
  cases outcome with
  | elected sender now campaigning enough =>
      exact ⟨sender, now, rfl, campaigning, enough, rfl⟩
  | ignored => exact absurd leading waiting
  | campaigned => contradiction
  | heartbeat now led => exact absurd led waiting
  | proposed data led => exact absurd led waiting
  | failed => exact absurd leading waiting
  | voteStale => exact absurd leading waiting
  | voteRefused sender term =>
      rcases self.enterTerm_eq_or_follower term with same | following
      · rw [same] at leading
        exact absurd leading waiting
      · simp [following] at leading
  | voteGranted => contradiction
  | deposed =>
      rw [becomeFollower_eq] at leading
      contradiction
  | counted sender now candidate => simp [candidate] at leading
  | appendStale => exact absurd leading waiting
  | appendRefused => simp [follow_role] at leading
  | appendAccepted sender term leaderId prevLogIndex prevLogTerm entries
      leaderCommit now recent agreed stored storedEq =>
      rw [advanceCommitAndApply_eq, storedEq, storeEntries_eq] at leading
      simp [follow_role] at leading
  | matched sender matchIndex now reqPrev reqLen led => exact absurd led waiting
  | unmatched sender matchIndex now reqPrev reqLen led => exact absurd led waiting

/-- What a call can do to a leader that stays leader. -/
inductive LeaderCall (self : RaftEngine S) :
    Call → RaftEngine S × List Action → Prop
  | idle (call : Call) (actions : List Action) :
      LeaderCall self call (self, actions)
  | heartbeat (now : Nat) :
      LeaderCall self (.tick now)
        ({ self.replicateActions.1 with
            heartbeatDeadline :=
              now + self.replicateActions.1.config.heartbeatInterval },
          self.replicateActions.2)
  | proposed (data : List UInt8) :
      LeaderCall self (.propose data) (self.appendCommand data).replicateActions
  | failed (target : NodeId) :
      LeaderCall self (.rpcFailure target .appendEntries)
        ({ self with aeInflight := self.aeInflight.erase target }, [])
  | matched (sender : NodeId) (matchIndex now reqPrev reqLen : Nat)
      (recorded : self.lastAe.lookup sender = some (reqPrev, reqLen)) :
      LeaderCall self
        (.rpc sender
          (.appendEntriesResp self.currentTerm true matchIndex) now)
        ({ self with
            aeInflight := self.aeInflight.erase sender }.handleAppendSuccess
          sender reqPrev reqLen)
  | unmatched (sender : NodeId) (matchIndex now reqPrev reqLen : Nat)
      (recorded : self.lastAe.lookup sender = some (reqPrev, reqLen)) :
      LeaderCall self
        (.rpc sender
          (.appendEntriesResp self.currentTerm false matchIndex) now)
        ({ self with
            aeInflight := self.aeInflight.erase sender }.handleAppendReject
          sender reqPrev)

theorem Outcome.leaderCall
    (outcome : Outcome self call result)
    (led : self.role = .leader)
    (leading : result.1.role = .leader) :
    LeaderCall self call result := by
  cases outcome with
  | ignored => exact .idle _ _
  | campaigned now waiting => contradiction
  | heartbeat now => exact .heartbeat now
  | proposed data => exact .proposed data
  | failed target => exact .failed target
  | voteStale => exact .idle _ _
  | voteRefused sender term =>
      rcases self.enterTerm_eq_or_follower term with same | following
      · rw [same]
        exact .idle _ _
      · simp [following] at leading
  | voteGranted => contradiction
  | deposed =>
      rw [becomeFollower_eq] at leading
      contradiction
  | counted sender now campaigning => simp [campaigning] at led
  | elected sender now campaigning => simp [campaigning] at led
  | appendStale => exact .idle _ _
  | appendRefused => simp [follow_role] at leading
  | appendAccepted sender term leaderId prevLogIndex prevLogTerm entries
      leaderCommit now recent agreed stored storedEq =>
      rw [advanceCommitAndApply_eq, storedEq, storeEntries_eq] at leading
      simp [follow_role] at leading
  | matched sender matchIndex now reqPrev reqLen led recorded =>
      exact .matched sender matchIndex now reqPrev reqLen recorded
  | unmatched sender matchIndex now reqPrev reqLen led recorded =>
      exact .unmatched sender matchIndex now reqPrev reqLen recorded

end

variable {self : MemoryEngine} {call : Call}
  {result : MemoryEngine × List Action}

/-- A call that leaves a leader counts the deciding vote, or the engine led the
term before. -/
theorem Outcome.leader_cases
    (outcome : Outcome self call result)
    (leading : result.1.role = .leader) :
    (self.role = .leader ∧ result.1.currentTerm = self.currentTerm) ∨
      ∃ sender now,
        call = .rpc sender (.requestVoteResp self.currentTerm true) now ∧
        self.role = .candidate ∧
        self.membership.quorum ≤ (insert sender self.votes).card ∧
        result.1.view = { self.view with standing := .leader } := by
  by_cases led : self.role = .leader
  · refine .inl ⟨led, ?_⟩
    cases outcome.leaderCall led leading with
    | idle => rfl
    | heartbeat now => exact congrArg View.term self.view_replicateActions
    | proposed data =>
        rw [← view_term, view_replicateActions, view_appendCommand]
        rfl
    | failed => rfl
    | matched sender matchIndex now reqPrev reqLen =>
        rw [← view_term, view_handleAppendSuccess]
        rfl
    | unmatched sender matchIndex now reqPrev reqLen =>
        rw [← view_term, view_handleAppendReject]
        rfl
  · obtain ⟨sender, now, asked, campaigning, enough, elected⟩ :=
      outcome.elected_of led leading
    exact .inr ⟨sender, now, asked, campaigning, enough, by rw [elected]; rfl⟩

end RaftEngine

end Libp2pRaft
