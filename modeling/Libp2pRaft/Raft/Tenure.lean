import Libp2pRaft.Raft.Deadlines
import Libp2pRaft.Raft.ProgressTable

/-!
# The tenure of a leader

A call that starts no election moves an engine to no term but that of the
message it handles.  A leader has its own vote, so it stays leader until it
hears of a later term, or of another leader of its own.
-/

namespace Libp2pRaft

open Consensus TransitionSystem

/-- An action that sends a message. -/
def Action.Sends (action : Action) (msg : RaftMessage) : Prop :=
  action = .broadcast msg ∨ ∃ target, action = .send target msg

namespace RaftEngine

variable {self : MemoryEngine} {call : Call}
  {result : MemoryEngine × List Action}

theorem currentTerm_of_view
    {before after : MemoryEngine}
    (same : after.view = before.view) :
    after.currentTerm = before.currentTerm :=
  congrArg View.term same

/-- A term is kept, or taken over from the message being handled. -/
theorem Outcome.term_cases
    (outcome : Outcome self call result)
    (calm : ¬ self.Campaigns call) :
    result.1.currentTerm = self.currentTerm ∨
      ∃ sender msg now, call = .rpc sender msg now ∧
        result.1.currentTerm = msg.term := by
  have entered : ∀ term, (self.enterTerm term).1.currentTerm =
      self.currentTerm ∨ (self.enterTerm term).1.currentTerm = term := by
    intro term
    have view := congrArg View.term (self.view_enterTerm term)
    by_cases newer : self.currentTerm < term
    · rw [if_pos newer] at view
      exact .inr view
    · rw [if_neg newer] at view
      exact .inl view
  have followed : ∀ term leaderId now,
      (self.follow term leaderId now).1.currentTerm = self.currentTerm ∨
        (self.follow term leaderId now).1.currentTerm = term := by
    intro term leaderId now
    have view := congrArg View.term (self.view_follow term leaderId now)
    by_cases newer : self.currentTerm < term
    · rw [if_pos newer] at view
      exact .inr view
    · rw [if_neg newer] at view
      exact .inl view
  cases outcome with
  | ignored => exact .inl rfl
  | campaigned now waiting due => exact absurd ⟨waiting, due⟩ calm
  | heartbeat => exact .inl (currentTerm_of_view self.view_replicateActions)
  | proposed data =>
      exact .inl ((currentTerm_of_view
        (self.appendCommand data).view_replicateActions).trans
          (congrArg View.term (self.view_appendCommand data)))
  | failed => exact .inl rfl
  | voteStale => exact .inl rfl
  | voteRefused sender term candidateId lastLogIndex lastLogTerm now =>
      exact (entered term).imp_right fun same => ⟨_, _, _, rfl, same⟩
  | voteGranted sender term candidateId lastLogIndex lastLogTerm now recent =>
      refine .inr ⟨_, _, _, rfl, ?_⟩
      show max term (self.enterTerm term).1.currentTerm = term
      rcases entered term with same | same
      · rw [same]
        exact max_eq_left recent
      · rw [same, max_self]
  | deposed sender msg now term reply newer =>
      refine .inr ⟨_, _, _, rfl, ?_⟩
      have stepped := congrArg View.term (self.view_becomeFollower term none)
      rw [if_pos newer] at stepped
      rcases reply with ⟨granted, rfl⟩ | ⟨success, matchIndex, rfl⟩
      · exact stepped
      · exact stepped
  | counted => exact .inl rfl
  | elected => exact .inl rfl
  | appendStale => exact .inl rfl
  | appendRefused sender term leaderId prevLogIndex prevLogTerm entries
      leaderCommit now =>
      exact (followed term leaderId now).imp_right
        fun same => ⟨_, _, _, rfl, same⟩
  | appendAccepted sender term leaderId prevLogIndex prevLogTerm entries
      leaderCommit now recent agreed stored storedEq =>
      have kept := congrArg HardState.currentTerm
        (hardState_storeEntries (self.follow term leaderId now).1 prevLogIndex
          entries)
      rw [← storedEq] at kept
      have advanced := currentTerm_of_view
        (stored.view_advanceCommitAndApply leaderCommit
          (prevLogIndex + entries.length))
      replace advanced := advanced.trans kept
      exact (followed term leaderId now).imp advanced.trans
        fun same => ⟨_, _, _, rfl, advanced.trans same⟩
  | matched sender matchIndex now reqPrev reqLen =>
      exact .inl (currentTerm_of_view
        (view_handleAppendSuccess _ sender reqPrev reqLen))
  | unmatched sender matchIndex now reqPrev reqLen =>
      exact .inl (currentTerm_of_view
        (view_handleAppendReject _ sender reqPrev))

/-- A candidate or leader has its own vote. -/
def VotesItself (self : MemoryEngine) : Prop :=
  self.role ≠ .follower →
    self.storage.hardState.votedFor = some self.config.nodeId

theorem Outcome.votesItself
    (outcome : Outcome self call result)
    (voted : self.VotesItself) :
    result.1.VotesItself := by
  intro active
  rw [outcome.config_eq.1]
  cases role : result.1.role with
  | follower => contradiction
  | candidate =>
      rcases outcome.candidate_cases role with
        ⟨campaigning, -, same⟩ | ⟨now, -, -, -, campaigned⟩ |
        ⟨sender, now, -, campaigning, counted⟩
      · rw [same]
        exact voted (by simp [campaigning])
      · rw [campaigned]
        exact congrArg View.vote (self.view_startElection now)
      · rw [counted]
        exact voted (by simp [campaigning])
  | leader =>
      rcases outcome.leader_cases role with
        ⟨led, -⟩ | ⟨sender, now, -, campaigning, -, view⟩
      · have own := voted (by simp [led])
        rw [← own]
        cases outcome.leaderCall led role with
        | idle => rfl
        | heartbeat => exact congrArg View.vote self.view_replicateActions
        | proposed data =>
            exact (congrArg View.vote
              (self.appendCommand data).view_replicateActions).trans
                (congrArg View.vote (self.view_appendCommand data))
        | failed => rfl
        | matched sender matchIndex now reqPrev reqLen =>
            exact congrArg View.vote
              (view_handleAppendSuccess _ sender reqPrev reqLen)
        | unmatched sender matchIndex now reqPrev reqLen =>
            exact congrArg View.vote (view_handleAppendReject _ sender reqPrev)
      · exact (congrArg View.vote view).trans (voted (by simp [campaigning]))

/-- A leader that hears of no later term, of no other leader of its own, and of
no candidacy of its own, stays leader. -/
theorem Outcome.keeps_leading
    (outcome : Outcome self call result)
    (leading : self.role = .leader)
    (voted : self.VotesItself)
    (bounded : ∀ sender msg now, call = .rpc sender msg now →
      msg.term ≤ self.currentTerm)
    (unasked : ∀ sender leaderId prevLogIndex prevLogTerm entries leaderCommit
      now, call ≠ .rpc sender (.appendEntries self.currentTerm leaderId
        prevLogIndex prevLogTerm entries leaderCommit) now)
    (rivals : ∀ sender term lastLogIndex lastLogTerm now, call ≠ .rpc sender
      (.requestVote term self.config.nodeId lastLogIndex lastLogTerm) now) :
    result.1.role = .leader ∧ result.1.currentTerm = self.currentTerm := by
  have stays : result.1.role = .leader := by
    cases outcome with
    | ignored => exact leading
    | campaigned now waiting => contradiction
    | heartbeat now =>
        obtain ⟨_, _, frame⟩ := self.replicateActions_frame
        rw [frame]
        exact leading
    | proposed data =>
        obtain ⟨_, _, frame⟩ := (self.appendCommand data).replicateActions_frame
        rw [frame]
        exact leading
    | failed => exact leading
    | voteStale => exact leading
    | voteRefused sender term candidateId lastLogIndex lastLogTerm now =>
        have entered : self.enterTerm term = (self, []) :=
          if_neg (Nat.not_lt.mpr (bounded _ _ _ rfl))
        rw [entered]
        exact leading
    | voteGranted sender term candidateId lastLogIndex lastLogTerm now recent
        grants =>
        have entered : self.enterTerm term = (self, []) :=
          if_neg (Nat.not_lt.mpr (bounded _ _ _ rfl))
        have own : (Storage.hardState self.storage).votedFor =
            some self.config.nodeId := voted (by simp [leading])
        obtain ⟨free, -⟩ := grants
        rw [entered] at free
        rcases free with unvoted | same
        · exact absurd (own.symm.trans unvoted) (by simp)
        · obtain rfl := Option.some.inj (own.symm.trans same)
          exact absurd rfl (rivals sender term lastLogIndex lastLogTerm now)
    | deposed sender msg now term reply newer =>
        have bound := bounded sender msg now rfl
        rcases reply with ⟨granted, rfl⟩ | ⟨success, matchIndex, rfl⟩
        · exact absurd newer bound.not_gt
        · exact absurd newer bound.not_gt
    | counted sender now campaigning => simp [campaigning] at leading
    | elected => rfl
    | appendStale => exact leading
    | appendRefused sender term leaderId prevLogIndex prevLogTerm entries
        leaderCommit now recent =>
        obtain rfl : term = self.currentTerm :=
          le_antisymm (bounded _ _ _ rfl) recent
        exact absurd rfl (unasked _ _ _ _ _ _ _)
    | appendAccepted sender term leaderId prevLogIndex prevLogTerm entries
        leaderCommit now recent =>
        obtain rfl : term = self.currentTerm :=
          le_antisymm (bounded _ _ _ rfl) recent
        exact absurd rfl (unasked _ _ _ _ _ _ _)
    | matched sender matchIndex now reqPrev reqLen =>
        rw [(handleAppendSuccess_config _ sender reqPrev reqLen).2.2]
        exact leading
    | unmatched sender matchIndex now reqPrev reqLen =>
        rw [(handleAppendReject_config _ sender reqPrev).2.2]
        exact leading
  refine ⟨stays, ?_⟩
  rcases outcome.leader_cases stays with
    ⟨-, same⟩ | ⟨sender, now, -, campaigning, -⟩
  · exact same
  · simp [campaigning] at leading

/-! ## Messages -/

/-- What a call sends carries the term the call leaves. -/
theorem Emits.term_eq
    {after : MemoryEngine}
    {action : Action}
    {msg : RaftMessage}
    (emits : Emits self after call action)
    (sends : action.Sends msg) :
    msg.term = after.currentTerm := by
  rcases sends with rfl | ⟨target, rfl⟩
  · cases emits with
    | voteRequest now asked waiting due campaigned =>
        rw [campaigned]
        exact (congrArg View.term (self.view_startElection now)).symm
  · cases emits with
    | appendRequest _ _ prev len leading built =>
        obtain ⟨prevTerm, -, -, -, rfl⟩ := after.buildAppendEntries_some built
        rfl
    | voteReply => rfl
    | appendReply => rfl

/-- A message goes to another voter, or answers the one being handled. -/
theorem Emits.target_cases
    {after : MemoryEngine}
    {target : NodeId}
    {msg : RaftMessage}
    (emits : Emits self after call (.send target msg))
    (tabled : after.role = .leader → after.Tabled) :
    target ∈ after.otherVoters ∨ ∃ asked now, call = .rpc target asked now := by
  cases emits with
  | appendRequest _ _ prev len leading built =>
      obtain ⟨prevTerm, -, next, -⟩ := after.buildAppendEntries_some built
      left
      by_contra outside
      rw [((tabled leading).untracked target outside).next] at next
      contradiction
  | voteReply _ _ _ _ _ now _ asked => exact .inr ⟨_, now, asked⟩
  | appendReply _ _ _ _ _ _ _ now _ _ asked => exact .inr ⟨_, now, asked⟩

end RaftEngine

end Libp2pRaft
