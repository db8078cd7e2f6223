import Libp2pRaft.Library.Timers
import Libp2pRaft.Raft.Elections

/-!
# The election timer

What a call does to the election deadline.  Most calls that move an engine to
another role restart the timer; a leader that steps down on a refused vote
request or on a reply of a later term keeps the deadline of its own election,
and no heartbeat of a leader restarts it.
-/

namespace Libp2pRaft

open Consensus TransitionSystem

/-- The clock reading a call comes with. -/
def Call.reading : Call → Option Nat
  | .tick now | .rpc _ _ now => some now
  | .propose _ | .rpcFailure .. => none

/-- How far ahead of the clock the election timer is set. -/
def RaftConfig.electionDelay (config : RaftConfig) : Nat :=
  config.electionTimeout + config.electionJitter

/-- The term a message carries. -/
def RaftMessage.term : RaftMessage → Nat
  | .requestVote term .. | .requestVoteResp term _ | .appendEntries term ..
  | .appendEntriesResp term .. | .installSnapshot term ..
  | .installSnapshotResp term => term

namespace RaftEngine

variable {S : Type} [Storage S]

/-- A message of a later term makes the engine a follower without restarting
its election timer: a vote request it refuses, or a reply. -/
def Deposes (self : RaftEngine S) : Call → Prop
  | .rpc _ (.requestVote term candidateId lastLogIndex lastLogTerm) _ =>
      self.currentTerm < term ∧
        ¬ self.Grants term candidateId lastLogIndex lastLogTerm
  | .rpc _ (.requestVoteResp term _) _
  | .rpc _ (.appendEntriesResp term _ _) _ => self.currentTerm < term
  | _ => False

instance (self : RaftEngine S) (call : Call) :
    Decidable (self.Deposes call) :=
  match call with
  | .rpc _ (.requestVote ..) _ => inferInstanceAs (Decidable (_ < _ ∧ ¬ _))
  | .rpc _ (.requestVoteResp ..) _ | .rpc _ (.appendEntriesResp ..) _ =>
      inferInstanceAs (Decidable (_ < _))
  | .rpc _ (.appendEntries ..) _ | .rpc _ (.installSnapshot ..) _
  | .rpc _ (.installSnapshotResp _) _ | .tick _ | .propose _ | .rpcFailure .. =>
      .isFalse id

/-- What a call does to role and election deadline. -/
inductive Timing
    (before : RaftEngine S)
    (call : Call)
    (after : RaftEngine S) : Prop
  | kept
      (sameRole : after.role = before.role)
      (sameDeadline : after.electionDeadline = before.electionDeadline)
  | restarted (now : Nat)
      (reads : call.reading = some now)
      (notLeading : after.role ≠ .leader)
      (deadline : after.electionDeadline = now + before.config.electionDelay)
  | elected (now : Nat)
      (reads : call.reading = some now)
      (campaigning : before.role = .candidate)
      (leads : after.role = .leader)
      (deadline : after.electionDeadline = now + before.config.electionDelay)
  | deposed (now : Nat)
      (reads : call.reading = some now)
      (deposes : before.Deposes call)
      (follows : after.role = .follower)
      (sameDeadline : after.electionDeadline = before.electionDeadline)

namespace Timing

variable {before after : RaftEngine S} {call : Call}

/-- A call restarts the timer or leaves the deadline where it is. -/
theorem deadline_cases (timing : Timing before call after) :
    after.electionDeadline = before.electionDeadline ∨
      ∃ now, call.reading = some now ∧
        after.electionDeadline = now + before.config.electionDelay := by
  cases timing with
  | kept _ sameDeadline => exact .inl sameDeadline
  | restarted now reads _ deadline => exact .inr ⟨now, reads, deadline⟩
  | elected now reads _ _ deadline => exact .inr ⟨now, reads, deadline⟩
  | deposed _ _ _ _ sameDeadline => exact .inl sameDeadline

/-- A leader that stays leader keeps its election deadline. -/
theorem deadline_of_leading
    (timing : Timing before call after)
    (led : before.role = .leader)
    (leads : after.role = .leader) :
    after.electionDeadline = before.electionDeadline := by
  cases timing with
  | kept _ sameDeadline => exact sameDeadline
  | restarted _ _ notLeading => exact absurd leads notLeading
  | elected _ _ campaigning => exact absurd (led.symm.trans campaigning) (by decide)
  | deposed _ _ _ _ sameDeadline => exact sameDeadline

/-- An election restarts the timer. -/
theorem deadline_of_elected
    (timing : Timing before call after)
    (waited : before.role ≠ .leader)
    (leads : after.role = .leader) :
    ∃ now, call.reading = some now ∧
      after.electionDeadline = now + before.config.electionDelay := by
  cases timing with
  | kept sameRole => exact absurd (sameRole.symm.trans leads) waited
  | restarted _ _ notLeading => exact absurd leads notLeading
  | elected now reads _ _ deadline => exact ⟨now, reads, deadline⟩
  | deposed _ _ _ follows => exact absurd (follows.symm.trans leads) (by decide)

/-- A leader that steps down restarts the timer unless it is deposed. -/
theorem deadline_of_released
    (timing : Timing before call after)
    (led : before.role = .leader)
    (released : after.role ≠ .leader) :
    ∃ now, call.reading = some now ∧
      (after.electionDeadline = now + before.config.electionDelay ∨
        before.Deposes call ∧
          after.electionDeadline = before.electionDeadline) := by
  cases timing with
  | kept sameRole => exact absurd (sameRole.trans led) released
  | restarted now reads _ deadline => exact ⟨now, reads, .inl deadline⟩
  | elected _ _ _ leads => exact absurd leads released
  | deposed now reads deposes _ sameDeadline =>
      exact ⟨now, reads, .inr ⟨deposes, sameDeadline⟩⟩

end Timing

variable (self : RaftEngine S)

omit [Storage S] in
theorem resetElectionDeadline_deadline (now : Nat) :
    (self.resetElectionDeadline now).electionDeadline =
      now + self.config.electionDelay :=
  Nat.add_assoc _ _ _

theorem becomeFollower_deadline
    (term : Nat)
    (leader : Option NodeId) :
    (self.becomeFollower term leader).1.electionDeadline =
      self.electionDeadline := by
  rw [becomeFollower_eq]

theorem follow_deadline
    (term : Nat)
    (leaderId : NodeId)
    (now : Nat) :
    (self.follow term leaderId now).1.electionDeadline =
      now + self.config.electionDelay := by
  have kept := (self.becomeFollower_progress term (some leaderId)).config
  unfold follow
  split_ifs
  · simp only [resetElectionDeadline_deadline, kept]
  · simp only [resetElectionDeadline_deadline, kept]
  · exact resetElectionDeadline_deadline _ now

theorem recordVote_deadline
    (term candidateTerm : Nat)
    (candidateId : NodeId)
    (now : Nat) :
    ((self.enterTerm term).1.recordVote candidateTerm candidateId
      now).electionDeadline = now + self.config.electionDelay := by
  rw [← (self.enterTerm_progress term).config]
  exact resetElectionDeadline_deadline _ now

section

variable [LawfulStorage S] {self : RaftEngine S}

theorem handleAppendSuccess_deadline
    (sender : NodeId)
    (reqPrev reqLen : Nat) :
    (self.handleAppendSuccess sender reqPrev reqLen).1.electionDeadline =
      self.electionDeadline := by
  obtain ⟨_, _, _, _, _, _, frame⟩ :=
    self.handleAppendSuccess_frame sender reqPrev reqLen
  rw [frame]

omit [LawfulStorage S] in
theorem handleAppendReject_deadline
    (sender : NodeId)
    (reqPrev : Nat) :
    (self.handleAppendReject sender reqPrev).1.electionDeadline =
      self.electionDeadline := by
  obtain ⟨_, _, _, frame⟩ := self.handleAppendReject_frame sender reqPrev
  rw [frame]

theorem call_timing (call : Call) : Timing self call (self.call call).1 := by
  have outcome := self.call_outcome call
  generalize applied : self.call call = result at outcome
  cases outcome with
  | ignored => exact .kept rfl rfl
  | campaigned now =>
      exact .restarted now rfl (by simp [startElection, becomeCandidate,
        persist, resetElectionDeadline]) (resetElectionDeadline_deadline _ now)
  | heartbeat now =>
      obtain ⟨_, _, frame⟩ := self.replicateActions_frame
      rw [frame]
      exact .kept rfl rfl
  | proposed data =>
      obtain ⟨_, _, frame⟩ := (self.appendCommand data).replicateActions_frame
      rw [frame]
      exact .kept rfl rfl
  | failed => exact .kept rfl rfl
  | voteStale => exact .kept rfl rfl
  | voteRefused sender term candidateId lastLogIndex lastLogTerm now recent =>
      by_cases grants : self.Grants term candidateId lastLogIndex lastLogTerm
      · have granted := self.call_of_grants sender now recent grants
        rw [← applied, granted]
        exact .restarted now rfl Role.noConfusion
          (self.recordVote_deadline term term candidateId now)
      · by_cases newer : self.currentTerm < term
        · have entered : self.enterTerm term = self.becomeFollower term none :=
            if_pos newer
          rw [entered]
          exact .deposed now rfl ⟨newer, grants⟩ (by rw [becomeFollower_eq])
            (self.becomeFollower_deadline term none)
        · have entered : self.enterTerm term = (self, []) := if_neg newer
          rw [entered]
          exact .kept rfl rfl
  | voteGranted sender term candidateId lastLogIndex lastLogTerm now =>
      exact .restarted now rfl Role.noConfusion
        (self.recordVote_deadline term term candidateId now)
  | deposed sender msg now term reply newer =>
      refine .deposed now rfl ?_ (by rw [becomeFollower_eq])
        (self.becomeFollower_deadline term none)
      rcases reply with ⟨granted, rfl⟩ | ⟨success, matchIndex, rfl⟩
      · exact newer
      · exact newer
  | counted => exact .kept rfl rfl
  | elected sender now campaigning =>
      exact .elected now rfl campaigning rfl
        (resetElectionDeadline_deadline _ now)
  | appendStale => exact .kept rfl rfl
  | appendRefused sender term leaderId prevLogIndex prevLogTerm entries
      leaderCommit now =>
      exact .restarted now rfl (by simp [follow_role])
        (self.follow_deadline term leaderId now)
  | appendAccepted sender term leaderId prevLogIndex prevLogTerm entries
      leaderCommit now recent agreed stored storedEq =>
      rw [advanceCommitAndApply_eq, storedEq, storeEntries_eq]
      exact .restarted now rfl (by simp [follow_role])
        (self.follow_deadline term leaderId now)
  | matched sender matchIndex now reqPrev reqLen =>
      exact .kept (handleAppendSuccess_config _ sender reqPrev reqLen).2.2
        (handleAppendSuccess_deadline sender reqPrev reqLen)
  | unmatched sender matchIndex now reqPrev reqLen =>
      exact .kept (handleAppendReject_config _ sender reqPrev).2.2
        (handleAppendReject_deadline sender reqPrev)

/-! ## The deadline a tick returns -/

/-- The engine became leader at a reading of the run and has led since. -/
def ElectedAt
    (config : RaftConfig)
    (storage : S)
    (start : Nat)
    (calls : List Call)
    (reading : Nat) : Prop :=
  ∃ earlier call, earlier ++ [call] <+: calls ∧
    call.reading = some reading ∧
    ((lifetime config storage start).run earlier).role ≠ .leader ∧
    ∀ past, earlier ++ [call] <+: past → past <+: calls →
      ((lifetime config storage start).run past).role = .leader

theorem call_timing_concat
    (config : RaftConfig)
    (storage : S)
    (start : Nat)
    (calls : List Call)
    (call : Call) :
    Timing ((lifetime config storage start).run calls) call
      ((lifetime config storage start).run (calls ++ [call])) := by
  rw [System.run_concat]
  exact call_timing call

variable {config : RaftConfig} {storage : S} {start : Nat}

/-- The election deadline of a leader is the one its election set. -/
theorem ElectedAt.deadline
    {calls : List Call}
    {reading : Nat}
    (elected : ElectedAt config storage start calls reading) :
    ((lifetime config storage start).run calls).role = .leader ∧
      ((lifetime config storage start).run calls).electionDeadline =
        reading + config.electionDelay := by
  obtain ⟨earlier, call, ⟨rest, rfl⟩, reads, before, leads⟩ := elected
  refine ⟨leads _ (List.prefix_append _ _) (List.prefix_refl _), ?_⟩
  induction rest using List.reverseRecOn with
  | nil =>
      rw [List.append_nil] at leads ⊢
      obtain ⟨now, readsNow, deadline⟩ :=
        (call_timing_concat config storage start earlier call).deadline_of_elected
          before (leads _ (List.prefix_refl _) (List.prefix_refl _))
      rw [reads, Option.some.injEq] at readsNow
      rw [deadline, readsNow, (lifetime_config config storage start earlier).1]
  | append_singleton rest last inductionHypothesis =>
      rw [← List.append_assoc] at leads ⊢
      have isPart := List.prefix_append (earlier ++ [call] ++ rest) [last]
      have led := leads _ (List.prefix_append _ _) isPart
      have still := leads _ ((List.prefix_append _ _).trans isPart)
        (List.prefix_refl _)
      rw [(call_timing_concat config storage start _ last).deadline_of_leading
        led still]
      exact inductionHypothesis fun past follows isPast =>
        leads past follows (isPast.trans isPart)

/-- A leader was elected at some reading. -/
theorem exists_electedAt
    {calls : List Call}
    (leading : ((lifetime config storage start).run calls).role = .leader) :
    ∃ reading, ElectedAt config storage start calls reading := by
  induction calls using List.reverseRecOn with
  | nil => contradiction
  | append_singleton calls call inductionHypothesis =>
      by_cases already :
          ((lifetime config storage start).run calls).role = .leader
      · obtain ⟨reading, earlier, first, isPart, reads, before, leads⟩ :=
          inductionHypothesis already
        refine ⟨reading, earlier, first, isPart.trans (List.prefix_append _ _),
          reads, before, fun past follows isPast => ?_⟩
        rcases List.prefix_concat_iff.mp isPast with rfl | isPast
        · exact leading
        · exact leads past follows isPast
      · obtain ⟨now, reads, -⟩ :=
          (call_timing_concat config storage start calls call).deadline_of_elected
            already leading
        refine ⟨now, calls, call, List.prefix_refl _, reads, already,
          fun past follows isPast => ?_⟩
        rw [isPast.eq_of_length_le follows.length_le]
        exact leading

omit [LawfulStorage S] in
/-- The deadline a tick returns, in terms of the state before it. -/
theorem lt_tick_nextDeadline_iff
    (self : RaftEngine S)
    (now : Nat)
    (beats : 0 < self.config.heartbeatInterval)
    (waits : 0 < self.config.electionDelay) :
    now < (self.tick now).2.nextDeadline ↔
      (self.role = .leader → now < self.electionDeadline) := by
  by_cases early : now < self.nextDeadline
  · have returned : (self.tick now).2.nextDeadline = self.nextDeadline := by
      simp only [tick, early, if_true]
    simp only [returned, early, true_iff]
    intro leading
    simp only [nextDeadline, leading] at early
    exact early.trans_le (min_le_right _ _)
  · by_cases leading : self.role = .leader
    · by_cases due : self.heartbeatDeadline ≤ now
      · -- The heartbeat timer moves ahead; the election timer stays.
        obtain ⟨_, _, frame⟩ := self.replicateActions_frame
        have returned : (self.tick now).2.nextDeadline =
            min (now + self.config.heartbeatInterval) self.electionDeadline := by
          rw [tick, if_neg early]
          simp only [leading, due, if_true, frame, nextDeadline]
        rw [returned]
        simp only [leading, true_implies]
        omega
      · have returned : (self.tick now).2.nextDeadline =
            min self.heartbeatDeadline self.electionDeadline := by
          rw [tick, if_neg early]
          simp only [leading, due, if_false, nextDeadline]
        rw [returned]
        simp only [leading, true_implies]
        omega
    · have campaigns : self.Campaigns (.tick now) := by
        refine ⟨leading, ?_⟩
        cases role : self.role with
        | leader => exact absurd role leading
        | follower => simpa [nextDeadline, role] using early
        | candidate => simpa [nextDeadline, role] using early
      have returned : (self.tick now).2.nextDeadline =
          now + self.config.electionDelay := by
        have due := campaigns.2
        cases role : self.role with
        | leader => exact absurd role leading
        | follower =>
            rw [tick, if_neg early]
            simp only [role, due, if_true]
            exact resetElectionDeadline_deadline _ now
        | candidate =>
            rw [tick, if_neg early]
            simp only [role, due, if_true]
            exact resetElectionDeadline_deadline _ now
      rw [returned]
      simp only [leading, false_implies, iff_true]
      omega

/-- A tick returns a deadline in the future exactly when the engine is not a
leader that was elected an election delay ago or earlier. -/
theorem tick_deadline_in_future
    (config : RaftConfig)
    (storage : S)
    (start : Nat)
    (calls : List Call)
    (now : Nat)
    (beats : 0 < config.heartbeatInterval)
    (waits : 0 < config.electionTimeout + config.electionJitter) :
    now < (((lifetime config storage start).run calls).tick
        now).2.nextDeadline ↔
      ∀ reading, ElectedAt config storage start calls reading →
        now < reading + (config.electionTimeout + config.electionJitter) := by
  have sameConfig := (lifetime_config config storage start calls).1
  rw [lt_tick_nextDeadline_iff _ now (sameConfig.symm ▸ beats)
    (sameConfig.symm ▸ waits)]
  constructor
  · intro early reading elected
    have deadline := elected.deadline
    exact (early deadline.1).trans_eq deadline.2
  · intro early leading
    obtain ⟨reading, elected⟩ := exists_electedAt leading
    rw [elected.deadline.2]
    exact early reading elected

/-- The election of node 1. -/
def firstElection : List Call :=
  [.tick 150, .rpc 2 (.requestVoteResp 1 true) 160]

/-- The theorem applies to a leader right after its election. -/
theorem tick_deadline_in_future_elected :
    200 < (((lifetime (.cfg 1 [1, 2, 3]) MemoryStorage.new 0).run
        firstElection).tick 200).2.nextDeadline ↔
      ∀ reading, ElectedAt (.cfg 1 [1, 2, 3]) MemoryStorage.new 0 firstElection
        reading → 200 < reading + (150 + 0) :=
  tick_deadline_in_future (.cfg 1 [1, 2, 3]) MemoryStorage.new 0 firstElection
    200 (by decide) (by decide)

/-- The tick of a leader returns a deadline that has passed once its own
election is an election delay ago. -/
theorem tick_deadline_passed :
    ¬ ∀ (config : RaftConfig) (storage : MemoryStorage) (start : Nat)
        (calls : List Call) (now : Nat),
      0 < config.heartbeatInterval →
      0 < config.electionTimeout + config.electionJitter →
      System.Forward Call.reading start calls →
      (System.clock Call.reading start).run calls ≤ now →
      now < (((lifetime config storage start).run calls).tick
        now).2.nextDeadline := by
  intro ahead
  have future := ahead (.cfg 1 [1, 2, 3]) .new 0 firstElection 310 (by decide)
    (by decide) (by decide) (by decide)
  revert future
  decide +kernel

/-! ## Candidacies -/

/-- A node that the call finds leading, or that starts an election, grants a
vote or hears from a leader of its term or a later one in it, is not to
campaign for a while. -/
def DefersElection (self : RaftEngine S) (call : Call) : Prop :=
  self.role = .leader ∨
    (∃ term, .becomeCandidate term ∈ (self.call call).2) ∨
    (∃ target term,
      .send target (.requestVoteResp term true) ∈ (self.call call).2) ∨
    ∃ sender term leaderId prevLogIndex prevLogTerm entries leaderCommit now,
      call = .rpc sender (.appendEntries term leaderId prevLogIndex prevLogTerm
        entries leaderCommit) now ∧
      self.currentTerm ≤ term

/-- Every election of a run starts an election delay after the node was created
and after everything that defers an election, and messages of stale terms do
not move the deadline. -/
structure NoPrematureCandidacy
    (config : RaftConfig)
    (storage : S)
    (start : Nat)
    (calls : List Call) : Prop where
  created : ∀ past now term, past ++ [.tick now] <+: calls →
    .becomeCandidate term ∈
      (((lifetime config storage start).run past).call (.tick now)).2 →
    start + (config.electionTimeout + config.electionJitter) ≤ now
  deferred : ∀ past now term, past ++ [.tick now] <+: calls →
    .becomeCandidate term ∈
      (((lifetime config storage start).run past).call (.tick now)).2 →
    ∀ earlier call reading, earlier ++ [call] <+: past →
      call.reading = some reading →
      ((lifetime config storage start).run earlier).DefersElection call →
      reading + (config.electionTimeout + config.electionJitter) ≤ now
  stale : ∀ past sender msg now, past ++ [.rpc sender msg now] <+: calls →
    msg.term < ((lifetime config storage start).run past).currentTerm →
    ((lifetime config storage start).run
        (past ++ [.rpc sender msg now])).electionDeadline =
      ((lifetime config storage start).run past).electionDeadline

/-- A leader that a call deposes without a restart of its timer was elected at
the same reading. -/
def DeposedAtElection (engine : RaftEngine S) (call : Call) : Prop :=
  engine.role = .leader → engine.Deposes call →
    ∀ now ∈ call.reading,
      now + engine.config.electionDelay ≤ engine.electionDeadline

instance (engine : RaftEngine S) (call : Call) :
    Decidable (engine.DeposedAtElection call) :=
  inferInstanceAs (Decidable (_ → _ → ∀ now ∈ call.reading, _ ≤ _))

omit [LawfulStorage S] in
/-- A message of a stale term leaves the engine as it is. -/
theorem call_stale
    {self : RaftEngine S}
    (sender : NodeId)
    {msg : RaftMessage}
    (now : Nat)
    (stale : msg.term < self.currentTerm) :
    (self.call (.rpc sender msg now)).1 = self := by
  cases msg with
  | requestVote term =>
      simp only [RaftMessage.term] at stale
      simp [RaftEngine.call, handleRpc, handleRequestVote, stale]
  | requestVoteResp term =>
      simp only [RaftMessage.term] at stale
      simp [RaftEngine.call, handleRpc, handleRequestVoteResp, stale]
  | appendEntries term =>
      simp only [RaftMessage.term] at stale
      simp [RaftEngine.call, handleRpc, handleAppendEntries, stale]
  | appendEntriesResp term =>
      simp only [RaftMessage.term] at stale
      simp [RaftEngine.call, handleRpc, handleAppendEntriesResp, stale.not_gt,
        stale.ne]
  | installSnapshot => rfl
  | installSnapshotResp => rfl

/-- An AppendEntries that is not stale restarts the timer, accepted or not. -/
theorem call_append_deadline
    {self : RaftEngine S}
    (sender : NodeId)
    {term : Nat}
    (leaderId : NodeId)
    (prevLogIndex prevLogTerm : Nat)
    (entries : List LogEntry)
    (leaderCommit now : Nat)
    (recent : self.currentTerm ≤ term) :
    (self.call (.rpc sender (.appendEntries term leaderId prevLogIndex
        prevLogTerm entries leaderCommit) now)).1.electionDeadline =
      now + self.config.electionDelay := by
  have followed := self.follow_deadline term leaderId now
  simp only [RaftEngine.call, handleRpc, self.handleAppendEntries_of_recent
    sender leaderId prevLogIndex prevLogTerm entries leaderCommit now recent]
  split_ifs
  · rw [advanceCommitAndApply_eq, storeEntries_eq]
    exact followed
  · exact followed

/-- A call that defers an election of a node that does not lead restarts its
timer. -/
theorem restarts_of_defers
    {self : RaftEngine S}
    {call : Call}
    {reading : Nat}
    (reads : call.reading = some reading)
    (waiting : self.role ≠ .leader)
    (defers : self.DefersElection call) :
    (self.call call).1.electionDeadline =
      reading + self.config.electionDelay := by
  rcases defers with leading | campaigns | ⟨target, term, granted⟩ |
    ⟨sender, term, leaderId, prevLogIndex, prevLogTerm, entries, leaderCommit,
      now, rfl, recent⟩
  · contradiction
  · cases call with
    | tick now =>
        obtain rfl := Option.some.inj reads
        rw [call_of_campaigns now (campaigns_iff.mpr campaigns)]
        exact resetElectionDeadline_deadline _ now
    | propose => contradiction
    | rpc => exact (campaigns_iff.mpr campaigns).elim
    | rpcFailure => contradiction
  · cases (self.call_outcome call).emits granted with
    | appendRequest _ _ prev len _ built =>
        obtain ⟨_, _, _, _, shape⟩ := buildAppendEntries_some _ built
        contradiction
    | voteReply sender term candidateId lastLogIndex lastLogTerm now _ asked
        recorded =>
        subst asked
        obtain rfl := Option.some.inj reads
        rw [(recorded rfl).2.2]
        exact self.recordVote_deadline term term candidateId now
  · obtain rfl := Option.some.inj reads
    exact call_append_deadline sender leaderId prevLogIndex prevLogTerm entries
      leaderCommit now recent

variable (config : RaftConfig) (storage : S) (start : Nat)

/-- The election deadline of an engine is a timer. -/
theorem electionTimer :
    (lifetime config storage start).Timer Call.reading start
      config.electionDelay electionDeadline where
  init := Nat.add_assoc _ _ _
  step := by
    intro past call
    have moved := (call_timing_concat config storage start past call).deadline_cases
    rw [(lifetime_config config storage start past).1] at moved
    exact moved

/-- What defers an election of a run defers it by the election delay, unless it
is a leadership that a call ends without a restart of the timer. -/
theorem deadline_of_defers
    {calls : List Call}
    (forward : System.Forward Call.reading start calls)
    (armed : (lifetime config storage start).Along DeposedAtElection calls)
    (waiting : ((lifetime config storage start).run calls).role ≠ .leader)
    {earlier : List Call}
    {call : Call}
    {reading : Nat}
    (isPast : earlier ++ [call] <+: calls)
    (reads : call.reading = some reading)
    (defers : ((lifetime config storage start).run earlier).DefersElection call) :
    reading + config.electionDelay ≤
      ((lifetime config storage start).run calls).electionDeadline := by
  have timer := electionTimer config storage start
  have configs := fun past => (lifetime_config config storage start past).1
  -- A leadership ends with a restart, or with the timer of its own election.
  have released : ∀ past event, past ++ [event] <+: calls →
      ((lifetime config storage start).run past).role = .leader →
      ¬ ((lifetime config storage start).run (past ++ [event])).role = .leader →
      ∃ now, event.reading = some now ∧ now + config.electionDelay ≤
        ((lifetime config storage start).run
          (past ++ [event])).electionDeadline := by
    intro past event isPart led ended
    obtain ⟨now, readsNow, restarted | ⟨deposes, sameDeadline⟩⟩ :=
      (call_timing_concat config storage start past event).deadline_of_released led ended
    · rw [restarted, configs]
      exact ⟨now, readsNow, le_rfl⟩
    · have early := armed past event isPart led deposes now readsNow
      rw [configs] at early
      rw [sameDeadline]
      exact ⟨now, readsNow, early⟩
  by_cases led : ((lifetime config storage start).run earlier).role = .leader
  · by_cases leads :
        ((lifetime config storage start).run (earlier ++ [call])).role = .leader
    · rcases timer.held_or_le (fun engine => engine.role = .leader)
        forward released isPast leads with holds | ahead
      · contradiction
      · rwa [System.run_concat, System.clock_step_of_reading reads] at ahead
    · obtain ⟨now, readsNow, ahead⟩ := released earlier call isPast led leads
      obtain rfl := Option.some.inj (reads.symm.trans readsNow)
      exact ahead.trans (timer.mono forward isPast)
  · have restarted := restarts_of_defers reads led defers
    rw [configs] at restarted
    rw [← restarted]
    have moved := timer.mono forward isPast
    rwa [System.run_concat] at moved

/-- In every run in which no leader is deposed, by a refused vote request or a
reply of a later term, at a later reading than its own election, no election
starts within an election delay of anything that defers one. -/
theorem no_premature_candidacy
    (calls : List Call)
    (forward : System.Forward Call.reading start calls)
    (armed : (lifetime config storage start).Along DeposedAtElection calls) :
    NoPrematureCandidacy config storage start calls where
  created := by
    intro past now term isPast announced
    have campaigns := campaigns_iff.mpr ⟨term, announced⟩
    have before := forward.of_isPrefix ((List.prefix_append _ _).trans isPast)
    exact ((electionTimer config storage start).start_le before).trans
      campaigns.2
  deferred := by
    intro past now term isPast announced earlier call reading isEarlier reads
      defers
    have campaigns := campaigns_iff.mpr ⟨term, announced⟩
    have isPart := (List.prefix_append past [.tick now]).trans isPast
    exact (deadline_of_defers config storage start (forward.of_isPrefix isPart)
      (armed.of_isPrefix isPart) campaigns.1 isEarlier reads defers).trans
        campaigns.2
  stale := by
    intro past sender msg now _ stale
    rw [System.run_concat]
    exact congrArg electionDeadline (call_stale sender now stale)

end

/-- Node 1 is elected, is deposed by a later leader, and campaigns again. -/
def deposedByLeader : List Call :=
  firstElection ++ [.tick 350, .rpc 3 (.appendEntries 2 3 0 0 [] 0) 400,
    .tick 550]

/-- The theorem applies to a leader that is deposed by a later leader. -/
theorem no_premature_candidacy_later_leader :
    NoPrematureCandidacy (.cfg 1 [1, 2, 3]) MemoryStorage.new 0
      deposedByLeader :=
  no_premature_candidacy (.cfg 1 [1, 2, 3]) MemoryStorage.new 0 deposedByLeader
    (by decide) (by decide +kernel)

/-- Node 1 is elected, is deposed by a reject of a later term, and campaigns at
the next tick. -/
def deposedByReject : List Call :=
  firstElection ++ [.tick 350, .rpc 3 (.appendEntriesResp 5 false 0) 400]

/-- A leader that a reject deposes campaigns at once. -/
theorem deposed_leader_campaigns :
    ¬ ∀ (config : RaftConfig) (storage : MemoryStorage) (start : Nat)
        (calls : List Call),
      System.Forward Call.reading start calls →
        NoPrematureCandidacy config storage start calls := by
  intro never
  have waits := (never (.cfg 1 [1, 2, 3]) .new 0 (deposedByReject ++ [.tick 401])
    (by decide)).deferred deposedByReject 401 6 (List.prefix_refl _)
    (by decide +kernel) (firstElection ++ [.tick 350])
    (.rpc 3 (.appendEntriesResp 5 false 0) 400) 400 (by decide) rfl
    (.inl (by decide +kernel))
  revert waits
  decide

end RaftEngine

end Libp2pRaft
