import Libp2pRaft.Behaviour.ApplyStream
import Libp2pRaft.Raft.Deadlines

/-!
# What the role events say

The behaviour reports every `Become*` action of its engine as a `RoleChanged`
event.  Two branches assign a role or a leader without one: a vote granted in
the current term, and an AppendEntries of the current term that tells a follower
of another leader.
-/

namespace Libp2pRaft

open Consensus TransitionSystem

/-- Role, term and leader as an application knows them. -/
@[ext] structure RoleReport where
  role : Role
  term : Nat
  leader : Option NodeId
  deriving DecidableEq, Repr

/-- An action that is not about roles. -/
def Action.Plain : Action → Prop
  | .becomeLeader _ | .becomeFollower .. | .becomeCandidate _ => False
  | _ => True

/-- The role, term and leader an event reports. -/
def Event.roleReport : Event → Option RoleReport
  | .roleChanged role term leader => some ⟨role, term, leader⟩
  | _ => none

/-- What the actions of a node report about roles. -/
def roleReports (nodeId : NodeId) (actions : List Action) : List RoleReport :=
  actions.filterMap fun action => (action.event nodeId).bind Event.roleReport

namespace RoleReport

/-- What an application knows that heard the events of some actions. -/
def replay
    (nodeId : NodeId)
    (known : RoleReport)
    (actions : List Action) : RoleReport :=
  (roleReports nodeId actions).getLast?.getD known

variable {nodeId : NodeId} {known : RoleReport}

theorem replay_append (first second : List Action) :
    known.replay nodeId (first ++ second) =
      (known.replay nodeId first).replay nodeId second := by
  simp only [replay, roleReports, List.filterMap_append, List.getLast?_append]
  cases (second.filterMap fun action =>
      (action.event nodeId).bind Event.roleReport).getLast? with
  | none => rfl
  | some report => rfl

theorem replay_plain
    {actions : List Action}
    (plain : ∀ action ∈ actions, action.Plain) :
    known.replay nodeId actions = known := by
  have silent : roleReports nodeId actions = [] := by
    apply List.filterMap_eq_nil_iff.mpr
    intro action inside
    have aside := plain action inside
    cases action with
    | becomeLeader => contradiction
    | becomeFollower => contradiction
    | becomeCandidate => contradiction
    | send => rfl
    | broadcast => rfl
    | apply => rfl
    | snapshotInstallComplete => rfl
  rw [replay, silent]
  rfl

/-- Actions that are not about roles may follow. -/
theorem replay_append_plain
    (first : List Action)
    {second : List Action}
    (plain : ∀ action ∈ second, action.Plain) :
    known.replay nodeId (first ++ second) = known.replay nodeId first := by
  rw [replay_append, replay_plain plain]

end RoleReport

namespace RaftEngine

/-- Role, term and leader of an engine. -/
def roleReport (self : MemoryEngine) : RoleReport where
  role := self.role
  term := self.currentTerm
  leader := self.leader

/-- The call changes role or leader without an action that says so: it grants a
vote in the current term while the engine is no follower or knows a leader, or
it tells a follower of another leader of the current term. -/
def ChangesSilently (self : MemoryEngine) : Call → Prop
  | .rpc _ (.requestVote term candidateId lastLogIndex lastLogTerm) _ =>
      term = self.currentTerm ∧
        self.Grants term candidateId lastLogIndex lastLogTerm ∧
        (self.role ≠ .follower ∨ self.leader ≠ none)
  | .rpc _ (.appendEntries term leaderId _ _ _ _) _ =>
      term = self.currentTerm ∧ self.role = .follower ∧
        self.leader ≠ some leaderId
  | _ => False

instance (self : MemoryEngine) (call : Call) :
    Decidable (self.ChangesSilently call) :=
  match call with
  | .rpc _ (.requestVote ..) _ => inferInstanceAs (Decidable (_ ∧ _ ∧ (_ ∨ _)))
  | .rpc _ (.appendEntries ..) _ => inferInstanceAs (Decidable (_ ∧ _ ∧ _))
  | .rpc _ (.requestVoteResp ..) _ | .rpc _ (.appendEntriesResp ..) _
  | .rpc _ (.installSnapshot ..) _ | .rpc _ (.installSnapshotResp _) _
  | .tick _ | .propose _ | .rpcFailure .. => .isFalse id

variable {self : MemoryEngine} {nodeId : NodeId}

theorem plain_send
    {target : NodeId}
    {msg : RaftMessage} :
    ∀ action ∈ [Action.send target msg], action.Plain := by
  simp [Action.Plain]

theorem replicateActions_plain :
    ∀ action ∈ self.replicateActions.2, action.Plain := by
  intro action emitted
  obtain ⟨target, msg, _, _, rfl, -⟩ := replicateActions_actions emitted
  trivial

theorem sendAppendEntriesTo_plain (target : NodeId) :
    ∀ action ∈ (self.sendAppendEntriesTo target).2.toList, action.Plain := by
  intro action emitted
  obtain ⟨msg, _, _, rfl, -⟩ := sendAppendEntriesTo_actions emitted
  trivial

theorem advanceCommitAndApply_plain (leaderCommit lastNew : Nat) :
    ∀ action ∈ (self.advanceCommitAndApply leaderCommit lastNew).2,
      action.Plain := by
  intro action emitted
  obtain ⟨entries, rfl, -⟩ := advanceCommitAndApply_actions emitted
  trivial

theorem handleAppendSuccess_plain
    (sender : NodeId)
    (reqPrev reqLen : Nat) :
    ∀ action ∈ (self.handleAppendSuccess sender reqPrev reqLen).2,
      action.Plain := by
  have committed : ∀ action ∈
      (self.recordMatch sender (reqPrev + reqLen)).maybeCommit.2,
        action.Plain := by
    intro action emitted
    obtain ⟨entries, rfl, -⟩ := maybeCommit_actions emitted
    trivial
  rcases self.handleAppendSuccess_cases sender reqPrev reqLen with done | sent
  · rw [done]
    exact committed
  · rw [sent]
    intro action emitted
    rcases List.mem_append.mp emitted with first | second
    · exact committed action first
    · exact sendAppendEntriesTo_plain sender action second

theorem handleAppendReject_plain
    (sender : NodeId)
    (reqPrev : Nat) :
    ∀ action ∈ (self.handleAppendReject sender reqPrev).2, action.Plain := by
  rcases self.handleAppendReject_cases sender reqPrev with ignored | ⟨next, sent⟩
  · rw [ignored]
    intro action emitted
    contradiction
  · rw [sent]
    exact sendAppendEntriesTo_plain sender

theorem roleReport_becomeFollower
    {term : Nat}
    (leader : Option NodeId)
    (recent : self.currentTerm ≤ term) :
    (self.becomeFollower term leader).1.roleReport =
      ⟨.follower, term, leader⟩ := by
  have entered : (self.becomeFollower term leader).1.currentTerm = term := by
    rw [← view_term, view_becomeFollower]
    split_ifs with newer
    · rfl
    · show self.currentTerm = term
      omega
  unfold roleReport
  rw [entered, becomeFollower_eq]

theorem roleReport_storeEntries
    (prevLogIndex : Nat)
    (entries : List LogEntry) :
    (self.storeEntries prevLogIndex entries).roleReport = self.roleReport := by
  unfold roleReport
  rw [currentTerm_storeEntries, storeEntries_eq]

/-- Entering a later term is announced. -/
theorem replay_enterTerm
    {term : Nat}
    (recent : self.currentTerm ≤ term) :
    self.roleReport.replay nodeId (self.enterTerm term).2 =
      (self.enterTerm term).1.roleReport := by
  unfold enterTerm
  split_ifs
  · rw [roleReport_becomeFollower none recent]
    rfl
  · rfl

/-- Following a leader is announced, unless a follower hears of another leader
of its term. -/
theorem replay_follow
    {term : Nat}
    {leaderId : NodeId}
    (now : Nat)
    (recent : self.currentTerm ≤ term)
    (announced : ¬ (term = self.currentTerm ∧ self.role = .follower ∧
      self.leader ≠ some leaderId)) :
    self.roleReport.replay nodeId (self.follow term leaderId now).2 =
      (self.follow term leaderId now).1.roleReport := by
  have stepped := roleReport_becomeFollower (some leaderId) recent
  unfold follow
  split_ifs with newer active
  · exact stepped.symm
  · exact stepped.symm
  · have same : self.leader = some leaderId := by
      by_contra other
      exact announced ⟨by omega, not_not.mp active, other⟩
    show self.roleReport = { self.roleReport with leader := some leaderId }
    rw [← same]
    rfl

theorem roleReport_recordVote
    {term : Nat}
    (candidateId : NodeId)
    (now : Nat)
    (recent : self.currentTerm ≤ term) :
    ((self.enterTerm term).1.recordVote term candidateId now).roleReport =
      ⟨.follower, term, none⟩ := by
  have voted : ((self.enterTerm term).1.recordVote term candidateId
      now).currentTerm = term := by
    rw [← view_term, view_recordVote]
    show max term (self.enterTerm term).1.currentTerm = term
    rw [← view_term, view_enterTerm]
    split_ifs with newer
    · exact max_self term
    · exact max_eq_left recent
  unfold roleReport
  rw [voted]
  rfl

/-- A granted vote is announced where it changes the role, the leader or the
term. -/
theorem replay_recordVote
    {term : Nat}
    (candidateId : NodeId)
    (now : Nat)
    (recent : self.currentTerm ≤ term)
    (announced : term = self.currentTerm →
      self.role = .follower ∧ self.leader = none) :
    self.roleReport.replay nodeId (self.enterTerm term).2 =
      ((self.enterTerm term).1.recordVote term candidateId now).roleReport := by
  rw [roleReport_recordVote candidateId now recent]
  unfold enterTerm
  split_ifs with newer
  · rw [becomeFollower_eq]
    rfl
  · have same : term = self.currentTerm := by omega
    obtain ⟨following, noLeader⟩ := announced same
    show self.roleReport = _
    unfold roleReport
    rw [following, noLeader, same]

/-- What a call announces is what it does to role, term and leader, except when
it changes them silently. -/
theorem replay_call
    {call : Call}
    (announced : ¬ self.ChangesSilently call) :
    self.roleReport.replay self.config.nodeId (self.call call).2 =
      (self.call call).1.roleReport := by
  have outcome := self.call_outcome call
  generalize self.call call = result at outcome
  cases outcome with
  | ignored => rfl
  | campaigned => rfl
  | heartbeat =>
      obtain ⟨_, _, frame⟩ := self.replicateActions_frame
      rw [RoleReport.replay_plain replicateActions_plain]
      rw [frame]
      rfl
  | proposed data =>
      have sameTerm : (self.appendCommand data).currentTerm = self.currentTerm :=
        congrArg View.term (self.view_appendCommand data)
      obtain ⟨_, _, frame⟩ := (self.appendCommand data).replicateActions_frame
      rw [RoleReport.replay_plain replicateActions_plain]
      rw [frame]
      exact congrArg (RoleReport.mk self.role · self.leader) sameTerm.symm
  | failed => rfl
  | voteStale => rfl
  | voteRefused sender term candidateId lastLogIndex lastLogTerm now recent =>
      rw [RoleReport.replay_append_plain _ plain_send]
      exact replay_enterTerm recent
  | voteGranted sender term candidateId lastLogIndex lastLogTerm now recent
      grants =>
      rw [RoleReport.replay_append_plain _ plain_send]
      apply replay_recordVote candidateId now recent
      intro same
      by_contra other
      exact announced ⟨same, grants, not_and_or.mp other⟩
  | deposed sender msg now term reply newer =>
      rw [roleReport_becomeFollower none newer.le, becomeFollower_eq]
      rfl
  | counted => rfl
  | elected => rfl
  | appendStale => rfl
  | appendRefused sender term leaderId prevLogIndex prevLogTerm entries
      leaderCommit now recent =>
      rw [RoleReport.replay_append_plain _ plain_send]
      exact replay_follow now recent announced
  | appendAccepted sender term leaderId prevLogIndex prevLogTerm entries
      leaderCommit now recent agreed stored storedEq =>
      rw [RoleReport.replay_append_plain _ plain_send,
        RoleReport.replay_append_plain _ (advanceCommitAndApply_plain _ _),
        replay_follow now recent announced, advanceCommitAndApply_eq, storedEq]
      exact (roleReport_storeEntries prevLogIndex entries).symm
  | matched sender matchIndex now reqPrev reqLen =>
      obtain ⟨_, _, _, _, _, _, frame⟩ := handleAppendSuccess_frame
        { self with aeInflight := self.aeInflight.erase sender } sender reqPrev
        reqLen
      rw [RoleReport.replay_plain (handleAppendSuccess_plain _ _ _), frame]
      rfl
  | unmatched sender matchIndex now reqPrev reqLen =>
      obtain ⟨_, _, _, frame⟩ := handleAppendReject_frame
        { self with aeInflight := self.aeInflight.erase sender } sender reqPrev
      rw [RoleReport.replay_plain (handleAppendReject_plain _ _), frame]
      rfl

/-- A silent change leaves an application with another role or leader. -/
theorem ChangesSilently.replay_ne
    {call : Call}
    (silent : self.ChangesSilently call) :
    self.roleReport.replay nodeId (self.call call).2 ≠
      (self.call call).1.roleReport := by
  cases call with
  | tick => contradiction
  | propose => contradiction
  | rpcFailure => contradiction
  | rpc sender msg now =>
      cases msg with
      | requestVote term candidateId lastLogIndex lastLogTerm =>
          obtain ⟨rfl, grants, differs⟩ := silent
          have entered : self.enterTerm self.currentTerm = (self, []) :=
            if_neg (Nat.lt_irrefl _)
          rw [self.call_of_grants sender now le_rfl grants,
            roleReport_recordVote candidateId now le_rfl, entered,
            List.nil_append, RoleReport.replay_plain plain_send]
          intro same
          rcases differs with active | informed
          · exact active (congrArg RoleReport.role same)
          · exact informed (congrArg RoleReport.leader same)
      | appendEntries term leaderId prevLogIndex prevLogTerm entries
          leaderCommit =>
          obtain ⟨rfl, following, other⟩ := silent
          have followed : self.follow self.currentTerm leaderId now =
              ({ self with leader := some leaderId }.resetElectionDeadline now,
                []) := by
            simp [follow, following]
          have told : ∀ actions report, (∀ action ∈ actions, action.Plain) →
              report.leader = some leaderId →
              self.roleReport.replay nodeId actions ≠ report := by
            intro actions report plain leads same
            rw [RoleReport.replay_plain plain] at same
            exact other ((congrArg RoleReport.leader same).trans leads)
          simp only [RaftEngine.call, handleRpc,
            self.handleAppendEntries_of_recent sender leaderId prevLogIndex
              prevLogTerm entries leaderCommit now le_rfl, followed]
          split_ifs
          · apply told
            · intro action inside
              rcases List.mem_append.mp inside with applied | sent
              · exact advanceCommitAndApply_plain _ _ action applied
              · exact plain_send action sent
            · rw [advanceCommitAndApply_eq, storeEntries_eq]
              rfl
          · exact told _ _ plain_send rfl
      | requestVoteResp => contradiction
      | appendEntriesResp => contradiction
      | installSnapshot => contradiction
      | installSnapshotResp => contradiction

/-- After every call of a run, the last role, term and leader announced are the
ones of the engine. -/
def RolesTold
    (config : RaftConfig)
    (storage : MemoryStorage)
    (now : Nat)
    (calls : List Call) : Prop :=
  ∀ past, past <+: calls →
    (⟨.follower, storage.hardState.currentTerm, none⟩ : RoleReport).replay
        config.nodeId ((recording config storage now).run past).2 =
      ((recording config storage now).run past).1.roleReport

variable (config : RaftConfig) (storage : MemoryStorage) (now : Nat)

theorem recording_config (calls : List Call) :
    ((recording config storage now).run calls).1.config = config := by
  refine (recording config storage now).invariant
    (motive := fun state => state.1.config = config) rfl ?_ calls
  intro state call same
  exact (state.1.call_outcome call).config_eq.1.trans same

/-- The role events of a run tell the role, the term and the leader after every
call exactly when no call changes them silently; and the behaviour reports what
the actions of its engine announce, in order. -/
theorem role_events_truthful (calls : List Call) :
    (RolesTold config storage now calls ↔
      (recording config storage now).Along
        (fun state call => ¬ state.1.ChangesSilently call) calls) ∧
    ∀ (behaviour : RaftBehaviour MemoryStorage) (actions : List Action)
      (inboundFrom : Option (NodeId × Nat)) (later : Nat),
      reported Event.roleReport
          (behaviour.executeActions actions inboundFrom later).pendingEvents =
        reported Event.roleReport behaviour.pendingEvents ++
          roleReports behaviour.engine.nodeId actions := by
  refine ⟨⟨?_, ?_⟩, fun behaviour actions inboundFrom later =>
    behaviour.executeActions_reported (fun _ _ => rfl) actions inboundFrom
      later⟩
  · intro told past call isPast silent
    have before := told past ((List.prefix_append _ _).trans isPast)
    have after := told _ isPast
    have sameConfig := recording_config config storage now past
    rw [System.run_concat] at after
    simp only [recording, RoleReport.replay_append] at after before
    rw [before] at after
    exact silent.replay_ne after
  · intro spoken past isPast
    have along := spoken.of_isPrefix isPast
    clear isPast
    induction past using List.reverseRecOn with
    | nil => rfl
    | append_singleton past call inductionHypothesis =>
        rw [System.along_concat] at along
        have before := inductionHypothesis along.1
        have step := replay_call along.2
        rw [recording_config config storage now past] at step
        rw [System.run_concat]
        simp only [recording, RoleReport.replay_append] at before step ⊢
        rw [before, step]

/-- Node 1 votes for node 2 and hears its first heartbeat. -/
def firstHeartbeat : List Call :=
  [.rpc 2 (.requestVote 1 2 0 0) 151, .rpc 2 (.appendEntries 1 2 0 0 [] 0) 203]

/-- Node 2 asks for votes, counts the one of node 1 and sends it a heartbeat;
node 1 knows its leader from then on and announces none. -/
theorem first_heartbeat_unannounced :
    (.broadcast (.requestVote 1 2 0 0) ∈
        ((lifetime (.cfg 2 [1, 2, 3]) MemoryStorage.new 0).init.call
          (.tick 150)).2 ∧
      .send 2 (.requestVoteResp 1 true) ∈
        ((lifetime (.cfg 1 [1, 2, 3]) MemoryStorage.new 0).init.call
          (.rpc 2 (.requestVote 1 2 0 0) 151)).2 ∧
      .send 1 (.appendEntries 1 2 0 0 [] 0) ∈
        (((lifetime (.cfg 2 [1, 2, 3]) MemoryStorage.new 0).run
          [.tick 150, .rpc 1 (.requestVoteResp 1 true) 152]).call
            (.tick 202)).2) ∧
      ¬ RolesTold (.cfg 1 [1, 2, 3]) .new 0 firstHeartbeat := by
  refine ⟨by decide +kernel, fun told => ?_⟩
  have known := told firstHeartbeat (List.prefix_refl _)
  revert known
  decide +kernel

end RaftEngine

end Libp2pRaft
