import Libp2pRaft.Raft.CommitIndex
import Libp2pRaft.Raft.Simulation

/-!
# The order of iteration

The voters are in a hash set, which is iterated in an order of its own choice.
Engines that iterate the same voters in different orders, over maps with the same
values, answer call by call with the same actions; only the requests of one
round of replication, each to a peer of its own, may come in another order.
-/

namespace Libp2pRaft

open TransitionSystem

section Maps

variable {κ β : Type} [DecidableEq κ] {first second : HashMap κ β}

/-- Two maps have the same value for every key. -/
def SameMap (first second : HashMap κ β) : Prop :=
  ∀ key, second.lookup key = first.lookup key

theorem SameMap.insert
    (same : SameMap first second)
    (key : κ)
    (value : β) :
    SameMap (first.insert key value) (second.insert key value) := by
  intro other
  by_cases differ : other = key
  · subst differ
    rw [AList.lookup_insert, AList.lookup_insert]
  · rw [AList.lookup_insert_ne differ, AList.lookup_insert_ne differ]
    exact same other

/-- Insertions under different keys commute. -/
theorem sameMap_insert_comm
    {left right : κ}
    (differ : left ≠ right)
    (leftValue rightValue : β)
    (map : HashMap κ β) :
    SameMap ((map.insert left leftValue).insert right rightValue)
      ((map.insert right rightValue).insert left leftValue) := by
  intro key
  by_cases isLeft : key = left
  · subst isLeft
    rw [AList.lookup_insert, AList.lookup_insert_ne differ, AList.lookup_insert]
  · by_cases isRight : key = right
    · subst isRight
      rw [AList.lookup_insert_ne isLeft, AList.lookup_insert, AList.lookup_insert]
    · rw [AList.lookup_insert_ne isLeft, AList.lookup_insert_ne isRight,
        AList.lookup_insert_ne isRight, AList.lookup_insert_ne isLeft]

end Maps

/-- A request to append entries. -/
def RaftMessage.IsAppendEntries : RaftMessage → Prop
  | .appendEntries .. => True
  | .requestVote .. | .requestVoteResp .. | .appendEntriesResp ..
  | .installSnapshot .. | .installSnapshotResp .. => False

/-- Actions are the same, or are AppendEntries to different peers in another
order. -/
def Rearranged (first second : List Action) : Prop :=
  second = first ∨
    second.Perm first ∧ ∃ requests : List (NodeId × RaftMessage),
      (requests.map Prod.fst).Nodup ∧
      (∀ request ∈ requests, request.2.IsAppendEntries) ∧
      first = requests.map fun request => .send request.1 request.2

namespace RaftEngine

variable {S : Type}

/-- Engines that differ at most in the order in which they iterate the voters
and in how their maps are stored. -/
structure Reordered (first second : RaftEngine S) : Prop where
  config : second.config = { first.config with voters := second.config.voters }
  storage : second.storage = first.storage
  role : second.role = first.role
  leader : second.leader = first.leader
  votes : second.votes = first.votes
  electionDeadline : second.electionDeadline = first.electionDeadline
  heartbeatDeadline : second.heartbeatDeadline = first.heartbeatDeadline
  membership : second.membership.voters.Perm first.membership.voters
  nextIndex : SameMap first.nextIndex second.nextIndex
  matchIndex : SameMap first.matchIndex second.matchIndex
  lastAe : SameMap first.lastAe second.lastAe
  aeInflight : second.aeInflight = first.aeInflight
  commitIndex : second.commitIndex = first.commitIndex
  lastApplied : second.lastApplied = first.lastApplied

/-- Reordered engines with the same answer. -/
def Matches
    {α : Type}
    (first second : RaftEngine S × α) : Prop :=
  Reordered first.1 second.1 ∧ second.2 = first.2

namespace Reordered

variable {first middle second : RaftEngine S}

theorem refl (self : RaftEngine S) : Reordered self self where
  config := rfl
  storage := rfl
  role := rfl
  leader := rfl
  votes := rfl
  electionDeadline := rfl
  heartbeatDeadline := rfl
  membership := .refl _
  nextIndex _ := rfl
  matchIndex _ := rfl
  lastAe _ := rfl
  aeInflight := rfl
  commitIndex := rfl
  lastApplied := rfl

theorem trans
    (left : Reordered first middle)
    (right : Reordered middle second) :
    Reordered first second where
  config := by
    rw [right.config, left.config]
  storage := right.storage.trans left.storage
  role := right.role.trans left.role
  leader := right.leader.trans left.leader
  votes := right.votes.trans left.votes
  electionDeadline := right.electionDeadline.trans left.electionDeadline
  heartbeatDeadline := right.heartbeatDeadline.trans left.heartbeatDeadline
  membership := right.membership.trans left.membership
  nextIndex key := (right.nextIndex key).trans (left.nextIndex key)
  matchIndex key := (right.matchIndex key).trans (left.matchIndex key)
  lastAe key := (right.lastAe key).trans (left.lastAe key)
  aeInflight := right.aeInflight.trans left.aeInflight
  commitIndex := right.commitIndex.trans left.commitIndex
  lastApplied := right.lastApplied.trans left.lastApplied

section Fields

variable (same : Reordered first second)

include same

theorem nodeId : second.config.nodeId = first.config.nodeId := by
  rw [same.config]

theorem electionTimeout :
    second.config.electionTimeout = first.config.electionTimeout := by
  rw [same.config]

theorem electionJitter :
    second.config.electionJitter = first.config.electionJitter := by
  rw [same.config]

theorem heartbeatInterval :
    second.config.heartbeatInterval = first.config.heartbeatInterval := by
  rw [same.config]

theorem quorum : second.membership.quorum = first.membership.quorum := by
  unfold Membership.quorum
  rw [same.membership.length_eq]

theorem otherVoters : second.otherVoters.Perm first.otherVoters := by
  unfold RaftEngine.otherVoters Membership.otherVoters
  rw [same.nodeId]
  exact same.membership.filter _

theorem nextDeadline : second.nextDeadline = first.nextDeadline := by
  unfold RaftEngine.nextDeadline
  rw [same.role, same.heartbeatDeadline, same.electionDeadline]

theorem resetElectionDeadline (now : Nat) :
    Reordered (first.resetElectionDeadline now)
      (second.resetElectionDeadline now) :=
  { same with
    electionDeadline := by
      show now + second.config.electionTimeout + second.config.electionJitter = _
      rw [same.electionTimeout, same.electionJitter]
      rfl }

end Fields

section

variable [Storage S] (same : Reordered first second)

include same

theorem currentTerm : second.currentTerm = first.currentTerm := by
  unfold RaftEngine.currentTerm
  rw [same.storage]

theorem persist
    (hardState : Option HardState)
    (entries : List LogEntry) :
    Reordered (first.persist hardState entries)
      (second.persist hardState entries) :=
  { same with
    storage := congrArg
      (fun storage => (Storage.persist storage hardState entries).2)
      same.storage }

/-! ## Roles and elections -/

theorem becomeFollower
    (term : Nat)
    (leader : Option NodeId) :
    Matches (first.becomeFollower term leader)
      (second.becomeFollower term leader) := by
  unfold RaftEngine.becomeFollower
  rw [same.currentTerm]
  split_ifs
  · have written := same.persist (some ⟨term, none⟩) []
    exact ⟨{ written with
      role := rfl, leader := rfl, votes := rfl, nextIndex := fun _ => rfl
      matchIndex := fun _ => rfl, lastAe := fun _ => rfl, aeInflight := rfl }, rfl⟩
  · exact ⟨{ same with
      role := rfl, leader := rfl, votes := rfl, nextIndex := fun _ => rfl
      matchIndex := fun _ => rfl, lastAe := fun _ => rfl, aeInflight := rfl }, rfl⟩

theorem becomeLeader (term now : Nat) :
    Matches (first.becomeLeader term now) (second.becomeLeader term now) := by
  have filled : ∀ value : Nat, SameMap
      (first.otherVoters.foldl (fun map voter => map.insert voter value) ∅)
      (second.otherVoters.foldl (fun map voter => map.insert voter value) ∅) := by
    intro value peer
    rw [lookup_fill, lookup_fill]
    simp only [same.otherVoters.mem_iff]
  refine ⟨?_, rfl⟩
  unfold RaftEngine.becomeLeader
  dsimp only
  rw [same.storage]
  apply Reordered.resetElectionDeadline
  exact { same with
    storage := rfl
    role := rfl
    leader := congrArg some same.nodeId
    votes := rfl
    nextIndex := filled _
    matchIndex := filled _
    lastAe := fun _ => rfl
    aeInflight := rfl
    heartbeatDeadline := congrArg (now + ·) same.heartbeatInterval }

theorem startElection (now : Nat) :
    Matches (first.startElection now) (second.startElection now) := by
  have campaigning : Reordered
      { first with
        role := .candidate, leader := none, votes := {first.config.nodeId} }
      { second with
        role := .candidate, leader := none, votes := {second.config.nodeId} } :=
    { same with
      role := rfl, leader := rfl, votes := congrArg singleton same.nodeId }
  have written := (campaigning.persist
    (some ⟨wrappingSucc first.currentTerm, some first.config.nodeId⟩)
      []).resetElectionDeadline now
  unfold RaftEngine.startElection RaftEngine.becomeCandidate
  dsimp only
  rw [same.currentTerm, same.nodeId]
  rw [same.nodeId] at written
  refine ⟨written, ?_⟩
  rw [written.storage, written.nodeId]

/-! ## Sending -/

theorem buildAppendEntries (target : NodeId) :
    second.buildAppendEntries target = first.buildAppendEntries target := by
  unfold RaftEngine.buildAppendEntries
  rw [same.nextIndex target, same.storage, same.currentTerm, same.nodeId,
    same.commitIndex]

theorem sendAppendEntriesTo (target : NodeId) :
    Matches (first.sendAppendEntriesTo target)
      (second.sendAppendEntriesTo target) := by
  unfold RaftEngine.sendAppendEntriesTo
  rw [same.aeInflight, same.buildAppendEntries target]
  split_ifs
  · exact ⟨same, rfl⟩
  · cases first.buildAppendEntries target with
    | none => exact ⟨same, rfl⟩
    | some request =>
        exact ⟨{ same with
          lastAe := same.lastAe.insert target _, aeInflight := rfl }, rfl⟩

omit same in
theorem sendAppendEntriesToAll
    (same : Reordered first second)
    (peers : List NodeId) :
    Matches (first.sendAppendEntriesToAll peers)
      (second.sendAppendEntriesToAll peers) := by
  induction peers generalizing first second with
  | nil => exact ⟨same, rfl⟩
  | cons peer peers inductionHypothesis =>
      obtain ⟨sent, sameAction⟩ := same.sendAppendEntriesTo peer
      obtain ⟨sentOthers, sameActions⟩ := inductionHypothesis sent
      unfold RaftEngine.sendAppendEntriesToAll
      exact ⟨sentOthers, congrArg₂ (Option.toList · ++ ·) sameAction sameActions⟩

end

end Reordered

section

variable [Storage S] (self : RaftEngine S)

/-- What is outstanding has no part in what is built. -/
theorem buildAppendEntries_outstanding
    (lastAe : HashMap NodeId (Nat × Nat))
    (aeInflight : Finset NodeId)
    (target : NodeId) :
    ({ self with
        lastAe := lastAe
        aeInflight := aeInflight } : RaftEngine S).buildAppendEntries target =
      self.buildAppendEntries target := rfl

/-- Requests to different peers do not depend on one another. -/
theorem sendAppendEntriesTo_comm
    {left right : NodeId}
    (differ : left ≠ right) :
    Reordered ((self.sendAppendEntriesTo left).1.sendAppendEntriesTo right).1
        ((self.sendAppendEntriesTo right).1.sendAppendEntriesTo left).1 ∧
      ((self.sendAppendEntriesTo left).1.sendAppendEntriesTo right).2 =
        (self.sendAppendEntriesTo right).2 ∧
      ((self.sendAppendEntriesTo right).1.sendAppendEntriesTo left).2 =
        (self.sendAppendEntriesTo left).2 := by
  unfold sendAppendEntriesTo
  by_cases leftHeld : left ∈ self.aeInflight
  · by_cases rightHeld : right ∈ self.aeInflight
    · simp [leftHeld, rightHeld, Reordered.refl]
    · cases built : self.buildAppendEntries right with
      | none => simp [leftHeld, rightHeld, built, Reordered.refl]
      | some => simp [leftHeld, rightHeld, built, Reordered.refl]
  · cases leftBuilt : self.buildAppendEntries left with
    | none =>
        by_cases rightHeld : right ∈ self.aeInflight
        · simp [leftHeld, rightHeld, leftBuilt, Reordered.refl]
        · cases rightBuilt : self.buildAppendEntries right with
          | none => simp [leftHeld, rightHeld, leftBuilt, rightBuilt, Reordered.refl]
          | some =>
              simp [leftHeld, rightHeld, leftBuilt, rightBuilt, differ,
                buildAppendEntries_outstanding, Reordered.refl]
    | some leftRequest =>
        by_cases rightHeld : right ∈ self.aeInflight
        · simp [leftHeld, rightHeld, leftBuilt, Reordered.refl]
        · cases rightBuilt : self.buildAppendEntries right with
          | none =>
              simp [leftHeld, rightHeld, leftBuilt, rightBuilt, differ.symm,
                buildAppendEntries_outstanding, Reordered.refl]
          | some rightRequest =>
              simp only [leftHeld, rightHeld, leftBuilt, rightBuilt, differ,
                differ.symm, buildAppendEntries_outstanding, Finset.mem_insert,
                or_self, if_false, and_true]
              exact { Reordered.refl self with
                lastAe := sameMap_insert_comm differ _ _ _
                aeInflight := Finset.insert_comm left right self.aeInflight }

/-- A round of replication in another order leaves the same engine and sends the
same requests. -/
theorem sendAppendEntriesToAll_perm
    {peers others : List NodeId}
    (perm : others.Perm peers) :
    Reordered (self.sendAppendEntriesToAll peers).1
        (self.sendAppendEntriesToAll others).1 ∧
      (self.sendAppendEntriesToAll others).2.Perm
        (self.sendAppendEntriesToAll peers).2 := by
  induction perm generalizing self with
  | nil => exact ⟨.refl self, .refl _⟩
  | cons peer _ inductionHypothesis =>
      obtain ⟨sentOthers, sameActions⟩ :=
        inductionHypothesis (self.sendAppendEntriesTo peer).1
      exact ⟨sentOthers, sameActions.append_left _⟩
  | swap left right peers =>
      by_cases same : left = right
      · subst same
        exact ⟨.refl _, .refl _⟩
      · obtain ⟨swapped, first, second⟩ := self.sendAppendEntriesTo_comm same
        obtain ⟨sentOthers, sameActions⟩ := swapped.sendAppendEntriesToAll peers
        refine ⟨sentOthers, ?_⟩
        unfold sendAppendEntriesToAll
        unfold sendAppendEntriesToAll
        dsimp only
        rw [first, second, sameActions, ← List.append_assoc, ← List.append_assoc]
        exact List.perm_append_comm.append_right _
  | trans _ _ early late =>
      obtain ⟨earlySame, earlyActions⟩ := early self
      obtain ⟨lateSame, lateActions⟩ := late self
      exact ⟨lateSame.trans earlySame, earlyActions.trans lateActions⟩

theorem isAppendEntries_of_built
    {target : NodeId}
    {msg : RaftMessage}
    {prev len : Nat}
    (built : self.buildAppendEntries target = some (msg, prev, len)) :
    msg.IsAppendEntries := by
  unfold buildAppendEntries at built
  simp only [Option.bind_eq_bind, Option.bind_eq_some_iff] at built
  obtain ⟨next, -, built⟩ := built
  split_ifs at built
  · simp only [Option.bind_some, Option.bind_eq_some_iff, Option.some.injEq,
      Prod.mk.injEq] at built
    obtain ⟨_, -, rfl, -⟩ := built
    trivial
  · simp only [Option.bind_eq_some_iff, Option.some.injEq, Prod.mk.injEq] at built
    obtain ⟨_, -, _, -, rfl, -⟩ := built
    trivial

/-- A round of replication sends each peer one AppendEntries at most. -/
theorem sendAppendEntriesToAll_requests (peers : List NodeId) :
    ∃ requests : List (NodeId × RaftMessage),
      (requests.map Prod.fst).Sublist peers ∧
      (∀ request ∈ requests, request.2.IsAppendEntries) ∧
      (self.sendAppendEntriesToAll peers).2 =
        requests.map fun request => .send request.1 request.2 := by
  induction peers generalizing self with
  | nil => exact ⟨[], .refl _, fun _ absent => absurd absent List.not_mem_nil, rfl⟩
  | cons peer peers inductionHypothesis =>
      obtain ⟨requests, among, append, sent⟩ :=
        inductionHypothesis (self.sendAppendEntriesTo peer).1
      rcases self.sendAppendEntriesTo_cases peer with
        idle | ⟨msg, prev, len, -, built, applied⟩
      · refine ⟨requests, among.cons peer, append, ?_⟩
        show (self.sendAppendEntriesTo peer).2.toList ++
          ((self.sendAppendEntriesTo peer).1.sendAppendEntriesToAll peers).2 = _
        rw [sent, idle]
        rfl
      · refine ⟨(peer, msg) :: requests, among.cons_cons peer,
          List.forall_mem_cons.mpr ⟨self.isAppendEntries_of_built built, append⟩, ?_⟩
        show (self.sendAppendEntriesTo peer).2.toList ++
          ((self.sendAppendEntriesTo peer).1.sendAppendEntriesToAll peers).2 = _
        rw [sent, applied]
        rfl

end

/-- Reordered engines that ask for the same, but for the order of requests to
different peers. -/
def Agrees (first second : RaftEngine S × List Action) : Prop :=
  Reordered first.1 second.1 ∧ Rearranged first.2 second.2

theorem Matches.agrees
    {first second : RaftEngine S × List Action}
    (matching : Matches first second) :
    Agrees first second :=
  ⟨matching.1, .inl matching.2⟩

namespace Reordered

variable [Storage S] {first second : RaftEngine S} (same : Reordered first second)

include same

theorem replicateActions :
    Agrees first.replicateActions second.replicateActions := by
  obtain ⟨sent, sameActions⟩ := same.sendAppendEntriesToAll second.otherVoters
  obtain ⟨reordered, rearranged⟩ :=
    first.sendAppendEntriesToAll_perm same.otherVoters
  obtain ⟨requests, among, append, requested⟩ :=
    first.sendAppendEntriesToAll_requests first.otherVoters
  refine ⟨reordered.trans sent, .inr ⟨?_, requests, ?_, append, requested⟩⟩
  · exact (List.Perm.of_eq sameActions).trans rearranged
  · exact among.nodup (Membership.otherVoters_nodup _ _)

theorem tick (now : Nat) :
    Agrees ((first.tick now).1, (first.tick now).2.actions)
      ((second.tick now).1, (second.tick now).2.actions) := by
  have beaten := same.replicateActions
  unfold RaftEngine.tick
  rw [same.nextDeadline, same.role, same.electionDeadline, same.heartbeatDeadline]
  by_cases early : now < first.nextDeadline
  · rw [if_pos early, if_pos early]
    exact ⟨same, .inl rfl⟩
  rw [if_neg early, if_neg early]
  cases first.role with
  | leader =>
      by_cases due : now ≥ first.heartbeatDeadline
      · simp only [if_pos due]
        refine ⟨{ beaten.1 with
          heartbeatDeadline := congrArg (now + ·) beaten.1.heartbeatInterval }, ?_⟩
        exact beaten.2
      · simp only [if_neg due]
        exact ⟨same, .inl rfl⟩
  | follower =>
      by_cases due : now ≥ first.electionDeadline
      · simp only [if_pos due]
        exact (same.startElection now).agrees
      · simp only [if_neg due]
        exact ⟨same, .inl rfl⟩
  | candidate =>
      by_cases due : now ≥ first.electionDeadline
      · simp only [if_pos due]
        exact (same.startElection now).agrees
      · simp only [if_neg due]
        exact ⟨same, .inl rfl⟩

theorem propose (data : List UInt8) :
    Agrees (first.call (.propose data)) (second.call (.propose data)) ∧
      (second.propose data).2.map Prod.fst = (first.propose data).2.map Prod.fst := by
  have written := same.persist none
    [{ index := (Storage.lastIndexTerm first.storage).1 + 1
       term := first.currentTerm
       entryType := .command data }]
  have replicated := written.replicateActions
  unfold RaftEngine.call RaftEngine.propose
  rw [same.role, same.storage, same.currentTerm]
  split_ifs with following
  · exact ⟨⟨same, .inl rfl⟩, rfl⟩
  · exact ⟨replicated, rfl⟩

omit [Storage S] in
theorem handleRpcFailure
    (target : NodeId)
    (kind : RpcKind) :
    Matches (first.handleRpcFailure target kind)
      (second.handleRpcFailure target kind) := by
  unfold RaftEngine.handleRpcFailure
  split_ifs
  · exact ⟨{ same with
      aeInflight := congrArg (·.erase target) same.aeInflight }, rfl⟩
  · exact ⟨same, rfl⟩

/-! ## Votes -/

theorem enterTerm (term : Nat) :
    Matches (first.enterTerm term) (second.enterTerm term) := by
  unfold RaftEngine.enterTerm
  rw [same.currentTerm]
  split_ifs
  · exact same.becomeFollower term none
  · exact ⟨same, rfl⟩

theorem recordVote
    (term : Nat)
    (candidateId : NodeId)
    (now : Nat) :
    Reordered (first.recordVote term candidateId now)
      (second.recordVote term candidateId now) := by
  unfold RaftEngine.recordVote
  rw [same.currentTerm]
  have written := same.persist
    (some ⟨max term first.currentTerm, some candidateId⟩) []
  apply Reordered.resetElectionDeadline
  exact { written with role := rfl, leader := rfl, votes := rfl }

theorem handleRequestVote
    (sender : NodeId)
    (term : Nat)
    (candidateId : NodeId)
    (lastLogIndex lastLogTerm now : Nat) :
    Matches
      (first.handleRequestVote sender term candidateId lastLogIndex lastLogTerm now)
      (second.handleRequestVote sender term candidateId lastLogIndex lastLogTerm
        now) := by
  by_cases stale : term < first.currentTerm
  · unfold RaftEngine.handleRequestVote
    rw [same.currentTerm]
    dsimp only
    rw [if_pos stale, if_pos stale]
    exact ⟨same, rfl⟩
  have recent := Nat.not_lt.mp stale
  obtain ⟨entered, sameActions⟩ := same.enterTerm term
  have voted := entered.recordVote term candidateId now
  have sameGrants : second.Grants term candidateId lastLogIndex lastLogTerm ↔
      first.Grants term candidateId lastLogIndex lastLogTerm := by
    unfold RaftEngine.Grants
    rw [entered.storage]
  rw [first.handleRequestVote_of_recent sender candidateId lastLogIndex lastLogTerm
    now recent, second.handleRequestVote_of_recent sender candidateId lastLogIndex
    lastLogTerm now (same.currentTerm.trans_le recent), sameActions,
    voted.currentTerm, entered.currentTerm]
  by_cases grants : first.Grants term candidateId lastLogIndex lastLogTerm
  · rw [if_pos grants, if_pos (sameGrants.mpr grants)]
    exact ⟨voted, rfl⟩
  · rw [if_neg grants, if_neg (mt sameGrants.mp grants)]
    exact ⟨entered, rfl⟩

theorem handleRequestVoteResp
    (sender : NodeId)
    (term : Nat)
    (voteGranted : Bool)
    (now : Nat) :
    Matches (first.handleRequestVoteResp sender term voteGranted now)
      (second.handleRequestVoteResp sender term voteGranted now) := by
  have counted : Reordered { first with votes := insert sender first.votes }
      { second with role := first.role, votes := insert sender first.votes } :=
    { same with role := rfl, votes := rfl }
  unfold RaftEngine.handleRequestVoteResp
  rw [same.currentTerm, same.role]
  simp only [same.votes, same.quorum]
  split_ifs
  · exact ⟨same, rfl⟩
  · exact same.becomeFollower term none
  · exact ⟨same, rfl⟩
  · exact counted.becomeLeader term now
  · exact ⟨counted, rfl⟩

/-! ## Batches -/

theorem follow
    (term : Nat)
    (leaderId : NodeId)
    (now : Nat) :
    Matches (first.follow term leaderId now) (second.follow term leaderId now) := by
  obtain ⟨following, sameActions⟩ := same.becomeFollower term (some leaderId)
  unfold RaftEngine.follow
  rw [same.currentTerm, same.role]
  split_ifs
  · exact ⟨following.resetElectionDeadline now, sameActions⟩
  · exact ⟨following.resetElectionDeadline now, sameActions⟩
  · refine ⟨?_, rfl⟩
    apply Reordered.resetElectionDeadline
    exact { same with role := rfl, leader := rfl }

theorem storeEntries
    (prevLogIndex : Nat)
    (entries : List LogEntry) :
    Reordered (first.storeEntries prevLogIndex entries)
      (second.storeEntries prevLogIndex entries) := by
  unfold RaftEngine.storeEntries
  rw [same.storage]
  have cut : Reordered
      { first with
        storage := (skipMatching first.storage prevLogIndex 0 0 entries).1 }
      { second with
        storage := (skipMatching first.storage prevLogIndex 0 0 entries).1 } :=
    { same with storage := rfl }
  dsimp only
  split_ifs
  · exact cut.persist none _
  · exact cut

theorem advanceCommitAndApply (leaderCommit lastNew : Nat) :
    Matches (first.advanceCommitAndApply leaderCommit lastNew)
      (second.advanceCommitAndApply leaderCommit lastNew) := by
  unfold RaftEngine.advanceCommitAndApply
  rw [same.commitIndex]
  by_cases raised : min leaderCommit lastNew > first.commitIndex
  · simp only [if_pos raised, same.lastApplied, same.storage]
    split_ifs <;>
      exact ⟨{ same with commitIndex := rfl, lastApplied := rfl, storage := rfl }, rfl⟩
  · simp only [if_neg raised, same.commitIndex, same.lastApplied, same.storage]
    split_ifs
    · exact ⟨same, rfl⟩
    · exact ⟨{ same with commitIndex := rfl, lastApplied := rfl, storage := rfl }, rfl⟩
    · exact ⟨{ same with commitIndex := rfl, lastApplied := rfl, storage := rfl }, rfl⟩

theorem handleAppendEntries
    (sender : NodeId)
    (term : Nat)
    (leaderId : NodeId)
    (prevLogIndex prevLogTerm : Nat)
    (entries : List LogEntry)
    (leaderCommit now : Nat) :
    Matches
      (first.handleAppendEntries sender term leaderId prevLogIndex prevLogTerm
        entries leaderCommit now)
      (second.handleAppendEntries sender term leaderId prevLogIndex prevLogTerm
        entries leaderCommit now) := by
  by_cases stale : term < first.currentTerm
  · unfold RaftEngine.handleAppendEntries
    rw [same.currentTerm, same.storage]
    dsimp only
    rw [if_pos stale, if_pos stale]
    exact ⟨same, rfl⟩
  have recent := Nat.not_lt.mp stale
  obtain ⟨following, sameActions⟩ := same.follow term leaderId now
  obtain ⟨applied, sameApplied⟩ := (following.storeEntries prevLogIndex
    entries).advanceCommitAndApply leaderCommit (prevLogIndex + entries.length)
  have agreed : (second.follow term leaderId now).1.prevOk prevLogIndex prevLogTerm =
      (first.follow term leaderId now).1.prevOk prevLogIndex prevLogTerm := by
    unfold prevOk
    rw [following.storage]
  rw [first.handleAppendEntries_of_recent sender leaderId prevLogIndex prevLogTerm
    entries leaderCommit now recent, second.handleAppendEntries_of_recent sender
    leaderId prevLogIndex prevLogTerm entries leaderCommit now
    (same.currentTerm.trans_le recent), agreed, sameActions, sameApplied,
    applied.currentTerm, following.currentTerm, following.storage]
  split_ifs
  · exact ⟨applied, rfl⟩
  · exact ⟨following, rfl⟩

/-! ## Replies -/

theorem committable : second.committable = first.committable := by
  have counted : ∀ n, second.replicationCount n = first.replicationCount n := by
    intro n
    unfold replicationCount
    simp only [same.matchIndex _]
    rw [same.otherVoters.countP_eq]
  funext n
  unfold RaftEngine.committable
  rw [same.storage, same.currentTerm, same.quorum, counted n]

theorem maybeCommit : Matches first.maybeCommit second.maybeCommit := by
  unfold RaftEngine.maybeCommit
  rw [same.storage, same.commitIndex, same.committable]
  dsimp only
  split_ifs
  · exact ⟨same, rfl⟩
  · exact same.advanceCommitAndApply _ _
  · exact ⟨same, rfl⟩

theorem handleAppendSuccess
    (sender : NodeId)
    (reqPrev reqLen : Nat) :
    Matches (first.handleAppendSuccess sender reqPrev reqLen)
      (second.handleAppendSuccess sender reqPrev reqLen) := by
  have recorded : Reordered (first.recordMatch sender (reqPrev + reqLen))
      (second.recordMatch sender (reqPrev + reqLen)) := by
    unfold recordMatch
    rw [same.matchIndex sender]
    exact { same with
      matchIndex := same.matchIndex.insert sender _
      nextIndex := same.nextIndex.insert sender _ }
  obtain ⟨committed, sameActions⟩ := recorded.maybeCommit
  obtain ⟨sent, sameRequest⟩ := committed.sendAppendEntriesTo sender
  rw [handleAppendSuccess_eq, handleAppendSuccess_eq, committed.nextIndex sender,
    committed.storage]
  split_ifs
  · exact ⟨sent, congrArg₂ (· ++ Option.toList ·) sameActions sameRequest⟩
  · exact ⟨committed, sameActions⟩

theorem handleAppendReject
    (sender : NodeId)
    (reqPrev : Nat) :
    Matches (first.handleAppendReject sender reqPrev)
      (second.handleAppendReject sender reqPrev) := by
  have back : Reordered (first.stepBack sender reqPrev)
      (second.stepBack sender reqPrev) := by
    unfold stepBack
    rw [same.matchIndex sender]
    exact { same with nextIndex := same.nextIndex.insert sender _ }
  obtain ⟨sent, sameRequest⟩ := back.sendAppendEntriesTo sender
  rw [handleAppendReject_eq, handleAppendReject_eq, same.nextIndex sender]
  split_ifs
  · exact ⟨sent, congrArg Option.toList sameRequest⟩
  · exact ⟨same, rfl⟩

theorem handleAppendEntriesResp
    (sender : NodeId)
    (term : Nat)
    (success : Bool)
    (matchIndex now : Nat) :
    Matches (first.handleAppendEntriesResp sender term success matchIndex now)
      (second.handleAppendEntriesResp sender term success matchIndex now) := by
  unfold RaftEngine.handleAppendEntriesResp
  rw [same.currentTerm, same.role, same.lastAe sender]
  dsimp only
  by_cases newer : term > first.currentTerm
  · rw [if_pos newer, if_pos newer]
    exact same.becomeFollower term none
  rw [if_neg newer, if_neg newer]
  by_cases unrelated : first.role ≠ .leader ∨ term ≠ first.currentTerm
  · rw [if_pos unrelated, if_pos unrelated]
    exact ⟨same, rfl⟩
  rw [if_neg unrelated, if_neg unrelated]
  cases first.lastAe.lookup sender with
  | none => exact ⟨same, rfl⟩
  | some recorded =>
      have freed : Reordered
          { first with aeInflight := first.aeInflight.erase sender }
          { second with
            role := first.role, aeInflight := second.aeInflight.erase sender } :=
        { same with
          role := rfl
          aeInflight := congrArg (·.erase sender) same.aeInflight }
      cases success with
      | true => exact freed.handleAppendSuccess sender recorded.1 recorded.2
      | false => exact freed.handleAppendReject sender recorded.1

/-- A call leaves the engines reordered, and they ask for the same. -/
theorem call (call : Call) :
    Agrees (first.call call) (second.call call) := by
  cases call with
  | tick now => exact same.tick now
  | propose data => exact (same.propose data).1
  | rpc sender msg now =>
      cases msg with
      | requestVote => exact (same.handleRequestVote _ _ _ _ _ _).agrees
      | requestVoteResp => exact (same.handleRequestVoteResp _ _ _ _).agrees
      | appendEntries => exact (same.handleAppendEntries _ _ _ _ _ _ _ _).agrees
      | appendEntriesResp term success matchIndex =>
          exact (same.handleAppendEntriesResp sender term success matchIndex
            now).agrees
      | installSnapshot => exact ⟨same, .inl rfl⟩
      | installSnapshotResp => exact ⟨same, .inl rfl⟩
  | rpcFailure target kind => exact (same.handleRpcFailure target kind).agrees

end Reordered

/-! ## Runs -/

section

variable [Storage S]

omit [Storage S] in
theorem reordered_new
    (config : RaftConfig)
    {voters : List NodeId}
    (sameVoters : ∀ id, id ∈ voters ↔ id ∈ config.voters)
    (storage : S)
    (now : Nat) :
    Reordered (new config storage now)
      (new { config with voters := voters } storage now) :=
  { Reordered.refl (new config storage now) with
    config := rfl
    storage := rfl
    membership := by
      refine (List.perm_ext_iff_of_nodup (List.nodup_dedup _)
        (List.nodup_dedup _)).mpr fun id => ?_
      rw [List.mem_dedup, List.mem_dedup]
      exact sameVoters id }

/-- However the voters are listed or iterated, the engine makes the same of every
run: its state and storage are the same up to that order, every call is answered
with the same actions, except that the requests of one round of replication may
be in another order, and every proposal gets the same index or is refused with
the same error. -/
theorem iteration_order_immaterial
    (config : RaftConfig)
    (voters : List NodeId)
    (sameVoters : ∀ id, id ∈ voters ↔ id ∈ config.voters)
    (storage : S)
    (now : Nat)
    (calls : List Call) :
    Reordered ((transcript config storage now).run calls).1
        ((transcript { config with voters := voters } storage now).run calls).1 ∧
      List.Forall₂ Rearranged ((transcript config storage now).run calls).2
        ((transcript { config with voters := voters } storage now).run calls).2 ∧
      ∀ data,
        (((transcript { config with voters := voters } storage now).run
            calls).1.propose data).2.map Prod.fst =
          (((transcript config storage now).run calls).1.propose data).2.map
            Prod.fst := by
  have both : Reordered ((transcript config storage now).run calls).1
        ((transcript { config with voters := voters } storage now).run calls).1 ∧
      List.Forall₂ Rearranged ((transcript config storage now).run calls).2
        ((transcript { config with voters := voters } storage now).run calls).2 := by
    induction calls using List.reverseRecOn with
    | nil => exact ⟨reordered_new config sameVoters storage now, .nil⟩
    | append_singleton calls call inductionHypothesis =>
        rw [System.run_concat, System.run_concat]
        obtain ⟨same, answers⟩ := inductionHypothesis
        obtain ⟨stillSame, answer⟩ := same.call call
        exact ⟨stillSame, List.rel_append answers (.cons answer .nil)⟩
  exact ⟨both.1, both.2, fun data => (both.1.propose data).2⟩

end

/-- Node 1 is elected and sends its first heartbeats. -/
def electedAmongThree : List Call :=
  [.tick 150, .rpc 2 (.requestVoteResp 1 true) 160, .tick 210]

/-- The theorem applies to two orders that do tell. -/
theorem iteration_order_immaterial_reversed :
    ((transcript { RaftConfig.cfg 1 [1, 2, 3] with voters := [3, 2, 1] }
        MemoryStorage.new 0).run electedAmongThree).2 ≠
      ((transcript (RaftConfig.cfg 1 [1, 2, 3]) MemoryStorage.new 0).run
        electedAmongThree).2 ∧
    List.Forall₂ Rearranged
      ((transcript (RaftConfig.cfg 1 [1, 2, 3]) MemoryStorage.new 0).run
        electedAmongThree).2
      ((transcript { RaftConfig.cfg 1 [1, 2, 3] with voters := [3, 2, 1] }
        MemoryStorage.new 0).run electedAmongThree).2 := by
  refine ⟨by decide +kernel, ?_⟩
  have sameVoters : ∀ id : NodeId, id ∈ [3, 2, 1] ↔ id ∈ [1, 2, 3] :=
    fun id => (List.reverse_perm [1, 2, 3]).mem_iff
  exact (iteration_order_immaterial (RaftConfig.cfg 1 [1, 2, 3]) [3, 2, 1]
    sameVoters MemoryStorage.new 0 electedAmongThree).2.1

end RaftEngine

end Libp2pRaft
