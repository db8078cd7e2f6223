import Libp2pRaft.Raft.Effects
import Libp2pRaft.Storage.Representation

/-!
# Storages that an engine cannot tell apart

The engine is written for any `Storage`.  Two storages with a relation that all
functions of the interface keep make engines that emit the same actions call by
call.  The fields of the in-memory storage of the source, of which the type says
nothing about indices and which hold a snapshot besides, are related in this way
to the storage with a contiguous log.
-/

namespace Libp2pRaft

open TransitionSystem

/-- A relation between two storages that all functions of the interface keep. -/
structure Simulation (S T : Type) [Storage S] [Storage T] where
  Related : S → T → Prop
  hardState : ∀ {first second}, Related first second →
    Storage.hardState second = Storage.hardState first
  entry : ∀ {first second}, Related first second →
    ∀ index, Storage.entry second index = Storage.entry first index
  lastIndexTerm : ∀ {first second}, Related first second →
    Storage.lastIndexTerm second = Storage.lastIndexTerm first
  truncateFrom : ∀ {first second}, Related first second → ∀ index,
    Related (Storage.truncateFrom first index) (Storage.truncateFrom second index)
  persist : ∀ {first second}, Related first second → ∀ hardState entries,
    Related (Storage.persist first hardState entries).2
      (Storage.persist second hardState entries).2

namespace RaftEngine

variable {S T : Type} [Storage S] [Storage T]

/-- The engine over another storage. -/
def withStorage (self : RaftEngine S) (storage : T) : RaftEngine T where
  config := self.config
  storage := storage
  role := self.role
  leader := self.leader
  votes := self.votes
  electionDeadline := self.electionDeadline
  heartbeatDeadline := self.heartbeatDeadline
  membership := self.membership
  nextIndex := self.nextIndex
  matchIndex := self.matchIndex
  lastAe := self.lastAe
  aeInflight := self.aeInflight
  commitIndex := self.commitIndex
  lastApplied := self.lastApplied

/-- Two engines with related storages, the same in everything else, and the same
answer. -/
def Alike
    {α : Type}
    (simulation : Simulation S T)
    (first : RaftEngine S × α)
    (second : RaftEngine T × α) : Prop :=
  ∃ storage, simulation.Related first.1.storage storage ∧
    second = (first.1.withStorage storage, first.2)

section

variable (simulation : Simulation S T) (self : RaftEngine S) {storage : T}
  (related : simulation.Related self.storage storage)

include related

theorem over_currentTerm :
    (self.withStorage storage).currentTerm = self.currentTerm := by
  show (Storage.hardState storage).currentTerm = _
  rw [simulation.hardState related]
  rfl

theorem over_logIsUpToDate (lastLogIndex lastLogTerm : Nat) :
    logIsUpToDate storage lastLogIndex lastLogTerm =
      logIsUpToDate self.storage lastLogIndex lastLogTerm := by
  unfold logIsUpToDate
  rw [simulation.lastIndexTerm related]

theorem over_prevOk (prevLogIndex prevLogTerm : Nat) :
    (self.withStorage storage).prevOk prevLogIndex prevLogTerm =
      self.prevOk prevLogIndex prevLogTerm := by
  unfold prevOk
  rw [show (self.withStorage storage).storage = storage from rfl,
    simulation.entry related]

theorem over_buildAppendEntries (target : NodeId) :
    (self.withStorage storage).buildAppendEntries target =
      self.buildAppendEntries target := by
  have entries : Storage.entry storage = Storage.entry self.storage :=
    funext (simulation.entry related)
  unfold buildAppendEntries
  rw [self.over_currentTerm simulation related,
    show (self.withStorage storage).storage = storage from rfl, entries,
    simulation.lastIndexTerm related]
  rfl

theorem over_committable (n : Nat) :
    (self.withStorage storage).committable n = self.committable n := by
  unfold committable
  rw [self.over_currentTerm simulation related,
    show (self.withStorage storage).storage = storage from rfl,
    simulation.entry related]
  rfl

/-! ## Roles and elections -/

theorem becomeFollower_alike
    (term : Nat)
    (leader : Option NodeId) :
    Alike simulation (self.becomeFollower term leader)
      ((self.withStorage storage).becomeFollower term leader) := by
  unfold becomeFollower
  rw [self.over_currentTerm simulation related]
  split_ifs with later
  · exact ⟨_, simulation.persist related _ _, rfl⟩
  · exact ⟨_, related, rfl⟩

theorem becomeLeader_alike (term now : Nat) :
    Alike simulation (self.becomeLeader term now)
      ((self.withStorage storage).becomeLeader term now) := by
  refine ⟨storage, related, ?_⟩
  unfold becomeLeader
  rw [show (self.withStorage storage).storage = storage from rfl,
    simulation.lastIndexTerm related]
  rfl

theorem startElection_alike (now : Nat) :
    Alike simulation (self.startElection now)
      ((self.withStorage storage).startElection now) := by
  have written := simulation.persist related
    (some ⟨wrappingSucc self.currentTerm, some self.config.nodeId⟩) []
  refine ⟨_, written, ?_⟩
  have sameLast := simulation.lastIndexTerm written
  unfold startElection becomeCandidate
  rw [self.over_currentTerm simulation related]
  dsimp only [resetElectionDeadline, persist, withStorage]
  rw [sameLast]

/-! ## Sending -/

theorem sendAppendEntriesTo_alike (target : NodeId) :
    Alike simulation (self.sendAppendEntriesTo target)
      ((self.withStorage storage).sendAppendEntriesTo target) := by
  refine ⟨storage, ?_, ?_⟩
  · obtain ⟨_, _, frame⟩ := self.sendAppendEntriesTo_frame target
    rw [frame]
    exact related
  · unfold sendAppendEntriesTo
    rw [self.over_buildAppendEntries simulation related]
    show (if target ∈ self.aeInflight then _ else _) = _
    split_ifs
    · rfl
    · cases self.buildAppendEntries target <;> rfl

omit related in
theorem sendAppendEntriesToAll_alike
    (related : simulation.Related self.storage storage)
    (peers : List NodeId) :
    Alike simulation (self.sendAppendEntriesToAll peers)
      ((self.withStorage storage).sendAppendEntriesToAll peers) := by
  induction peers generalizing self storage with
  | nil => exact ⟨storage, related, rfl⟩
  | cons peer peers inductionHypothesis =>
      obtain ⟨middle, stillRelated, sent⟩ :=
        self.sendAppendEntriesTo_alike simulation related peer
      obtain ⟨last, lastRelated, sentOthers⟩ :=
        inductionHypothesis (self.sendAppendEntriesTo peer).1 stillRelated
      refine ⟨last, lastRelated, ?_⟩
      simp only [sendAppendEntriesToAll, sent, sentOthers]

theorem replicateActions_alike :
    Alike simulation self.replicateActions
      (self.withStorage storage).replicateActions :=
  self.sendAppendEntriesToAll_alike simulation related self.otherVoters

theorem tick_alike (now : Nat) :
    Alike simulation (self.tick now) ((self.withStorage storage).tick now) := by
  have overRole : (self.withStorage storage).role = self.role := rfl
  have campaign : Alike simulation
      (if now ≥ self.electionDeadline then self.startElection now else (self, []))
      (if now ≥ (self.withStorage storage).electionDeadline then
        (self.withStorage storage).startElection now else (self.withStorage storage, [])) := by
    show Alike simulation _ (if now ≥ self.electionDeadline then _ else _)
    split_ifs
    · exact self.startElection_alike simulation related now
    · exact ⟨storage, related, rfl⟩
  have heartbeat : Alike simulation
      (if now ≥ self.heartbeatDeadline then
        ({ self.replicateActions.1 with
            heartbeatDeadline :=
              now + self.replicateActions.1.config.heartbeatInterval },
          self.replicateActions.2) else (self, []))
      (if now ≥ (self.withStorage storage).heartbeatDeadline then
        ({ (self.withStorage storage).replicateActions.1 with
            heartbeatDeadline := now +
              (self.withStorage storage).replicateActions.1.config.heartbeatInterval },
          (self.withStorage storage).replicateActions.2)
      else (self.withStorage storage, [])) := by
    obtain ⟨sent, sentRelated, replication⟩ :=
      self.replicateActions_alike simulation related
    rw [replication]
    show Alike simulation _ (if now ≥ self.heartbeatDeadline then _ else _)
    split_ifs
    · exact ⟨sent, sentRelated, rfl⟩
    · exact ⟨storage, related, rfl⟩
  obtain ⟨campaigning, campaigningRelated, campaign⟩ := campaign
  obtain ⟨beating, beatingRelated, heartbeat⟩ := heartbeat
  unfold tick
  rw [show (self.withStorage storage).nextDeadline = self.nextDeadline from rfl, overRole]
  by_cases early : now < self.nextDeadline
  · rw [if_pos early, if_pos early]
    exact ⟨storage, related, rfl⟩
  rw [if_neg early, if_neg early]
  cases self.role with
  | follower =>
      dsimp only
      rw [campaign]
      exact ⟨campaigning, campaigningRelated, rfl⟩
  | candidate =>
      dsimp only
      rw [campaign]
      exact ⟨campaigning, campaigningRelated, rfl⟩
  | leader =>
      dsimp only
      rw [heartbeat]
      exact ⟨beating, beatingRelated, rfl⟩

theorem propose_alike (data : List UInt8) :
    Alike simulation (self.propose data) ((self.withStorage storage).propose data) := by
  unfold propose
  rw [show (self.withStorage storage).role = self.role from rfl,
    show (self.withStorage storage).storage = storage from rfl,
    simulation.lastIndexTerm related, self.over_currentTerm simulation related]
  split_ifs with following
  · exact ⟨storage, related, rfl⟩
  · let entry : LogEntry :=
      { index := (Storage.lastIndexTerm self.storage).1 + 1
        term := self.currentTerm
        entryType := .command data }
    obtain ⟨sent, sentRelated, replication⟩ :=
      (self.persist none [entry]).replicateActions_alike simulation
        (simulation.persist related none [entry])
    have overReplication : ((self.withStorage storage).persist none
        [entry]).replicateActions = _ := replication
    refine ⟨sent, sentRelated, ?_⟩
    dsimp only
    rw [overReplication]

/-! ## Votes -/

theorem enterTerm_alike (term : Nat) :
    Alike simulation (self.enterTerm term)
      ((self.withStorage storage).enterTerm term) := by
  unfold enterTerm
  rw [self.over_currentTerm simulation related]
  split_ifs
  · exact self.becomeFollower_alike simulation related term none
  · exact ⟨storage, related, rfl⟩

theorem recordVote_alike
    (term : Nat)
    (candidateId : NodeId)
    (now : Nat) :
    ∃ written,
      simulation.Related (self.recordVote term candidateId now).storage written ∧
      (self.withStorage storage).recordVote term candidateId now =
        (self.recordVote term candidateId now).withStorage written := by
  refine ⟨_, simulation.persist related _ _, ?_⟩
  unfold recordVote
  rw [self.over_currentTerm simulation related]
  rfl

theorem handleRequestVote_alike
    (sender : NodeId)
    (term : Nat)
    (candidateId : NodeId)
    (lastLogIndex lastLogTerm now : Nat) :
    Alike simulation
      (self.handleRequestVote sender term candidateId lastLogIndex lastLogTerm now)
      ((self.withStorage storage).handleRequestVote sender term candidateId lastLogIndex
        lastLogTerm now) := by
  by_cases stale : term < self.currentTerm
  · unfold handleRequestVote
    rw [self.over_currentTerm simulation related]
    simp only [if_pos stale]
    exact ⟨storage, related, rfl⟩
  have recent := Nat.not_lt.mp stale
  have overRecent : (self.withStorage storage).currentTerm ≤ term := by
    rw [self.over_currentTerm simulation related]
    exact recent
  obtain ⟨entered, enteredRelated, enters⟩ :=
    self.enterTerm_alike simulation related term
  obtain ⟨voted, votedRelated, votes⟩ :=
    (self.enterTerm term).1.recordVote_alike simulation enteredRelated term
      candidateId now
  have sameGrants : (self.withStorage storage).Grants term candidateId lastLogIndex
      lastLogTerm ↔ self.Grants term candidateId lastLogIndex lastLogTerm := by
    unfold Grants
    rw [enters, show ((self.enterTerm term).1.withStorage entered).storage =
      entered from rfl, simulation.hardState enteredRelated,
      over_logIsUpToDate simulation (self.enterTerm term).1 enteredRelated]
  rw [self.handleRequestVote_of_recent sender candidateId lastLogIndex lastLogTerm
    now recent, (self.withStorage storage).handleRequestVote_of_recent sender candidateId
    lastLogIndex lastLogTerm now overRecent, enters]
  dsimp only
  rw [votes, over_currentTerm simulation _ enteredRelated,
    over_currentTerm simulation _ votedRelated]
  by_cases grants : self.Grants term candidateId lastLogIndex lastLogTerm
  · rw [if_pos grants, if_pos (sameGrants.mpr grants)]
    exact ⟨voted, votedRelated, rfl⟩
  · rw [if_neg grants, if_neg (mt sameGrants.mp grants)]
    exact ⟨entered, enteredRelated, rfl⟩

theorem handleRequestVoteResp_alike
    (sender : NodeId)
    (term : Nat)
    (voteGranted : Bool)
    (now : Nat) :
    Alike simulation (self.handleRequestVoteResp sender term voteGranted now)
      ((self.withStorage storage).handleRequestVoteResp sender term voteGranted now) := by
  unfold handleRequestVoteResp
  rw [self.over_currentTerm simulation related]
  show Alike simulation _ (if term < self.currentTerm then _ else
    if term > self.currentTerm then _ else
      if self.role ≠ .candidate ∨ voteGranted = false then _ else
        if (insert sender self.votes).card ≥ self.membership.quorum then _ else _)
  dsimp only
  split_ifs
  · exact ⟨storage, related, rfl⟩
  · exact self.becomeFollower_alike simulation related term none
  · exact ⟨storage, related, rfl⟩
  · exact becomeLeader_alike simulation
      { self with votes := insert sender self.votes } related term now
  · exact ⟨storage, related, rfl⟩

/-! ## Batches -/

theorem follow_alike
    (term : Nat)
    (leaderId : NodeId)
    (now : Nat) :
    Alike simulation (self.follow term leaderId now)
      ((self.withStorage storage).follow term leaderId now) := by
  unfold follow
  rw [self.over_currentTerm simulation related,
    show (self.withStorage storage).role = self.role from rfl]
  obtain ⟨following, followingRelated, follows⟩ :=
    self.becomeFollower_alike simulation related term (some leaderId)
  rw [follows]
  split_ifs
  · exact ⟨following, followingRelated, rfl⟩
  · exact ⟨following, followingRelated, rfl⟩
  · exact ⟨storage, related, rfl⟩

omit related in
theorem skipMatching_related
    {first : S}
    {second : T}
    (related : simulation.Related first second)
    (prevLogIndex position appendFrom : Nat)
    (entries : List LogEntry) :
    simulation.Related
        (skipMatching first prevLogIndex position appendFrom entries).1
        (skipMatching second prevLogIndex position appendFrom entries).1 ∧
      (skipMatching second prevLogIndex position appendFrom entries).2 =
        (skipMatching first prevLogIndex position appendFrom entries).2 := by
  induction entries generalizing position appendFrom with
  | nil => exact ⟨related, rfl⟩
  | cons entry rest inductionHypothesis =>
      unfold skipMatching
      dsimp only
      rw [simulation.entry related]
      cases Storage.entry first (prevLogIndex + 1 + position) with
      | none => exact ⟨related, rfl⟩
      | some existing =>
          dsimp only
          split_ifs
          · exact inductionHypothesis (position + 1) (position + 1)
          · exact ⟨simulation.truncateFrom related _, rfl⟩

theorem storeEntries_alike
    (prevLogIndex : Nat)
    (entries : List LogEntry) :
    ∃ written,
      simulation.Related (self.storeEntries prevLogIndex entries).storage written ∧
      (self.withStorage storage).storeEntries prevLogIndex entries =
        (self.storeEntries prevLogIndex entries).withStorage written := by
  obtain ⟨cut, sameStart⟩ :=
    skipMatching_related simulation related prevLogIndex 0 0 entries
  unfold storeEntries
  rw [show (self.withStorage storage).storage = storage from rfl]
  dsimp only
  rw [sameStart]
  split_ifs
  · exact ⟨_, simulation.persist cut _ _, rfl⟩
  · exact ⟨_, cut, rfl⟩

theorem advanceCommitAndApply_alike (leaderCommit lastNew : Nat) :
    Alike simulation (self.advanceCommitAndApply leaderCommit lastNew)
      ((self.withStorage storage).advanceCommitAndApply leaderCommit lastNew) := by
  have entries : Storage.entry storage = Storage.entry self.storage :=
    funext (simulation.entry related)
  have sameCommit : (self.withStorage storage).commitIndex = self.commitIndex := rfl
  unfold advanceCommitAndApply
  dsimp only
  rw [sameCommit]
  by_cases raised : min leaderCommit lastNew > self.commitIndex
  · simp only [if_pos raised]
    by_cases applied : min leaderCommit lastNew ≤ self.lastApplied
    · have overApplied : min leaderCommit lastNew ≤
          (self.withStorage storage).lastApplied := applied
      rw [if_pos applied, if_pos overApplied]
      exact ⟨storage, related, rfl⟩
    · have overApplied : ¬ min leaderCommit lastNew ≤
          (self.withStorage storage).lastApplied := applied
      rw [if_neg applied, if_neg overApplied,
        show (self.withStorage storage).storage = storage from rfl, entries]
      exact ⟨storage, related, rfl⟩
  · simp only [if_neg raised]
    by_cases applied : self.commitIndex ≤ self.lastApplied
    · have overApplied : (self.withStorage storage).commitIndex ≤
          (self.withStorage storage).lastApplied := applied
      rw [if_pos applied, if_pos overApplied]
      exact ⟨storage, related, rfl⟩
    · have overApplied : ¬ (self.withStorage storage).commitIndex ≤
          (self.withStorage storage).lastApplied := applied
      rw [if_neg applied, if_neg overApplied,
        show (self.withStorage storage).storage = storage from rfl, entries]
      exact ⟨storage, related, rfl⟩

theorem handleAppendEntries_alike
    (sender : NodeId)
    (term : Nat)
    (leaderId : NodeId)
    (prevLogIndex prevLogTerm : Nat)
    (entries : List LogEntry)
    (leaderCommit now : Nat) :
    Alike simulation
      (self.handleAppendEntries sender term leaderId prevLogIndex prevLogTerm
        entries leaderCommit now)
      ((self.withStorage storage).handleAppendEntries sender term leaderId prevLogIndex
        prevLogTerm entries leaderCommit now) := by
  by_cases stale : term < self.currentTerm
  · unfold handleAppendEntries
    rw [self.over_currentTerm simulation related]
    dsimp only
    rw [if_pos stale, if_pos stale, show (self.withStorage storage).storage = storage
      from rfl, simulation.lastIndexTerm related]
    exact ⟨storage, related, rfl⟩
  have recent := Nat.not_lt.mp stale
  have overRecent : (self.withStorage storage).currentTerm ≤ term := by
    rw [self.over_currentTerm simulation related]
    exact recent
  obtain ⟨following, followingRelated, follows⟩ :=
    self.follow_alike simulation related term leaderId now
  obtain ⟨written, writtenRelated, stores⟩ :=
    (self.follow term leaderId now).1.storeEntries_alike simulation
      followingRelated prevLogIndex entries
  obtain ⟨applied, appliedRelated, applies⟩ :=
    ((self.follow term leaderId now).1.storeEntries prevLogIndex
      entries).advanceCommitAndApply_alike simulation writtenRelated leaderCommit
      (prevLogIndex + entries.length)
  rw [self.handleAppendEntries_of_recent sender leaderId prevLogIndex prevLogTerm
    entries leaderCommit now recent,
    (self.withStorage storage).handleAppendEntries_of_recent sender leaderId prevLogIndex
      prevLogTerm entries leaderCommit now overRecent, follows]
  dsimp only
  rw [over_prevOk simulation _ followingRelated, stores, applies,
    over_currentTerm simulation _ appliedRelated,
    over_currentTerm simulation _ followingRelated,
    show ((self.follow term leaderId now).1.withStorage following).storage = following
      from rfl, simulation.lastIndexTerm followingRelated]
  split_ifs
  · exact ⟨applied, appliedRelated, rfl⟩
  · exact ⟨following, followingRelated, rfl⟩

/-! ## Replies -/

theorem maybeCommit_alike :
    Alike simulation self.maybeCommit (self.withStorage storage).maybeCommit := by
  have committable : (self.withStorage storage).committable = self.committable :=
    funext (self.over_committable simulation related)
  have sameCommit : (self.withStorage storage).commitIndex = self.commitIndex := rfl
  unfold maybeCommit
  rw [show (self.withStorage storage).storage = storage from rfl,
    simulation.lastIndexTerm related, committable]
  dsimp only
  rw [sameCommit]
  split_ifs
  · exact ⟨storage, related, rfl⟩
  · exact self.advanceCommitAndApply_alike simulation related _ _
  · exact ⟨storage, related, rfl⟩

theorem handleAppendSuccess_alike
    (sender : NodeId)
    (reqPrev reqLen : Nat) :
    Alike simulation (self.handleAppendSuccess sender reqPrev reqLen)
      ((self.withStorage storage).handleAppendSuccess sender reqPrev reqLen) := by
  obtain ⟨committed, committedRelated, commits⟩ :=
    (self.recordMatch sender (reqPrev + reqLen)).maybeCommit_alike simulation
      related
  obtain ⟨sent, sentRelated, sends⟩ :=
    (self.recordMatch sender (reqPrev +
      reqLen)).maybeCommit.1.sendAppendEntriesTo_alike simulation committedRelated
      sender
  have overCommits : ((self.withStorage storage).recordMatch sender
      (reqPrev + reqLen)).maybeCommit = _ := commits
  rw [handleAppendSuccess_eq, handleAppendSuccess_eq, overCommits]
  dsimp only
  rw [sends, show ((self.recordMatch sender (reqPrev + reqLen)).maybeCommit.1.withStorage
    committed).storage = committed from rfl,
    simulation.lastIndexTerm committedRelated,
    show ((self.recordMatch sender (reqPrev + reqLen)).maybeCommit.1.withStorage
      committed).nextIndex = (self.recordMatch sender
        (reqPrev + reqLen)).maybeCommit.1.nextIndex from rfl]
  split_ifs
  · exact ⟨sent, sentRelated, rfl⟩
  · exact ⟨committed, committedRelated, rfl⟩

theorem handleAppendReject_alike
    (sender : NodeId)
    (reqPrev : Nat) :
    Alike simulation (self.handleAppendReject sender reqPrev)
      ((self.withStorage storage).handleAppendReject sender reqPrev) := by
  obtain ⟨sent, sentRelated, sends⟩ :=
    (self.stepBack sender reqPrev).sendAppendEntriesTo_alike simulation related
      sender
  have overSends : ((self.withStorage storage).stepBack sender
      reqPrev).sendAppendEntriesTo sender = _ := sends
  rw [handleAppendReject_eq, handleAppendReject_eq, overSends,
    show (self.withStorage storage).nextIndex = self.nextIndex from rfl]
  split_ifs
  · exact ⟨sent, sentRelated, rfl⟩
  · exact ⟨storage, related, rfl⟩

theorem handleAppendEntriesResp_alike
    (sender : NodeId)
    (term : Nat)
    (success : Bool)
    (matchIndex now : Nat) :
    Alike simulation
      (self.handleAppendEntriesResp sender term success matchIndex now)
      ((self.withStorage storage).handleAppendEntriesResp sender term success matchIndex
        now) := by
  unfold handleAppendEntriesResp
  rw [self.over_currentTerm simulation related,
    show (self.withStorage storage).role = self.role from rfl,
    show (self.withStorage storage).lastAe = self.lastAe from rfl]
  dsimp only
  by_cases newer : term > self.currentTerm
  · rw [if_pos newer, if_pos newer]
    exact self.becomeFollower_alike simulation related term none
  rw [if_neg newer, if_neg newer]
  by_cases unrelated : self.role ≠ .leader ∨ term ≠ self.currentTerm
  · rw [if_pos unrelated, if_pos unrelated]
    exact ⟨storage, related, rfl⟩
  rw [if_neg unrelated, if_neg unrelated]
  cases self.lastAe.lookup sender with
  | none => exact ⟨storage, related, rfl⟩
  | some recorded =>
      let freed : RaftEngine S :=
        { self with aeInflight := self.aeInflight.erase sender }
      cases success with
      | true => exact freed.handleAppendSuccess_alike simulation related _ _ _
      | false => exact freed.handleAppendReject_alike simulation related _ _

/-- A call has the same effect over related storages. -/
theorem call_alike (call : Call) :
    Alike simulation (self.call call) ((self.withStorage storage).call call) := by
  cases call with
  | tick now =>
      obtain ⟨after, afterRelated, ticks⟩ := self.tick_alike simulation related now
      unfold RaftEngine.call
      dsimp only
      rw [ticks]
      exact ⟨after, afterRelated, rfl⟩
  | propose data =>
      obtain ⟨after, afterRelated, proposes⟩ :=
        self.propose_alike simulation related data
      unfold RaftEngine.call
      dsimp only
      rw [proposes]
      generalize self.propose data = result at afterRelated
      obtain ⟨engine, answer⟩ := result
      cases answer with
      | ok answer => exact ⟨after, afterRelated, rfl⟩
      | error error => exact ⟨after, afterRelated, rfl⟩
  | rpc sender msg now =>
      cases msg with
      | requestVote =>
          exact self.handleRequestVote_alike simulation related _ _ _ _ _ _
      | requestVoteResp =>
          exact self.handleRequestVoteResp_alike simulation related _ _ _ _
      | appendEntries =>
          exact self.handleAppendEntries_alike simulation related _ _ _ _ _ _ _ _
      | appendEntriesResp term success matchIndex =>
          exact self.handleAppendEntriesResp_alike simulation related sender term
            success matchIndex now
      | installSnapshot => exact ⟨storage, related, rfl⟩
      | installSnapshotResp => exact ⟨storage, related, rfl⟩
  | rpcFailure target kind =>
      unfold RaftEngine.call handleRpcFailure
      dsimp only
      split_ifs
      · exact ⟨storage, related, rfl⟩
      · exact ⟨storage, related, rfl⟩

end

/-! ## Runs -/

/-- The life of one engine since `new`, with the actions of each call. -/
def transcript
    (config : RaftConfig)
    (storage : S)
    (now : Nat) : System (RaftEngine S × List (List Action)) Call where
  init := (new config storage now, [])
  step := fun state call =>
    ((state.1.call call).1, state.2 ++ [(state.1.call call).2])

/-- Engines over related storages stay alike, and emit the same actions. -/
theorem transcript_alike
    (simulation : Simulation S T)
    (config : RaftConfig)
    {first : S}
    {second : T}
    (related : simulation.Related first second)
    (now : Nat)
    (calls : List Call) :
    Alike simulation ((transcript config first now).run calls)
      ((transcript config second now).run calls) := by
  induction calls using List.reverseRecOn with
  | nil => exact ⟨second, related, rfl⟩
  | append_singleton calls call inductionHypothesis =>
      rw [System.run_concat, System.run_concat]
      obtain ⟨storage, stillRelated, agrees⟩ := inductionHypothesis
      rw [agrees]
      generalize (transcript config first now).run calls = before
        at stillRelated
      obtain ⟨after, afterRelated, answers⟩ :=
        before.1.call_alike simulation stillRelated call
      refine ⟨after, afterRelated, ?_⟩
      show (((before.1.withStorage storage).call call).1,
        before.2 ++ [((before.1.withStorage storage).call call).2]) =
          ((before.1.call call).1.withStorage after,
            before.2 ++ [(before.1.call call).2])
      rw [answers]

/-- Engines over related storages answer every call of every run with the same
actions and every proposal with the same index, agree in all fields but the
storage, and keep their storages related. -/
theorem storage_abstraction
    (simulation : Simulation S T)
    (config : RaftConfig)
    (first : S)
    (second : T)
    (related : simulation.Related first second)
    (now : Nat)
    (calls : List Call) :
    Alike simulation ((transcript config first now).run calls)
        ((transcript config second now).run calls) ∧
      ∀ data, (((transcript config second now).run calls).1.propose data).2 =
        (((transcript config first now).run calls).1.propose data).2 := by
  have alike := transcript_alike simulation config related now calls
  refine ⟨alike, ?_⟩
  intro data
  obtain ⟨storage, stillRelated, agrees⟩ := alike
  obtain ⟨after, -, answers⟩ :=
    ((transcript config first now).run calls).1.propose_alike simulation
      stillRelated data
  rw [agrees, answers]

end RaftEngine

/-! ## The in-memory storage of the source -/

namespace MemoryStorage

/-- All fields of the storage, with entries of any index and a snapshot. -/
structure Fields extends Raw where
  snapshot : Option Snapshot
  deriving DecidableEq

/-- A stored snapshot touches nothing else. -/
def Fields.installSnapshot (self : Fields) (snap : Snapshot) : Fields :=
  { self with snapshot := some snap }

instance : Storage Fields where
  hardState self := self.hardState
  entry self := self.toRaw.entry
  lastIndexTerm self := self.toRaw.lastIndexTerm
  truncateFrom self index :=
    { self with toRaw := self.toRaw.truncateFrom index }
  persist self hardState entries :=
    ((self.toRaw.persist hardState entries).1,
      { self with toRaw := (self.toRaw.persist hardState entries).2 })

/-- The storage with a contiguous log and the fields of the source, whatever the
snapshot. -/
def fields : Simulation MemoryStorage Fields where
  Related first second := second.toRaw = first.raw
  hardState related := congrArg Raw.hardState related
  entry related index := congrFun (congrArg Raw.entry related) index
  lastIndexTerm related := congrArg Raw.lastIndexTerm related
  truncateFrom := by
    intro first second related index
    show second.toRaw.truncateFrom index = (first.truncateFrom index).raw
    rw [related, raw_truncateFrom]
  persist := by
    intro first second related hardState entries
    show (second.toRaw.persist hardState entries).2 =
      (first.persist hardState entries).2.raw
    rw [related, raw_persist]

/-- The theorem applies to a storage that holds a snapshot: a leader is elected and
gets a command. -/
theorem storage_abstraction_snapshot :
    ((RaftEngine.transcript (.cfg 1 [1, 2, 3])
        (Fields.installSnapshot ⟨new.raw, none⟩ ⟨4, 2, [1, 2, 3], [7]⟩) 0).run
        [.tick 150, .rpc 2 (.requestVoteResp 1 true) 160, .propose [7]]).2 =
      ((RaftEngine.transcript (.cfg 1 [1, 2, 3]) new 0).run
        [.tick 150, .rpc 2 (.requestVoteResp 1 true) 160, .propose [7]]).2 := by
  obtain ⟨⟨_, -, agrees⟩, -⟩ :=
    RaftEngine.storage_abstraction fields (.cfg 1 [1, 2, 3]) new
      (Fields.installSnapshot ⟨new.raw, none⟩ ⟨4, 2, [1, 2, 3], [7]⟩) rfl 0
      [.tick 150, .rpc 2 (.requestVoteResp 1 true) 160, .propose [7]]
  exact congrArg Prod.snd agrees

/-- An engine over the fields of the source keeps every entry at its own index,
whatever its calls are. -/
theorem engine_keeps_indexed
    (config : RaftConfig)
    (storage : Fields)
    (indexed : storage.toRaw.Indexed)
    (now : Nat)
    (calls : List Call) :
    ((RaftEngine.transcript config storage now).run
      calls).1.storage.toRaw.Indexed := by
  obtain ⟨contiguous, same⟩ := Raw.indexed_iff.mp indexed
  obtain ⟨after, related, agrees⟩ :=
    RaftEngine.transcript_alike fields config same.symm now calls
  rw [agrees]
  exact Raw.indexed_iff.mpr ⟨_, related.symm⟩

end MemoryStorage

end Libp2pRaft
