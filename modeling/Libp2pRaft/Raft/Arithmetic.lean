import Libp2pRaft.Raft.CommittedLog
import Libp2pRaft.Raft.Replies

/-!
# The sums the engine computes

Every addition of the source on terms and indices, function by function and in
the order of the source, as an exact natural.  A release build computes it
modulo `2 ^ 64`, a debug build panics when it is larger.  Saturating additions
and positions in a vector are left out.
-/

namespace Libp2pRaft

namespace RaftEngine

variable (self : MemoryEngine)

/-- `start_election`: the next term. -/
def startElectionSums : List Nat :=
  [self.currentTerm + 1]

/-- `become_leader`: the next index of each peer. -/
def becomeLeaderSums : List Nat :=
  self.otherVoters.map fun _ => (Storage.lastIndexTerm self.storage).1 + 1

/-- `build_append_entries`: the cursor moves behind each entry it read. -/
def buildAppendEntriesSums (target : NodeId) : List Nat :=
  match self.nextIndex.lookup target with
  | none => []
  | some next =>
      if next - 1 ≠ 0 ∧ Storage.entry self.storage (next - 1) = none then
        []
      else
        ((List.range' next
          ((Storage.lastIndexTerm self.storage).1 + 1 - next)).takeWhile
            fun idx => (Storage.entry self.storage idx).isSome).map (· + 1)

def sendAppendEntriesToSums (target : NodeId) : List Nat :=
  if target ∈ self.aeInflight then [] else self.buildAppendEntriesSums target

def sendAppendEntriesToAllSums (self : MemoryEngine) : List NodeId → List Nat
  | [] => []
  | peer :: peers =>
      self.sendAppendEntriesToSums peer ++
        sendAppendEntriesToAllSums (self.sendAppendEntriesTo peer).1 peers

def replicateSums : List Nat :=
  self.sendAppendEntriesToAllSums self.otherVoters

/-- `propose`: the index of the command. -/
def proposeSums (data : List UInt8) : List Nat :=
  if self.role ≠ .leader then
    []
  else
    [(Storage.lastIndexTerm self.storage).1 + 1] ++
      (self.appendCommand data).replicateSums

def tickSums (now : Nat) : List Nat :=
  if now < self.nextDeadline then
    []
  else
    match self.role with
    | .follower | .candidate =>
        if now ≥ self.electionDeadline then self.startElectionSums else []
    | .leader => if now ≥ self.heartbeatDeadline then self.replicateSums else []

/-- `advance_commit_and_apply`: the first index that is applied. -/
def advanceSums (leaderCommit lastNew : Nat) : List Nat :=
  if max self.commitIndex (min leaderCommit lastNew) ≤ self.lastApplied then
    []
  else
    [self.lastApplied + 1]

/-- `maybe_commit`: only what is applied. -/
def maybeCommitSums : List Nat :=
  let (lastIndex, _) := Storage.lastIndexTerm self.storage
  let start := self.commitIndex + 1
  if start > lastIndex then
    []
  else
    let newCommit :=
      ((List.range' start (lastIndex + 1 - start)).reverse.find?
        self.committable).getD self.commitIndex
    if newCommit > self.commitIndex then
      self.advanceSums newCommit newCommit
    else
      []

def requestVoteRespSums
    (sender : NodeId)
    (term : Nat)
    (voteGranted : Bool) : List Nat :=
  if term < self.currentTerm then
    []
  else if term > self.currentTerm then
    []
  else if self.role ≠ .candidate ∨ voteGranted = false then
    []
  else if (insert sender self.votes).card ≥ self.membership.quorum then
    self.becomeLeaderSums
  else
    []

/-- The loop of `handle_append_entries`: the index of each entry it looks at. -/
def skipSums
    (storage : MemoryStorage)
    (prevLogIndex : Nat) : (i : Nat) → List LogEntry → List Nat
  | _, [] => []
  | i, e :: rest =>
      [prevLogIndex + 1, prevLogIndex + 1 + i] ++
        match Storage.entry storage (prevLogIndex + 1 + i) with
        | some existing =>
            if existing.term = e.term then
              skipSums storage prevLogIndex (i + 1) rest
            else
              []
        | none => []

def appendEntriesSums
    (term : Nat)
    (leaderId : NodeId)
    (prevLogIndex prevLogTerm : Nat)
    (entries : List LogEntry)
    (leaderCommit now : Nat) : List Nat :=
  if term < self.currentTerm then
    []
  else
    let followed := (self.follow term leaderId now).1
    if followed.prevOk prevLogIndex prevLogTerm then
      skipSums followed.storage prevLogIndex 0 entries ++
        [prevLogIndex + entries.length] ++
        (followed.storeEntries prevLogIndex entries).advanceSums leaderCommit
          (prevLogIndex + entries.length)
    else
      []

/-- The branch of `handle_append_entries_resp` after a success. -/
def appendSuccessSums
    (sender : NodeId)
    (reqPrev reqLen : Nat) : List Nat :=
  let recorded := self.recordMatch sender (reqPrev + reqLen)
  let committed := recorded.maybeCommit.1
  [reqPrev + reqLen, reqPrev + reqLen + 1] ++ recorded.maybeCommitSums ++
    if (committed.nextIndex.lookup sender).getD 1 ≤
        (Storage.lastIndexTerm committed.storage).1 then
      committed.sendAppendEntriesToSums sender
    else
      []

/-- The branch of `handle_append_entries_resp` after a reject. -/
def appendRejectSums
    (sender : NodeId)
    (reqPrev : Nat) : List Nat :=
  let next := (self.nextIndex.lookup sender).getD 1
  let matchI := (self.matchIndex.lookup sender).getD 0
  [reqPrev + 1] ++
    if next ≠ reqPrev + 1 then
      []
    else
      let stepped := { self with
        nextIndex := self.nextIndex.insert sender
          (max (max (next - 1) (matchI + 1)) 1) }
      [matchI + 1] ++ stepped.sendAppendEntriesToSums sender

def appendEntriesRespSums
    (sender : NodeId)
    (term : Nat)
    (success : Bool) : List Nat :=
  if term > self.currentTerm then
    []
  else if self.role ≠ .leader ∨ term ≠ self.currentTerm then
    []
  else
    match self.lastAe.lookup sender with
    | none => []
    | some (reqPrev, reqLen) =>
        let freed := { self with aeInflight := self.aeInflight.erase sender }
        if success then
          freed.appendSuccessSums sender reqPrev reqLen
        else
          freed.appendRejectSums sender reqPrev

/-- The sums of one call. -/
def sums : Call → List Nat
  | .tick now => self.tickSums now
  | .propose data => self.proposeSums data
  | .rpc sender (.requestVoteResp term voteGranted) _ =>
      self.requestVoteRespSums sender term voteGranted
  | .rpc _ (.appendEntries term leaderId prevLogIndex prevLogTerm entries
      leaderCommit) now =>
      self.appendEntriesSums term leaderId prevLogIndex prevLogTerm entries
        leaderCommit now
  | .rpc sender (.appendEntriesResp term success _) _ =>
      self.appendEntriesRespSums sender term success
  | .rpc _ (.requestVote ..) _ => []
  | .rpc _ (.installSnapshot ..) _ => []
  | .rpc _ (.installSnapshotResp ..) _ => []
  | .rpcFailure _ _ => []

end RaftEngine

end Libp2pRaft
