import Libp2pRaft.Raft.Membership
import Mathlib.Data.Finset.Card
import Mathlib.Data.Finset.Insert

/-!
# The consensus engine

`RaftEngine` of `raft/engine.rs`, function by function.  A method that takes
`&mut self` returns the new engine; one that pushes onto a vector of actions
returns the pushed actions.  The result of `Storage::persist` is dropped where
the source drops it.  The model is the release build: the `debug_assert` in
`handle_append_entries` is compiled out.  The parameters `from` and `to` of the
source are `sender` and `target` here.
-/

namespace Libp2pRaft

/-- What an outbound request asked for. -/
inductive RpcKind
  | requestVote
  | appendEntries
  | installSnapshot
  deriving DecidableEq, Repr

/-- What the engine asks its driver to do. -/
inductive Action
  | send (target : NodeId) (msg : RaftMessage)
  | broadcast (msg : RaftMessage)
  | apply (entries : List LogEntry)
  | becomeLeader (term : Nat)
  | becomeFollower (term : Nat) (leader : Option NodeId)
  | becomeCandidate (term : Nat)
  | snapshotInstallComplete (index : Nat)
  deriving DecidableEq, Repr

/-- Result of a tick. -/
structure TickOutcome where
  actions : List Action
  nextDeadline : Nat

/-- The state of one consensus engine. -/
structure RaftEngine (S : Type) where
  config : RaftConfig
  storage : S
  role : Role
  leader : Option NodeId
  votes : Finset NodeId
  electionDeadline : Nat
  heartbeatDeadline : Nat
  membership : Membership
  nextIndex : HashMap NodeId Nat
  matchIndex : HashMap NodeId Nat
  /-- Last outbound AppendEntries per peer: previous index and batch length. -/
  lastAe : HashMap NodeId (Nat × Nat)
  /-- Peers with an unanswered AppendEntries. -/
  aeInflight : Finset NodeId
  commitIndex : Nat
  lastApplied : Nat

namespace RaftEngine

variable {S : Type} [Storage S]

/-- A fresh follower over a given storage. -/
def new
    (config : RaftConfig)
    (storage : S)
    (now : Nat) : RaftEngine S where
  config := config
  storage := storage
  role := .follower
  leader := none
  votes := ∅
  electionDeadline := now + config.electionTimeout + config.electionJitter
  heartbeatDeadline := now + config.heartbeatInterval
  membership := Membership.new config.voters
  nextIndex := ∅
  matchIndex := ∅
  lastAe := ∅
  aeInflight := ∅
  commitIndex := 0
  lastApplied := 0

/-- The stored term. -/
def currentTerm (self : RaftEngine S) : Nat :=
  (Storage.hardState self.storage).currentTerm

def nodeId (self : RaftEngine S) : NodeId :=
  self.config.nodeId

def otherVoters (self : RaftEngine S) : List NodeId :=
  self.membership.otherVoters self.config.nodeId

def nextDeadline (self : RaftEngine S) : Nat :=
  match self.role with
  | .leader => min self.heartbeatDeadline self.electionDeadline
  | .follower | .candidate => self.electionDeadline

/-- Write to the storage, ignoring the outcome. -/
def persist
    (self : RaftEngine S)
    (hardState : Option HardState)
    (entries : List LogEntry) : RaftEngine S :=
  { self with storage := (Storage.persist self.storage hardState entries).2 }

def resetElectionDeadline
    (self : RaftEngine S)
    (now : Nat) : RaftEngine S :=
  { self with
    electionDeadline :=
      now + self.config.electionTimeout + self.config.electionJitter }

def becomeCandidate
    (self : RaftEngine S)
    (term : Nat) : RaftEngine S × List Action :=
  let self := { self with
    role := .candidate
    leader := none
    votes := {self.config.nodeId} }
  let hs : HardState :=
    { currentTerm := term, votedFor := some self.config.nodeId }
  (self.persist (some hs) [], [.becomeCandidate term])

def becomeFollower
    (self : RaftEngine S)
    (term : Nat)
    (leader : Option NodeId) : RaftEngine S × List Action :=
  let self :=
    if term > self.currentTerm then
      self.persist (some { currentTerm := term, votedFor := none }) []
    else
      self
  ({ self with
      role := .follower
      leader := leader
      votes := ∅
      nextIndex := ∅
      matchIndex := ∅
      lastAe := ∅
      aeInflight := ∅ },
    [.becomeFollower term leader])

/-- Reset the progress tables to one slot per other voter. -/
def becomeLeader
    (self : RaftEngine S)
    (term now : Nat) : RaftEngine S × List Action :=
  let (lastIndex, _) := Storage.lastIndexTerm self.storage
  let peers := self.membership.voters.filter fun voter =>
    voter ≠ self.config.nodeId
  let self := { self with
    role := .leader
    leader := some self.config.nodeId
    votes := ∅
    nextIndex := peers.foldl (fun map voter => map.insert voter (lastIndex + 1)) ∅
    matchIndex := peers.foldl (fun map voter => map.insert voter 0) ∅
    lastAe := ∅
    aeInflight := ∅
    heartbeatDeadline := now + self.config.heartbeatInterval }
  (self.resetElectionDeadline now, [.becomeLeader term])

def startElection
    (self : RaftEngine S)
    (now : Nat) : RaftEngine S × List Action :=
  let term := wrappingSucc self.currentTerm
  let (self, actions) := self.becomeCandidate term
  let self := self.resetElectionDeadline now
  let (lastLogIndex, lastLogTerm) := Storage.lastIndexTerm self.storage
  (self, actions ++
    [.broadcast
      (.requestVote term self.config.nodeId lastLogIndex lastLogTerm)])

/-- The AppendEntries for a peer: everything from its next index on, with the
position before it.  `none` when one of the entries is missing. -/
def buildAppendEntries
    (self : RaftEngine S)
    (target : NodeId) : Option (RaftMessage × Nat × Nat) := do
  let next ← self.nextIndex.lookup target
  let prevLogIndex := next - 1
  let prevLogTerm ←
    if prevLogIndex = 0 then
      some 0
    else
      (Storage.entry self.storage prevLogIndex).map LogEntry.term
  let (lastIndex, _) := Storage.lastIndexTerm self.storage
  let entries ← (List.range' next (lastIndex + 1 - next)).mapM
    (Storage.entry self.storage)
  some
    (.appendEntries self.currentTerm self.config.nodeId prevLogIndex
      prevLogTerm entries self.commitIndex,
    prevLogIndex, entries.length)

/-- At most one AppendEntries per peer is outstanding. -/
def sendAppendEntriesTo
    (self : RaftEngine S)
    (target : NodeId) : RaftEngine S × Option Action :=
  if target ∈ self.aeInflight then
    (self, none)
  else
    match self.buildAppendEntries target with
    | none => (self, none)
    | some (msg, prev, len) =>
        ({ self with
            lastAe := self.lastAe.insert target (prev, len)
            aeInflight := insert target self.aeInflight },
          some (.send target msg))

/-- Offer every peer of a list an AppendEntries. -/
def sendAppendEntriesToAll
    (self : RaftEngine S) :
    List NodeId → RaftEngine S × List Action
  | [] => (self, [])
  | peer :: peers =>
      let (self, action) := self.sendAppendEntriesTo peer
      let (self, actions) := self.sendAppendEntriesToAll peers
      (self, action.toList ++ actions)

def replicateActions (self : RaftEngine S) : RaftEngine S × List Action :=
  self.sendAppendEntriesToAll self.otherVoters

/-- Append a command on the leader. -/
def propose
    (self : RaftEngine S)
    (data : List UInt8) :
    RaftEngine S × Except RaftError (Nat × List Action) :=
  if self.role ≠ .leader then
    (self, .error .notLeader)
  else
    let (last, _) := Storage.lastIndexTerm self.storage
    let index := last + 1
    let entry : LogEntry :=
      { index := index, term := self.currentTerm, entryType := .command data }
    let self := self.persist none [entry]
    let (self, actions) := self.replicateActions
    (self, .ok (index, actions))

def tick
    (self : RaftEngine S)
    (now : Nat) : RaftEngine S × TickOutcome :=
  if now < self.nextDeadline then
    (self, { actions := [], nextDeadline := self.nextDeadline })
  else
    let (self, actions) :=
      match self.role with
      | .follower | .candidate =>
          if now ≥ self.electionDeadline then
            self.startElection now
          else
            (self, [])
      | .leader =>
          if now ≥ self.heartbeatDeadline then
            let (self, actions) := self.replicateActions
            ({ self with
                heartbeatDeadline := now + self.config.heartbeatInterval },
              actions)
          else
            (self, [])
    (self, { actions := actions, nextDeadline := self.nextDeadline })

def handleRpcFailure
    (self : RaftEngine S)
    (target : NodeId)
    (kind : RpcKind) : RaftEngine S × List Action :=
  if kind = .appendEntries then
    ({ self with aeInflight := self.aeInflight.erase target }, [])
  else
    (self, [])

/-- Move the commit index up and hand over what became committed. -/
def advanceCommitAndApply
    (self : RaftEngine S)
    (leaderCommit lastNew : Nat) : RaftEngine S × List Action :=
  let newCommit := min leaderCommit lastNew
  let self :=
    if newCommit > self.commitIndex then
      { self with commitIndex := newCommit }
    else
      self
  if self.commitIndex ≤ self.lastApplied then
    (self, [])
  else
    let entries :=
      (List.range' (self.lastApplied + 1)
        (self.commitIndex - self.lastApplied)).filterMap
        (Storage.entry self.storage)
    ({ self with lastApplied := self.commitIndex },
      if entries.isEmpty then [] else [.apply entries])

/-- The leader counts itself and the voters that match index `n`. -/
def replicationCount (self : RaftEngine S) (n : Nat) : Nat :=
  1 + self.otherVoters.countP fun peer =>
    decide ((self.matchIndex.lookup peer).getD 0 ≥ n)

/-- Index `n` holds an entry of the current term on a quorum. -/
def committable (self : RaftEngine S) (n : Nat) : Bool :=
  match Storage.entry self.storage n with
  | none => false
  | some e =>
      e.term = self.currentTerm &&
        self.replicationCount n ≥ self.membership.quorum

/-- Scan from the last index down to the commit index. -/
def maybeCommit (self : RaftEngine S) : RaftEngine S × List Action :=
  let (lastIndex, _) := Storage.lastIndexTerm self.storage
  let start := self.commitIndex + 1
  if start > lastIndex then
    (self, [])
  else
    let newCommit :=
      ((List.range' start (lastIndex + 1 - start)).reverse.find?
        self.committable).getD self.commitIndex
    if newCommit > self.commitIndex then
      self.advanceCommitAndApply newCommit newCommit
    else
      (self, [])

def handleRequestVote
    (self : RaftEngine S)
    (sender : NodeId)
    (term : Nat)
    (candidateId : NodeId)
    (lastLogIndex lastLogTerm now : Nat) : RaftEngine S × List Action :=
  let currentTerm := self.currentTerm
  if term < currentTerm then
    (self, [.send sender (.requestVoteResp currentTerm false)])
  else
    let (self, actions) :=
      if term > currentTerm then
        self.becomeFollower term none
      else
        (self, [])
    let hs := Storage.hardState self.storage
    let canVote := hs.votedFor = none ∨ hs.votedFor = some candidateId
    if canVote ∧ logIsUpToDate self.storage lastLogIndex lastLogTerm then
      let newHs : HardState :=
        { currentTerm := max term self.currentTerm
          votedFor := some candidateId }
      let self := { self.persist (some newHs) [] with
        role := .follower
        leader := none
        votes := ∅ }
      let self := self.resetElectionDeadline now
      (self, actions ++
        [.send sender (.requestVoteResp self.currentTerm true)])
    else
      (self, actions ++
        [.send sender (.requestVoteResp self.currentTerm false)])

def handleRequestVoteResp
    (self : RaftEngine S)
    (sender : NodeId)
    (term : Nat)
    (voteGranted : Bool)
    (now : Nat) : RaftEngine S × List Action :=
  let currentTerm := self.currentTerm
  if term < currentTerm then
    (self, [])
  else if term > currentTerm then
    self.becomeFollower term none
  else if self.role ≠ .candidate ∨ voteGranted = false then
    (self, [])
  else
    let self := { self with votes := insert sender self.votes }
    if self.votes.card ≥ self.membership.quorum then
      self.becomeLeader term now
    else
      (self, [])

/-- The stored log agrees with the sender's at the position before the batch. -/
def prevOk
    (self : RaftEngine S)
    (prevLogIndex prevLogTerm : Nat) : Bool :=
  if prevLogIndex = 0 then
    prevLogTerm = 0
  else
    ((Storage.entry self.storage prevLogIndex).map
      fun e => decide (e.term = prevLogTerm)).getD false

/-- The loop over a batch: skip entries stored with the same term, cut the log
at the first conflict, and report from where the batch is to be appended. -/
def skipMatching
    (storage : S)
    (prevLogIndex : Nat) :
    (i : Nat) → (appendFrom : Nat) → List LogEntry → S × Nat
  | _, appendFrom, [] => (storage, appendFrom)
  | i, _, e :: rest =>
      let idx := prevLogIndex + 1 + i
      match Storage.entry storage idx with
      | some existing =>
          if existing.term = e.term then
            skipMatching storage prevLogIndex (i + 1) (i + 1) rest
          else
            (Storage.truncateFrom storage idx, i)
      | none => (storage, i)

/-- Conditional truncation and append of one batch. -/
def storeEntries
    (self : RaftEngine S)
    (prevLogIndex : Nat)
    (entries : List LogEntry) : RaftEngine S :=
  let (storage, appendFrom) :=
    skipMatching self.storage prevLogIndex 0 0 entries
  let self := { self with storage := storage }
  if appendFrom < entries.length then
    self.persist none (entries.drop appendFrom)
  else
    self

def handleAppendEntries
    (self : RaftEngine S)
    (sender : NodeId)
    (term : Nat)
    (leaderId : NodeId)
    (prevLogIndex prevLogTerm : Nat)
    (entries : List LogEntry)
    (leaderCommit now : Nat) : RaftEngine S × List Action :=
  let currentTerm := self.currentTerm
  let (lastIndex, _) := Storage.lastIndexTerm self.storage
  if term < currentTerm then
    (self, [.send sender (.appendEntriesResp currentTerm false lastIndex)])
  else
    let (self, actions) :=
      if term > currentTerm then
        self.becomeFollower term (some leaderId)
      else if self.role ≠ .follower then
        self.becomeFollower term (some leaderId)
      else
        ({ self with leader := some leaderId }, [])
    let self := self.resetElectionDeadline now
    if self.prevOk prevLogIndex prevLogTerm then
      let self := self.storeEntries prevLogIndex entries
      let lastNew := prevLogIndex + entries.length
      let (self, applied) := self.advanceCommitAndApply leaderCommit lastNew
      (self, actions ++ applied ++
        [.send sender (.appendEntriesResp self.currentTerm true lastNew)])
    else
      let (lastIndex, _) := Storage.lastIndexTerm self.storage
      (self, actions ++
        [.send sender (.appendEntriesResp self.currentTerm false lastIndex)])

/-- Record a success for the request in `last_ae`, commit, and go on. -/
def handleAppendSuccess
    (self : RaftEngine S)
    (sender : NodeId)
    (reqPrev reqLen : Nat) : RaftEngine S × List Action :=
  let matched := reqPrev + reqLen
  let cur := (self.matchIndex.lookup sender).getD 0
  let self := { self with
    matchIndex := self.matchIndex.insert sender (max cur matched)
    nextIndex := self.nextIndex.insert sender (matched + 1) }
  let (self, actions) := self.maybeCommit
  let next := (self.nextIndex.lookup sender).getD 1
  let (last, _) := Storage.lastIndexTerm self.storage
  if next ≤ last then
    let (self, action) := self.sendAppendEntriesTo sender
    (self, actions ++ action.toList)
  else
    (self, actions)

/-- Step back by one after a reject of the request in `last_ae`. -/
def handleAppendReject
    (self : RaftEngine S)
    (sender : NodeId)
    (reqPrev : Nat) : RaftEngine S × List Action :=
  let next := (self.nextIndex.lookup sender).getD 1
  if next ≠ reqPrev + 1 then
    (self, [])
  else
    let matchI := (self.matchIndex.lookup sender).getD 0
    let newNext := max (max (next - 1) (matchI + 1)) 1
    let self := { self with nextIndex := self.nextIndex.insert sender newNext }
    let (self, action) := self.sendAppendEntriesTo sender
    (self, action.toList)

def handleAppendEntriesResp
    (self : RaftEngine S)
    (sender : NodeId)
    (term : Nat)
    (success : Bool)
    (_matchIndex _now : Nat) : RaftEngine S × List Action :=
  let currentTerm := self.currentTerm
  if term > currentTerm then
    self.becomeFollower term none
  else if self.role ≠ .leader ∨ term ≠ currentTerm then
    (self, [])
  else
    match self.lastAe.lookup sender with
    | none => (self, [])
    | some (reqPrev, reqLen) =>
        let self := { self with aeInflight := self.aeInflight.erase sender }
        if success then
          self.handleAppendSuccess sender reqPrev reqLen
        else
          self.handleAppendReject sender reqPrev

def handleRpc
    (self : RaftEngine S)
    (sender : NodeId)
    (msg : RaftMessage)
    (now : Nat) : RaftEngine S × List Action :=
  match msg with
  | .requestVote term candidateId lastLogIndex lastLogTerm =>
      self.handleRequestVote sender term candidateId lastLogIndex lastLogTerm now
  | .requestVoteResp term voteGranted =>
      self.handleRequestVoteResp sender term voteGranted now
  | .appendEntries term leaderId prevLogIndex prevLogTerm entries leaderCommit =>
      self.handleAppendEntries sender term leaderId prevLogIndex prevLogTerm
        entries leaderCommit now
  | .appendEntriesResp term success matchIndex =>
      self.handleAppendEntriesResp sender term success matchIndex now
  | .installSnapshot .. | .installSnapshotResp .. => (self, [])

end RaftEngine

end Libp2pRaft
