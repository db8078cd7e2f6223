import Libp2pRaft.Library.TransitionSystem
import Libp2pRaft.Raft.Engine

/-!
# Calls into one engine

The public operations of the engine as one alphabet.  Every call has one of a
few outcomes; what holds after a call is shown outcome by outcome.
-/

namespace Libp2pRaft

open TransitionSystem

/-- The calls that change an engine. -/
inductive Call
  | tick (now : Nat)
  | propose (data : List UInt8)
  | rpc (sender : NodeId) (msg : RaftMessage) (now : Nat)
  | rpcFailure (target : NodeId) (kind : RpcKind)
  deriving DecidableEq, Repr

namespace RaftEngine

variable {S : Type} [Storage S]

/-- Make one call, and collect the actions it asks for. -/
def call (self : RaftEngine S) : Call → RaftEngine S × List Action
  | .tick now =>
      let (self, outcome) := self.tick now
      (self, outcome.actions)
  | .propose data =>
      match self.propose data with
      | (self, .ok (_, actions)) => (self, actions)
      | (self, .error _) => (self, [])
  | .rpc sender msg now => self.handleRpc sender msg now
  | .rpcFailure target kind => self.handleRpcFailure target kind

/-- The life of one engine since `new`. -/
def lifetime
    (config : RaftConfig)
    (storage : S)
    (now : Nat) : System (RaftEngine S) Call where
  init := new config storage now
  step := fun self call => (self.call call).1

/-- The engine after a vote request moved it to a later term. -/
def enterTerm
    (self : RaftEngine S)
    (term : Nat) : RaftEngine S × List Action :=
  if term > self.currentTerm then
    self.becomeFollower term none
  else
    (self, [])

/-- The vote request, of the term of the engine or a later one, is granted. -/
def Grants
    (self : RaftEngine S)
    (term : Nat)
    (candidateId : NodeId)
    (lastLogIndex lastLogTerm : Nat) : Prop :=
  ((Storage.hardState (self.enterTerm term).1.storage).votedFor = none ∨
    (Storage.hardState (self.enterTerm term).1.storage).votedFor =
      some candidateId) ∧
  logIsUpToDate (self.enterTerm term).1.storage lastLogIndex lastLogTerm = true

instance
    (self : RaftEngine S)
    (term : Nat)
    (candidateId : NodeId)
    (lastLogIndex lastLogTerm : Nat) :
    Decidable (self.Grants term candidateId lastLogIndex lastLogTerm) :=
  inferInstanceAs (Decidable ((_ ∨ _) ∧ _))

/-- The engine once it follows the sender of an AppendEntries. -/
def follow
    (self : RaftEngine S)
    (term : Nat)
    (leaderId : NodeId)
    (now : Nat) : RaftEngine S × List Action :=
  let (self, actions) :=
    if term > self.currentTerm then
      self.becomeFollower term (some leaderId)
    else if self.role ≠ .follower then
      self.becomeFollower term (some leaderId)
    else
      ({ self with leader := some leaderId }, [])
  (self.resetElectionDeadline now, actions)

/-- The engine once it recorded a vote. -/
def recordVote
    (self : RaftEngine S)
    (term : Nat)
    (candidateId : NodeId)
    (now : Nat) : RaftEngine S :=
  let newHs : HardState :=
    { currentTerm := max term self.currentTerm
      votedFor := some candidateId }
  let self := { self.persist (some newHs) [] with
    role := .follower
    leader := none
    votes := ∅ }
  self.resetElectionDeadline now

/-- The engine once it wrote a proposed command. -/
def appendCommand
    (self : RaftEngine S)
    (data : List UInt8) : RaftEngine S :=
  self.persist none
    [{ index := (Storage.lastIndexTerm self.storage).1 + 1
       term := self.currentTerm
       entryType := .command data }]

/-- What a call can do to an engine. -/
inductive Outcome (self : RaftEngine S) :
    Call → RaftEngine S × List Action → Prop
  | ignored (call : Call) : Outcome self call (self, [])
  | campaigned (now : Nat)
      (waiting : self.role ≠ .leader)
      (due : self.electionDeadline ≤ now) :
      Outcome self (.tick now) (self.startElection now)
  | heartbeat (now : Nat)
      (leading : self.role = .leader) :
      Outcome self (.tick now)
        ({ self.replicateActions.1 with
            heartbeatDeadline :=
              now + self.replicateActions.1.config.heartbeatInterval },
          self.replicateActions.2)
  | proposed (data : List UInt8)
      (leading : self.role = .leader) :
      Outcome self (.propose data) (self.appendCommand data).replicateActions
  | failed (target : NodeId) :
      Outcome self (.rpcFailure target .appendEntries)
        ({ self with aeInflight := self.aeInflight.erase target }, [])
  | voteStale (sender : NodeId) (term : Nat) (candidateId : NodeId)
      (lastLogIndex lastLogTerm now : Nat)
      (stale : term < self.currentTerm) :
      Outcome self
        (.rpc sender
          (.requestVote term candidateId lastLogIndex lastLogTerm) now)
        (self, [.send sender (.requestVoteResp self.currentTerm false)])
  | voteRefused (sender : NodeId) (term : Nat) (candidateId : NodeId)
      (lastLogIndex lastLogTerm now : Nat)
      (recent : self.currentTerm ≤ term) :
      Outcome self
        (.rpc sender
          (.requestVote term candidateId lastLogIndex lastLogTerm) now)
        ((self.enterTerm term).1, (self.enterTerm term).2 ++
          [.send sender
            (.requestVoteResp (self.enterTerm term).1.currentTerm false)])
  | voteGranted (sender : NodeId) (term : Nat) (candidateId : NodeId)
      (lastLogIndex lastLogTerm now : Nat)
      (recent : self.currentTerm ≤ term)
      (grants : self.Grants term candidateId lastLogIndex lastLogTerm) :
      Outcome self
        (.rpc sender
          (.requestVote term candidateId lastLogIndex lastLogTerm) now)
        ((self.enterTerm term).1.recordVote term candidateId now,
          (self.enterTerm term).2 ++
          [.send sender
            (.requestVoteResp
              ((self.enterTerm term).1.recordVote term candidateId
                now).currentTerm true)])
  | deposed (sender : NodeId) (msg : RaftMessage) (now term : Nat)
      (reply : (∃ granted, msg = .requestVoteResp term granted) ∨
        ∃ success matchIndex, msg = .appendEntriesResp term success matchIndex)
      (newer : self.currentTerm < term) :
      Outcome self (.rpc sender msg now) (self.becomeFollower term none)
  | counted (sender : NodeId) (now : Nat)
      (campaigning : self.role = .candidate)
      (few : (insert sender self.votes).card < self.membership.quorum) :
      Outcome self
        (.rpc sender (.requestVoteResp self.currentTerm true) now)
        ({ self with votes := insert sender self.votes }, [])
  | elected (sender : NodeId) (now : Nat)
      (campaigning : self.role = .candidate)
      (enough : self.membership.quorum ≤ (insert sender self.votes).card) :
      Outcome self
        (.rpc sender (.requestVoteResp self.currentTerm true) now)
        ({ self with votes := insert sender self.votes }.becomeLeader
          self.currentTerm now)
  | appendStale (sender : NodeId) (term : Nat) (leaderId : NodeId)
      (prevLogIndex prevLogTerm : Nat) (entries : List LogEntry)
      (leaderCommit now : Nat)
      (stale : term < self.currentTerm) :
      Outcome self
        (.rpc sender
          (.appendEntries term leaderId prevLogIndex prevLogTerm entries
            leaderCommit) now)
        (self, [.send sender
          (.appendEntriesResp self.currentTerm false
            (Storage.lastIndexTerm self.storage).1)])
  | appendRefused (sender : NodeId) (term : Nat) (leaderId : NodeId)
      (prevLogIndex prevLogTerm : Nat) (entries : List LogEntry)
      (leaderCommit now : Nat)
      (recent : self.currentTerm ≤ term)
      (mismatch :
        (self.follow term leaderId now).1.prevOk prevLogIndex prevLogTerm =
          false) :
      Outcome self
        (.rpc sender
          (.appendEntries term leaderId prevLogIndex prevLogTerm entries
            leaderCommit) now)
        ((self.follow term leaderId now).1,
          (self.follow term leaderId now).2 ++
          [.send sender
            (.appendEntriesResp (self.follow term leaderId now).1.currentTerm
              false
              (Storage.lastIndexTerm
                (self.follow term leaderId now).1.storage).1)])
  | appendAccepted (sender : NodeId) (term : Nat) (leaderId : NodeId)
      (prevLogIndex prevLogTerm : Nat) (entries : List LogEntry)
      (leaderCommit now : Nat)
      (recent : self.currentTerm ≤ term)
      (agreed :
        (self.follow term leaderId now).1.prevOk prevLogIndex prevLogTerm =
          true)
      (stored : RaftEngine S)
      (storedEq : stored =
        (self.follow term leaderId now).1.storeEntries prevLogIndex entries) :
      Outcome self
        (.rpc sender
          (.appendEntries term leaderId prevLogIndex prevLogTerm entries
            leaderCommit) now)
        ((stored.advanceCommitAndApply leaderCommit
            (prevLogIndex + entries.length)).1,
          (self.follow term leaderId now).2 ++
          (stored.advanceCommitAndApply leaderCommit
            (prevLogIndex + entries.length)).2 ++
          [.send sender
            (.appendEntriesResp
              (stored.advanceCommitAndApply leaderCommit
                (prevLogIndex + entries.length)).1.currentTerm true
              (prevLogIndex + entries.length))])
  | matched (sender : NodeId) (matchIndex now reqPrev reqLen : Nat)
      (leading : self.role = .leader)
      (recorded : self.lastAe.lookup sender = some (reqPrev, reqLen)) :
      Outcome self
        (.rpc sender
          (.appendEntriesResp self.currentTerm true matchIndex) now)
        ({ self with
            aeInflight := self.aeInflight.erase sender }.handleAppendSuccess
          sender reqPrev reqLen)
  | unmatched (sender : NodeId) (matchIndex now reqPrev reqLen : Nat)
      (leading : self.role = .leader)
      (recorded : self.lastAe.lookup sender = some (reqPrev, reqLen)) :
      Outcome self
        (.rpc sender
          (.appendEntriesResp self.currentTerm false matchIndex) now)
        ({ self with
            aeInflight := self.aeInflight.erase sender }.handleAppendReject
          sender reqPrev)

variable (self : RaftEngine S)

theorem tick_outcome (now : Nat) :
    Outcome self (.tick now) (self.call (.tick now)) := by
  by_cases early : now < self.nextDeadline
  · have idle : self.call (.tick now) = (self, []) := by
      simp [call, tick, early]
    rw [idle]
    exact .ignored _
  · by_cases leading : self.role = .leader
    · by_cases due : self.heartbeatDeadline ≤ now
      · convert Outcome.heartbeat now leading using 1
        simp [call, tick, early, leading, due]
      · convert Outcome.ignored (.tick now) using 1
        simp [call, tick, early, leading, due]
    · have waiting : self.nextDeadline = self.electionDeadline := by
        cases role : self.role with
        | leader => exact absurd role leading
        | follower => simp [nextDeadline, role]
        | candidate => simp [nextDeadline, role]
      have due : self.electionDeadline ≤ now := by omega
      convert Outcome.campaigned now leading due using 1
      cases role : self.role with
      | leader => exact absurd role leading
      | follower => simp [call, tick, early, role, due]
      | candidate => simp [call, tick, early, role, due]

/-- A leader takes a proposal. -/
theorem call_of_propose
    (leading : self.role = .leader)
    (data : List UInt8) :
    self.call (.propose data) = (self.appendCommand data).replicateActions := by
  simp [call, propose, leading, appendCommand]

theorem propose_outcome (data : List UInt8) :
    Outcome self (.propose data) (self.call (.propose data)) := by
  by_cases leading : self.role = .leader
  · rw [self.call_of_propose leading]
    exact .proposed data leading
  · have refused : self.call (.propose data) = (self, []) := by
      simp [call, propose, leading]
    rw [refused]
    exact .ignored _

/-- What becomes of a vote request whose term is not stale. -/
theorem handleRequestVote_of_recent
    (sender : NodeId)
    {term : Nat}
    (candidateId : NodeId)
    (lastLogIndex lastLogTerm now : Nat)
    (recent : self.currentTerm ≤ term) :
    self.handleRequestVote sender term candidateId lastLogIndex lastLogTerm now =
      if self.Grants term candidateId lastLogIndex lastLogTerm then
        ((self.enterTerm term).1.recordVote term candidateId now,
          (self.enterTerm term).2 ++
            [.send sender
              (.requestVoteResp
                ((self.enterTerm term).1.recordVote term candidateId
                  now).currentTerm true)])
      else
        ((self.enterTerm term).1,
          (self.enterTerm term).2 ++
            [.send sender
              (.requestVoteResp (self.enterTerm term).1.currentTerm false)]) :=
  if_neg (Nat.not_lt.mpr recent)

/-- A granted vote request. -/
theorem call_of_grants
    (sender : NodeId)
    {term : Nat}
    {candidateId : NodeId}
    {lastLogIndex lastLogTerm : Nat}
    (now : Nat)
    (recent : self.currentTerm ≤ term)
    (grants : self.Grants term candidateId lastLogIndex lastLogTerm) :
    self.call (.rpc sender
      (.requestVote term candidateId lastLogIndex lastLogTerm) now) =
      ((self.enterTerm term).1.recordVote term candidateId now,
        (self.enterTerm term).2 ++
        [.send sender
          (.requestVoteResp
            ((self.enterTerm term).1.recordVote term candidateId
              now).currentTerm true)]) :=
  (self.handleRequestVote_of_recent sender candidateId lastLogIndex lastLogTerm
    now recent).trans (if_pos grants)

theorem requestVote_outcome
    (sender : NodeId)
    (term : Nat)
    (candidateId : NodeId)
    (lastLogIndex lastLogTerm now : Nat) :
    Outcome self
      (.rpc sender (.requestVote term candidateId lastLogIndex lastLogTerm) now)
      (self.handleRequestVote sender term candidateId lastLogIndex lastLogTerm
        now) := by
  unfold handleRequestVote
  by_cases stale : term < self.currentTerm
  · simp only [stale, if_true]
    exact .voteStale _ _ _ _ _ _ stale
  · have entered : (if term > self.currentTerm then
        self.becomeFollower term none else (self, [])) =
          self.enterTerm term := rfl
    simp only [stale, if_false, entered]
    split_ifs with granted
    · exact .voteGranted _ _ _ _ _ _ (by omega) granted
    · exact .voteRefused _ _ _ _ _ _ (by omega)

theorem requestVoteResp_outcome
    (sender : NodeId)
    (term : Nat)
    (voteGranted : Bool)
    (now : Nat) :
    Outcome self (.rpc sender (.requestVoteResp term voteGranted) now)
      (self.handleRequestVoteResp sender term voteGranted now) := by
  simp only [handleRequestVoteResp]
  split_ifs with stale newer unrelated enough
  · exact .ignored _
  · exact .deposed _ _ _ _ (.inl ⟨_, rfl⟩) newer
  · exact .ignored _
  · simp only [not_or, ne_eq, not_not, Bool.not_eq_false] at unrelated
    obtain ⟨campaigning, rfl⟩ := unrelated
    obtain rfl : term = self.currentTerm := by omega
    exact .elected _ _ campaigning enough
  · simp only [not_or, ne_eq, not_not, Bool.not_eq_false] at unrelated
    obtain ⟨campaigning, rfl⟩ := unrelated
    obtain rfl : term = self.currentTerm := by omega
    exact .counted _ _ campaigning (by simpa using enough)

/-- An AppendEntries that is not stale makes the engine follow its sender, and
is then stored or refused. -/
theorem handleAppendEntries_of_recent
    (sender : NodeId)
    {term : Nat}
    (leaderId : NodeId)
    (prevLogIndex prevLogTerm : Nat)
    (entries : List LogEntry)
    (leaderCommit now : Nat)
    (recent : self.currentTerm ≤ term) :
    self.handleAppendEntries sender term leaderId prevLogIndex prevLogTerm
        entries leaderCommit now =
      if (self.follow term leaderId now).1.prevOk prevLogIndex prevLogTerm then
        ((((self.follow term leaderId now).1.storeEntries prevLogIndex
            entries).advanceCommitAndApply leaderCommit
              (prevLogIndex + entries.length)).1,
          (self.follow term leaderId now).2 ++
          (((self.follow term leaderId now).1.storeEntries prevLogIndex
            entries).advanceCommitAndApply leaderCommit
              (prevLogIndex + entries.length)).2 ++
          [.send sender
            (.appendEntriesResp
              (((self.follow term leaderId now).1.storeEntries prevLogIndex
                entries).advanceCommitAndApply leaderCommit
                  (prevLogIndex + entries.length)).1.currentTerm true
              (prevLogIndex + entries.length))])
      else
        ((self.follow term leaderId now).1,
          (self.follow term leaderId now).2 ++
          [.send sender
            (.appendEntriesResp (self.follow term leaderId now).1.currentTerm
              false
              (Storage.lastIndexTerm
                (self.follow term leaderId now).1.storage).1)]) :=
  if_neg (Nat.not_lt.mpr recent)

theorem appendEntries_outcome
    (sender : NodeId)
    (term : Nat)
    (leaderId : NodeId)
    (prevLogIndex prevLogTerm : Nat)
    (entries : List LogEntry)
    (leaderCommit now : Nat) :
    Outcome self
      (.rpc sender
        (.appendEntries term leaderId prevLogIndex prevLogTerm entries
          leaderCommit) now)
      (self.handleAppendEntries sender term leaderId prevLogIndex prevLogTerm
        entries leaderCommit now) := by
  by_cases stale : term < self.currentTerm
  · have applied : self.handleAppendEntries sender term leaderId prevLogIndex
        prevLogTerm entries leaderCommit now = (self, [.send sender
          (.appendEntriesResp self.currentTerm false
            (Storage.lastIndexTerm self.storage).1)]) := by
      simp [handleAppendEntries, stale]
    rw [applied]
    exact .appendStale _ _ _ _ _ _ _ _ stale
  · have recent : self.currentTerm ≤ term := by omega
    rw [self.handleAppendEntries_of_recent sender leaderId prevLogIndex
      prevLogTerm entries leaderCommit now recent]
    split_ifs with agreed
    · exact .appendAccepted _ _ _ _ _ _ _ _ recent agreed _ rfl
    · exact .appendRefused _ _ _ _ _ _ _ _ recent (by simpa using agreed)

theorem appendEntriesResp_outcome
    (sender : NodeId)
    (term : Nat)
    (success : Bool)
    (matchIndex now : Nat) :
    Outcome self
      (.rpc sender (.appendEntriesResp term success matchIndex) now)
      (self.handleAppendEntriesResp sender term success matchIndex now) := by
  simp only [handleAppendEntriesResp]
  by_cases newer : term > self.currentTerm
  · rw [if_pos newer]
    exact .deposed _ _ _ _ (.inr ⟨_, _, rfl⟩) newer
  rw [if_neg newer]
  by_cases unrelated : self.role ≠ .leader ∨ term ≠ self.currentTerm
  · rw [if_pos unrelated]
    exact .ignored _
  · rw [if_neg unrelated]
    simp only [not_or, ne_eq, not_not] at unrelated
    obtain ⟨leading, rfl⟩ := unrelated
    cases recorded : self.lastAe.lookup sender with
    | none => exact .ignored _
    | some request =>
        cases success with
        | true => exact .matched _ _ _ _ _ leading recorded
        | false => exact .unmatched _ _ _ _ _ leading recorded

/-- A leader takes the success of a recorded request. -/
theorem call_of_success
    {sender : NodeId}
    {reqPrev reqLen : Nat}
    (leading : self.role = .leader)
    (recorded : self.lastAe.lookup sender = some (reqPrev, reqLen))
    (matchIndex now : Nat) :
    self.call (.rpc sender
        (.appendEntriesResp self.currentTerm true matchIndex) now) =
      { self with
        aeInflight := self.aeInflight.erase sender }.handleAppendSuccess sender
          reqPrev reqLen := by
  simp [call, handleRpc, handleAppendEntriesResp, leading, recorded]

/-- A leader takes the reject of a recorded request. -/
theorem call_of_reject
    {sender : NodeId}
    {reqPrev reqLen : Nat}
    (leading : self.role = .leader)
    (recorded : self.lastAe.lookup sender = some (reqPrev, reqLen))
    (matchIndex now : Nat) :
    self.call (.rpc sender
        (.appendEntriesResp self.currentTerm false matchIndex) now) =
      { self with
        aeInflight := self.aeInflight.erase sender }.handleAppendReject sender
          reqPrev := by
  simp [call, handleRpc, handleAppendEntriesResp, leading, recorded]

/-- Every call has one of the outcomes. -/
theorem call_outcome (call : Call) :
    Outcome self call (self.call call) := by
  cases call with
  | tick now => exact self.tick_outcome now
  | propose data => exact self.propose_outcome data
  | rpcFailure target kind =>
      cases kind with
      | appendEntries => exact .failed target
      | requestVote => exact .ignored _
      | installSnapshot => exact .ignored _
  | rpc sender msg now =>
      cases msg with
      | requestVote => exact self.requestVote_outcome ..
      | requestVoteResp => exact self.requestVoteResp_outcome ..
      | appendEntries => exact self.appendEntries_outcome ..
      | appendEntriesResp => exact self.appendEntriesResp_outcome ..
      | installSnapshot => exact .ignored _
      | installSnapshotResp => exact .ignored _

end RaftEngine

end Libp2pRaft
