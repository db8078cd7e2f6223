import Libp2pRaft.Protocol.Accepted
import Libp2pRaft.Protocol.FrameSize
import Libp2pRaft.Raft.AppendReference
import Libp2pRaft.Raft.Arithmetic
import Libp2pRaft.Raft.CommitIndex

/-!
# Bounds on the indices of an engine

The indices an engine keeps are bounded by its log, and the log by the memory
of a process; a received batch is bounded by its frame.  Only the term comes
from a peer as it is.
-/

namespace Libp2pRaft

open Consensus

/-- A message that decoding some frame yields. -/
def RaftMessage.Decodable (msg : RaftMessage) : Prop :=
  ∃ bytes correlationId, decodeEnvelope bytes = .ok ⟨correlationId, msg⟩

/-- What a peer can encode can be decoded. -/
theorem RaftMessage.decodable
    {msg : RaftMessage}
    (typed : msg.Typed)
    (short : (Bincode.serialize ⟨0, msg⟩).length < 2 ^ 32) :
    msg.Decodable :=
  ⟨_, 0, decodeEnvelope_encoded ⟨Nat.two_pow_pos 64, typed⟩ short []⟩

theorem RaftMessage.Decodable.typed
    {msg : RaftMessage}
    (decodable : msg.Decodable) :
    msg.Typed := by
  obtain ⟨bytes, correlationId, decoded⟩ := decodable
  exact (decodeEnvelope_ok decoded).1.2

/-- A decoded batch has fewer entries than its frame has bytes. -/
theorem RaftMessage.Decodable.length_lt
    {term : Nat}
    {leaderId : NodeId}
    {prevLogIndex prevLogTerm : Nat}
    {entries : List LogEntry}
    {leaderCommit : Nat}
    (decodable : (RaftMessage.appendEntries term leaderId prevLogIndex
      prevLogTerm entries leaderCommit).Decodable) :
    entries.length < 2 ^ 32 := by
  obtain ⟨bytes, correlationId, decoded⟩ := decodable
  have payload := (decodeEnvelope_ok decoded).2
  rw [Bincode.length_serialize_appendEntries] at payload
  have short := length_le_batchBytes entries
  omega

namespace RaftEngine

/-! ## Bounded indices -/

/-- The progress tables of an engine point into a log. -/
structure TablesBounded (engine : MemoryEngine) : Prop where
  matched : ∀ peer, (engine.matchIndex.lookup peer).getD 0 ≤ 2 ^ 63
  sent : ∀ peer prev len, engine.lastAe.lookup peer = some (prev, len) →
    prev + len ≤ 2 ^ 63

/-- What an engine keeps stays far below the end of `u64`. -/
structure Bounded (engine : MemoryEngine) : Prop where
  term : engine.currentTerm < 2 ^ 64
  tables : engine.TablesBounded
  commitIndex : engine.commitIndex < 2 ^ 63 + 2 ^ 32
  lastApplied : engine.lastApplied < 2 ^ 63 + 2 ^ 32

/-- What a call finds: a log that fits a vector, and a message, if any, that was
decoded. -/
def Received (self : MemoryEngine) (call : Call) : Prop :=
  self.storage.entries.length < 2 ^ 63 ∧
    ∀ sender msg now, call = .rpc sender msg now → msg.Decodable

variable {self : MemoryEngine} {call : Call}
  {result : MemoryEngine × List Action}

/-- The term stays a `u64`. -/
theorem Outcome.currentTerm_lt
    (outcome : Outcome self call result)
    (inRange : self.currentTerm < 2 ^ 64)
    (received : self.Received call) :
    result.1.currentTerm < 2 ^ 64 := by
  have entered : ∀ term, term < 2 ^ 64 →
      (self.enterTerm term).1.currentTerm < 2 ^ 64 := by
    intro term small
    rw [← view_term, view_enterTerm]
    split_ifs
    · exact small
    · exact inRange
  have followed : ∀ term leaderId now, term < 2 ^ 64 →
      (self.follow term leaderId now).1.currentTerm < 2 ^ 64 := by
    intro term leaderId now small
    rw [← view_term, view_follow]
    split_ifs
    · exact small
    · exact inRange
  have typed : ∀ sender msg now, call = .rpc sender msg now → msg.Typed :=
    fun sender msg now same => (received.2 sender msg now same).typed
  cases outcome with
  | ignored => exact inRange
  | campaigned now => exact Nat.mod_lt _ (by decide)
  | heartbeat =>
      exact (congrArg View.term self.view_replicateActions).trans_lt inRange
  | proposed data =>
      rw [← view_term, view_replicateActions, view_appendCommand]
      exact inRange
  | failed => exact inRange
  | voteStale => exact inRange
  | voteRefused sender term =>
      exact entered term (typed _ _ _ rfl term (by simp [RaftMessage.numbers]))
  | voteGranted sender term =>
      have small := typed _ _ _ rfl term (by simp [RaftMessage.numbers])
      exact max_lt small (entered term small)
  | deposed sender msg now term reply newer =>
      have small : term < 2 ^ 64 := by
        apply typed _ _ _ rfl term
        rcases reply with ⟨granted, rfl⟩ | ⟨success, matchIndex, rfl⟩
        · simp [RaftMessage.numbers]
        · simp [RaftMessage.numbers]
      rw [← view_term, view_becomeFollower, if_pos newer]
      exact small
  | counted => exact inRange
  | elected => exact inRange
  | appendStale => exact inRange
  | appendRefused sender term leaderId prevLogIndex prevLogTerm entries
      leaderCommit now =>
      exact followed term leaderId now
        (typed _ _ _ rfl term (by simp [RaftMessage.numbers]))
  | appendAccepted sender term leaderId prevLogIndex prevLogTerm entries
      leaderCommit now recent agreed stored storedEq =>
      rw [← view_term, view_advanceCommitAndApply, view_term, storedEq,
        currentTerm_storeEntries]
      exact followed term leaderId now
        (typed _ _ _ rfl term (by simp [RaftMessage.numbers]))
  | matched sender matchIndex now reqPrev reqLen =>
      rw [← view_term, view_handleAppendSuccess]
      exact inRange
  | unmatched sender matchIndex now reqPrev reqLen =>
      rw [← view_term, view_handleAppendReject]
      exact inRange

/-! ## Indices across a call -/

theorem TablesBounded.empty
    {self : MemoryEngine}
    (noMatch : self.matchIndex = ∅)
    (noneSent : self.lastAe = ∅) :
    self.TablesBounded := by
  constructor
  · intro peer
    rw [noMatch, AList.lookup_empty]
    exact Nat.zero_le _
  · intro peer prev len found
    rw [noneSent, AList.lookup_empty] at found
    contradiction

theorem TablesBounded.becomeFollower
    (self : MemoryEngine)
    (term : Nat)
    (leader : Option NodeId) :
    (self.becomeFollower term leader).1.TablesBounded := by
  rw [becomeFollower_eq]
  exact .empty rfl rfl

theorem TablesBounded.enterTerm
    {self : MemoryEngine}
    (bounded : self.TablesBounded)
    (term : Nat) :
    (self.enterTerm term).1.TablesBounded := by
  unfold RaftEngine.enterTerm
  split_ifs
  · exact .becomeFollower self term none
  · exact bounded

theorem TablesBounded.follow
    {self : MemoryEngine}
    (bounded : self.TablesBounded)
    (term : Nat)
    (leaderId : NodeId)
    (now : Nat) :
    (self.follow term leaderId now).1.TablesBounded := by
  have stepped := TablesBounded.becomeFollower self term (some leaderId)
  unfold RaftEngine.follow
  split_ifs
  · exact ⟨stepped.matched, stepped.sent⟩
  · exact ⟨stepped.matched, stepped.sent⟩
  · exact ⟨bounded.matched, bounded.sent⟩

/-- What is sent to a peer ends at the end of the log. -/
theorem TablesBounded.sendAppendEntriesTo
    {self : MemoryEngine}
    (bounded : self.TablesBounded)
    (fits : self.storage.entries.length ≤ 2 ^ 63)
    (target : NodeId) :
    (self.sendAppendEntriesTo target).1.TablesBounded := by
  rcases self.sendAppendEntriesTo_cases target with
    idle | ⟨msg, prev, len, -, built, sent⟩
  · rw [idle]
    exact bounded
  · obtain ⟨prevTerm, known, -, lenEq, -⟩ := self.buildAppendEntries_some built
    have inside := known.le_length
    rw [List.length_drop] at lenEq
    rw [MemoryStorage.storage_log] at lenEq inside
    rw [sent]
    refine ⟨bounded.matched, fun peer otherPrev otherLen found => ?_⟩
    by_cases same : peer = target
    · subst same
      simp only [AList.lookup_insert, Option.some.injEq, Prod.mk.injEq] at found
      omega
    · simp only [AList.lookup_insert_ne same] at found
      exact bounded.sent peer otherPrev otherLen found

theorem TablesBounded.sendAppendEntriesToAll
    {self : MemoryEngine}
    (bounded : self.TablesBounded)
    (fits : self.storage.entries.length ≤ 2 ^ 63)
    (peers : List NodeId) :
    (self.sendAppendEntriesToAll peers).1.TablesBounded := by
  induction peers generalizing self with
  | nil => exact bounded
  | cons peer peers inductionHypothesis =>
      apply inductionHypothesis (bounded.sendAppendEntriesTo fits peer)
      have sameLog := congrArg View.log (self.view_sendAppendEntriesTo peer)
      rw [view_log, view_log] at sameLog
      rw [sameLog]
      exact fits

theorem TablesBounded.recordMatch
    {self : MemoryEngine}
    (bounded : self.TablesBounded)
    (sender : NodeId)
    {matched : Nat}
    (inside : matched ≤ 2 ^ 63) :
    (self.recordMatch sender matched).TablesBounded := by
  refine ⟨fun peer => ?_, bounded.sent⟩
  simp only [RaftEngine.recordMatch]
  by_cases same : peer = sender
  · rw [same, AList.lookup_insert]
    exact max_le (bounded.matched sender) inside
  · rw [AList.lookup_insert_ne same]
    exact bounded.matched peer

/-- The progress tables stay inside the log. -/
theorem Outcome.tablesBounded
    (outcome : Outcome self call result)
    (bounded : self.TablesBounded)
    (fits : self.storage.entries.length < 2 ^ 63) :
    result.1.TablesBounded := by
  cases outcome with
  | ignored => exact bounded
  | campaigned => exact ⟨bounded.matched, bounded.sent⟩
  | heartbeat =>
      have all := bounded.sendAppendEntriesToAll fits.le self.otherVoters
      exact ⟨all.matched, all.sent⟩
  | proposed data =>
      have written := congrArg View.log (self.view_appendCommand data)
      simp only [view_log] at written
      have kept : (self.appendCommand data).TablesBounded :=
        ⟨bounded.matched, bounded.sent⟩
      apply kept.sendAppendEntriesToAll
      rw [written, List.length_append, List.length_singleton]
      exact fits
  | failed => exact ⟨bounded.matched, bounded.sent⟩
  | voteStale => exact bounded
  | voteRefused sender term => exact bounded.enterTerm term
  | voteGranted sender term =>
      have entered := bounded.enterTerm term
      exact ⟨entered.matched, entered.sent⟩
  | deposed sender msg now term => exact .becomeFollower self term none
  | counted => exact ⟨bounded.matched, bounded.sent⟩
  | elected sender now =>
      constructor
      · intro peer
        rw [matchIndex_becomeLeader]
        exact Nat.zero_le _
      · intro peer prev len found
        simp only [becomeLeader, resetElectionDeadline,
          AList.lookup_empty] at found
        contradiction
  | appendStale => exact bounded
  | appendRefused sender term leaderId prevLogIndex prevLogTerm entries
      leaderCommit now => exact bounded.follow term leaderId now
  | appendAccepted sender term leaderId prevLogIndex prevLogTerm entries
      leaderCommit now recent agreed stored storedEq =>
      have followed := bounded.follow term leaderId now
      rw [advanceCommitAndApply_eq, storedEq, storeEntries_eq]
      exact ⟨followed.matched, followed.sent⟩
  | matched sender matchIndex now reqPrev reqLen leading recorded =>
      have freed : TablesBounded
          { self with aeInflight := self.aeInflight.erase sender } :=
        ⟨bounded.matched, bounded.sent⟩
      have counted := freed.recordMatch sender
        (bounded.sent sender reqPrev reqLen recorded)
      obtain ⟨_, _, frame⟩ := (RaftEngine.recordMatch
        { self with aeInflight := self.aeInflight.erase sender } sender
        (reqPrev + reqLen)).maybeCommit_frame
      have committed : TablesBounded (RaftEngine.recordMatch
          { self with aeInflight := self.aeInflight.erase sender } sender
          (reqPrev + reqLen)).maybeCommit.1 := by
        rw [frame]
        exact ⟨counted.matched, counted.sent⟩
      rcases handleAppendSuccess_cases
        { self with aeInflight := self.aeInflight.erase sender } sender reqPrev
        reqLen with done | sent
      · rw [done]
        exact committed
      · rw [sent]
        apply committed.sendAppendEntriesTo
        rw [frame]
        exact fits.le
  | unmatched sender matchIndex now reqPrev reqLen leading recorded =>
      rcases handleAppendReject_cases
        { self with aeInflight := self.aeInflight.erase sender } sender
        reqPrev with ignored | ⟨next, sent⟩
      · rw [ignored]
        exact ⟨bounded.matched, bounded.sent⟩
      · have stepped : TablesBounded
            { self with
              aeInflight := self.aeInflight.erase sender
              nextIndex := self.nextIndex.insert sender next } :=
          ⟨bounded.matched, bounded.sent⟩
        rw [sent]
        exact stepped.sendAppendEntriesTo fits.le sender

/-- A batch that is accepted starts inside the log. -/
theorem prevOk_follow_le
    (self : MemoryEngine)
    {term : Nat}
    {leaderId : NodeId}
    {now prevLogIndex prevLogTerm : Nat}
    (agreed : (self.follow term leaderId now).1.prevOk prevLogIndex
      prevLogTerm = true) :
    prevLogIndex ≤ self.storage.entries.length :=
  ((self.prevOk_follow_iff term leaderId now).mp agreed).le_length

/-- Commit and apply indices stay below a log and one batch. -/
theorem Outcome.progressBounded
    (outcome : Outcome self call result)
    (bounded : self.Bounded)
    (received : self.Received call) :
    result.1.commitIndex < 2 ^ 63 + 2 ^ 32 ∧
      result.1.lastApplied < 2 ^ 63 + 2 ^ 32 := by
  have fits := received.1
  have advanced : ∀ bound, bound < 2 ^ 63 + 2 ^ 32 →
      Advances self bound result →
      result.1.commitIndex < 2 ^ 63 + 2 ^ 32 ∧
        result.1.lastApplied < 2 ^ 63 + 2 ^ 32 := by
    intro bound small advances
    rw [advances.commitIndex, advances.lastApplied]
    exact ⟨max_lt bounded.commitIndex small,
      max_lt bounded.lastApplied (max_lt bounded.commitIndex small)⟩
  cases outcome.progress with
  | quiet _ _ sameCommit sameApplied =>
      rw [sameCommit, sameApplied]
      exact ⟨bounded.commitIndex, bounded.lastApplied⟩
  | followed sender term leaderId prevLogIndex prevLogTerm entries leaderCommit
      now _ recent agreed _ _ advances =>
      apply advanced _ _ advances
      have inside := self.prevOk_follow_le agreed
      have short := (received.2 _ _ _ rfl).length_lt
      omega
  | committed sender matchIndex now index entry _ _ _ _ _ inside _ _ _
      advances =>
      apply advanced _ _ advances
      rw [MemoryStorage.storage_log] at inside
      omega

theorem Bounded.step
    {self : MemoryEngine}
    (bounded : self.Bounded)
    (received : self.Received call) :
    (self.call call).1.Bounded := by
  have outcome := self.call_outcome call
  have progress := outcome.progressBounded bounded received
  exact
    { term := outcome.currentTerm_lt bounded.term received
      tables := outcome.tablesBounded bounded.tables received.1
      commitIndex := progress.1
      lastApplied := progress.2 }

theorem Bounded.new
    (config : RaftConfig)
    (storage : MemoryStorage)
    (now : Nat)
    (typed : storage.hardState.currentTerm < 2 ^ 64) :
    (RaftEngine.new config storage now).Bounded where
  term := typed
  tables := .empty rfl rfl
  commitIndex := by simp [RaftEngine.new]
  lastApplied := by simp [RaftEngine.new]

/-! ## Sums of a call -/

/-- Every sum is a `u64`. -/
def InRange (sums : List Nat) : Prop :=
  ∀ sum ∈ sums, sum < 2 ^ 64

instance (sums : List Nat) : Decidable (InRange sums) :=
  inferInstanceAs (Decidable (∀ sum ∈ sums, sum < 2 ^ 64))

@[simp] theorem inRange_nil : InRange [] :=
  fun _ inside => absurd inside List.not_mem_nil

@[simp] theorem inRange_cons
    {sum : Nat}
    {sums : List Nat} :
    InRange (sum :: sums) ↔ sum < 2 ^ 64 ∧ InRange sums :=
  List.forall_mem_cons

@[simp] theorem inRange_append
    {first second : List Nat} :
    InRange (first ++ second) ↔ InRange first ∧ InRange second :=
  List.forall_mem_append

theorem inRange_becomeLeader
    (self : MemoryEngine)
    (fits : self.storage.entries.length < 2 ^ 63) :
    InRange self.becomeLeaderSums := by
  intro sum inside
  unfold becomeLeaderSums at inside
  obtain ⟨peer, -, rfl⟩ := List.mem_map.mp inside
  rw [lastIndexTerm_fst, MemoryStorage.storage_log]
  omega

theorem inRange_buildAppendEntries
    (self : MemoryEngine)
    (fits : self.storage.entries.length ≤ 2 ^ 63)
    (target : NodeId) :
    InRange (self.buildAppendEntriesSums target) := by
  unfold buildAppendEntriesSums
  split
  · exact inRange_nil
  · split_ifs
    · exact inRange_nil
    · intro sum inside
      obtain ⟨idx, read, rfl⟩ := List.mem_map.mp inside
      have inLog := List.mem_range'_1.mp (List.takeWhile_subset _ read)
      rw [lastIndexTerm_fst, MemoryStorage.storage_log] at inLog
      omega

theorem inRange_sendAppendEntriesTo
    (self : MemoryEngine)
    (fits : self.storage.entries.length ≤ 2 ^ 63)
    (target : NodeId) :
    InRange (self.sendAppendEntriesToSums target) := by
  unfold sendAppendEntriesToSums
  split_ifs
  · exact inRange_nil
  · exact self.inRange_buildAppendEntries fits target

theorem inRange_sendAppendEntriesToAll
    (self : MemoryEngine)
    (fits : self.storage.entries.length ≤ 2 ^ 63)
    (peers : List NodeId) :
    InRange (self.sendAppendEntriesToAllSums peers) := by
  induction peers generalizing self with
  | nil => exact inRange_nil
  | cons peer peers inductionHypothesis =>
      rw [sendAppendEntriesToAllSums, inRange_append]
      refine ⟨self.inRange_sendAppendEntriesTo fits peer,
        inductionHypothesis _ ?_⟩
      have sameLog := congrArg View.log (self.view_sendAppendEntriesTo peer)
      rw [view_log, view_log] at sameLog
      rw [sameLog]
      exact fits

theorem inRange_propose
    (self : MemoryEngine)
    (fits : self.storage.entries.length < 2 ^ 63)
    (data : List UInt8) :
    InRange (self.proposeSums data) := by
  have written := congrArg View.log (self.view_appendCommand data)
  simp only [view_log] at written
  unfold proposeSums
  split_ifs
  · exact inRange_nil
  · rw [inRange_append, inRange_cons, lastIndexTerm_fst,
      MemoryStorage.storage_log]
    refine ⟨⟨by omega, inRange_nil⟩, ?_⟩
    apply inRange_sendAppendEntriesToAll
    rw [written, List.length_append, List.length_singleton]
    exact fits

theorem inRange_tick
    (self : MemoryEngine)
    (fits : self.storage.entries.length < 2 ^ 63)
    (now : Nat)
    (next : self.role ≠ .leader → self.electionDeadline ≤ now →
      self.currentTerm + 1 < 2 ^ 64) :
    InRange (self.tickSums now) := by
  have campaign : self.role ≠ .leader →
      InRange (if now ≥ self.electionDeadline then self.startElectionSums
        else []) := by
    intro waiting
    split_ifs with due
    · exact inRange_cons.mpr ⟨next waiting due, inRange_nil⟩
    · exact inRange_nil
  unfold tickSums
  by_cases early : now < self.nextDeadline
  · rw [if_pos early]
    exact inRange_nil
  · rw [if_neg early]
    cases role : self.role with
    | follower => exact campaign (by simp [role])
    | candidate => exact campaign (by simp [role])
    | leader =>
        simp only
        split_ifs
        · exact self.inRange_sendAppendEntriesToAll fits.le _
        · exact inRange_nil

theorem inRange_advance
    (self : MemoryEngine)
    (applied : self.lastApplied < 2 ^ 63 + 2 ^ 32)
    (leaderCommit lastNew : Nat) :
    InRange (self.advanceSums leaderCommit lastNew) := by
  unfold advanceSums
  split_ifs
  · exact inRange_nil
  · exact inRange_cons.mpr ⟨by omega, inRange_nil⟩

theorem inRange_maybeCommit
    (self : MemoryEngine)
    (applied : self.lastApplied < 2 ^ 63 + 2 ^ 32) :
    InRange self.maybeCommitSums := by
  unfold maybeCommitSums
  simp only
  split_ifs
  · exact inRange_nil
  · exact self.inRange_advance applied _ _
  · exact inRange_nil

theorem inRange_skip
    (storage : MemoryStorage)
    {prevLogIndex : Nat}
    (inside : prevLogIndex < 2 ^ 63)
    (i : Nat)
    (entries : List LogEntry)
    (short : i + entries.length < 2 ^ 32) :
    InRange (skipSums storage prevLogIndex i entries) := by
  induction entries generalizing i with
  | nil => exact inRange_nil
  | cons e rest inductionHypothesis =>
      rw [List.length_cons] at short
      rw [skipSums, inRange_append, inRange_cons, inRange_cons]
      refine ⟨⟨by omega, by omega, inRange_nil⟩, ?_⟩
      split
      · split_ifs
        · exact inductionHypothesis (i + 1) (by omega)
        · exact inRange_nil
      · exact inRange_nil

theorem inRange_appendEntries
    (self : MemoryEngine)
    (fits : self.storage.entries.length < 2 ^ 63)
    (applied : self.lastApplied < 2 ^ 63 + 2 ^ 32)
    (term : Nat)
    (leaderId : NodeId)
    (prevLogIndex prevLogTerm : Nat)
    {entries : List LogEntry}
    (short : entries.length < 2 ^ 32)
    (leaderCommit now : Nat) :
    InRange (self.appendEntriesSums term leaderId prevLogIndex prevLogTerm
      entries leaderCommit now) := by
  unfold appendEntriesSums
  simp only
  split_ifs with stale agreed
  · exact inRange_nil
  · have inside := self.prevOk_follow_le agreed
    have followed := self.follow_progress term leaderId now
    rw [inRange_append, inRange_append, inRange_cons]
    refine ⟨⟨?_, by omega, inRange_nil⟩, ?_⟩
    · exact inRange_skip _ (by omega) 0 entries (by omega)
    · apply inRange_advance
      rw [storeEntries_eq]
      exact followed.lastApplied.trans_lt applied
  · exact inRange_nil

theorem inRange_appendSuccess
    (self : MemoryEngine)
    (fits : self.storage.entries.length < 2 ^ 63)
    (applied : self.lastApplied < 2 ^ 63 + 2 ^ 32)
    (sender : NodeId)
    {reqPrev reqLen : Nat}
    (inside : reqPrev + reqLen ≤ 2 ^ 63) :
    InRange (self.appendSuccessSums sender reqPrev reqLen) := by
  obtain ⟨_, _, frame⟩ :=
    (self.recordMatch sender (reqPrev + reqLen)).maybeCommit_frame
  unfold appendSuccessSums
  rw [inRange_append, inRange_append, inRange_cons, inRange_cons]
  refine ⟨⟨⟨by omega, by omega, inRange_nil⟩,
    inRange_maybeCommit _ applied⟩, ?_⟩
  split_ifs
  · apply inRange_sendAppendEntriesTo
    rw [frame]
    exact fits.le
  · exact inRange_nil

theorem inRange_appendReject
    (self : MemoryEngine)
    (fits : self.storage.entries.length < 2 ^ 63)
    (sender : NodeId)
    (matched : (self.matchIndex.lookup sender).getD 0 ≤ 2 ^ 63)
    {reqPrev : Nat}
    (inside : reqPrev ≤ 2 ^ 63) :
    InRange (self.appendRejectSums sender reqPrev) := by
  unfold appendRejectSums
  simp only
  rw [inRange_append, inRange_cons]
  refine ⟨⟨by omega, inRange_nil⟩, ?_⟩
  split_ifs
  · exact inRange_nil
  · rw [inRange_append, inRange_cons]
    refine ⟨⟨by omega, inRange_nil⟩, ?_⟩
    apply inRange_sendAppendEntriesTo
    exact fits.le

theorem inRange_appendEntriesResp
    (self : MemoryEngine)
    (bounded : self.Bounded)
    (fits : self.storage.entries.length < 2 ^ 63)
    (sender : NodeId)
    (term : Nat)
    (success : Bool) :
    InRange (self.appendEntriesRespSums sender term success) := by
  unfold appendEntriesRespSums
  by_cases newer : term > self.currentTerm
  · rw [if_pos newer]
    exact inRange_nil
  rw [if_neg newer]
  by_cases unrelated : self.role ≠ .leader ∨ term ≠ self.currentTerm
  · rw [if_pos unrelated]
    exact inRange_nil
  rw [if_neg unrelated]
  cases recorded : self.lastAe.lookup sender with
  | none => exact inRange_nil
  | some request =>
      obtain ⟨reqPrev, reqLen⟩ := request
      have inside := bounded.tables.sent sender reqPrev reqLen recorded
      simp only
      split_ifs
      · apply inRange_appendSuccess
        · exact fits
        · exact bounded.lastApplied
        · exact inside
      · apply inRange_appendReject
        · exact fits
        · exact bounded.tables.matched sender
        · omega

/-- The sums of a call are in range, unless an election has no next term. -/
theorem Bounded.inRange
    {self : MemoryEngine}
    (bounded : self.Bounded)
    (received : self.Received call)
    (next : ∀ now, call = .tick now → self.role ≠ .leader →
      self.electionDeadline ≤ now → self.currentTerm + 1 < 2 ^ 64) :
    InRange (self.sums call) := by
  have fits := received.1
  cases call with
  | tick now => exact self.inRange_tick fits now (next now rfl)
  | propose data => exact self.inRange_propose fits data
  | rpcFailure target kind => exact inRange_nil
  | rpc sender msg now =>
      cases msg with
      | requestVote => exact inRange_nil
      | requestVoteResp term voteGranted =>
          simp only [sums, requestVoteRespSums]
          split_ifs
          · exact inRange_nil
          · exact inRange_nil
          · exact inRange_nil
          · exact self.inRange_becomeLeader fits
          · exact inRange_nil
      | appendEntries term leaderId prevLogIndex prevLogTerm entries
          leaderCommit =>
          exact self.inRange_appendEntries fits bounded.lastApplied term
            leaderId prevLogIndex prevLogTerm
            (received.2 _ _ _ rfl).length_lt leaderCommit now
      | appendEntriesResp term success matchIndex =>
          exact self.inRange_appendEntriesResp bounded fits sender term success
      | installSnapshot => exact inRange_nil
      | installSnapshotResp => exact inRange_nil

end RaftEngine

end Libp2pRaft
