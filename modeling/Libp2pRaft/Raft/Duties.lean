import Libp2pRaft.Raft.CommitRule
import Libp2pRaft.Raft.Repair

/-!
# What an engine does when it is its turn

The calls that carry a cluster forward, each with the result it has when nothing
stands against it: a timeout starts an election, a better candidate gets the
vote, a vote that completes a quorum makes a leader, and a leader whose
heartbeat is due sends to every peer with a free slot.
-/

namespace Libp2pRaft

open Consensus TransitionSystem

namespace RaftEngine

section

variable {S : Type} [Storage S] (self : RaftEngine S)

/-- An engine that does not lead campaigns when its timer is over. -/
theorem call_of_timeout
    (waiting : self.role ≠ .leader)
    {now : Nat}
    (due : self.electionDeadline ≤ now) :
    self.call (.tick now) = self.startElection now := by
  have deadline : self.nextDeadline = self.electionDeadline := by
    unfold nextDeadline
    cases role : self.role with
    | leader => exact absurd role waiting
    | follower => rfl
    | candidate => rfl
  have late : ¬ now < self.nextDeadline := by omega
  cases role : self.role with
  | leader => exact absurd role waiting
  | follower => simp [call, tick, late, role, due]
  | candidate => simp [call, tick, late, role, due]

/-- A leader sends to its peers when its heartbeat is due. -/
theorem call_of_heartbeat
    (leading : self.role = .leader)
    {now : Nat}
    (due : self.heartbeatDeadline ≤ now) :
    self.call (.tick now) =
      ({ self.replicateActions.1 with
          heartbeatDeadline :=
            now + self.replicateActions.1.config.heartbeatInterval },
        self.replicateActions.2) := by
  have late : ¬ now < self.nextDeadline := by
    simp only [nextDeadline, leading]
    omega
  simp [call, tick, late, leading, due]

/-- A candidate counts a vote of its term, and leads once it has a quorum. -/
theorem call_of_vote
    {sender : NodeId}
    (campaigning : self.role = .candidate)
    (now : Nat) :
    self.call (.rpc sender (.requestVoteResp self.currentTerm true) now) =
      if self.membership.quorum ≤ (insert sender self.votes).card then
        { self with votes := insert sender self.votes }.becomeLeader
          self.currentTerm now
      else
        ({ self with votes := insert sender self.votes }, []) := by
  simp [call, handleRpc, handleRequestVoteResp, campaigning]

/-- An AppendEntries of an earlier term is answered with the own term. -/
theorem call_of_stale_append
    {sender leaderId : NodeId}
    {term prevLogIndex prevLogTerm leaderCommit now : Nat}
    {entries : List LogEntry}
    (stale : term < self.currentTerm) :
    self.call (.rpc sender
        (.appendEntries term leaderId prevLogIndex prevLogTerm entries
          leaderCommit) now) =
      (self, [.send sender
        (.appendEntriesResp self.currentTerm false
          (Storage.lastIndexTerm self.storage).1)]) := by
  simp [call, handleRpc, handleAppendEntries, stale]

/-- A reply of a later term deposes an engine. -/
theorem call_of_newer_reply
    {sender : NodeId}
    {term matchIndex now : Nat}
    {success : Bool}
    (newer : self.currentTerm < term) :
    self.call (.rpc sender (.appendEntriesResp term success matchIndex) now) =
      self.becomeFollower term none := by
  simp [call, handleRpc, handleAppendEntriesResp, newer]

/-- Sending to one peer leaves the slots of the others. -/
theorem sendAppendEntriesTo_of_ne
    {peer target : NodeId}
    (different : peer ≠ target) :
    (self.sendAppendEntriesTo target).1.lastAe.lookup peer =
        self.lastAe.lookup peer ∧
      (peer ∈ (self.sendAppendEntriesTo target).1.aeInflight ↔
        peer ∈ self.aeInflight) := by
  rcases self.sendAppendEntriesTo_cases target with
    idle | ⟨msg, prev, len, -, -, sent⟩
  · rw [idle]
    exact ⟨rfl, Iff.rfl⟩
  · rw [sent]
    refine ⟨AList.lookup_insert_ne different, ?_⟩
    simp [different]

theorem sendAppendEntriesToAll_of_notMem
    {peer : NodeId}
    {peers : List NodeId}
    (absent : peer ∉ peers) :
    (self.sendAppendEntriesToAll peers).1.lastAe.lookup peer =
        self.lastAe.lookup peer := by
  induction peers generalizing self with
  | nil => rfl
  | cons first rest inductionHypothesis =>
      simp only [List.mem_cons, not_or] at absent
      simp only [sendAppendEntriesToAll]
      rw [inductionHypothesis _ absent.2]
      exact (self.sendAppendEntriesTo_of_ne absent.1).1

end

variable (self : MemoryEngine)

/-- A campaign asks all voters for their votes. -/
theorem startElection_asks (now : Nat) :
    .broadcast (.requestVote (wrappingSucc self.currentTerm) self.config.nodeId
        self.storage.entries.length (lastTerm self.storage.entries)) ∈
      (self.startElection now).2 := by
  have shape : (self.startElection now).2 =
      [.becomeCandidate (wrappingSucc self.currentTerm),
        .broadcast (.requestVote (wrappingSucc self.currentTerm)
          self.config.nodeId
          (Storage.lastIndexTerm (self.startElection now).1.storage).1
          (Storage.lastIndexTerm (self.startElection now).1.storage).2)] := rfl
  have sameLog : (self.startElection now).1.storage.entries =
      self.storage.entries := congrArg View.log (self.view_startElection now)
  rw [shape, LawfulStorage.lastIndexTerm_eq, MemoryStorage.storage_log, sameLog]
  exact List.mem_cons_of_mem _ List.mem_cons_self

/-- What a peer is sent depends on little. -/
theorem buildAppendEntries_congr
    (before : MemoryEngine)
    {after : MemoryEngine}
    {peer : NodeId}
    (sameStorage : after.storage = before.storage)
    (sameNext : after.nextIndex = before.nextIndex)
    (sameConfig : after.config = before.config)
    (sameCommit : after.commitIndex = before.commitIndex) :
    after.buildAppendEntries peer = before.buildAppendEntries peer := by
  unfold buildAppendEntries currentTerm
  rw [sameStorage, sameNext, sameConfig, sameCommit]

/-- A peer with a free slot is sent what is behind its next index. -/
theorem sendAppendEntriesToAll_sends
    {peer : NodeId}
    {peers : List NodeId}
    {prev : Nat}
    (isPeer : peer ∈ peers)
    (nodup : peers.Nodup)
    (free : peer ∉ self.aeInflight)
    (next : self.nextIndex.lookup peer = some (prev + 1))
    (inside : prev ≤ self.storage.entries.length) :
    ∃ request,
      self.buildAppendEntries peer =
        some (request, prev, self.storage.entries.length - prev) ∧
      .send peer request ∈ (self.sendAppendEntriesToAll peers).2 ∧
      (self.sendAppendEntriesToAll peers).1.lastAe.lookup peer =
        some (prev, self.storage.entries.length - prev) := by
  induction peers generalizing self with
  | nil => contradiction
  | cons first rest inductionHypothesis =>
      rw [List.nodup_cons] at nodup
      simp only [sendAppendEntriesToAll, List.mem_append]
      obtain ⟨_, _, frame⟩ := self.sendAppendEntriesTo_frame first
      by_cases same : peer = first
      · subst same
        obtain ⟨⟨request, sentPrev, len⟩, built⟩ :=
          self.buildAppendEntries_isSome next inside
        obtain ⟨prevTerm, -, nextEq, lenEq, -⟩ :=
          self.buildAppendEntries_some built
        obtain rfl : prev = sentPrev := by
          rw [next] at nextEq
          simpa using nextEq
        rw [List.length_drop, MemoryStorage.storage_log] at lenEq
        subst lenEq
        have sent : self.sendAppendEntriesTo peer =
            ({ self with
                lastAe := self.lastAe.insert peer
                  (prev, self.storage.entries.length - prev)
                aeInflight := insert peer self.aeInflight },
              some (.send peer request)) := by
          unfold sendAppendEntriesTo
          rw [if_neg free, built]
        refine ⟨request, built, .inl ?_, ?_⟩
        · rw [sent]
          exact List.mem_singleton_self _
        · rw [sendAppendEntriesToAll_of_notMem _ nodup.1, sent]
          exact AList.lookup_insert _
      · obtain ⟨-, stillFree⟩ := self.sendAppendEntriesTo_of_ne same
        obtain ⟨request, built, sent, recorded⟩ := inductionHypothesis
          (self.sendAppendEntriesTo first).1
          ((List.mem_cons.mp isPeer).resolve_left same) nodup.2
          (stillFree.not.mpr free) (by rw [frame]; exact next)
          (by rw [frame]; exact inside)
        rw [buildAppendEntries_congr self (by rw [frame])
          (by rw [frame]) (by rw [frame]) (by rw [frame])] at built
        have sameLog : (self.sendAppendEntriesTo first).1.storage =
            self.storage := by rw [frame]
        rw [sameLog] at built recorded
        exact ⟨request, built, .inr sent, recorded⟩

/-- A reply of one peer leaves a leader in office, with its storage and with what
it knows of the other peers. -/
structure KeepsOthers (before after : MemoryEngine) (peer : NodeId) : Prop where
  role : after.role = before.role
  storage : after.storage = before.storage
  config : after.config = before.config
  membership : after.membership = before.membership
  next : ∀ other, other ≠ peer →
    after.nextIndex.lookup other = before.nextIndex.lookup other
  matched : ∀ other, other ≠ peer →
    after.matchIndex.lookup other = before.matchIndex.lookup other

theorem KeepsOthers.trans
    {first second third : MemoryEngine}
    {peer : NodeId}
    (early : KeepsOthers first second peer)
    (late : KeepsOthers second third peer) :
    KeepsOthers first third peer where
  role := late.role.trans early.role
  storage := late.storage.trans early.storage
  config := late.config.trans early.config
  membership := late.membership.trans early.membership
  next other different :=
    (late.next other different).trans (early.next other different)
  matched other different :=
    (late.matched other different).trans (early.matched other different)

theorem call_of_response
    {peer : NodeId}
    {reqPrev reqLen : Nat}
    (leading : self.role = .leader)
    (recorded : self.lastAe.lookup peer = some (reqPrev, reqLen))
    (success : Bool)
    (matchIndex now : Nat) :
    KeepsOthers self
      (self.call (.rpc peer
        (.appendEntriesResp self.currentTerm success matchIndex) now)).1
      peer := by
  set freed : MemoryEngine :=
    { self with aeInflight := self.aeInflight.erase peer } with isFreed
  cases success with
  | true =>
      rw [self.call_of_success leading recorded, ← isFreed]
      obtain ⟨next, matched⟩ := freed.handleAppendSuccess_tables peer reqPrev reqLen
      obtain ⟨_, _, _, _, _, _, frame⟩ :=
        freed.handleAppendSuccess_frame peer reqPrev reqLen
      refine ⟨?_, ?_, ?_, ?_, ?_, ?_⟩
      · rw [frame]
      · rw [frame]
      · rw [frame]
      · rw [frame]
      · intro other different
        rw [next, AList.lookup_insert_ne different]
      · intro other different
        rw [matched, AList.lookup_insert_ne different]
  | false =>
      rw [self.call_of_reject leading recorded, ← isFreed]
      rw [freed.handleAppendReject_eq]
      split_ifs with latest
      · obtain ⟨_, _, frame⟩ :=
          (freed.stepBack peer reqPrev).sendAppendEntriesTo_frame peer
        refine ⟨?_, ?_, ?_, ?_, ?_, ?_⟩
        · rw [frame]
          rfl
        · rw [frame]
          rfl
        · rw [frame]
          rfl
        · rw [frame]
          rfl
        · intro other different
          rw [frame]
          exact AList.lookup_insert_ne different
        · intro other different
          rw [frame]
          rfl
      · exact ⟨rfl, rfl, rfl, rfl, fun _ _ => rfl, fun _ _ => rfl⟩

/-- A peer that holds the log of a leader learns from an empty request how far it
is committed. -/
theorem handleRpc_of_empty
    (follower : MemoryEngine)
    {leader : MemoryEngine}
    {target : NodeId}
    {msg : RaftMessage}
    {len : Nat}
    (built : leader.buildAppendEntries target =
      some (msg, leader.storage.entries.length, len))
    (recent : follower.currentTerm ≤ leader.currentTerm)
    (holds : leader.storage.entries <+: follower.storage.entries)
    (sender : NodeId)
    (now : Nat) :
    (follower.handleRpc sender msg now).1.currentTerm = leader.currentTerm ∧
      (follower.handleRpc sender msg now).1.storage.entries =
        follower.storage.entries ∧
      min leader.commitIndex leader.storage.entries.length ≤
        (follower.handleRpc sender msg now).1.commitIndex := by
  obtain ⟨-, sameTerm, -⟩ := handleRpc_of_built built recent sender now
  refine ⟨sameTerm, ?_⟩
  obtain ⟨prevTerm, known, -, -, rfl⟩ := leader.buildAppendEntries_some built
  rw [MemoryStorage.storage_log] at known ⊢
  rw [List.drop_length]
  have also : PrevTerm follower.storage.entries leader.storage.entries.length
      prevTerm := by
    refine known.imp id ?_
    rintro ⟨entry, positive, stored, termEq⟩
    exact ⟨entry, positive, getElem?_of_isPrefix holds stored, termEq⟩
  have accepted := (follower.append_accepted sender recent
    leader.config.nodeId also Consecutive.nil leader.commitIndex now).1
  have log := accepted.log
  have commitIndex := accepted.commitIndex
  rw [appendReference_log also] at log
  rw [appendReference, if_pos (prevKnown_iff.mpr also)] at commitIndex
  refine ⟨log.trans ?_, ?_⟩
  · cases follower.storage.entries.drop leader.storage.entries.length <;>
      simp [splice, matchLength]
  · exact (Nat.le_max_right _ _).trans commitIndex.ge

end RaftEngine

end Libp2pRaft
