import Libp2pRaft.Raft.AppendReference
import Libp2pRaft.Raft.ProgressTable

/-!
# Log repair

A new leader asks a follower to go on behind the end of the leader's log, and
steps back by one position with every refusal.  A matching follower refuses at
most once for every entry of the leader; what it accepts is spliced into its log
and closes the exchange.
-/

namespace Libp2pRaft

open Consensus TransitionSystem

/-- A reply says that the request was accepted. -/
def RaftMessage.succeeds : RaftMessage → Bool
  | .appendEntriesResp _ success _ => success
  | _ => false

/-- The message for a node among the actions of an engine. -/
def messageTo (target : NodeId) (actions : List Action) : Option RaftMessage :=
  (outgoing [] actions).lookup target

/-- A leader and a follower, the request on its way between them, and whether
the requests before it were accepted. -/
structure Repair where
  leader : MemoryEngine
  follower : MemoryEngine
  request : Option RaftMessage
  outcomes : List Bool

namespace Repair

/-- The leader sends its AppendEntries. -/
def start (leader follower : MemoryEngine) (peer : NodeId) : Repair where
  leader := (leader.sendAppendEntriesTo peer).1
  follower := follower
  request := messageTo peer (leader.sendAppendEntriesTo peer).2.toList
  outcomes := []

/-- The follower handles the request, and the leader handles the reply and sends
the next one if it emits one. -/
def roundTrip (peer : NodeId) (state : Repair) (times : Nat × Nat) : Repair :=
  match state.request with
  | none => state
  | some request =>
      let (follower, answer) :=
        state.follower.handleRpc state.leader.config.nodeId request times.1
      match messageTo state.leader.config.nodeId answer with
      | none => { state with follower := follower, request := none }
      | some reply =>
          let (leader, actions) := state.leader.handleRpc peer reply times.2
          { leader := leader
            follower := follower
            request := messageTo peer actions
            outcomes := state.outcomes ++ [reply.succeeds] }

/-- The exchange between a leader and one follower, with the times at which the
two sides handle their messages. -/
def exchange
    (leader follower : MemoryEngine)
    (peer : NodeId) : System Repair (Nat × Nat) where
  init := start leader follower peer
  step := roundTrip peer

/-- The exchange is over, after at most one refusal for every entry of the
leader: everything is acknowledged, and the follower holds the leader's log. -/
structure Converged
    (log : List LogEntry)
    (peer : NodeId)
    (state : Repair) : Prop where
  idle : state.request = none
  outcomes : ∃ refusals ≤ log.length,
    state.outcomes = List.replicate refusals false ++ [true]
  matched : state.leader.matchIndex.lookup peer = some log.length
  next : state.leader.nextIndex.lookup peer = some (log.length + 1)
  sameLog : state.leader.storage.entries = log
  repaired : state.follower.storage.entries.take log.length = log

/-- The leader asks to go on behind a position and was refused behind all later
ones. -/
structure Asking
    (log : List LogEntry)
    (peer : NodeId)
    (prev : Nat)
    (state : Repair) : Prop where
  leading : state.leader.role = .leader
  sameLog : state.leader.storage.entries = log
  older : state.follower.currentTerm ≤ state.leader.currentTerm
  matching : Matching state.follower.storage.entries log
  inside : prev ≤ log.length
  tracks : state.leader.Tracks peer
    ⟨0, prev + 1, some (prev, log.length - prev)⟩
  built : ∃ request, state.request = some request ∧
    state.leader.buildAppendEntries peer =
      some (request, prev, log.length - prev)
  outcomes : state.outcomes = List.replicate (log.length - prev) false

theorem messageTo_eq_none
    {target : NodeId}
    {actions : List Action}
    (silent : ∀ msg, .send target msg ∉ actions) :
    messageTo target actions = none := by
  unfold messageTo
  rw [List.lookup_eq_none_iff]
  rintro ⟨other, msg⟩ inside
  rcases mem_outgoing.mp inside with sent | ⟨-, isOther⟩
  · rw [bne_iff_ne]
    rintro rfl
    exact silent msg sent
  · contradiction

/-- An engine with a free slot sends what is behind its next index. -/
theorem sends_next
    (engine : MemoryEngine)
    {peer : NodeId}
    {matched prev : Nat}
    {batch : Option (Nat × Nat)}
    (free : peer ∉ engine.aeInflight)
    (tracks : engine.Tracks peer ⟨matched, prev + 1, batch⟩)
    (inside : prev ≤ engine.storage.entries.length) :
    ∃ request,
      messageTo peer (engine.sendAppendEntriesTo peer).2.toList =
        some request ∧
      (engine.sendAppendEntriesTo peer).1.buildAppendEntries peer =
        some (request, prev, engine.storage.entries.length - prev) ∧
      (engine.sendAppendEntriesTo peer).1.Tracks peer
        ⟨matched, prev + 1, some (prev, engine.storage.entries.length - prev)⟩ := by
  obtain ⟨⟨request, sentPrev, len⟩, built⟩ :=
    engine.buildAppendEntries_isSome tracks.next inside
  obtain ⟨prevTerm, -, nextEq, lenEq, -⟩ := engine.buildAppendEntries_some built
  obtain rfl : prev = sentPrev := by
    rw [tracks.next] at nextEq
    simpa using nextEq
  rw [List.length_drop, MemoryStorage.storage_log] at lenEq
  subst lenEq
  have sent : engine.sendAppendEntriesTo peer =
      ({ engine with
          lastAe := engine.lastAe.insert peer
            (prev, engine.storage.entries.length - prev)
          aeInflight := insert peer engine.aeInflight },
        some (.send peer request)) := by
    unfold RaftEngine.sendAppendEntriesTo
    rw [if_neg free, built]
  rw [sent]
  refine ⟨request, ?_, built, tracks.next, tracks.matched,
    AList.lookup_insert _⟩
  simp [messageTo, outgoing, Action.messages]

variable {log : List LogEntry} {peer : NodeId} {prev : Nat} {state : Repair}

/-- A refusal makes the leader ask one position earlier. -/
theorem Asking.refused
    (asking : Asking log peer prev state)
    (positive : 0 < prev)
    {follower : MemoryEngine}
    (older : follower.currentTerm ≤ state.leader.currentTerm)
    (sameLog : follower.storage.entries = state.follower.storage.entries)
    (matchIndex now : Nat) :
    Asking log peer (prev - 1)
      { leader := (state.leader.handleRpc peer (.appendEntriesResp
          state.leader.currentTerm false matchIndex) now).1
        follower := follower
        request := messageTo peer (state.leader.handleRpc peer
          (.appendEntriesResp state.leader.currentTerm false matchIndex) now).2
        outcomes := state.outcomes ++ [false] } := by
  obtain ⟨position, rfl⟩ := Nat.exists_eq_add_one.mpr positive
  have inside := asking.inside
  set freed : MemoryEngine :=
    { state.leader with aeInflight := state.leader.aeInflight.erase peer }
    with isFreed
  have handled : state.leader.handleRpc peer (.appendEntriesResp
        state.leader.currentTerm false matchIndex) now =
      freed.handleAppendReject peer (position + 1) :=
    state.leader.call_of_reject asking.leading asking.tracks.batch matchIndex now
  have latest : (freed.nextIndex.lookup peer).getD 1 = position + 1 + 1 := by
    rw [isFreed, asking.tracks.next]
    rfl
  rw [handled, freed.handleAppendReject_eq, if_pos latest]
  have back : (freed.stepBack peer (position + 1)).Tracks peer
      ⟨0, position + 1, some (position + 1, log.length - (position + 1))⟩ := by
    refine ⟨?_, asking.tracks.matched, asking.tracks.batch⟩
    have unmatched : freed.matchIndex.lookup peer = some 0 :=
      asking.tracks.matched
    simp [RaftEngine.stepBack, unmatched]
  have stillInside : position ≤
      (freed.stepBack peer (position + 1)).storage.entries.length := by
    show position ≤ state.leader.storage.entries.length
    rw [asking.sameLog]
    omega
  obtain ⟨request, sent, built, tracks⟩ := sends_next
    (freed.stepBack peer (position + 1)) (Finset.notMem_erase _ _) back
    stillInside
  obtain ⟨_, _, frame⟩ :=
    (freed.stepBack peer (position + 1)).sendAppendEntriesTo_frame peer
  have length : (freed.stepBack peer (position + 1)).storage.entries.length =
      log.length := congrArg List.length asking.sameLog
  rw [length] at built tracks
  refine ⟨?_, ?_, ?_, ?_, ?_, tracks, ⟨request, sent, built⟩, ?_⟩
  · rw [frame]
    exact asking.leading
  · rw [frame]
    exact asking.sameLog
  · rw [frame]
    exact older
  · rw [sameLog]
    exact asking.matching
  · exact (Nat.le_succ _).trans inside
  · have one : log.length - (position + 1 - 1) =
        log.length - (position + 1) + 1 := by
      omega
    rw [asking.outcomes, one, List.replicate_succ']

/-- A success closes the exchange. -/
theorem Asking.accepted
    (asking : Asking log peer prev state)
    {follower : MemoryEngine}
    (holds : log <+: follower.storage.entries)
    (matchIndex now : Nat) :
    Converged log peer
      { leader := (state.leader.handleRpc peer (.appendEntriesResp
          state.leader.currentTerm true matchIndex) now).1
        follower := follower
        request := messageTo peer (state.leader.handleRpc peer
          (.appendEntriesResp state.leader.currentTerm true matchIndex) now).2
        outcomes := state.outcomes ++ [true] } := by
  have inside := asking.inside
  set freed : MemoryEngine :=
    { state.leader with aeInflight := state.leader.aeInflight.erase peer }
    with isFreed
  have handled : state.leader.handleRpc peer (.appendEntriesResp
        state.leader.currentTerm true matchIndex) now =
      freed.handleAppendSuccess peer prev (log.length - prev) :=
    state.leader.call_of_success asking.leading asking.tracks.batch matchIndex now
  have total : prev + (log.length - prev) = log.length := Nat.add_sub_cancel' inside
  have free : peer ∉ freed.aeInflight := Finset.notMem_erase _ _
  have done := (freed.handleAppendSuccess_sends free prev
    (log.length - prev)).not.mpr (by
      show ¬ prev + (log.length - prev) < state.leader.storage.entries.length
      rw [asking.sameLog, total]
      exact Nat.lt_irrefl _)
  obtain ⟨next, matched⟩ :=
    freed.handleAppendSuccess_tables peer prev (log.length - prev)
  obtain ⟨_, _, _, _, _, _, frame⟩ :=
    freed.handleAppendSuccess_frame peer prev (log.length - prev)
  have unmatched : freed.matchIndex.lookup peer = some 0 := asking.tracks.matched
  rw [handled]
  refine ⟨?_, ?_, ?_, ?_, ?_, ?_⟩
  · exact messageTo_eq_none (not_exists.mp done)
  · refine ⟨log.length - prev, Nat.sub_le _ _, ?_⟩
    rw [asking.outcomes]
  · show AList.lookup peer _ = _
    rw [matched, AList.lookup_insert, unmatched, total, Option.getD_some,
      Nat.zero_max]
  · show AList.lookup peer _ = _
    rw [next, AList.lookup_insert, total]
  · show MemoryStorage.entries _ = log
    rw [frame]
    exact asking.sameLog
  · exact (List.prefix_iff_eq_take.mp holds).symm

/-- One round trip ends the exchange or moves the leader one position back. -/
theorem Asking.roundTrip
    (asking : Asking log peer prev state)
    (times : Nat × Nat) :
    (0 < prev ∧ Asking log peer (prev - 1) (roundTrip peer state times)) ∨
      Converged log peer (roundTrip peer state times) := by
  obtain ⟨request, onItsWay, built⟩ := asking.built
  obtain ⟨-, sameTerm, answered⟩ := RaftEngine.handleRpc_of_built built
    asking.older state.leader.config.nodeId times.1
  have replied : ∀ {success matchIndex},
      (∀ others, outgoing others (state.follower.handleRpc
        state.leader.config.nodeId request times.1).2 =
          [(state.leader.config.nodeId, .appendEntriesResp
            state.leader.currentTerm success matchIndex)]) →
      Repair.roundTrip peer state times =
        { leader := (state.leader.handleRpc peer (.appendEntriesResp
            state.leader.currentTerm success matchIndex) times.2).1
          follower := (state.follower.handleRpc state.leader.config.nodeId
            request times.1).1
          request := messageTo peer (state.leader.handleRpc peer
            (.appendEntriesResp state.leader.currentTerm success matchIndex)
              times.2).2
          outcomes := state.outcomes ++ [success] } := by
    intro success matchIndex reply
    simp [Repair.roundTrip, onItsWay, messageTo, reply, RaftMessage.succeeds]
  cases answered with
  | refused positive sameLog sameCommit reply =>
      rw [replied reply]
      exact .inl ⟨positive, asking.refused positive sameTerm.le sameLog _ _⟩
  | accepted agree inside spliced reply =>
      rw [replied reply]
      rw [asking.sameLog] at agree inside spliced
      refine .inr (asking.accepted ?_ _ _)
      rw [spliced]
      exact prefix_splice asking.matching inside agree

theorem Converged.roundTrip
    (converged : Converged log peer state)
    (times : Nat × Nat) :
    roundTrip peer state times = state := by
  unfold Repair.roundTrip
  rw [converged.idle]

/-- Right after its election a leader asks behind the end of its log. -/
theorem asking_start
    {elected follower : MemoryEngine}
    (older : follower.currentTerm ≤ elected.currentTerm)
    (matching : Matching follower.storage.entries elected.storage.entries)
    (isPeer : peer ∈ elected.otherVoters)
    (now : Nat) :
    Asking elected.storage.entries peer elected.storage.entries.length
      (start (elected.becomeLeader elected.currentTerm now).1 follower peer) := by
  set leader : MemoryEngine :=
    (elected.becomeLeader elected.currentTerm now).1
  have tracks : leader.Tracks peer
      (Window.opened elected.storage.entries.length) :=
    elected.becomeLeader_tracks elected.currentTerm now isPeer
  obtain ⟨request, sent, built, tracked⟩ := sends_next leader
    (Finset.notMem_empty peer) tracks le_rfl
  obtain ⟨_, _, frame⟩ := leader.sendAppendEntriesTo_frame peer
  refine ⟨?_, ?_, ?_, matching, le_rfl, tracked, ⟨request, sent, built⟩, ?_⟩
  · simp only [start, frame]
    rfl
  · simp only [start, frame]
    rfl
  · simp only [start, frame]
    exact older
  · rw [Nat.sub_self]
    rfl

/-- After some round trips the leader has moved back that far, or the exchange
is over. -/
theorem asking_or_converged
    {leader follower : MemoryEngine}
    (asks : Asking log peer log.length (start leader follower peer))
    (rounds : List (Nat × Nat)) :
    (∃ prev, prev + rounds.length = log.length ∧
        Asking log peer prev ((exchange leader follower peer).run rounds)) ∨
      Converged log peer ((exchange leader follower peer).run rounds) := by
  induction rounds using List.reverseRecOn with
  | nil => exact .inl ⟨log.length, rfl, asks⟩
  | append_singleton rounds times inductionHypothesis =>
      rw [System.run_concat, List.length_append, List.length_singleton]
      show (∃ prev, _ ∧ Asking log peer prev (roundTrip peer _ times)) ∨
        Converged log peer (roundTrip peer _ times)
      rcases inductionHypothesis with ⟨prev, moved, asking⟩ | converged
      · rcases asking.roundTrip times with ⟨positive, asksEarlier⟩ | converged
        · exact .inl ⟨prev - 1, by omega, asksEarlier⟩
        · exact .inr converged
      · rw [converged.roundTrip]
        exact .inr converged

/-- Log repair converges: from the election of a leader on, a follower of no
later term whose log matches refuses at most once for every entry of the leader,
and after one round trip more the exchange has ended with a success. -/
theorem log_repair_converges
    (elected follower : MemoryEngine)
    (older : follower.currentTerm ≤ elected.currentTerm)
    (matching : Matching follower.storage.entries elected.storage.entries)
    (peer : NodeId)
    (isPeer : peer ∈ elected.otherVoters)
    (now : Nat)
    (rounds : List (Nat × Nat)) :
    ((exchange (elected.becomeLeader elected.currentTerm now).1 follower
        peer).run rounds).outcomes.count false ≤
          elected.storage.entries.length ∧
      (elected.storage.entries.length < rounds.length →
        Converged elected.storage.entries peer
          ((exchange (elected.becomeLeader elected.currentTerm now).1 follower
            peer).run rounds)) := by
  have reached := asking_or_converged (asking_start older matching isPeer now)
    rounds
  refine ⟨?_, ?_⟩
  · rcases reached with ⟨prev, moved, asking⟩ | converged
    · rw [asking.outcomes, List.count_replicate_self]
      exact Nat.sub_le _ _
    · obtain ⟨refusals, few, outcomes⟩ := converged.outcomes
      rw [outcomes, List.count_append, List.count_replicate_self]
      exact few
  · intro enough
    rcases reached with ⟨prev, moved, asking⟩ | converged
    · omega
    · exact converged

/-- The log of a leader of term 2: its second entry replaces one of term 1. -/
def newerEntry : MemoryStorage where
  hardState := ⟨2, some 1⟩
  entries := [⟨1, 1, .command [1]⟩, ⟨2, 2, .command [3]⟩]
  contiguous := rfl

theorem log_repair_converges_conflict :
    Converged newerEntry.entries 2
      ((exchange ((RaftEngine.new (.cfg 1 [1, 2, 3]) newerEntry 0).becomeLeader
          2 10).1 (RaftEngine.new (.cfg 2 [1, 2, 3]) RaftEngine.twoEntries 0)
        2).run [(20, 30), (40, 50), (60, 70)]) := by
  have matching : Matching RaftEngine.twoEntries.entries newerEntry.entries := by
    intro position stored sent storedAt sentAt same
    match position with
    | 0 => rfl
    | 1 =>
        cases storedAt
        cases sentAt
        contradiction
    | _ + 2 => contradiction
  exact (log_repair_converges (RaftEngine.new (.cfg 1 [1, 2, 3]) newerEntry 0)
    (RaftEngine.new (.cfg 2 [1, 2, 3]) RaftEngine.twoEntries 0) (by decide)
    matching 2 (by decide) 10 [(20, 30), (40, 50), (60, 70)]).2 (by decide)

end Repair

end Libp2pRaft
