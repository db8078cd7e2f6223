import Libp2pRaft.Network.Wire

/-!
# Pipeline depth one

While a node leads, a reply of its term answers the AppendEntries its slot
records, as long as no request of an earlier term is resolved on that slot.  The
pending map is not purged when a node steps down, and neither a failure nor a
reject says which request it is about: an AppendEntries of an earlier leadership
that times out or is rejected frees the slot of the current one.
-/

namespace Libp2pRaft

open TransitionSystem

/-- The term of the reply to an AppendEntries. -/
def RaftMessage.appendReplyTerm : RaftMessage → Option Nat
  | .appendEntriesResp term _ _ => some term
  | _ => none

/-- Only an AppendEntries is answered by the reply to one. -/
theorem RaftMessage.AnsweredBy.offer
    {request reply : RaftMessage}
    (answered : request.AnsweredBy reply)
    {term : Nat}
    (isReply : reply.appendReplyTerm = some term) :
    ∃ requestTerm prev len, request.offer = some (requestTerm, prev, len) := by
  cases reply with
  | appendEntriesResp =>
      cases request with
      | appendEntries => exact ⟨_, _, _, rfl⟩
      | requestVote => exact absurd answered id
      | requestVoteResp => exact absurd answered id
      | appendEntriesResp => exact absurd answered id
      | installSnapshot => exact absurd answered id
      | installSnapshotResp => exact absurd answered id
  | requestVote => contradiction
  | requestVoteResp => contradiction
  | appendEntries => contradiction
  | installSnapshot => contradiction
  | installSnapshotResp => contradiction

/-- A success reports the last index of the AppendEntries it answers. -/
theorem RaftMessage.AnsweredBy.success_offer
    {request reply : RaftMessage}
    (answered : request.AnsweredBy reply)
    {term matchIndex : Nat}
    (isSuccess : reply.success = some (term, matchIndex)) :
    ∃ prev len, request.offer = some (term, prev, len) ∧
      matchIndex = prev + len := by
  cases reply with
  | appendEntriesResp replyTerm success reported =>
      cases success with
      | false => contradiction
      | true =>
          obtain ⟨rfl, rfl⟩ := Prod.mk.inj (Option.some.inj isSuccess)
          cases request with
          | appendEntries =>
              obtain ⟨rfl, rfl⟩ := answered rfl
              exact ⟨_, _, rfl, rfl⟩
          | requestVote => exact absurd answered id
          | requestVoteResp => exact absurd answered id
          | appendEntriesResp => exact absurd answered id
          | installSnapshot => exact absurd answered id
          | installSnapshotResp => exact absurd answered id
  | requestVote => contradiction
  | requestVoteResp => contradiction
  | appendEntries => contradiction
  | installSnapshot => contradiction
  | installSnapshotResp => contradiction

namespace RaftBehaviour

/-- The target of a pending AppendEntries that is not of the current term. -/
def earlierTarget (behaviour : MemoryBehaviour) (id : Nat) : Option NodeId :=
  (behaviour.pending.lookup id).bind fun request =>
    request.msg.offer.bind fun offer =>
      if offer.1 = behaviour.engine.currentTerm then none
      else some request.target

variable {behaviour : MemoryBehaviour} {id : Nat} {request : PendingRequest}
  {term prev len : Nat}

theorem earlierTarget_eq
    (offers : Offers behaviour id request term prev len) :
    behaviour.earlierTarget id =
      if term = behaviour.engine.currentTerm then none
      else some request.target := by
  have pends : behaviour.pending.lookup id = some request := offers.pends
  simp [earlierTarget, pends, offers.offer]

end RaftBehaviour

namespace Network

/-- No failed request of an earlier term gives away a slot of a leader. -/
def SparesFailed (state : State) (input : Input) : Prop :=
  (state.engine input.node).role = .leader →
    ∀ id ∈ state.failed input,
    ∀ target ∈ (state.behaviour input.node).earlierTarget id,
      target ∉ (state.engine input.node).aeInflight

/-- No reply of a leader's term to a request of an earlier term gives away a
slot. -/
def SparesAnswered
    (network : Network)
    (state : State)
    (input : Input) : Prop :=
  (state.engine input.node).role = .leader →
    ∀ packet ∈ network.answer state input,
    packet.msg.appendReplyTerm = some (state.engine input.node).currentTerm →
    ∀ target ∈ (state.behaviour input.node).earlierTarget packet.correlationId,
      target ∉ (state.engine input.node).aeInflight

/-- No reply of a leader's term answers a request of an earlier term. -/
def AnswersOwnTerm
    (network : Network)
    (state : State)
    (input : Input) : Prop :=
  (state.engine input.node).role = .leader →
    ∀ packet ∈ network.answer state input,
    packet.msg.appendReplyTerm = some (state.engine input.node).currentTerm →
      (state.behaviour input.node).earlierTarget packet.correlationId = none

instance (state : State) (input : Input) :
    Decidable (SparesFailed state input) :=
  inferInstanceAs (Decidable (_ → _))

instance (network : Network) (state : State) (input : Input) :
    Decidable (SparesAnswered network state input) :=
  inferInstanceAs (Decidable (_ → _))

instance (network : Network) (state : State) (input : Input) :
    Decidable (AnswersOwnTerm network state input) :=
  inferInstanceAs (Decidable (_ → _))

theorem AnswersOwnTerm.spares
    {network : Network}
    {state : State}
    {input : Input}
    (answersOwn : AnswersOwnTerm network state input) :
    SparesAnswered network state input := by
  intro leading packet inside ownTerm target isTarget
  rw [answersOwn leading packet inside ownTerm] at isTarget
  contradiction

open RaftBehaviour

variable {network : Network} {state : State} {node : NodeId}
  {after : MemoryBehaviour} {input : Input}

/-- A behaviour is pipelined after its queue was handed over. -/
theorem pipelined_drain
    (pipelined : Pipelined after) :
    Pipelined ((state.drain node after).behaviour node) := by
  rw [drain_behaviour_self]
  exact pipelined.mono rfl fun _ _ pends => pends

theorem pipelined_of_follower
    (following : after.engine.role = .follower)
    (none : after.pending = ∅) :
    Pipelined after := by
  have absent : ∀ {id request}, ¬ after.Pends id request := by
    intro id request pends
    rw [Pends, none, AList.lookup_empty] at pends
    contradiction
  exact ⟨fun _ _ _ _ _ offers => absurd offers.pends absent,
    fun _ _ _ _ _ _ offers => absurd offers.pends absent,
    fun leading => Role.noConfusion (following.symm.trans leading),
    fun leading => Role.noConfusion (following.symm.trans leading)⟩

/-- A response that settles a request comes from a peer no other AppendEntries
of the term is pending to. -/
theorem Wired.answersAlone
    (wired : Wired network state)
    (pipelined : Pipelined (state.behaviour node))
    {position : Nat}
    {packet : Packet}
    (found : state.responses[position]? = some packet)
    (addressed : packet.peer = network.peerId node)
    {request : PendingRequest}
    (pends : (state.behaviour node).Pends packet.correlationId request)
    (spares : (state.engine node).role = .leader →
      packet.msg.appendReplyTerm = some (state.engine node).currentTerm →
      ∀ target ∈ (state.behaviour node).earlierTarget packet.correlationId,
        target ∉ (state.engine node).aeInflight)
    (now : Nat) :
    AnswersAlone
      { state.behaviour node with
        pending := (state.behaviour node).pending.erase packet.correlationId }
      (.rpc request.target packet.msg now) := by
  rintro sender success matchIndex time isCall leading id other prev len offers
    sameTarget
  obtain ⟨different, otherPends⟩ := pends_erase.mp offers.pends
  have isReply : packet.msg =
      .appendEntriesResp (state.engine node).currentTerm success matchIndex := by
    injection isCall
  have isSender : request.target = sender := by
    injection isCall
  have replyTerm : packet.msg.appendReplyTerm =
      some (state.engine node).currentTerm := by
    rw [isReply]
    rfl
  have otherOffers : Offers (state.behaviour node) id other
      (state.engine node).currentTerm prev len :=
    ⟨otherPends, offers.offer⟩
  obtain ⟨term, requestPrev, requestLen, offered⟩ :=
    (wired.settles found addressed pends).2.offer replyTerm
  by_cases sameTerm : term = (state.engine node).currentTerm
  · subst sameTerm
    exact different (pipelined.single leading _ _ _ _ _ _ _ _ otherOffers
      ⟨pends, offered⟩ (sameTarget.trans isSender.symm))
  · have isEarlier := earlierTarget_eq ⟨pends, offered⟩
    rw [if_neg sameTerm] at isEarlier
    have held := (pipelined.held leading _ _ _ _ otherOffers).1
    rw [sameTarget, ← isSender] at held
    exact spares leading replyTerm request.target isEarlier held

/-- An input that spares the slots keeps every pipeline. -/
theorem Wired.pipelined_step
    (wired : Wired network state)
    (pipelined : Pipelined (state.behaviour node))
    (below : input.node = node → TermsBelowMax state input)
    (sparesFailed : input.node = node → SparesFailed state input)
    (sparesAnswered : input.node = node → SparesAnswered network state input) :
    Pipelined ((network.system.step state input).behaviour node) := by
  by_cases other : input.node = node
  · specialize below other
    specialize sparesFailed other
    specialize sparesAnswered other
    subst other
    rcases network.step_effect state input with same | ⟨inside, effect⟩
    · rw [same]
      exact pipelined
    generalize network.system.step state input = result at effect ⊢
    cases effect with
    | skipped => exact pipelined
    | idle _ after fewer loses silent => exact pipelined_drain (pipelined.quiet silent.toQuiet)
    | dropped _ id after failed silent =>
        refine pipelined_drain ((pipelined.drop (wired.tracked _) id ?_).quiet
          silent.toQuiet)
        intro leading request term prev len offers notOwn
        refine sparesFailed leading id failed request.target ?_
        rw [earlierTarget_eq offers, if_neg notOwn]
        exact rfl
    | disconnected _ peer after silent =>
        exact pipelined_drain ((pipelined.dropPeer (wired.tracked _) peer).quiet
          silent.toQuiet)
    | ticked node now after silent =>
        refine pipelined_drain ((pipelined.act (wired.tracked node).fresh
          (fun _ _ _ same => Call.noConfusion same)
          (fun _ _ same => Call.noConfusion same) ?_
          (fun _ _ _ _ same => Call.noConfusion same) now).quiet silent.toQuiet)
        rintro _ ⟨⟩
        exact below
    | proposed node data now after silent =>
        exact pipelined_drain ((pipelined.act (wired.tracked node).fresh
          (fun _ _ _ same => Call.noConfusion same)
          (fun _ _ same => Call.noConfusion same)
          (fun _ same => Call.noConfusion same)
          (fun _ _ _ _ same => Call.noConfusion same) now).quiet silent.toQuiet)
    | served node position conn channelId now packet sender after found addressed
        mapped told handled =>
        have isRequest :=
          (wired.requests packet (List.mem_of_getElem? found)).isRequest
        obtain ⟨actions, reply, emitted, -, silent, noBroadcast⟩ :=
          (state.engine node).request_reply [] sender isRequest now
        have quiet := handled actions reply [] emitted silent noBroadcast
        have alone : AnswersAlone (state.behaviour node)
            (.rpc sender packet.msg now) := by
          rintro _ _ _ _ isCall
          injection isCall with _ isReply
          rw [isReply] at isRequest
          exact absurd isRequest id
        have called := pipelined.called (fun _ _ same => Call.noConfusion same)
          (fun _ same => Call.noConfusion same) alone
        have pushed : Pipelined ({ state.behaviour node with
            engine := ((state.engine node).call
              (.rpc sender packet.msg now)).1 }.pushEvent
            (.notifyHandler (network.peerId packet.source) (.one conn)
              (.sendResponse channelId packet.correlationId reply))) :=
          called.mono rfl fun _ _ pends => pends
        exact pipelined_drain (pushed.quiet quiet)
    | settled node position conn now packet request after found addressed pends
        silent =>
        have isReply := (wired.settles found addressed pends).2.not_isRequest
        have isAnswer : packet ∈ network.answer state
            (.response node position conn now) := by
          have inside : node ∈ network.nodes := inside
          simp [answer, inside, found, addressed]
        have erased : Pipelined { state.behaviour node with
            pending := (state.behaviour node).pending.erase
              packet.correlationId } :=
          pipelined.mono rfl fun _ _ pends => (pends_erase.mp pends).2
        refine pipelined_drain ((erased.act
          ((wired.tracked node).erased packet.correlationId).fresh ?_
          (fun _ _ same => Call.noConfusion same)
          (fun _ same => Call.noConfusion same) ?_ now).quiet silent.toQuiet)
        · rintro _ _ _ ⟨⟩
          exact isReply
        · exact wired.answersAlone pipelined found addressed pends
            (fun leading => sparesAnswered leading packet isAnswer) now
    | restarted node now =>
        exact pipelined_drain (pipelined_of_follower rfl rfl)
  · rw [network.step_behaviour_of_ne state (Ne.symm other)]
    exact pipelined

/-- Steps of a node that keep its slots: no election timer fires at the largest
term, and no request of an earlier term is resolved on a slot in use, by its own
failure or by a reply of the current term. -/
def KeepsSlots
    (network : Network)
    (node : NodeId)
    (state : State)
    (input : Input) : Prop :=
  input.node = node →
    TermsBelowMax state input ∧ SparesFailed state input ∧
      AnswersOwnTerm network state input

instance
    (network : Network)
    (node : NodeId)
    (state : State)
    (input : Input) :
    Decidable (KeepsSlots network node state input) :=
  inferInstanceAs (Decidable (_ → _))

/-- The reply of its term a leader handles answers the AppendEntries its slot
records. -/
def AnswersRecorded
    (network : Network)
    (node : NodeId)
    (state : State)
    (input : Input) : Prop :=
  input.node = node → (state.engine node).role = .leader →
    ∀ packet ∈ network.answer state input,
    packet.msg.appendReplyTerm = some (state.engine node).currentTerm →
    ∀ request ∈ (state.behaviour node).pending.lookup packet.correlationId,
    ∃ recorded ∈ (state.engine node).lastAe.lookup request.target,
      request.msg.offer = some ((state.engine node).currentTerm, recorded)

instance
    (network : Network)
    (node : NodeId)
    (state : State)
    (input : Input) :
    Decidable (AnswersRecorded network node state input) :=
  inferInstanceAs (Decidable (_ → _ → _))

/-- Pipeline depth one: replies answer what the slots record, at most one
AppendEntries of a leadership is pending to a peer, and it holds its slot. -/
structure DepthOne
    (network : Network)
    (node : NodeId)
    (inputs : List Input) : Prop where
  answersRecorded : network.system.Along (AnswersRecorded network node) inputs
  single : ∀ past, past <+: inputs → ∀ behaviour,
    behaviour = (network.system.run past).behaviour node →
    behaviour.engine.role = .leader →
    ∀ id request prev len other second secondPrev secondLen,
      Offers behaviour id request behaviour.engine.currentTerm prev len →
      Offers behaviour other second behaviour.engine.currentTerm secondPrev
        secondLen →
      request.target = second.target → id = other
  held : ∀ past, past <+: inputs → ∀ behaviour,
    behaviour = (network.system.run past).behaviour node →
    behaviour.engine.role = .leader →
    ∀ id request prev len,
      Offers behaviour id request behaviour.engine.currentTerm prev len →
        request.target ∈ behaviour.engine.aeInflight ∧
        behaviour.engine.lastAe.lookup request.target = some (prev, len)

/-- The pipeline of a node holds after every run that keeps its slots. -/
theorem pipelined_run
    (network : Network)
    (node : NodeId)
    {inputs : List Input}
    (below : network.system.Along
      (fun state input => input.node = node → TermsBelowMax state input) inputs)
    (sparesFailed : network.system.Along
      (fun state input => input.node = node → SparesFailed state input) inputs)
    (sparesAnswered : network.system.Along
      (fun state input => input.node = node →
        SparesAnswered network state input) inputs) :
    Pipelined ((network.system.run inputs).behaviour node) := by
  induction inputs using List.reverseRecOn with
  | nil => exact pipelined_of_follower rfl rfl
  | append_singleton inputs input inductionHypothesis =>
      rw [System.along_concat] at below sparesFailed sparesAnswered
      rw [System.run_concat]
      exact (wired network inputs).pipelined_step
        (inductionHypothesis below.1 sparesFailed.1 sparesAnswered.1) below.2
        sparesFailed.2 sparesAnswered.2

/-- A run that keeps the slots of a node has pipeline depth one there. -/
theorem pipeline_depth_one
    (network : Network)
    (node : NodeId)
    (inputs : List Input)
    (keeps : network.system.Along (KeepsSlots network node) inputs) :
    DepthOne network node inputs := by
  have pipelined : ∀ past, past <+: inputs →
      Pipelined ((network.system.run past).behaviour node) := by
    intro past isPast
    have kept := keeps.of_isPrefix isPast
    exact pipelined_run network node
      (kept.imp fun _ _ keeps own => (keeps own).1)
      (kept.imp fun _ _ keeps own => (keeps own).2.1)
      (kept.imp fun _ _ keeps own => (keeps own).2.2.spares)
  refine ⟨?_, ?_, ?_⟩
  · intro past input isPast own leading packet isAnswer ownTerm request pends
    have answersOwn := (keeps past input isPast own).2.2
    have before := pipelined past ((List.prefix_append _ _).trans isPast)
    subst own
    obtain ⟨position, found, addressed⟩ := answer_cases isAnswer
    obtain ⟨term, prev, len, offered⟩ :=
      ((wired network past).settles found addressed pends).2.offer ownTerm
    have noEarlier := answersOwn leading packet isAnswer ownTerm
    rw [earlierTarget_eq ⟨pends, offered⟩] at noEarlier
    split_ifs at noEarlier with isOwn
    · subst isOwn
      exact ⟨(prev, len), (before.held leading _ _ _ _ ⟨pends, offered⟩).2,
        offered⟩
  · rintro past isPast _ rfl leading
    exact (pipelined past isPast).single leading
  · rintro past isPast _ rfl leading
    exact (pipelined past isPast).held leading

/-! ## A run in which the pipeline breaks -/

/-- Three voters that know each other. -/
def sample : Network where
  nodes := {1, 2, 3}
  voters := {1, 2, 3}
  config := fun node =>
    { RaftConfig.cfg node [1, 2, 3] with
      seedPeers := [1, 2, 3].map fun other => ⟨other, other + 10, []⟩ }
  nodeId_eq := fun _ => rfl
  voters_eq := fun _ => rfl
  storage := fun _ => .new
  start := 0
  peerId := fun node => node + 10
  peerId_injective := fun _ _ same => Nat.add_right_cancel same
  seed_peerId := by
    intro node seed inside
    obtain ⟨other, -, rfl⟩ := List.mem_map.mp inside
    rfl

/-- The nodes connect, and node `1` becomes the leader of term `1` and sends
its first heartbeats. -/
def firstLeadership : List Input :=
  [.swarm 1 (.connectionEstablished 12 1) 0,
    .swarm 1 (.connectionEstablished 13 2) 0,
    .swarm 2 (.connectionEstablished 11 1) 0,
    .swarm 2 (.connectionEstablished 13 2) 0,
    .swarm 3 (.connectionEstablished 11 1) 0,
    .swarm 3 (.connectionEstablished 12 2) 0,
    .tick 1 150,
    .request 2 0 1 1 155,
    .response 1 0 1 160,
    .tick 1 210]

/-- Node `3` deposes it in term `2`, and it is re-elected in term `3`, while its
first heartbeat to node `2` is still pending. -/
def secondLeadership : List Input :=
  firstLeadership ++
    [.tick 3 220,
      .tick 3 380,
      .request 1 5 1 1 390,
      .tick 1 540,
      .request 2 6 1 2 545,
      .response 1 1 1 550,
      .tick 1 600]

/-- The heartbeat of term `1` times out, a proposal is sent on the slot that was
freed, and then the heartbeat of term `3` is answered. -/
def staleTimeout : List Input :=
  secondLeadership ++
    [.timeout 1 3 710,
      .propose 1 [7] 720,
      .request 2 7 1 3 725,
      .response 1 1 1 730]

/-- The theorem applies to two leaderships without a stale timeout. -/
theorem pipeline_depth_one_second : DepthOne sample 1 secondLeadership :=
  pipeline_depth_one sample 1 secondLeadership (by decide +kernel)

/-- The timeout of an earlier leadership frees a slot in use: the answer to the
heartbeat is taken for the answer to the proposal. -/
theorem stale_timeout_breaks_pipeline :
    ¬ DepthOne sample 1 staleTimeout := by
  intro depthOne
  have recorded : sample.system.Along (AnswersRecorded sample 1) staleTimeout :=
    depthOne.answersRecorded
  revert recorded
  decide +kernel

end Network

end Libp2pRaft
