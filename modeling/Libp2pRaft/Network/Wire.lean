import Libp2pRaft.Network.Processes

/-!
# What is on the wire

A packet on the wire belongs to the one request that was made under its id: as
long as that is pending, a request packet is the pending request, and a response
packet is the reply of its target.
-/

namespace Libp2pRaft

open TransitionSystem

namespace Network

/-- A request packet is what its source has pending under its id, if it has. -/
structure RequestMatches
    (behaviour : NodeId → MemoryBehaviour)
    (packet : Packet) : Prop where
  isRequest : packet.msg.IsRequest
  handedOut : packet.correlationId < (behaviour packet.source).nextCorrelationId
  pending : ∀ request,
    (behaviour packet.source).Pends packet.correlationId request →
      request.peer = packet.peer ∧ request.msg = packet.msg

/-- A response packet is a reply of the node asked to what is pending. -/
structure ResponseMatches
    (network : Network)
    (behaviour : NodeId → MemoryBehaviour)
    (packet : Packet) : Prop where
  handedOut : ∀ node, packet.peer = network.peerId node →
    packet.correlationId < (behaviour node).nextCorrelationId
  pending : ∀ node, packet.peer = network.peerId node → ∀ request,
    (behaviour node).Pends packet.correlationId request →
      request.target = packet.source ∧ request.msg.AnsweredBy packet.msg

/-- The wire fits what is pending. -/
structure Wired (network : Network) (state : State) : Prop where
  drained : ∀ node, (state.behaviour node).pendingEvents = []
  truthful : ∀ node, (state.behaviour node).peerMap.Respects
    fun other peer => peer = network.peerId other
  tracked : ∀ node, (state.behaviour node).Tracked
  requests : ∀ packet ∈ state.requests, RequestMatches state.behaviour packet
  responses : ∀ packet ∈ state.responses,
    ResponseMatches network state.behaviour packet

variable {network : Network} {state fewer : State} {node : NodeId}
  {before after : MemoryBehaviour}

/-- A pending request goes to the node its peer belongs to. -/
theorem Wired.target_eq
    (wired : Wired network state)
    {id : Nat}
    {request : PendingRequest}
    (pends : (state.behaviour node).Pends id request)
    {other : NodeId}
    (isPeer : request.peer = network.peerId other) :
    request.target = other := by
  have mapped := (wired.tracked node).mapped id request pends
  have peer := (wired.truthful node).forward _ _ mapped
  exact network.peerId_injective (peer.symm.trans isPeer)

/-- The sender of a request is the node that made it. -/
theorem Wired.sender_eq
    (wired : Wired network state)
    {source sender : NodeId}
    (mapped : (state.behaviour node).peerMap.nodeId (network.peerId source) =
      some sender) :
    sender = source :=
  network.peerId_injective
    ((wired.truthful node).backward _ _ mapped).symm

theorem Wired.loses
    (wired : Wired network state)
    (loses : Loses state fewer) :
    Wired network fewer where
  drained := by
    rw [loses.behaviour]
    exact wired.drained
  truthful := by
    rw [loses.behaviour]
    exact wired.truthful
  tracked := by
    rw [loses.behaviour]
    exact wired.tracked
  requests := by
    rw [loses.behaviour]
    exact fun packet inside => wired.requests packet (loses.requests packet inside)
  responses := by
    rw [loses.behaviour]
    exact fun packet inside =>
      wired.responses packet (loses.responses packet inside)

/-- Ids are only handed out, and what is newly pending has a new one. -/
structure Advanced (before after : MemoryBehaviour) : Prop where
  grown : before.nextCorrelationId ≤ after.nextCorrelationId
  pending : ∀ id request, after.Pends id request →
    before.Pends id request ∨ before.nextCorrelationId ≤ id

theorem Advanced.pends_old
    (advanced : Advanced before after)
    {id : Nat}
    {request : PendingRequest}
    (pends : after.Pends id request)
    (old : id < before.nextCorrelationId) :
    before.Pends id request := by
  rcases advanced.pending id request pends with kept | new
  · exact kept
  · omega

/-- Replacing one behaviour keeps the packets that were on the wire. -/
theorem RequestMatches.drain
    (advanced : Advanced (state.behaviour node) after)
    {packet : Packet}
    (requestMatches : RequestMatches state.behaviour packet) :
    RequestMatches (state.drain node after).behaviour packet := by
  by_cases same : packet.source = node
  · refine ⟨requestMatches.isRequest, ?_, ?_⟩
    · rw [same, drain_behaviour_self]
      refine Nat.lt_of_lt_of_le ?_ advanced.grown
      rw [← same]
      exact requestMatches.handedOut
    · intro request pends
      apply requestMatches.pending
      rw [same] at pends ⊢
      rw [drain_behaviour_self] at pends
      refine advanced.pends_old pends ?_
      rw [← same]
      exact requestMatches.handedOut
  · refine ⟨requestMatches.isRequest, ?_, ?_⟩
    · rw [drain_behaviour_of_ne same]
      exact requestMatches.handedOut
    · rw [drain_behaviour_of_ne same]
      exact requestMatches.pending

theorem ResponseMatches.drain
    (advanced : Advanced (state.behaviour node) after)
    {packet : Packet}
    (responseMatches : ResponseMatches network state.behaviour packet) :
    ResponseMatches network (state.drain node after).behaviour packet := by
  constructor
  · intro other isPeer
    have handedOut := responseMatches.handedOut other isPeer
    by_cases same : other = node
    · subst same
      rw [drain_behaviour_self]
      exact handedOut.trans_le advanced.grown
    · rw [drain_behaviour_of_ne same]
      exact handedOut
  · intro other isPeer request pends
    have handedOut := responseMatches.handedOut other isPeer
    by_cases same : other = node
    · subst same
      rw [drain_behaviour_self] at pends
      exact responseMatches.pending other isPeer request
        (advanced.pends_old pends handedOut)
    · rw [drain_behaviour_of_ne same] at pends
      exact responseMatches.pending other isPeer request pends

/-- A behaviour may be replaced by one that hands over matching packets. -/
theorem Wired.drain
    (wired : Wired network state)
    (advanced : Advanced (state.behaviour node) after)
    (truthful : after.peerMap.Respects fun other peer =>
      peer = network.peerId other)
    (tracked : after.Tracked)
    (requests : ∀ packet ∈ after.requests node,
      RequestMatches (state.drain node after).behaviour packet)
    (responses : ∀ packet ∈ after.responses node,
      ResponseMatches network (state.drain node after).behaviour packet) :
    Wired network (state.drain node after) where
  drained := by
    intro other
    by_cases same : other = node
    · subst same
      rw [drain_behaviour_self]
    · rw [drain_behaviour_of_ne same]
      exact wired.drained other
  truthful := by
    intro other
    by_cases same : other = node
    · subst same
      rw [drain_behaviour_self]
      exact truthful
    · rw [drain_behaviour_of_ne same]
      exact wired.truthful other
  tracked := by
    intro other
    by_cases same : other = node
    · subst same
      rw [drain_behaviour_self]
      exact ⟨tracked.fresh, tracked.isRequest, tracked.kind, tracked.mapped⟩
    · rw [drain_behaviour_of_ne same]
      exact wired.tracked other
  requests := by
    intro packet inside
    rcases List.mem_append.mp inside with old | new
    · exact (wired.requests packet old).drain advanced
    · exact requests packet new
  responses := by
    intro packet inside
    rcases List.mem_append.mp inside with old | new
    · exact (wired.responses packet old).drain advanced
    · exact responses packet new

/-- A behaviour that dropped requests hands over nothing. -/
theorem Wired.dropped
    (wired : Wired network state)
    {middle : MemoryBehaviour}
    {ids : List Nat}
    (dropped : RaftBehaviour.Dropped (state.behaviour node) middle ids)
    (quiet : RaftBehaviour.Quiet middle after) :
    Wired network (state.drain node after) := by
  have requests : after.requests node = [] := by
    rw [quiet.requests, RaftBehaviour.requests, dropped.pendingEvents,
      wired.drained]
    rfl
  have responses : after.responses node = [] := by
    rw [quiet.responses, RaftBehaviour.responses, dropped.pendingEvents,
      wired.drained]
    rfl
  refine wired.drain ⟨?_, ?_⟩ ?_ (((wired.tracked node).dropped dropped).quiet
    quiet) ?_ ?_
  · rw [quiet.nextCorrelationId, dropped.nextCorrelationId]
  · intro id request pends
    rw [RaftBehaviour.Pends, quiet.pending] at pends
    exact .inl ((dropped.pending id request).mp pends).2
  · rw [quiet.peerMap, dropped.peerMap]
    exact wired.truthful node
  · rw [requests]
    exact fun _ inside => absurd inside List.not_mem_nil
  · rw [responses]
    exact fun _ inside => absurd inside List.not_mem_nil

/-- A process that a call of its engine starts from: its pending requests may
have become fewer. -/
structure Starts (before start : MemoryBehaviour) : Prop where
  peerMap : start.peerMap = before.peerMap
  nextCorrelationId : start.nextCorrelationId = before.nextCorrelationId
  pending : ∀ id request, start.Pends id request → before.Pends id request
  pendingEvents : start.pendingEvents = before.pendingEvents

theorem Starts.refl (before : MemoryBehaviour) : Starts before before :=
  ⟨rfl, rfl, fun _ _ => id, rfl⟩

theorem Starts.erase
    (before : MemoryBehaviour)
    (id : Nat) :
    Starts before { before with pending := before.pending.erase id } :=
  ⟨rfl, rfl, fun _ _ pends => (RaftBehaviour.pends_erase.mp pends).2, rfl⟩

/-- What an unasked call hands over matches what it makes pending. -/
theorem Wired.act
    (wired : Wired network state)
    {start : MemoryBehaviour}
    {call : Call}
    {now : Nat}
    (starts : Starts (state.behaviour node) start)
    (tracked : start.Tracked)
    (unasked : ∀ sender msg now, call = .rpc sender msg now → ¬ msg.IsRequest)
    (quiet : RaftBehaviour.Quiet (start.act call now) after) :
    Wired network (state.drain node after) := by
  have total := (RaftBehaviour.executeActions_dispatched
    { start with engine := (start.engine.call call).1 } tracked.fresh
    (start.engine.call call).2 now).quiet quiet
  have advanced : Advanced (state.behaviour node) after := by
    refine ⟨starts.nextCorrelationId ▸ total.grown, ?_⟩
    intro id request pends
    rcases total.pending id request pends with old | posted
    · exact .inl (starts.pending id request old)
    · exact .inr (starts.nextCorrelationId ▸ posted.newer)
  refine wired.drain advanced ?_ ((tracked.act unasked now).quiet quiet) ?_ ?_
  · rw [total.peerMap, starts.peerMap]
    exact wired.truthful node
  · intro packet inside
    rcases total.requests node packet inside with old |
      ⟨own, request, posted, pends, samePeer, sameMsg⟩
    · rw [RaftBehaviour.requests, starts.pendingEvents, wired.drained] at old
      exact absurd old List.not_mem_nil
    · subst own
      have isRequest := (start.engine.call_outcome call).isRequest unasked
        posted.asked
      refine ⟨sameMsg ▸ isRequest, ?_, ?_⟩
      · rw [drain_behaviour_self]
        exact posted.handedOut
      · intro other otherPends
        rw [drain_behaviour_self] at otherPends
        obtain rfl : request = other :=
          Option.some.inj (pends.symm.trans otherPends)
        exact ⟨samePeer, sameMsg⟩
  · intro packet inside
    rw [total.responses, RaftBehaviour.responses, starts.pendingEvents,
      wired.drained] at inside
    exact absurd inside List.not_mem_nil

/-- A node that answers hands over the answer. -/
theorem Wired.serve_packets
    (wired : Wired network state)
    {packet : Packet}
    {engine : MemoryEngine}
    {conn : ConnectionId}
    {channelId : Nat}
    {reply : RaftMessage}
    (quiet : RaftBehaviour.Quiet
      ({ state.behaviour node with engine := engine }.pushEvent
        (.notifyHandler (network.peerId packet.source) (.one conn)
          (.sendResponse channelId packet.correlationId reply))) after) :
    after.requests node = [] ∧ after.responses node =
      [⟨node, network.peerId packet.source, packet.correlationId, reply⟩] := by
  constructor
  · rw [quiet.requests]
    simp [RaftBehaviour.requests, RaftBehaviour.pushEvent, wired.drained,
      ToSwarm.request]
  · rw [quiet.responses]
    simp [RaftBehaviour.responses, RaftBehaviour.pushEvent, wired.drained,
      ToSwarm.response]

/-- The reply to a request packet matches what its source has pending. -/
theorem Wired.serve
    (wired : Wired network state)
    {packet : Packet}
    (known : RequestMatches state.behaviour packet)
    (addressed : packet.peer = network.peerId node)
    {engine : MemoryEngine}
    {conn : ConnectionId}
    {channelId : Nat}
    {reply : RaftMessage}
    (answered : packet.msg.AnsweredBy reply)
    (quiet : RaftBehaviour.Quiet
      ({ state.behaviour node with engine := engine }.pushEvent
        (.notifyHandler (network.peerId packet.source) (.one conn)
          (.sendResponse channelId packet.correlationId reply))) after) :
    Wired network (state.drain node after) := by
  obtain ⟨requests, responses⟩ := wired.serve_packets quiet
  have samePending : ∀ id request, after.Pends id request →
      (state.behaviour node).Pends id request := by
    intro id request pends
    rw [RaftBehaviour.Pends, quiet.pending] at pends
    exact pends
  have advanced : Advanced (state.behaviour node) after :=
    ⟨quiet.nextCorrelationId.ge,
      fun id request pends => .inl (samePending id request pends)⟩
  have tracked : after.Tracked := by
    refine RaftBehaviour.Tracked.quiet ?_ quiet
    have old := wired.tracked node
    exact ⟨old.fresh, old.isRequest, old.kind, old.mapped⟩
  refine wired.drain advanced ?_ tracked ?_ ?_
  · rw [quiet.peerMap]
    exact wired.truthful node
  · rw [requests]
    exact fun _ none => absurd none List.not_mem_nil
  · rw [responses]
    intro response isResponse
    rw [List.mem_singleton.mp isResponse]
    refine ResponseMatches.drain advanced ⟨?_, ?_⟩
    · intro other isPeer
      rw [← network.peerId_injective isPeer]
      exact known.handedOut
    · intro other isPeer request pends
      rw [← network.peerId_injective isPeer] at pends
      obtain ⟨samePeer, sameMsg⟩ := known.pending request pends
      refine ⟨wired.target_eq pends (samePeer.trans addressed), ?_⟩
      rw [sameMsg]
      exact answered

/-- A response that settles a request is a reply of the node asked to it. -/
theorem Wired.settles
    (wired : Wired network state)
    {position : Nat}
    {packet : Packet}
    (found : state.responses[position]? = some packet)
    (addressed : packet.peer = network.peerId node)
    {request : PendingRequest}
    (pends : (state.behaviour node).Pends packet.correlationId request) :
    request.target = packet.source ∧ request.msg.AnsweredBy packet.msg :=
  (wired.responses packet (List.mem_of_getElem? found)).pending node addressed
    request pends

theorem tracked_new
    {behaviour : MemoryBehaviour}
    (none : behaviour.pending = ∅) :
    behaviour.Tracked := by
  have absent : ∀ id request, ¬ behaviour.Pends id request := by
    intro id request pends
    rw [RaftBehaviour.Pends, none, AList.lookup_empty] at pends
    contradiction
  exact ⟨fun _ _ pends => absurd pends (absent _ _),
    fun _ _ pends => absurd pends (absent _ _),
    fun _ _ pends => absurd pends (absent _ _),
    fun _ _ pends => absurd pends (absent _ _)⟩

/-- The seeds of a new process are truthful. -/
theorem truthful_new
    (network : Network)
    (node : NodeId) :
    (PeerMap.fromSeeds (network.config node).seedPeers).Respects
      fun other peer => peer = network.peerId other :=
  PeerMap.respects_fromSeeds (network.seed_peerId node)

/-- A new process hands over only what it tells its application. -/
theorem revive_packets
    (network : Network)
    (before : MemoryBehaviour)
    (node : NodeId)
    (now : Nat) :
    (network.revive before node now).requests node = [] ∧
      (network.revive before node now).responses node = [] ∧
      committedBatches (network.revive before node now).pendingEvents = [] := by
  have queue : (network.revive before node now).pendingEvents =
      (network.config node).seedPeers.map fun seed =>
        .generateEvent (.peerMapped seed.peerId seed.nodeId) := rfl
  refine ⟨?_, ?_, ?_⟩
  · rw [RaftBehaviour.requests, queue, List.filterMap_map,
      List.filterMap_eq_nil_iff]
    exact fun _ _ => rfl
  · rw [RaftBehaviour.responses, queue, List.filterMap_map,
      List.filterMap_eq_nil_iff]
    exact fun _ _ => rfl
  · rw [committedBatches, queue, List.filterMap_map, List.filterMap_eq_nil_iff]
    exact fun _ _ => rfl

theorem Wired.revive
    (wired : Wired network state)
    (node : NodeId)
    (now : Nat) :
    Wired network
      (state.drain node (network.revive (state.behaviour node) node now)) := by
  obtain ⟨requests, responses, -⟩ :=
    network.revive_packets (state.behaviour node) node now
  refine wired.drain ⟨le_rfl, ?_⟩ (truthful_new network node)
    (tracked_new rfl) ?_ ?_
  · intro id request pends
    exact absurd pends (by simp [RaftBehaviour.Pends, Network.revive,
      RaftBehaviour.new, RaftBehaviour.armSleep])
  · rw [requests]
    exact fun _ inside => absurd inside List.not_mem_nil
  · rw [responses]
    exact fun _ inside => absurd inside List.not_mem_nil

/-- Every input keeps the wire in order. -/
theorem Wired.step
    (wired : Wired network state)
    (input : Input) :
    Wired network (network.system.step state input) := by
  rcases network.step_effect state input with same | ⟨-, effect⟩
  · rw [same]
    exact wired
  generalize network.system.step state input = result at effect ⊢
  cases effect with
  | skipped => exact wired
  | idle _ after fewer loses silent =>
      have none := (fewer.behaviour input.node).dropAll_dropped []
      refine (wired.loses loses).dropped none ?_
      rw [loses.behaviour]
      exact silent.toQuiet
  | dropped _ id after failed silent =>
      exact wired.dropped ((state.behaviour input.node).drop_dropped id) silent.toQuiet
  | disconnected _ peer after silent =>
      exact wired.dropped ((state.behaviour input.node).dropAll_dropped _) silent.toQuiet
  | ticked node now after silent =>
      exact wired.act (.refl _) (wired.tracked node)
        (fun _ _ _ same => Call.noConfusion same) silent.toQuiet
  | proposed node data now after silent =>
      exact wired.act (.refl _) (wired.tracked node)
        (fun _ _ _ same => Call.noConfusion same) silent.toQuiet
  | served node position conn channelId now packet sender after found addressed
      mapped told handled =>
      have known := wired.requests packet (List.mem_of_getElem? found)
      have loses : Loses state
          { state with requests := state.requests.eraseIdx position } :=
        ⟨rfl, fun _ => List.mem_of_mem_eraseIdx, fun _ => id, rfl⟩
      obtain ⟨actions, reply, emitted, answered, silent, noBroadcast⟩ :=
        (state.engine node).request_reply [] sender known.isRequest now
      exact (wired.loses loses).serve known addressed answered
        (handled actions reply [] emitted silent noBroadcast)
  | settled node position conn now packet request after found addressed pends
      silent =>
      have loses : Loses state
          { state with responses := state.responses.eraseIdx position } :=
        ⟨rfl, fun _ => id, fun _ => List.mem_of_mem_eraseIdx, rfl⟩
      have isReply := (wired.settles found addressed pends).2.not_isRequest
      refine (wired.loses loses).act (.erase _ packet.correlationId)
        ((wired.tracked node).erased _) ?_ silent.toQuiet
      rintro sender msg time ⟨⟩
      exact isReply
  | restarted node now => exact wired.revive node now

/-- The wire is in order after every run. -/
theorem wired
    (network : Network)
    (inputs : List Input) :
    Wired network (network.system.run inputs) := by
  refine network.system.invariant ?_ (fun _ input wired => wired.step input)
    inputs
  exact ⟨fun _ => rfl, truthful_new network, fun _ => tracked_new rfl,
    fun _ none => absurd none List.not_mem_nil,
    fun _ none => absurd none List.not_mem_nil⟩

end Network

end Libp2pRaft
