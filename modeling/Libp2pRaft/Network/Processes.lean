import Libp2pRaft.Behaviour.Pipeline
import Libp2pRaft.Cluster.Engines

/-!
# Processes on a network

The nodes of a cluster, each behind its behaviour.  A request stays on the wire
until its target handles it, at most once, or forever; so does its response.  A
pending request may time out once its time is over, and a connection may fail or
close at any moment.  A restarted process keeps its storage and knows nothing of
the requests before; its ids go on, which is to say that no response to an
earlier request finds a pending entry.
-/

namespace Libp2pRaft

open TransitionSystem

/-- The nodes of a cluster with their libp2p identities.  Every seed list tells
the truth. -/
structure Network extends Cluster where
  peerId : NodeId → PeerId
  peerId_injective : Function.Injective peerId
  seed_peerId : ∀ node, ∀ seed ∈ (config node).seedPeers,
    seed.peerId = peerId seed.nodeId

namespace Network

/-- What can happen on a network. -/
inductive Input
  | tick (node : NodeId) (now : Nat)
  | propose (node : NodeId) (data : List UInt8) (now : Nat)
  | timeout (node : NodeId) (correlationId now : Nat)
  | request (node : NodeId) (position : Nat) (conn : ConnectionId)
      (channelId now : Nat)
  | response (node : NodeId) (position : Nat) (conn : ConnectionId) (now : Nat)
  | failure (node : NodeId) (peer : PeerId) (conn : ConnectionId)
      (correlationId : Option Nat) (error : String) (now : Nat)
  | swarm (node : NodeId) (event : FromSwarm) (now : Nat)
  | restart (node : NodeId) (now : Nat)
  deriving DecidableEq, Repr

/-- The node something happens to. -/
def Input.node : Input → NodeId
  | .tick node _ => node
  | .propose node _ _ => node
  | .timeout node _ _ => node
  | .request node _ _ _ _ => node
  | .response node _ _ _ => node
  | .failure node _ _ _ _ _ => node
  | .swarm node _ _ => node
  | .restart node _ => node

/-- The behaviours, the wire, and what the applications were told. -/
structure State where
  behaviour : NodeId → MemoryBehaviour
  requests : List Packet
  responses : List Packet
  reports : List (NodeId × Event)

/-- Replace one behaviour, and hand over what it has queued. -/
def State.drain
    (state : State)
    (node : NodeId)
    (after : MemoryBehaviour) : State where
  behaviour := Function.update state.behaviour node
    { after with pendingEvents := [] }
  requests := state.requests ++ after.requests node
  responses := state.responses ++ after.responses node
  reports := state.reports ++
    (after.pendingEvents.filterMap ToSwarm.report).map fun event => (node, event)

variable (network : Network)

/-- A new process over the storage of an old one. -/
def revive
    (before : MemoryBehaviour)
    (node : NodeId)
    (now : Nat) : MemoryBehaviour :=
  { RaftBehaviour.new (network.config node) before.engine.storage now with
    nextCorrelationId := before.nextCorrelationId }

/-- The effect of an input on a node of the network. -/
def perform (state : State) : Input → State
  | .tick node now => state.drain node ((state.behaviour node).tickEngine now)
  | .propose node data now =>
      state.drain node ((state.behaviour node).propose data now).1
  | .timeout node correlationId now =>
      if correlationId ∈ (state.behaviour node).timedOut now then
        state.drain node
          ((state.behaviour node).failPending correlationId "rpc timeout" false
            now)
      else
        state
  | .request node position conn channelId now =>
      match state.requests[position]? with
      | none => state
      | some packet =>
          if packet.peer = network.peerId node then
            { state with
                requests := state.requests.eraseIdx position }.drain node
              ((state.behaviour node).onConnectionHandlerEvent
                (network.peerId packet.source) conn
                (.request packet.correlationId packet.msg channelId) now)
          else
            state
  | .response node position conn now =>
      match state.responses[position]? with
      | none => state
      | some packet =>
          if packet.peer = network.peerId node then
            { state with
                responses := state.responses.eraseIdx position }.drain node
              ((state.behaviour node).onConnectionHandlerEvent
                (network.peerId packet.source) conn
                (.response packet.correlationId packet.msg) now)
          else
            state
  | .failure node peer conn correlationId error now =>
      state.drain node
        ((state.behaviour node).onConnectionHandlerEvent peer conn
          (.failure correlationId error) now)
  | .swarm node event now =>
      state.drain node ((state.behaviour node).onSwarmEvent event now)
  | .restart node now =>
      state.drain node (network.revive (state.behaviour node) node now)

/-- Runs of the network. -/
def system : System State Input where
  init :=
    { behaviour := fun node =>
        { RaftBehaviour.new (network.config node) (network.storage node)
            network.start with
          pendingEvents := [] }
      requests := []
      responses := []
      reports := [] }
  step := fun state input =>
    if input.node ∈ network.nodes then network.perform state input else state

/-- The engine of a node. -/
abbrev State.engine (state : State) (node : NodeId) : MemoryEngine :=
  (state.behaviour node).engine

/-- An election timer that fires finds a term below the largest `u64`. -/
def TermsBelowMax (state : State) : Input → Prop
  | .tick node now =>
      (state.engine node).role ≠ .leader →
      (state.engine node).electionDeadline ≤ now →
        (state.engine node).currentTerm < u64Max
  | _ => True

instance (state : State) (input : Input) :
    Decidable (TermsBelowMax state input) := by
  cases input with
  | tick node now => exact inferInstanceAs (Decidable (_ → _ → _))
  | propose => exact inferInstanceAs (Decidable True)
  | timeout => exact inferInstanceAs (Decidable True)
  | request => exact inferInstanceAs (Decidable True)
  | response => exact inferInstanceAs (Decidable True)
  | failure => exact inferInstanceAs (Decidable True)
  | swarm => exact inferInstanceAs (Decidable True)
  | restart => exact inferInstanceAs (Decidable True)

/-! ## What one input does -/

/-- The wire lost packets. -/
structure Loses (state fewer : State) : Prop where
  behaviour : fewer.behaviour = state.behaviour
  requests : ∀ packet ∈ fewer.requests, packet ∈ state.requests
  responses : ∀ packet ∈ fewer.responses, packet ∈ state.responses
  reports : fewer.reports = state.reports

theorem Loses.refl (state : State) : Loses state state :=
  ⟨rfl, fun _ => id, fun _ => id, rfl⟩

/-- The request of its node that an input fails by its id. -/
def State.failed (state : State) : Input → Option Nat
  | .timeout node correlationId now =>
      if correlationId ∈ (state.behaviour node).timedOut now then
        some correlationId
      else
        none
  | .failure _ _ _ correlationId _ _ => correlationId
  | _ => none

/-- What an input can do to the state. -/
inductive Effect (network : Network) (state : State) : Input → State → Prop
  | skipped (input : Input) : Effect network state input state
  | idle (input : Input) (after : MemoryBehaviour) (fewer : State)
      (loses : Loses state fewer)
      (silent : RaftBehaviour.Silent (state.behaviour input.node) after) :
      Effect network state input (fewer.drain input.node after)
  | dropped (input : Input) (id : Nat) (after : MemoryBehaviour)
      (failed : state.failed input = some id)
      (silent : RaftBehaviour.Silent ((state.behaviour input.node).drop id)
        after) :
      Effect network state input (state.drain input.node after)
  | disconnected (input : Input) (peer : PeerId) (after : MemoryBehaviour)
      (silent : RaftBehaviour.Silent
        ((state.behaviour input.node).dropPeer peer) after) :
      Effect network state input (state.drain input.node after)
  | ticked (node : NodeId) (now : Nat) (after : MemoryBehaviour)
      (silent : RaftBehaviour.Silent
        ((state.behaviour node).act (.tick now) now) after) :
      Effect network state (.tick node now) (state.drain node after)
  | proposed (node : NodeId) (data : List UInt8) (now : Nat)
      (after : MemoryBehaviour)
      (silent : RaftBehaviour.Silent
        ((state.behaviour node).act (.propose data) now) after) :
      Effect network state (.propose node data now) (state.drain node after)
  | served (node : NodeId) (position : Nat) (conn : ConnectionId)
      (channelId now : Nat) (packet : Packet) (sender : NodeId)
      (after : MemoryBehaviour)
      (found : state.requests[position]? = some packet)
      (addressed : packet.peer = network.peerId node)
      (mapped : (state.behaviour node).peerMap.nodeId
        (network.peerId packet.source) = some sender)
      (told : committedBatches after.pendingEvents =
        committedBatches (state.behaviour node).pendingEvents ++
          ((state.engine node).call
            (.rpc sender packet.msg now)).2.filterMap Action.batch)
      (handled : ∀ actions reply others,
        ((state.engine node).call (.rpc sender packet.msg now)).2 =
          actions ++ [.send sender reply] →
        outgoing others actions = [] →
        (∀ msg, .broadcast msg ∉ actions) →
          RaftBehaviour.Quiet
            ({ state.behaviour node with
              engine := ((state.engine node).call
                (.rpc sender packet.msg now)).1 }.pushEvent
              (.notifyHandler (network.peerId packet.source) (.one conn)
                (.sendResponse channelId packet.correlationId reply)))
            after) :
      Effect network state (.request node position conn channelId now)
        ({ state with
            requests := state.requests.eraseIdx position }.drain node after)
  | settled (node : NodeId) (position : Nat) (conn : ConnectionId) (now : Nat)
      (packet : Packet) (request : PendingRequest) (after : MemoryBehaviour)
      (found : state.responses[position]? = some packet)
      (addressed : packet.peer = network.peerId node)
      (pends : (state.behaviour node).Pends packet.correlationId request)
      (silent : RaftBehaviour.Silent
        ((state.behaviour node).settle packet.correlationId request.target
          packet.msg now) after) :
      Effect network state (.response node position conn now)
        ({ state with
            responses := state.responses.eraseIdx position }.drain node after)
  | restarted (node : NodeId) (now : Nat) :
      Effect network state (.restart node now)
        (state.drain node (network.revive (state.behaviour node) node now))

/-- Every input of a node has one of the effects. -/
theorem perform_effect
    (state : State)
    (input : Input) :
    Effect network state input (network.perform state input) := by
  cases input with
  | tick node now =>
      rcases (state.behaviour node).tickEngine_cases now with same | silent
      · refine .idle (.tick node now) _ state (.refl state) ?_
        rw [same]
        exact .refl _
      · exact .ticked node now _ silent
  | propose node data now =>
      exact .proposed node data now _ ((state.behaviour node).propose_silent data now)
  | timeout node correlationId now =>
      simp only [perform]
      split_ifs with due
      · exact .dropped (.timeout node correlationId now) correlationId _
          (if_pos due)
          ((state.behaviour node).failPending_silent correlationId _ _ now)
      · exact .skipped _
  | request node position conn channelId now =>
      simp only [perform]
      cases found : state.requests[position]? with
      | none => exact .skipped _
      | some packet =>
          simp only
          split_ifs with addressed
          · rcases (state.behaviour node).request_cases
              (network.peerId packet.source) conn packet.correlationId packet.msg
              channelId now with ⟨-, silent⟩ | ⟨sender, mapped, told, handled⟩
            · exact .idle (.request node position conn channelId now) _
                { state with requests := state.requests.eraseIdx position }
                ⟨rfl, fun _ => List.mem_of_mem_eraseIdx, fun _ => id, rfl⟩ silent
            · exact .served node position conn channelId now packet sender _
                found addressed mapped told handled
          · exact .skipped _
  | response node position conn now =>
      simp only [perform]
      cases found : state.responses[position]? with
      | none => exact .skipped _
      | some packet =>
          simp only
          split_ifs with addressed
          · rcases (state.behaviour node).response_cases
              (network.peerId packet.source) conn packet.correlationId packet.msg
              now with ⟨-, same⟩ | ⟨request, pends, silent⟩
            · refine .idle (.response node position conn now) _
                { state with responses := state.responses.eraseIdx position }
                ⟨rfl, fun _ => id, fun _ => List.mem_of_mem_eraseIdx, rfl⟩ ?_
              rw [same]
              exact .refl _
            · exact .settled node position conn now packet request _ found
                addressed pends silent
          · exact .skipped _
  | failure node peer conn correlationId error now =>
      have silent := (state.behaviour node).failure_silent peer conn correlationId
        error now
      cases correlationId with
      | none =>
          exact .idle (.failure node peer conn none error now) _ state
            (.refl state) silent
      | some id =>
          exact .dropped (.failure node peer conn (some id) error now) id _ rfl
            silent
  | swarm node event now =>
      rcases (state.behaviour node).onSwarmEvent_cases event now with
        silent | ⟨peer, silent⟩
      · exact .idle (.swarm node event now) _ state (.refl state) silent
      · exact .disconnected (.swarm node event now) peer _ silent
  | restart node now => exact .restarted node now

/-- A step does nothing, or has an effect on a node of the network. -/
theorem step_effect
    (state : State)
    (input : Input) :
    network.system.step state input = state ∨
      (input.node ∈ network.nodes ∧
        Effect network state input (network.system.step state input)) := by
  have applied : network.system.step state input =
      if input.node ∈ network.nodes then network.perform state input
      else state := rfl
  rw [applied]
  split_ifs with inside
  · exact .inr ⟨inside, network.perform_effect state input⟩
  · exact .inl rfl

variable {state : State} {node : NodeId} {after : MemoryBehaviour}

@[simp] theorem drain_behaviour_self :
    (state.drain node after).behaviour node =
      { after with pendingEvents := [] } := by
  simp [State.drain]

theorem drain_behaviour_of_ne
    {other : NodeId}
    (different : other ≠ node) :
    (state.drain node after).behaviour other = state.behaviour other := by
  simp [State.drain, different]

@[simp] theorem drain_engine_self :
    (state.drain node after).engine node = after.engine := by
  simp [State.engine]

theorem drain_engine_of_ne
    {other : NodeId}
    (different : other ≠ node) :
    (state.drain node after).engine other = state.engine other := by
  rw [State.engine, drain_behaviour_of_ne different]

/-- An input touches only the behaviour of its node. -/
theorem step_behaviour_of_ne
    (network : Network)
    (state : State)
    {input : Input}
    {node : NodeId}
    (different : node ≠ input.node) :
    (network.system.step state input).behaviour node = state.behaviour node := by
  rcases network.step_effect state input with same | ⟨-, effect⟩
  · rw [same]
  · generalize network.system.step state input = result at effect ⊢
    cases effect with
    | skipped => rfl
    | idle _ _ _ loses =>
        rw [drain_behaviour_of_ne different, loses.behaviour]
    | dropped => exact drain_behaviour_of_ne different
    | disconnected => exact drain_behaviour_of_ne different
    | ticked => exact drain_behaviour_of_ne different
    | proposed => exact drain_behaviour_of_ne different
    | served => exact drain_behaviour_of_ne different
    | settled => exact drain_behaviour_of_ne different
    | restarted => exact drain_behaviour_of_ne different

/-! ## Answers -/

/-- The response packet an input delivers. -/
def answer (network : Network) (state : State) : Input → Option Packet
  | .response node position _ _ =>
      if node ∈ network.nodes then
        (state.responses[position]?).filter fun packet =>
          decide (packet.peer = network.peerId node)
      else
        none
  | _ => none

theorem answer_cases
    {network : Network}
    {state : State}
    {input : Input}
    {packet : Packet}
    (isAnswer : packet ∈ network.answer state input) :
    ∃ position : Nat, state.responses[position]? = some packet ∧
      packet.peer = network.peerId input.node := by
  cases input with
  | response node position conn now =>
      simp only [answer] at isAnswer
      split_ifs at isAnswer
      · obtain ⟨found, addressed⟩ := Option.mem_filter_iff.mp isAnswer
        exact ⟨position, found, of_decide_eq_true addressed⟩
      · contradiction
  | tick => contradiction
  | propose => contradiction
  | timeout => contradiction
  | request => contradiction
  | failure => contradiction
  | swarm => contradiction
  | restart => contradiction

end Network

end Libp2pRaft
