import Libp2pRaft.Behaviour.Behaviour

/-!
# What the entry points are made of

Whatever an entry point does to a behaviour, it does in a few kinds of updates.
Dispatching actions queues reports, notes failures, dials, sends requests and
answers the request being handled.  Failing requests drops them and reports them.
What every update keeps, every entry point keeps.
-/

namespace Libp2pRaft

open TransitionSystem

namespace RaftBehaviour

variable {S : Type} (self : RaftBehaviour S)

/-! ## Single updates -/

/-- A request that goes out. -/
def request
    (target : NodeId)
    (peer : PeerId)
    (msg : RaftMessage)
    (now : Nat) : PendingRequest where
  correlationId := self.nextCorrelationId
  target := target
  peer := peer
  kind := rpcKind msg
  sentAt := now
  msg := msg

/-- The behaviour once a request went out. -/
def post
    (target : NodeId)
    (peer : PeerId)
    (msg : RaftMessage)
    (now : Nat) : RaftBehaviour S :=
  { self with
      nextCorrelationId := self.nextCorrelationId + 1
      pending := self.pending.insert self.nextCorrelationId
        (self.request target peer msg now) }.pushEvent
    (.notifyHandler peer .any (.sendRequest self.nextCorrelationId msg))

/-- The behaviour once its engine learned of a failure. -/
def noteFailure (target : NodeId) (kind : RpcKind) : RaftBehaviour S :=
  { self with engine := (self.engine.handleRpcFailure target kind).1 }

/-- The behaviour once the open channel got its response. -/
def respond
    (channelId : Nat)
    (channel : InboundChannel)
    (msg : RaftMessage) : RaftBehaviour S :=
  { self with
      inboundChannels := self.inboundChannels.erase channelId }.pushEvent
    (.notifyHandler channel.peer (.one channel.conn)
      (.sendResponse channelId channel.correlationId msg))

/-- The behaviour once a dial of a peer is under way. -/
def dial (peer : PeerId) (addresses : List Multiaddr) : RaftBehaviour S :=
  { self with dialing := insert peer self.dialing }.pushEvent
    (.dial peer addresses)

/-- The behaviour once a pending request failed. -/
def drop (correlationId : Nat) : RaftBehaviour S :=
  match self.pending.lookup correlationId with
  | none => self
  | some request =>
      { self with
        pending := self.pending.erase correlationId
        engine := (self.engine.handleRpcFailure request.target request.kind).1 }

/-- The pending requests to a peer. -/
def peerRequests (peer : PeerId) : List Nat :=
  (self.pending.entries.filter fun entry =>
    decide (entry.2.peer = peer)).map Sigma.fst

/-! ## Dials -/

/-- The addresses that the behaviour adds to an outbound connection. -/
def handlePendingOutboundConnection
    (maybePeer : Option PeerId)
    (_addresses : List Multiaddr) : List Multiaddr :=
  match maybePeer with
  | none => []
  | some peer =>
      match self.peerMap.nodeId peer with
      | none => []
      | some node => (self.peerMap.addrs node).getD []

/-- Nothing stands against a dial of a peer. -/
structure MayDial
    (behaviour : RaftBehaviour S)
    (peer : PeerId)
    (addresses : List Multiaddr)
    (now : Nat) : Prop where
  disconnected : behaviour.isConnected peer = false
  idle : peer ∉ behaviour.dialing
  rested : ∀ backoff ∈ behaviour.dialBackoffUntil.lookup peer, backoff ≤ now
  reachable : addresses ≠ []
  offered : behaviour.handlePendingOutboundConnection (some peer) [] = addresses

/-- A peer is dialled only if nothing stands against it. -/
theorem dialSeed_cases
    (peer : PeerId)
    (now : Nat) :
    self.dialSeed peer now = self ∨
      ∃ addresses, self.MayDial peer addresses now ∧
        self.dialSeed peer now = self.dial peer addresses := by
  unfold dialSeed
  by_cases unneeded : self.isConnected peer ∨ peer ∈ self.dialing
  · rw [if_pos unneeded]
    exact .inl rfl
  rw [if_neg unneeded]
  split
  · exact .inl rfl
  rename_i early
  cases mapped : self.peerMap.nodeId peer with
  | none => exact .inl rfl
  | some node =>
      cases known : self.peerMap.addrs node with
      | none => exact .inl (by simp only [known])
      | some addresses =>
          simp only [known]
          split
          · exact .inl rfl
          rename_i filled
          rw [not_or, Bool.not_eq_true] at unneeded
          refine .inr ⟨addresses, ⟨unneeded.1, unneeded.2, ?_, ?_, ?_⟩, rfl⟩
          · intro backoff isBackoff
            rw [Option.mem_def] at isBackoff
            simp only [isBackoff, Option.map_some, Option.getD_some,
              decide_eq_true_eq, not_lt] at early
            exact early
          · simpa using filled
          · simp [handlePendingOutboundConnection, mapped, known]

/-! ## Dispatches -/

/-- An update of a dispatch, which may answer the request being handled. -/
inductive Edit
    (inboundFrom : Option (NodeId × Nat))
    (now : Nat)
    (self : RaftBehaviour S) : RaftBehaviour S → Prop
  | reported (event : Event) :
      Edit inboundFrom now self (self.pushEvent (.generateEvent event))
  | noted (target : NodeId) (kind : RpcKind) :
      Edit inboundFrom now self (self.noteFailure target kind)
  | dialled (peer : PeerId) (addresses : List Multiaddr)
      (mayDial : self.MayDial peer addresses now) :
      Edit inboundFrom now self (self.dial peer addresses)
  | posted (target : NodeId) (peer : PeerId) (msg : RaftMessage)
      (mapped : self.peerMap.peerId target = some peer)
      (connected : self.isConnected peer = true) :
      Edit inboundFrom now self (self.post target peer msg now)
  | responded (sender : NodeId) (channelId : Nat) (channel : InboundChannel)
      (msg : RaftMessage)
      (asked : inboundFrom = some (sender, channelId))
      (isOpen : self.inboundChannels.lookup channelId = some channel) :
      Edit inboundFrom now self (self.respond channelId channel msg)

variable {inboundFrom : Option (NodeId × Nat)} {now : Nat}

theorem dialSeed_edits
    (peer : PeerId) :
    Relation.ReflTransGen (Edit inboundFrom now) self
      (self.dialSeed peer now) := by
  rcases self.dialSeed_cases peer now with idle | ⟨addresses, mayDial, dialled⟩
  · rw [idle]
  · rw [dialled]
    exact .single (.dialled peer addresses mayDial)

theorem sendRpc_edits
    (target : NodeId)
    (msg : RaftMessage) :
    Relation.ReflTransGen (Edit inboundFrom now) self
      (self.sendRpc target msg now) := by
  have noted : Edit inboundFrom now self
      (self.noteFailure target (rpcKind msg)) := .noted target (rpcKind msg)
  unfold sendRpc
  cases mapped : self.peerMap.peerId target with
  | none => exact .head noted (.single (.reported _))
  | some peer =>
      simp only
      split_ifs with connected
      · exact .single (.posted target peer msg mapped connected)
      · exact .head noted (dialSeed_edits _ peer)

theorem executeAction_edits
    (action : Action) :
    Relation.ReflTransGen (Edit inboundFrom now) self
      (self.executeAction inboundFrom now action) := by
  cases action with
  | send target msg =>
      cases asked : inboundFrom with
      | none => exact self.sendRpc_edits target msg
      | some request =>
          obtain ⟨sender, channelId⟩ := request
          simp only [executeAction]
          split_ifs
          · cases isOpen : self.inboundChannels.lookup channelId with
            | none => exact self.sendRpc_edits target msg
            | some channel =>
                exact .single (.responded sender channelId channel msg rfl isOpen)
          · exact self.sendRpc_edits target msg
  | broadcast msg =>
      exact reflTransGen_foldl
        (fun before voter => before.sendRpc_edits voter msg) _ self
  | apply => exact .single (.reported _)
  | becomeLeader => exact .single (.reported _)
  | becomeFollower => exact .single (.reported _)
  | becomeCandidate => exact .single (.reported _)
  | snapshotInstallComplete => exact .refl

theorem executeActions_edits
    (actions : List Action) :
    Relation.ReflTransGen (Edit inboundFrom now) self
      (self.executeActions actions inboundFrom now) :=
  reflTransGen_foldl (fun before action => before.executeAction_edits action)
    actions self

/-! ## Failing requests -/

/-- An update that failing requests makes. -/
inductive Lapse (self : RaftBehaviour S) : RaftBehaviour S → Prop
  | dropped (correlationId : Nat) : Lapse self (self.drop correlationId)
  | reported (peer : PeerId) (error : Error) :
      Lapse self (self.pushEvent (.generateEvent (.rpcFailed (some peer) error)))

/-- The engine asks for nothing when it learns of a failure. -/
theorem handleRpcFailure_silent
    (engine : RaftEngine S)
    (target : NodeId)
    (kind : RpcKind) :
    (engine.handleRpcFailure target kind).2 = [] := by
  unfold RaftEngine.handleRpcFailure
  split_ifs
  · rfl
  · rfl

/-- A request that fails is dropped, and reported if it is to be. -/
theorem failPending_cases
    (correlationId : Nat)
    (error : String)
    (emitEvent : Bool)
    (now : Nat) :
    self.failPending correlationId error emitEvent now =
        self.drop correlationId ∨
      emitEvent = true ∧ ∃ peer,
        self.failPending correlationId error emitEvent now =
          (self.drop correlationId).pushEvent
            (.generateEvent (.rpcFailed (some peer) (.rpc error))) := by
  unfold failPending drop
  cases self.pending.lookup correlationId with
  | none => exact .inl rfl
  | some request =>
      simp only [handleRpcFailure_silent, executeActions, List.foldl_nil]
      cases emitEvent with
      | false => exact .inl rfl
      | true => exact .inr ⟨rfl, request.peer, rfl⟩

theorem failPending_lapses
    (correlationId : Nat)
    (error : String)
    (emitEvent : Bool)
    (now : Nat) :
    Relation.ReflTransGen Lapse self
      (self.failPending correlationId error emitEvent now) := by
  have dropped : Lapse self (self.drop correlationId) := .dropped correlationId
  rcases self.failPending_cases correlationId error emitEvent now with
    quiet | ⟨-, peer, reported⟩
  · rw [quiet]
    exact .single dropped
  · rw [reported]
    exact .head dropped (.single (.reported peer (.rpc error)))

theorem failPendings_lapses
    (ids : List Nat)
    (error : String)
    (emitEvent : Bool)
    (now : Nat) :
    Relation.ReflTransGen Lapse self
      (ids.foldl (fun self id => failPending self id error emitEvent now)
        self) :=
  reflTransGen_foldl
    (fun before id => before.failPending_lapses id error emitEvent now) ids self

theorem expirePending_lapses
    (now : Nat) :
    Relation.ReflTransGen Lapse self (self.expirePending now) :=
  self.failPendings_lapses (self.timedOut now) "rpc timeout" false now

/-! ## Reports of the swarm -/

/-- The behaviour without a connection, before requests fail. -/
def disconnect (peer : PeerId) (conn : ConnectionId) : RaftBehaviour S :=
  { self with
    connected :=
      match self.connected.lookup peer with
      | none => self.connected
      | some conns =>
          if conns.erase conn = ∅ then
            self.connected.erase peer
          else
            self.connected.insert peer (conns.erase conn)
    dialing := self.dialing.erase peer }

/-- What a report of the swarm says about connections and dials, before requests
fail. -/
def hear (event : FromSwarm) (now : Nat) : RaftBehaviour S :=
  match event with
  | .connectionEstablished peer conn =>
      { self with
        dialing := self.dialing.erase peer
        dialBackoffUntil := self.dialBackoffUntil.erase peer
        connected := self.connected.insert peer
          (insert conn ((self.connected.lookup peer).getD ∅)) }
  | .connectionClosed peer conn => self.disconnect peer conn
  | .dialFailure (some peer) error =>
      if isBenignDialError error then
        { self with dialing := self.dialing.erase peer }.dialBackoff peer now
      else
        { self with dialing := self.dialing.erase peer }
  | .dialFailure none _ => self
  | .other => self

/-- Hearing a report touches connections, dials and backoffs only. -/
theorem hear_frame
    (event : FromSwarm)
    (now : Nat) :
    ∃ connected dialing dialBackoffUntil, self.hear event now =
      { self with
        connected := connected
        dialing := dialing
        dialBackoffUntil := dialBackoffUntil } := by
  cases event with
  | connectionEstablished => exact ⟨_, _, _, rfl⟩
  | connectionClosed => exact ⟨_, _, _, rfl⟩
  | dialFailure peer error =>
      cases peer with
      | none => exact ⟨_, _, _, rfl⟩
      | some peer =>
          simp only [hear]
          split_ifs
          · exact ⟨_, _, _, rfl⟩
          · exact ⟨_, _, _, rfl⟩
  | other => exact ⟨_, _, _, rfl⟩

/-- Once a report is heard, requests fail at most. -/
theorem onSwarmEvent_lapses
    (event : FromSwarm)
    (now : Nat) :
    Relation.ReflTransGen Lapse (self.hear event now)
      (self.onSwarmEvent event now) := by
  cases event with
  | connectionEstablished => exact .refl
  | connectionClosed peer conn =>
      simp only [hear, onSwarmEvent]
      split_ifs
      · exact .refl
      · exact failPendings_lapses (self.disconnect peer conn) _ _ _ now
  | dialFailure peer error =>
      cases peer with
      | none => exact .refl
      | some peer =>
          simp only [hear, onSwarmEvent]
          split_ifs
          · exact failPendings_lapses _ _ _ _ now
          · exact (failPendings_lapses _ _ _ _ now).tail (.reported peer _)
  | other => exact .refl

/-! ## Own entry points -/

/-- An update of the entry points that are no report of the swarm. -/
inductive Update (now : Nat) (self : RaftBehaviour S) : RaftBehaviour S → Prop
  | edited (after : RaftBehaviour S) (edit : Edit none now self after) :
      Update now self after
  | lapsed (after : RaftBehaviour S) (lapse : Lapse self after) :
      Update now self after
  | called (engine : RaftEngine S) :
      Update now self { self with engine := engine }
  | settled (correlationId : Nat) (engine : RaftEngine S) :
      Update now self
        { self with
          pending := self.pending.erase correlationId
          engine := engine }
  | armed (deadline : Nat) : Update now self (self.armSleep deadline now)

/-- The actions of a call are dispatched, and the sleep is armed. -/
theorem dispatched_updates
    {called : RaftBehaviour S}
    (update : Update now self called)
    (actions : List Action) :
    Relation.ReflTransGen (Update now) self
      ((called.executeActions actions none now).armSleep
        (called.executeActions actions none now).earliestWake now) :=
  .head update (.tail
    (.mono (fun _ after edit => .edited after edit)
      _ _ (called.executeActions_edits actions))
    (.armed _))

section

variable [Storage S]

theorem propose_updates
    (data : List UInt8)
    (now : Nat) :
    Relation.ReflTransGen (Update now) self (self.propose data now).1 := by
  unfold propose
  rcases self.engine.propose data with ⟨engine, error | ⟨index, actions⟩⟩
  · exact .single (.called engine)
  · exact self.dispatched_updates (.called engine) actions

theorem tickEngine_updates
    (now : Nat) :
    Relation.ReflTransGen (Update now) self (self.tickEngine now) := by
  unfold tickEngine
  split_ifs
  · exact self.dispatched_updates (.called _) _
  · exact .refl

/-- A response settles its request, or is dropped. -/
theorem response_updates
    (peer : PeerId)
    (conn : ConnectionId)
    (correlationId : Nat)
    (msg : RaftMessage)
    (now : Nat) :
    Relation.ReflTransGen (Update now) self
      (self.onConnectionHandlerEvent peer conn (.response correlationId msg)
        now) := by
  simp only [onConnectionHandlerEvent]
  cases self.pending.lookup correlationId with
  | none => exact .refl
  | some request =>
      exact self.dispatched_updates (.settled correlationId _) _

theorem failure_updates
    (peer : PeerId)
    (conn : ConnectionId)
    (correlationId : Option Nat)
    (error : String)
    (now : Nat) :
    Relation.ReflTransGen (Update now) self
      (self.onConnectionHandlerEvent peer conn (.failure correlationId error)
        now) := by
  cases correlationId with
  | none => exact .head (.edited _ (.reported _)) (.single (.armed _))
  | some id =>
      have failed : Relation.ReflTransGen (Update now) self
          (self.failPending id error true now) :=
        .mono (fun _ after lapse => .lapsed after lapse) _ _
          (self.failPending_lapses id error true now)
      exact failed.tail (.armed _)

/-- A round of `poll` expires requests and ticks the engine, before it takes an
event or arms the sleep. -/
theorem pollRound_updates
    (now : Nat)
    (elapsed : Bool) :
    ∃ middle, Relation.ReflTransGen (Update now) self middle ∧
      ∃ events sleep, (self.pollRound now elapsed).1 =
        { middle with pendingEvents := events, sleep := sleep } := by
  have expired : Relation.ReflTransGen (Update now) self
      (self.expirePending now) :=
    .mono (fun _ after lapse => .lapsed after lapse) _ _
      (self.expirePending_lapses now)
  have ticked := expired.trans ((self.expirePending now).tickEngine_updates now)
  unfold pollRound
  split
  · exact ⟨self, .refl, _, _, rfl⟩
  · simp only
    split
    · exact ⟨_, expired, _, _, rfl⟩
    · split
      · exact ⟨_, ticked, _, _, rfl⟩
      · split
        · exact ⟨_, ticked, _, _, rfl⟩
        · exact ⟨_, ticked, _, _, rfl⟩

/-- The behaviour that is about to dispatch the actions on a request. -/
def openChannel
    (peer : PeerId)
    (conn : ConnectionId)
    (correlationId channelId : Nat)
    (sender : NodeId)
    (msg : RaftMessage)
    (now : Nat) : RaftBehaviour S :=
  { self with
    inboundChannels := self.inboundChannels.insert channelId
      ⟨peer, conn, correlationId⟩
    engine := (self.engine.handleRpc sender msg now).1 }

/-- The behaviour that is done with a request. -/
def closeChannel (channelId now : Nat) : RaftBehaviour S :=
  { self with
    inboundChannels := self.inboundChannels.erase channelId
    sleep := now + (self.earliestWake - now) }

/-- A request from a mapped peer is handled between opening and closing its
channel. -/
theorem onRequest_eq
    {peer : PeerId}
    {sender : NodeId}
    (mapped : self.peerMap.nodeId peer = some sender)
    (conn : ConnectionId)
    (correlationId : Nat)
    (msg : RaftMessage)
    (channelId now : Nat) :
    self.onConnectionHandlerEvent peer conn
        (.request correlationId msg channelId) now =
      ((self.openChannel peer conn correlationId channelId sender msg
        now).executeActions (self.engine.handleRpc sender msg now).2
          (some (sender, channelId)) now).closeChannel channelId now := by
  simp only [onConnectionHandlerEvent, mapped]
  rfl

end

end RaftBehaviour

end Libp2pRaft
