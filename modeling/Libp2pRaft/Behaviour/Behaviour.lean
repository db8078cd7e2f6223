import Libp2pRaft.Behaviour.PeerMap
import Libp2pRaft.Library.TransitionSystem
import Libp2pRaft.Raft.Engine

/-!
# The network behaviour around an engine

`RaftBehaviour` of `behaviour.rs` and the events it exchanges with the
connection handlers and the swarm.  `Instant::now()` is an argument.  A map is
iterated in the order of its list of entries, so that every iteration order is
the order of some list.  The timer is the runtime's: the behaviour sets the
deadline of a sleep, and whether a poll of the sleep finds it over is an argument
of the round that polls it.  Correlation ids are naturals, as the `u64` counter
is until a process has sent `2 ^ 64` requests.  The waker is left out.
-/

namespace Libp2pRaft

open TransitionSystem

/-- Errors reported to the application. -/
inductive Error
  | raft (error : RaftError)
  | storage (error : StorageError)
  | codec (text : String)
  | unknownNode (node : NodeId)
  | rpc (text : String)
  deriving DecidableEq, Repr

/-- Events reported to the application.  The peer of a failed request is `none`
where the source makes up a random one. -/
inductive Event
  | roleChanged (role : Role) (term : Nat) (leader : Option NodeId)
  | committed (entries : List LogEntry)
  | peerMapped (peer : PeerId) (node : NodeId)
  | rpcFailed (peer : Option PeerId) (error : Error)
  deriving DecidableEq, Repr

/-- One libp2p connection. -/
abbrev ConnectionId := Nat

/-- Commands of the behaviour to a connection handler. -/
inductive FromBehaviour
  | sendRequest (correlationId : Nat) (msg : RaftMessage)
  | sendResponse (channelId correlationId : Nat) (msg : RaftMessage)
  deriving DecidableEq, Repr

/-- Reports of a connection handler to the behaviour. -/
inductive ToBehaviour
  | request (correlationId : Nat) (msg : RaftMessage) (channelId : Nat)
  | response (correlationId : Nat) (msg : RaftMessage)
  | failure (correlationId : Option Nat) (error : String)
  deriving DecidableEq, Repr

/-- Which handler of a peer a command is for. -/
inductive NotifyHandler
  | one (conn : ConnectionId)
  | any
  deriving DecidableEq, Repr

/-- What the behaviour asks of the swarm. -/
inductive ToSwarm
  | generateEvent (event : Event)
  | dial (peer : PeerId) (addresses : List Multiaddr)
  | notifyHandler (peer : PeerId) (handler : NotifyHandler)
      (event : FromBehaviour)
  deriving DecidableEq, Repr

/-- What the swarm reports to the behaviour.  A failed dial carries the debug
text of its error. -/
inductive FromSwarm
  | connectionEstablished (peer : PeerId) (conn : ConnectionId)
  | connectionClosed (peer : PeerId) (conn : ConnectionId)
  | dialFailure (peer : Option PeerId) (error : String)
  | other
  deriving DecidableEq, Repr

/-- A request that was handed to a connection and is not yet resolved. -/
structure PendingRequest where
  correlationId : Nat
  target : NodeId
  peer : PeerId
  kind : RpcKind
  sentAt : Nat
  msg : RaftMessage
  deriving DecidableEq, Repr

/-- Where the response to an inbound request goes. -/
structure InboundChannel where
  peer : PeerId
  conn : ConnectionId
  correlationId : Nat
  deriving DecidableEq, Repr

/-- The state of one behaviour. -/
structure RaftBehaviour (S : Type) where
  engine : RaftEngine S
  config : RaftConfig
  peerMap : PeerMap
  connected : HashMap PeerId (Finset ConnectionId)
  /-- Peers with an outbound dial in flight. -/
  dialing : Finset PeerId
  /-- Peers not to be dialled again before an instant. -/
  dialBackoffUntil : HashMap PeerId Nat
  pendingEvents : List ToSwarm
  nextCorrelationId : Nat
  pending : HashMap Nat PendingRequest
  inboundChannels : HashMap Nat InboundChannel
  /-- The deadline of the armed sleep. -/
  sleep : Nat

namespace RaftBehaviour

variable {S : Type} [Storage S]

/-- Arm the sleep for as long as a deadline is away. -/
def armSleep
    (self : RaftBehaviour S)
    (deadline now : Nat) : RaftBehaviour S :=
  let dur := deadline - now
  { self with sleep := now + dur }

def new
    (config : RaftConfig)
    (storage : S)
    (now : Nat) : RaftBehaviour S :=
  let engine := RaftEngine.new config storage now
  let self : RaftBehaviour S :=
    { engine := engine
      config := config
      peerMap := PeerMap.fromSeeds config.seedPeers
      connected := ∅
      dialing := ∅
      dialBackoffUntil := ∅
      pendingEvents := config.seedPeers.map fun seed =>
        .generateEvent (.peerMapped seed.peerId seed.nodeId)
      nextCorrelationId := 1
      pending := ∅
      inboundChannels := ∅
      sleep := now }
  self.armSleep engine.nextDeadline now

/-- Queue something for the swarm. -/
def pushEvent
    (self : RaftBehaviour S)
    (event : ToSwarm) : RaftBehaviour S :=
  { self with pendingEvents := self.pendingEvents ++ [event] }

def isConnected (self : RaftBehaviour S) (peer : PeerId) : Bool :=
  ((self.connected.lookup peer).map fun conns => decide (conns ≠ ∅)).getD false

def dialSeed
    (self : RaftBehaviour S)
    (peer : PeerId)
    (now : Nat) : RaftBehaviour S :=
  if self.isConnected peer ∨ peer ∈ self.dialing then
    self
  else if ((self.dialBackoffUntil.lookup peer).map
      fun backoff => decide (now < backoff)).getD false then
    self
  else
    match self.peerMap.nodeId peer with
    | none => self
    | some node =>
        match self.peerMap.addrs node with
        | none => self
        | some addrs =>
            if addrs.isEmpty then
              self
            else
              { self with dialing := insert peer self.dialing }.pushEvent
                (.dial peer addrs)

/-- Dial errors that are expected between retries. -/
def isBenignDialError (error : String) : Bool :=
  ["DialPeerConditionFalse", "DisconnectedAndNotDialing", "Timeout",
    "HostUnreachable", "ConnectionRefused", "No route to host"].any
    fun text => decide (text.toList <:+: error.toList)

/-- Spread of the redial delay, in milliseconds. -/
def dialBackoffJitterMs (self : RaftBehaviour S) (peer : PeerId) : Nat :=
  let target := (self.peerMap.nodeId peer).getD 0
  (self.config.nodeId * 137 + target * 89 + 31) % 2 ^ 64 % 500

def dialBackoff
    (self : RaftBehaviour S)
    (peer : PeerId)
    (now : Nat) : RaftBehaviour S :=
  { self with
    dialBackoffUntil := self.dialBackoffUntil.insert peer
      (now + 5 * 1000 + self.dialBackoffJitterMs peer) }

/-- The next instant something is due. -/
def earliestWake (self : RaftBehaviour S) : Nat :=
  self.pending.entries.foldl
    (fun wake entry => min wake (entry.2.sentAt + self.config.rpcTimeout))
    self.engine.nextDeadline

def rpcKind : RaftMessage → RpcKind
  | .requestVote .. | .requestVoteResp .. => .requestVote
  | .appendEntries .. | .appendEntriesResp .. => .appendEntries
  | .installSnapshot .. | .installSnapshotResp .. => .installSnapshot

/-- Hand a request to a connection, or fail it at once. -/
def sendRpc
    (self : RaftBehaviour S)
    (target : NodeId)
    (msg : RaftMessage)
    (now : Nat) : RaftBehaviour S :=
  let kind := rpcKind msg
  match self.peerMap.peerId target with
  | none =>
      { self with
          engine := (self.engine.handleRpcFailure target kind).1 }.pushEvent
        (.generateEvent (.rpcFailed none (.unknownNode target)))
  | some peer =>
      if ¬ self.isConnected peer then
        { self with
            engine := (self.engine.handleRpcFailure target kind).1 }.dialSeed
          peer now
      else
        let correlationId := self.nextCorrelationId
        let request : PendingRequest :=
          { correlationId := correlationId
            target := target
            peer := peer
            kind := kind
            sentAt := now
            msg := msg }
        { self with
            nextCorrelationId := self.nextCorrelationId + 1
            pending := self.pending.insert correlationId request }.pushEvent
          (.notifyHandler peer .any (.sendRequest correlationId msg))

/-- One action.  A message back to the sender of the request being handled
takes the open channel. -/
def executeAction
    (self : RaftBehaviour S)
    (inboundFrom : Option (NodeId × Nat))
    (now : Nat) : Action → RaftBehaviour S
  | .send target msg =>
      match inboundFrom with
      | some (sender, channelId) =>
          if target = sender then
            match self.inboundChannels.lookup channelId with
            | some channel =>
                { self with
                    inboundChannels :=
                      self.inboundChannels.erase channelId }.pushEvent
                  (.notifyHandler channel.peer (.one channel.conn)
                    (.sendResponse channelId channel.correlationId msg))
            | none => self.sendRpc target msg now
          else
            self.sendRpc target msg now
      | none => self.sendRpc target msg now
  | .broadcast msg =>
      self.engine.otherVoters.foldl
        (fun self voter => self.sendRpc voter msg now) self
  | .becomeLeader term =>
      self.pushEvent
        (.generateEvent (.roleChanged .leader term (some self.engine.nodeId)))
  | .becomeFollower term leader =>
      self.pushEvent (.generateEvent (.roleChanged .follower term leader))
  | .becomeCandidate term =>
      self.pushEvent (.generateEvent (.roleChanged .candidate term none))
  | .apply entries => self.pushEvent (.generateEvent (.committed entries))
  | .snapshotInstallComplete _ => self

def executeActions
    (self : RaftBehaviour S)
    (actions : List Action)
    (inboundFrom : Option (NodeId × Nat))
    (now : Nat) : RaftBehaviour S :=
  actions.foldl (fun self action => self.executeAction inboundFrom now action)
    self

/-- Propose a command on the leader. -/
def propose
    (self : RaftBehaviour S)
    (data : List UInt8)
    (now : Nat) : RaftBehaviour S × Except Error Nat :=
  match self.engine.propose data with
  | (engine, .error error) => ({ self with engine := engine }, .error (.raft error))
  | (engine, .ok (index, actions)) =>
      let self := { self with engine := engine }.executeActions actions none now
      (self.armSleep self.earliestWake now, .ok index)

def failPending
    (self : RaftBehaviour S)
    (correlationId : Nat)
    (error : String)
    (emitEvent : Bool)
    (now : Nat) : RaftBehaviour S :=
  match self.pending.lookup correlationId with
  | none => self
  | some request =>
      let self := { self with pending := self.pending.erase correlationId }
      let (engine, actions) :=
        self.engine.handleRpcFailure request.target request.kind
      let self := { self with engine := engine }.executeActions actions none now
      if emitEvent then
        self.pushEvent
          (.generateEvent (.rpcFailed (some request.peer) (.rpc error)))
      else
        self

def failPeerPending
    (self : RaftBehaviour S)
    (peer : PeerId)
    (error : String)
    (emitEvent : Bool)
    (now : Nat) : RaftBehaviour S :=
  let ids := (self.pending.entries.filter fun entry =>
    decide (entry.2.peer = peer)).map Sigma.fst
  ids.foldl (fun self id => self.failPending id error emitEvent now) self

def onSwarmEvent
    (self : RaftBehaviour S)
    (event : FromSwarm)
    (now : Nat) : RaftBehaviour S :=
  match event with
  | .connectionEstablished peer conn =>
      { self with
        dialing := self.dialing.erase peer
        dialBackoffUntil := self.dialBackoffUntil.erase peer
        connected := self.connected.insert peer
          (insert conn ((self.connected.lookup peer).getD ∅)) }
  | .connectionClosed peer conn =>
      let connected :=
        match self.connected.lookup peer with
        | none => self.connected
        | some conns =>
            if conns.erase conn = ∅ then
              self.connected.erase peer
            else
              self.connected.insert peer (conns.erase conn)
      let self := { self with
        connected := connected
        dialing := self.dialing.erase peer }
      if ¬ self.isConnected peer then
        self.failPeerPending peer "connection closed" false now
      else
        self
  | .dialFailure none _ => self
  | .dialFailure (some peer) error =>
      let self := { self with dialing := self.dialing.erase peer }
      let benign := isBenignDialError error
      let self := if benign then self.dialBackoff peer now else self
      let self :=
        self.failPeerPending peer ("dial failure: " ++ error) (!benign) now
      if benign then
        self
      else
        self.pushEvent (.generateEvent
          (.rpcFailed (some peer) (.rpc ("dial failure: " ++ error))))
  | .other => self

/-- A report of a connection handler.  A request from an unmapped peer returns
before the sleep is armed. -/
def onConnectionHandlerEvent
    (self : RaftBehaviour S)
    (peerId : PeerId)
    (connectionId : ConnectionId)
    (event : ToBehaviour)
    (now : Nat) : RaftBehaviour S :=
  match event with
  | .request correlationId msg channelId =>
      match self.peerMap.nodeId peerId with
      | none =>
          self.pushEvent (.generateEvent
            (.rpcFailed (some peerId) (.rpc "unknown peer mapping")))
      | some sender =>
          let channel : InboundChannel :=
            { peer := peerId
              conn := connectionId
              correlationId := correlationId }
          let self := { self with
            inboundChannels := self.inboundChannels.insert channelId channel }
          let (engine, actions) := self.engine.handleRpc sender msg now
          let self := { self with engine := engine }.executeActions actions
            (some (sender, channelId)) now
          let self := { self with
            inboundChannels := self.inboundChannels.erase channelId }
          self.armSleep self.earliestWake now
  | .response correlationId msg =>
      match self.pending.lookup correlationId with
      | none => self
      | some request =>
          let self := { self with pending := self.pending.erase correlationId }
          let (engine, actions) := self.engine.handleRpc request.target msg now
          let self :=
            { self with engine := engine }.executeActions actions none now
          self.armSleep self.earliestWake now
  | .failure (some correlationId) error =>
      let self := self.failPending correlationId error true now
      self.armSleep self.earliestWake now
  | .failure none error =>
      let self := self.pushEvent
        (.generateEvent (.rpcFailed (some peerId) (.rpc error)))
      self.armSleep self.earliestWake now

/-- The requests that have waited for the RPC timeout. -/
def timedOut (self : RaftBehaviour S) (now : Nat) : List Nat :=
  (self.pending.entries.filter fun entry =>
    decide (self.config.rpcTimeout ≤ now - entry.2.sentAt)).map Sigma.fst

/-- The loop of `poll` that expires requests. -/
def expirePending (self : RaftBehaviour S) (now : Nat) : RaftBehaviour S :=
  (self.timedOut now).foldl
    (fun self id => self.failPending id "rpc timeout" false now) self

/-- The part of `poll` that ticks the engine. -/
def tickEngine (self : RaftBehaviour S) (now : Nat) : RaftBehaviour S :=
  if self.engine.nextDeadline ≤ now then
    let (engine, outcome) := self.engine.tick now
    let self :=
      { self with engine := engine }.executeActions outcome.actions none now
    self.armSleep self.earliestWake now
  else
    self

/-- What one round of the loop in `poll` ends with. -/
inductive PollRound
  | ready (event : ToSwarm)
  | pending
  | again
  deriving DecidableEq, Repr

/-- One round of the loop in `poll`: deliver a queued event, else expire
requests, else tick, else poll the sleep, which is over or not. -/
def pollRound
    (self : RaftBehaviour S)
    (now : Nat)
    (elapsed : Bool) : RaftBehaviour S × PollRound :=
  match self.pendingEvents with
  | event :: rest => ({ self with pendingEvents := rest }, .ready event)
  | [] =>
      let self := self.expirePending now
      match self.pendingEvents with
      | event :: rest =>
          let self := { self with pendingEvents := rest }
          (self.armSleep self.earliestWake now, .ready event)
      | [] =>
          let self := self.tickEngine now
          match self.pendingEvents with
          | event :: rest => ({ self with pendingEvents := rest }, .ready event)
          | [] =>
              if elapsed then
                (self.armSleep self.earliestWake now, .again)
              else
                (self, .pending)

/-! ## Entry points -/

/-- The entry points of a behaviour; `poll` for one round of its loop. -/
inductive EntryPoint
  | propose (data : List UInt8) (now : Nat)
  | dialSeed (peer : PeerId) (now : Nat)
  | onSwarmEvent (event : FromSwarm) (now : Nat)
  | onConnectionHandlerEvent (peer : PeerId) (conn : ConnectionId)
      (event : ToBehaviour) (now : Nat)
  | poll (now : Nat) (elapsed : Bool)
  deriving DecidableEq, Repr

/-- The clock is read once in an entry point. -/
def EntryPoint.reading : EntryPoint → Option Nat
  | .propose _ now | .dialSeed _ now | .onSwarmEvent _ now
  | .onConnectionHandlerEvent _ _ _ now | .poll now _ => some now

def through (self : RaftBehaviour S) : EntryPoint → RaftBehaviour S
  | .propose data now => (self.propose data now).1
  | .dialSeed peer now => self.dialSeed peer now
  | .onSwarmEvent event now => self.onSwarmEvent event now
  | .onConnectionHandlerEvent peer conn event now =>
      self.onConnectionHandlerEvent peer conn event now
  | .poll now elapsed => (self.pollRound now elapsed).1

/-- A behaviour since `new`. -/
def operation
    (config : RaftConfig)
    (storage : S)
    (start : Nat) : System (RaftBehaviour S) EntryPoint where
  init := RaftBehaviour.new config storage start
  step := through

end RaftBehaviour

end Libp2pRaft
