import Libp2pRaft.Behaviour.Slotted
import Libp2pRaft.Handler.Handler

/-!
# One process: a behaviour and its handlers

A libp2p swarm drives the behaviour and one handler per connection.  It takes
what the behaviour asks for to a connection, what a handler asks for to a new
substream, and what a handler reports back to the behaviour, each in order.
Which of these happens next, and what the streams answer, is up to the input.
Connections and substreams get identities that are never used again.  The frames
written and read so far are recorded; no step looks at them.
-/

namespace Libp2pRaft

open TransitionSystem

/-- A frame on a substream, and the inbound channel it belongs to, if any. -/
structure Frame where
  stream : Stream
  channelId : Option Nat
  env : WireEnvelope
  deriving DecidableEq, Repr

/-- One connection of a process. -/
structure Connection where
  peer : PeerId
  handler : RaftHandler
  /-- Commands on their way to the handler. -/
  commands : List FromBehaviour
  /-- Requests whose substream is being opened. -/
  opening : List OutboundInfo
  /-- Reports on their way to the behaviour. -/
  reports : List (Exchange × ToBehaviour)
  nextStream : Nat

/-- A behaviour, its connections, and the frames so far. -/
structure Swarm where
  behaviour : MemoryBehaviour
  connections : HashMap ConnectionId Connection
  nextConnection : ConnectionId
  written : List Frame
  heard : List Frame
  refused : List Stream

namespace Task

/-- The frame a task wrote, if it was woken by that. -/
def wrote (task : Task) : Io → Option Frame
  | .written result => do
      let env ← task.frame
      match writeOutcome env result with
      | .ok () => some ⟨task.stream, task.channelId, env⟩
      | .error _ => none
  | .read _ => none

/-- The substream on which a task failed to write. -/
def refused (task : Task) : Io → Option Stream
  | .written result => do
      let env ← task.frame
      match writeOutcome env result with
      | .ok () => none
      | .error _ => some task.stream
  | .read _ => none

/-- The frame a task read, if it was woken by that. -/
def heard (task : Task) : Io → Option Frame
  | .read (.ok env) =>
      match task with
      | .outboundRead .. | .inboundRead .. =>
          some ⟨task.stream, task.channelId, env⟩
      | .outboundWrite .. | .inboundWrite .. => none
  | .read (.error _) | .written _ => none

end Task

namespace Connection

variable (self : Connection)

def new (peer : PeerId) : Connection where
  peer := peer
  handler := .new
  commands := []
  opening := []
  reports := []
  nextStream := 0

/-- A command reaches the handler. -/
def deliver : Connection :=
  match self.commands with
  | [] => self
  | command :: rest =>
      { self with
        commands := rest
        handler := self.handler.onBehaviourEvent command }

/-- The peer opened a substream. -/
def accept (conn : ConnectionId) : Connection :=
  { self with
    nextStream := self.nextStream + 1
    handler := self.handler.onConnectionEvent
      (.fullyNegotiatedInbound ⟨conn, self.nextStream⟩) }

/-- A substream the handler asked for is open. -/
def opened (conn : ConnectionId) (position : Nat) : Connection :=
  match self.opening[position]? with
  | none => self
  | some info =>
      { self with
        opening := self.opening.eraseIdx position
        nextStream := self.nextStream + 1
        handler := self.handler.onConnectionEvent
          (.fullyNegotiatedOutbound ⟨conn, self.nextStream⟩ info) }

/-- A substream the handler asked for could not be opened. -/
def openFailed (position : Nat) (error : StreamUpgradeError) : Connection :=
  match self.opening[position]? with
  | none => self
  | some info =>
      { self with
        opening := self.opening.eraseIdx position
        handler := self.handler.onConnectionEvent
          (.dialUpgradeError info error) }

/-- Poll the handler for one round. -/
def poll (ready : Option (Nat × Io)) : Connection :=
  match self.handler.pollRound ready with
  | (handler, .notifyBehaviour report) =>
      { self with handler := handler, reports := self.reports ++ [report] }
  | (handler, .outboundSubstreamRequest info) =>
      { self with handler := handler, opening := self.opening ++ [info] }
  | (handler, .again) | (handler, .pending) => { self with handler := handler }

end Connection

namespace Swarm

/-- What can happen in a process. -/
inductive Input
  | propose (data : List UInt8) (now : Nat)
  | pollBehaviour (choice : ConnectionId) (now : Nat) (elapsed : Bool)
  | dialFailure (peer : Option PeerId) (error : String) (now : Nat)
  | connect (peer : PeerId) (now : Nat)
  | disconnect (conn : ConnectionId) (now : Nat)
  | deliver (conn : ConnectionId)
  | accept (conn : ConnectionId)
  | opened (conn : ConnectionId) (position : Nat)
  | openFailed (conn : ConnectionId) (position : Nat)
      (error : StreamUpgradeError)
  | pollHandler (conn : ConnectionId) (ready : Option (Nat × Io))
  | report (conn : ConnectionId) (now : Nat)

variable (self : Swarm)

/-- Change one connection, if it is there. -/
def modify
    (conn : ConnectionId)
    (change : Connection → Connection) : Swarm :=
  match self.connections.lookup conn with
  | none => self
  | some connection =>
      { self with
        connections := self.connections.insert conn (change connection) }

/-- The connection a command goes to.  Among the connections of a peer the
choice decides. -/
def recipient
    (peer : PeerId)
    (handler : NotifyHandler)
    (choice : ConnectionId) : Option ConnectionId :=
  match handler with
  | .one conn => some conn
  | .any =>
      (choice :: self.connections.keys).find? fun conn =>
        ((self.connections.lookup conn).map fun connection =>
          decide (connection.peer = peer)).getD false

/-- Take what the behaviour asks for to its connection. -/
def route (choice : ConnectionId) : ToSwarm → Swarm
  | .notifyHandler peer handler event =>
      match self.recipient peer handler choice with
      | none => self
      | some conn =>
          self.modify conn fun connection =>
            { connection with commands := connection.commands ++ [event] }
  | .generateEvent _ | .dial .. => self

/-- Record the frame a poll writes or reads. -/
def record (woken : Option (Task × Io)) : Swarm :=
  match woken with
  | none => self
  | some (task, io) =>
      { self with
        written := self.written ++ (task.wrote io).toList
        heard := self.heard ++ (task.heard io).toList
        refused := self.refused ++ (task.refused io).toList }

/-- The effect of an input. -/
def step : Input → Swarm
  | .propose data now =>
      { self with behaviour := (self.behaviour.propose data now).1 }
  | .pollBehaviour choice now elapsed =>
      match self.behaviour.pollRound now elapsed with
      | (behaviour, .ready event) =>
          { self with behaviour := behaviour }.route choice event
      | (behaviour, .pending) | (behaviour, .again) =>
          { self with behaviour := behaviour }
  | .dialFailure peer error now =>
      { self with
        behaviour := self.behaviour.onSwarmEvent (.dialFailure peer error) now }
  | .connect peer now =>
      { self with
        behaviour := self.behaviour.onSwarmEvent
          (.connectionEstablished peer self.nextConnection) now
        connections := self.connections.insert self.nextConnection (.new peer)
        nextConnection := self.nextConnection + 1 }
  | .disconnect conn now =>
      match self.connections.lookup conn with
      | none => self
      | some connection =>
          { self with
            behaviour := self.behaviour.onSwarmEvent
              (.connectionClosed connection.peer conn) now
            connections := self.connections.erase conn }
  | .deliver conn => self.modify conn Connection.deliver
  | .accept conn => self.modify conn fun connection => connection.accept conn
  | .opened conn position =>
      self.modify conn fun connection => connection.opened conn position
  | .openFailed conn position error =>
      self.modify conn fun connection => connection.openFailed position error
  | .pollHandler conn ready =>
      match self.connections.lookup conn with
      | none => self
      | some connection =>
          (self.record (connection.handler.woken ready)).modify conn
            fun connection => connection.poll ready
  | .report conn now =>
      match self.connections.lookup conn with
      | none => self
      | some connection =>
          match connection.reports with
          | [] => self
          | (_, event) :: rest =>
              { self with
                behaviour := self.behaviour.onConnectionHandlerEvent
                  connection.peer conn event now
                connections := self.connections.insert conn
                  { connection with reports := rest } }

/-- The life of one process since `new`. -/
def lifetime
    (config : RaftConfig)
    (storage : MemoryStorage)
    (now : Nat) : System Swarm Input where
  init :=
    { behaviour := RaftBehaviour.new config storage now
      connections := ∅
      nextConnection := 0
      written := []
      heard := []
      refused := [] }
  step := step

end Swarm

end Libp2pRaft
