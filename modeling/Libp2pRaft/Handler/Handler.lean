import Libp2pRaft.Behaviour.Behaviour
import Libp2pRaft.Protocol.Codec

/-!
# The connection handler

`RaftHandler` of `handler.rs`: the unary exchanges of one connection.  A future
of `inflight` is a task that says how far it got; what its stream answers is an
argument of the poll that wakes it.  A oneshot channel is the sender that
`response_txs` holds for a channel id and the receiver in the write task of that
channel.  Channel ids are naturals, as the `u64` counter is until a connection
has accepted `2 ^ 64` streams.  A queued event carries the exchange it comes
from, which no branch reads.
-/

namespace Libp2pRaft

/-- One substream of a connection. -/
structure Stream where
  conn : ConnectionId
  number : Nat
  deriving DecidableEq, Repr

/-- A request that waits for a substream. -/
structure OutboundInfo where
  correlationId : Nat
  msg : RaftMessage
  deriving DecidableEq, Repr

/-- An exchange: a request of the own node, on its substream once there is one,
or an inbound channel. -/
inductive Exchange
  | outbound (info : OutboundInfo) (stream : Option Stream)
  | inbound (channelId : Nat)
  deriving DecidableEq, Repr

/-- The futures of a handler.  A response that was sent to a write task waits
in it. -/
inductive Task
  | outboundWrite (stream : Stream) (info : OutboundInfo)
  | outboundRead (stream : Stream) (info : OutboundInfo)
  | inboundRead (stream : Stream) (channelId : Nat)
  | inboundWrite (stream : Stream) (channelId requestCorrelationId : Nat)
      (received : Option (Nat × RaftMessage))
  deriving DecidableEq, Repr

/-- What a future ends with. -/
inductive IoOutcome
  | outboundDone (correlationId : Nat) (msg : RaftMessage)
  | inboundRead (channelId : Nat) (stream : Stream) (env : WireEnvelope)
  | inboundWritten (channelId : Nat)
  | failed (correlationId : Option Nat) (error : String)
  deriving DecidableEq, Repr

/-- What a stream answers a future: a frame was taken or not, or a frame was
read or not. -/
inductive Io
  | written (result : Except String Unit)
  | read (result : Except String WireEnvelope)

/-- The outcome of writing a frame to a stream. -/
def writeOutcome
    (env : WireEnvelope)
    (result : Except String Unit) : Except String Unit :=
  match (writeFrame [] env).2 with
  | .error error => .error error
  | .ok () => result

namespace Task

def stream : Task → Stream
  | .outboundWrite stream _ | .outboundRead stream _ => stream
  | .inboundRead stream _ | .inboundWrite stream .. => stream

/-- The channel of an inbound task. -/
def channelId : Task → Option Nat
  | .outboundWrite .. | .outboundRead .. => none
  | .inboundRead _ channelId | .inboundWrite _ channelId _ _ => some channelId

/-- The request of an outbound task. -/
def info : Task → Option OutboundInfo
  | .outboundWrite _ info | .outboundRead _ info => some info
  | .inboundRead .. | .inboundWrite .. => none

def exchange : Task → Exchange
  | .outboundWrite stream info | .outboundRead stream info =>
      .outbound info (some stream)
  | .inboundRead _ channelId | .inboundWrite _ channelId _ _ =>
      .inbound channelId

/-- The frame a task puts on its stream next. -/
def frame : Task → Option WireEnvelope
  | .outboundWrite _ info => some ⟨info.correlationId, info.msg⟩
  | .inboundWrite _ _ _ (some (correlationId, msg)) => some ⟨correlationId, msg⟩
  | .inboundWrite _ _ _ none | .outboundRead .. | .inboundRead .. => none

/-- Take the response that was sent on a channel. -/
def receive
    (channel correlationId : Nat)
    (msg : RaftMessage) : Task → Task
  | .inboundWrite stream channelId requestCorrelationId none =>
      if channelId = channel then
        .inboundWrite stream channelId requestCorrelationId
          (some (correlationId, msg))
      else
        .inboundWrite stream channelId requestCorrelationId none
  | task => task

/-- Wake a task: it goes on, it ends, or it stays as it is. -/
def poll
    (responseTxs : Finset Nat)
    (io : Io) : Task → Option (Task ⊕ IoOutcome)
  | .outboundWrite stream info =>
      match io with
      | .written result =>
          match writeOutcome ⟨info.correlationId, info.msg⟩ result with
          | .error error => some (.inr (.failed (some info.correlationId) error))
          | .ok () => some (.inl (.outboundRead stream info))
      | .read _ => none
  | .outboundRead _ info =>
      match io with
      | .read (.ok env) => some (.inr (.outboundDone env.correlationId env.msg))
      | .read (.error error) =>
          some (.inr (.failed (some info.correlationId) error))
      | .written _ => none
  | .inboundRead stream channelId =>
      match io with
      | .read (.ok env) => some (.inr (.inboundRead channelId stream env))
      | .read (.error error) => some (.inr (.failed none error))
      | .written _ => none
  | .inboundWrite _ channelId requestCorrelationId none =>
      if channelId ∈ responseTxs then
        none
      else
        some (.inr (.failed (some requestCorrelationId)
          "inbound response cancelled"))
  | .inboundWrite _ channelId requestCorrelationId (some (corr, respMsg)) =>
      match io with
      | .written result =>
          match writeOutcome ⟨corr, respMsg⟩ result with
          | .ok () => some (.inr (.inboundWritten channelId))
          | .error error =>
              some (.inr (.failed (some requestCorrelationId) error))
      | .read _ => none

end Task

/-- Why a substream could not be opened. -/
inductive StreamUpgradeError
  | timeout
  | apply
  | negotiationFailed
  | io (text : String)
  deriving DecidableEq, Repr

/-- What the connection reports to its handler. -/
inductive ConnectionEvent
  | fullyNegotiatedInbound (stream : Stream)
  | fullyNegotiatedOutbound (stream : Stream) (info : OutboundInfo)
  | dialUpgradeError (info : OutboundInfo) (error : StreamUpgradeError)
  | other
  deriving DecidableEq, Repr

/-- The state of one handler. -/
structure RaftHandler where
  inboundChannelId : Nat
  pendingEvents : List (Exchange × ToBehaviour)
  pendingOutbound : List OutboundInfo
  inflight : List Task
  /-- The channels whose response was not sent. -/
  responseTxs : Finset Nat
  outboundInFlight : Nat

namespace RaftHandler

def new : RaftHandler where
  inboundChannelId := 1
  pendingEvents := []
  pendingOutbound := []
  inflight := []
  responseTxs := ∅
  outboundInFlight := 0

variable (self : RaftHandler)

/-- Queue an event for the behaviour. -/
def pushEvent
    (exchange : Exchange)
    (event : ToBehaviour) : RaftHandler :=
  { self with pendingEvents := self.pendingEvents ++ [(exchange, event)] }

/-- Start a future. -/
def pushTask (task : Task) : RaftHandler :=
  { self with inflight := self.inflight ++ [task] }

def pushOutboundIo
    (stream : Stream)
    (info : OutboundInfo) : RaftHandler :=
  { self with outboundInFlight := self.outboundInFlight + 1 }.pushTask
    (.outboundWrite stream info)

def pushInboundRead (stream : Stream) : RaftHandler :=
  { self with inboundChannelId := self.inboundChannelId + 1 }.pushTask
    (.inboundRead stream self.inboundChannelId)

def pushInboundWrite
    (stream : Stream)
    (channelId requestCorrelationId : Nat) : RaftHandler :=
  self.pushTask (.inboundWrite stream channelId requestCorrelationId none)

def onBehaviourEvent (event : FromBehaviour) : RaftHandler :=
  match event with
  | .sendRequest correlationId msg =>
      { self with
        pendingOutbound := self.pendingOutbound ++ [⟨correlationId, msg⟩] }
  | .sendResponse channelId correlationId msg =>
      if channelId ∈ self.responseTxs then
        { self with
          responseTxs := self.responseTxs.erase channelId
          inflight := self.inflight.map
            (Task.receive channelId correlationId msg) }
      else
        self.pushEvent (.inbound channelId)
          (.failure (some correlationId)
            ("unknown inbound channel_id " ++ toString channelId))

def onConnectionEvent (event : ConnectionEvent) : RaftHandler :=
  match event with
  | .fullyNegotiatedInbound stream => self.pushInboundRead stream
  | .fullyNegotiatedOutbound stream info => self.pushOutboundIo stream info
  | .dialUpgradeError info error =>
      let err :=
        match error with
        | .timeout => "outbound upgrade timeout"
        | .apply => "outbound upgrade apply error"
        | .negotiationFailed => "outbound protocol negotiation failed"
        | .io text => "outbound upgrade io: " ++ text
      self.pushEvent (.outbound info none)
        (.failure (some info.correlationId) err)
  | .other => self

/-- Queue what a future ended with. -/
def finish
    (exchange : Exchange)
    (outcome : IoOutcome) : RaftHandler :=
  match outcome with
  | .outboundDone correlationId msg =>
      { self with outboundInFlight := self.outboundInFlight - 1 }.pushEvent
        exchange (.response correlationId msg)
  | .inboundRead channelId stream env =>
      let self := { self with responseTxs := insert channelId self.responseTxs }
      let self := self.pushInboundWrite stream channelId env.correlationId
      self.pushEvent exchange (.request env.correlationId env.msg channelId)
  | .inboundWritten channelId =>
      { self with responseTxs := self.responseTxs.erase channelId }
  | .failed correlationId error =>
      let self :=
        if correlationId.isSome then
          { self with outboundInFlight := self.outboundInFlight - 1 }
        else
          self
      self.pushEvent exchange (.failure correlationId error)

/-- What one round of the loop in `poll` ends with. -/
inductive Round
  | notifyBehaviour (report : Exchange × ToBehaviour)
  | outboundSubstreamRequest (info : OutboundInfo)
  | again
  | pending
  deriving DecidableEq, Repr

/-- The task a round wakes: none while something is queued. -/
def woken (ready : Option (Nat × Io)) : Option (Task × Io) :=
  match self.pendingEvents, self.pendingOutbound, ready with
  | [], [], some (position, io) =>
      self.inflight[position]?.map fun task => (task, io)
  | _, _, _ => none

/-- One round of the loop in `poll`: hand over a queued event, else ask for a
substream, else let one future go on. -/
def pollRound (ready : Option (Nat × Io)) : RaftHandler × Round :=
  match self.pendingEvents with
  | event :: rest =>
      ({ self with pendingEvents := rest }, .notifyBehaviour event)
  | [] =>
      match self.pendingOutbound with
      | info :: rest =>
          ({ self with pendingOutbound := rest }, .outboundSubstreamRequest info)
      | [] =>
          match ready with
          | none => (self, .pending)
          | some (position, io) =>
              match self.inflight[position]? with
              | none => (self, .pending)
              | some task =>
                  let others := self.inflight.eraseIdx position
                  match task.poll self.responseTxs io with
                  | none => (self, .pending)
                  | some (.inl next) =>
                      ({ self with inflight := others ++ [next] }, .again)
                  | some (.inr outcome) =>
                      ({ self with inflight := others }.finish task.exchange
                        outcome, .again)

end RaftHandler

end Libp2pRaft
