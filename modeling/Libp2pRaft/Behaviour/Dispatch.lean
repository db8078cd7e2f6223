import Libp2pRaft.Behaviour.Updates
import Libp2pRaft.Raft.CommitIndex
import Libp2pRaft.Raft.Slots

/-!
# Dispatching the actions of an engine

`execute_actions` turns every message of an engine into a request with a pending
entry, into a failure that the engine learns at once, or into the response to
the request being handled.  Everything else it queues is for the application or
the dialler.
-/

namespace Libp2pRaft

/-- A request or a response between two processes. -/
structure Packet where
  source : NodeId
  peer : PeerId
  correlationId : Nat
  msg : RaftMessage
  deriving DecidableEq, Repr

namespace ToSwarm

/-- The request a queued event puts on the wire. -/
def request (source : NodeId) : ToSwarm → Option Packet
  | .notifyHandler peer _ (.sendRequest correlationId msg) =>
      some ⟨source, peer, correlationId, msg⟩
  | _ => none

/-- The response a queued event puts on the wire. -/
def response (source : NodeId) : ToSwarm → Option Packet
  | .notifyHandler peer _ (.sendResponse _ correlationId msg) =>
      some ⟨source, peer, correlationId, msg⟩
  | _ => none

/-- The event a queued event reports to the application. -/
def report : ToSwarm → Option Event
  | .generateEvent event => some event
  | _ => none

end ToSwarm

/-- The batch of entries an event reports as committed. -/
def Event.batch : Event → Option (List LogEntry)
  | .committed entries => some entries
  | _ => none

/-- The batches a queue reports as committed, in order. -/
def committedBatches (queue : List ToSwarm) : List (List LogEntry) :=
  queue.filterMap fun event => event.report.bind Event.batch

/-- What a selection of the events in a queue reports, in order. -/
def reported
    {α : Type}
    (select : Event → Option α)
    (queue : List ToSwarm) : List α :=
  queue.filterMap fun event => event.report.bind select

/-- The event of a node that reports an action. -/
def Action.event (nodeId : NodeId) : Action → Option Event
  | .becomeLeader term => some (.roleChanged .leader term (some nodeId))
  | .becomeFollower term leader => some (.roleChanged .follower term leader)
  | .becomeCandidate term => some (.roleChanged .candidate term none)
  | .apply entries => some (.committed entries)
  | .send .. | .broadcast _ | .snapshotInstallComplete _ => none

/-- The batch an action hands over. -/
def Action.batch : Action → Option (List LogEntry)
  | .apply entries => some entries
  | _ => none

namespace RaftBehaviour

variable {S : Type}

/-- The requests in the queue of a node. -/
def requests (self : RaftBehaviour S) (source : NodeId) : List Packet :=
  self.pendingEvents.filterMap (ToSwarm.request source)

/-- The responses in the queue of a node. -/
def responses (self : RaftBehaviour S) (source : NodeId) : List Packet :=
  self.pendingEvents.filterMap (ToSwarm.response source)

/-- Two behaviours that differ at most in the connections, the dialling, the open
channels, the sleep and the local part of the queue. -/
structure Quiet (before after : RaftBehaviour S) : Prop where
  engine : after.engine = before.engine
  peerMap : after.peerMap = before.peerMap
  nextCorrelationId : after.nextCorrelationId = before.nextCorrelationId
  pending : after.pending = before.pending
  requests : ∀ source, after.requests source = before.requests source
  responses : ∀ source, after.responses source = before.responses source

variable (self : RaftBehaviour S)

namespace Quiet

theorem refl : Quiet self self :=
  ⟨rfl, rfl, rfl, rfl, fun _ => rfl, fun _ => rfl⟩

variable {self} {first second third : RaftBehaviour S}

theorem trans
    (start : Quiet first second)
    (onward : Quiet second third) :
    Quiet first third where
  engine := onward.engine.trans start.engine
  peerMap := onward.peerMap.trans start.peerMap
  nextCorrelationId := onward.nextCorrelationId.trans start.nextCorrelationId
  pending := onward.pending.trans start.pending
  requests source := (onward.requests source).trans (start.requests source)
  responses source := (onward.responses source).trans (start.responses source)

/-- An event that is not for the wire can be queued. -/
theorem pushEvent
    {event : ToSwarm}
    (noRequest : ∀ source, event.request source = none)
    (noResponse : ∀ source, event.response source = none) :
    Quiet first (first.pushEvent event) where
  engine := rfl
  peerMap := rfl
  nextCorrelationId := rfl
  pending := rfl
  requests source := by
    simp [RaftBehaviour.requests, RaftBehaviour.pushEvent, noRequest source]
  responses source := by
    simp [RaftBehaviour.responses, RaftBehaviour.pushEvent, noResponse source]

/-- The same event can be queued on both sides. -/
theorem push
    (quiet : Quiet first second)
    (event : ToSwarm) :
    Quiet (first.pushEvent event) (second.pushEvent event) where
  engine := quiet.engine
  peerMap := quiet.peerMap
  nextCorrelationId := quiet.nextCorrelationId
  pending := quiet.pending
  requests source := by
    have same := quiet.requests source
    simp only [RaftBehaviour.requests] at same
    simp only [RaftBehaviour.requests, RaftBehaviour.pushEvent,
      List.filterMap_append, same]
  responses source := by
    have same := quiet.responses source
    simp only [RaftBehaviour.responses] at same
    simp only [RaftBehaviour.responses, RaftBehaviour.pushEvent,
      List.filterMap_append, same]

theorem armSleep
    (self : RaftBehaviour S)
    (deadline now : Nat) :
    Quiet self (self.armSleep deadline now) :=
  ⟨rfl, rfl, rfl, rfl, fun _ => rfl, fun _ => rfl⟩

theorem generateEvent
    (self : RaftBehaviour S)
    (event : Event) :
    Quiet self (self.pushEvent (.generateEvent event)) :=
  .pushEvent (fun _ => rfl) (fun _ => rfl)

theorem dialSeed
    (self : RaftBehaviour S)
    (peer : PeerId)
    (now : Nat) :
    Quiet self (self.dialSeed peer now) := by
  rcases self.dialSeed_cases peer now with idle | ⟨addresses, -, dialled⟩
  · rw [idle]
    exact .refl self
  · have dialing : Quiet self
        { self with dialing := insert peer self.dialing } :=
      ⟨rfl, rfl, rfl, rfl, fun _ => rfl, fun _ => rfl⟩
    rw [dialled]
    exact dialing.trans (.pushEvent (fun _ => rfl) (fun _ => rfl))

end Quiet

/-- A message goes out to a connected peer, or the engine learns that it did
not. -/
theorem sendRpc_cases
    (target : NodeId)
    (msg : RaftMessage)
    (now : Nat) :
    (∃ peer, self.peerMap.peerId target = some peer ∧
        self.isConnected peer = true ∧
        self.sendRpc target msg now = self.post target peer msg now) ∨
      Quiet (self.noteFailure target (rpcKind msg))
        (self.sendRpc target msg now) := by
  unfold sendRpc
  cases mapped : self.peerMap.peerId target with
  | none => exact .inr (.generateEvent _ _)
  | some peer =>
      simp only
      by_cases isConnected : self.isConnected peer = true
      · rw [if_neg (not_not.mpr isConnected)]
        exact .inl ⟨peer, rfl, isConnected, rfl⟩
      · rw [if_pos isConnected]
        exact .inr (.dialSeed _ peer now)

/-- What holds of the messages still to be handled and the behaviour, and is
kept by every way to handle one, holds in the end. -/
theorem executeActions_rule
    {motive : List (NodeId × RaftMessage) → RaftBehaviour S → Prop}
    {now : Nat}
    (quiet : ∀ rest before after, Quiet before after →
      motive rest before → motive rest after)
    (sent : ∀ rest before target peer msg,
      before.peerMap.peerId target = some peer →
      motive ((target, msg) :: rest) before →
        motive rest (before.post target peer msg now))
    (dropped : ∀ rest before target msg,
      motive ((target, msg) :: rest) before →
        motive rest (before.noteFailure target (rpcKind msg)))
    {actions : List Action}
    (start : motive (outgoing self.engine.otherVoters actions) self) :
    motive [] (self.executeActions actions none now) := by
  generalize sameOthers : self.engine.otherVoters = others at start
  have one : ∀ rest before target msg,
      before.engine.otherVoters = others ∧ motive ((target, msg) :: rest) before →
      (before.sendRpc target msg now).engine.otherVoters = others ∧
        motive rest (before.sendRpc target msg now) := by
    rintro rest before target msg ⟨same, holds⟩
    rcases before.sendRpc_cases target msg now with
      ⟨peer, mapped, -, posted⟩ | failed
    · rw [posted]
      exact ⟨same, sent rest before target peer msg mapped holds⟩
    · refine ⟨?_, quiet rest _ _ failed (dropped rest before target msg holds)⟩
      rw [failed.engine, ← same]
      unfold noteFailure RaftEngine.handleRpcFailure
      split_ifs <;> rfl
  have several : ∀ (voters : List NodeId) rest before msg,
      before.engine.otherVoters = others ∧
        motive (voters.map (fun voter => (voter, msg)) ++ rest) before →
      (voters.foldl (fun self voter => sendRpc self voter msg now)
          before).engine.otherVoters = others ∧
        motive rest (voters.foldl
          (fun self voter => sendRpc self voter msg now) before) := by
    intro voters
    induction voters with
    | nil => exact fun rest before msg holds => holds
    | cons voter voters inductionHypothesis =>
        intro rest before msg holds
        exact inductionHypothesis rest _ msg (one _ before voter msg holds)
  have notified : ∀ rest before event,
      before.engine.otherVoters = others ∧ motive rest before →
      (before.pushEvent (.generateEvent event)).engine.otherVoters = others ∧
        motive rest (before.pushEvent (.generateEvent event)) := by
    rintro rest before event ⟨same, holds⟩
    exact ⟨same, quiet rest _ _ (.generateEvent before event) holds⟩
  have each : ∀ action rest before,
      before.engine.otherVoters = others ∧
        motive (action.messages others ++ rest) before →
      (before.executeAction none now action).engine.otherVoters = others ∧
        motive rest (before.executeAction none now action) := by
    intro action rest before holds
    cases action with
    | send target msg => exact one rest before target msg holds
    | broadcast msg =>
        simp only [executeAction, holds.1]
        exact several others rest before msg holds
    | apply entries => exact notified rest before _ holds
    | becomeLeader term => exact notified rest before _ holds
    | becomeFollower term leader => exact notified rest before _ holds
    | becomeCandidate term => exact notified rest before _ holds
    | snapshotInstallComplete index => exact holds
  suffices whole : ∀ before : RaftBehaviour S,
      before.engine.otherVoters = others ∧ motive (outgoing others actions) before →
        motive [] (before.executeActions actions none now) from
    whole self ⟨sameOthers, start⟩
  clear start sameOthers
  induction actions with
  | nil => exact fun before holds => holds.2
  | cons action actions inductionHypothesis =>
      intro before holds
      rw [outgoing, List.flatMap_cons] at holds
      exact inductionHypothesis _ (each action _ before holds)

/-- The last of the actions answers the request being handled, the others are
for the application. -/
theorem executeActions_respond
    {actions : List Action}
    (others : List NodeId)
    (silent : outgoing others actions = [])
    (broadcasts : ∀ msg, .broadcast msg ∉ actions)
    {channelId : Nat}
    {channel : InboundChannel}
    (isOpen : self.inboundChannels.lookup channelId = some channel)
    (sender : NodeId)
    (reply : RaftMessage)
    (now : Nat) :
    Quiet
      (self.pushEvent (.notifyHandler channel.peer (.one channel.conn)
        (.sendResponse channelId channel.correlationId reply)))
      (self.executeActions (actions ++ [.send sender reply])
        (some (sender, channelId)) now) := by
  induction actions generalizing self with
  | nil =>
      simp only [executeActions, List.nil_append, List.foldl_cons,
        List.foldl_nil, executeAction, if_true, isOpen]
      exact ⟨rfl, rfl, rfl, rfl, fun _ => rfl, fun _ => rfl⟩
  | cons action actions inductionHypothesis =>
      rw [outgoing, List.flatMap_cons, List.append_eq_nil_iff] at silent
      have quiet : Quiet self
            (self.executeAction (some (sender, channelId)) now action) ∧
          (self.executeAction (some (sender, channelId)) now
            action).inboundChannels = self.inboundChannels := by
        cases action with
        | send target msg => simp [Action.messages] at silent
        | broadcast msg => exact absurd List.mem_cons_self (broadcasts msg)
        | apply entries => exact ⟨.generateEvent _ _, rfl⟩
        | becomeLeader term => exact ⟨.generateEvent _ _, rfl⟩
        | becomeFollower term leader => exact ⟨.generateEvent _ _, rfl⟩
        | becomeCandidate term => exact ⟨.generateEvent _ _, rfl⟩
        | snapshotInstallComplete index => exact ⟨.refl self, rfl⟩
      refine (quiet.1.push _).trans (inductionHypothesis _ silent.2 ?_ ?_)
      · exact fun msg inside => broadcasts msg (List.mem_cons_of_mem _ inside)
      · rw [quiet.2]
        exact isOpen

/-! ## What is reported -/

section

variable {α : Type} {select : Event → Option α}

theorem reported_append (first second : List ToSwarm) :
    reported select (first ++ second) =
      reported select first ++ reported select second := by
  simp [reported]

theorem reported_pushEvent (event : ToSwarm) :
    reported select (self.pushEvent event).pendingEvents =
      reported select self.pendingEvents ++
        (event.report.bind select).toList := by
  rw [pushEvent, reported_append]
  cases selected : event.report.bind select with
  | none => simp [reported, selected]
  | some report => simp [reported, selected]

theorem reported_pushEvent_silent
    {event : ToSwarm}
    (silent : event.report.bind select = none) :
    reported select (self.pushEvent event).pendingEvents =
      reported select self.pendingEvents := by
  rw [reported_pushEvent, silent]
  exact List.append_nil _

theorem dialSeed_reported
    (peer : PeerId)
    (now : Nat) :
    reported select (self.dialSeed peer now).pendingEvents =
      reported select self.pendingEvents := by
  rcases self.dialSeed_cases peer now with idle | ⟨addresses, -, dialled⟩
  · rw [idle]
  · rw [dialled]
    exact reported_pushEvent_silent _ rfl

/-- A message to a peer reports nothing but failures. -/
theorem sendRpc_reported
    (failures : ∀ peer error, select (.rpcFailed peer error) = none)
    (target : NodeId)
    (msg : RaftMessage)
    (now : Nat) :
    reported select (self.sendRpc target msg now).pendingEvents =
        reported select self.pendingEvents ∧
      (self.sendRpc target msg now).engine.nodeId = self.engine.nodeId := by
  constructor
  · unfold sendRpc
    cases self.peerMap.peerId target with
    | none => exact reported_pushEvent_silent _ (failures none _)
    | some peer =>
        simp only
        split
        · exact dialSeed_reported _ peer now
        · exact reported_pushEvent_silent _ rfl
  · rcases self.sendRpc_cases target msg now with ⟨peer, -, -, posted⟩ | failed
    · rw [posted]
      rfl
    · rw [failed.engine]
      unfold noteFailure RaftEngine.handleRpcFailure
      split_ifs
      · rfl
      · rfl

theorem executeAction_reported
    (failures : ∀ peer error, select (.rpcFailed peer error) = none)
    (inboundFrom : Option (NodeId × Nat))
    (now : Nat)
    (action : Action) :
    reported select (self.executeAction inboundFrom now action).pendingEvents =
        reported select self.pendingEvents ++
          ((action.event self.engine.nodeId).bind select).toList ∧
      (self.executeAction inboundFrom now action).engine.nodeId =
        self.engine.nodeId := by
  cases action with
  | send target msg =>
      rw [Action.event, Option.bind_none, Option.toList_none, List.append_nil]
      simp only [executeAction]
      split
      · split
        · split
          · exact ⟨reported_pushEvent_silent _ rfl, rfl⟩
          · exact self.sendRpc_reported failures target msg now
        · exact self.sendRpc_reported failures target msg now
      · exact self.sendRpc_reported failures target msg now
  | broadcast msg =>
      rw [Action.event, Option.bind_none, Option.toList_none, List.append_nil]
      simp only [executeAction]
      generalize self.engine.otherVoters = voters
      induction voters generalizing self with
      | nil => exact ⟨rfl, rfl⟩
      | cons voter voters inductionHypothesis =>
          have sent := self.sendRpc_reported failures voter msg now
          have rest := inductionHypothesis (self.sendRpc voter msg now)
          exact ⟨rest.1.trans sent.1, rest.2.trans sent.2⟩
  | apply entries => exact ⟨self.reported_pushEvent _, rfl⟩
  | becomeLeader term => exact ⟨self.reported_pushEvent _, rfl⟩
  | becomeFollower term leader => exact ⟨self.reported_pushEvent _, rfl⟩
  | becomeCandidate term => exact ⟨self.reported_pushEvent _, rfl⟩
  | snapshotInstallComplete index => exact ⟨(List.append_nil _).symm, rfl⟩

/-- The actions of the engine are reported one by one and in the same order. -/
theorem executeActions_reported
    (failures : ∀ peer error, select (.rpcFailed peer error) = none)
    (actions : List Action)
    (inboundFrom : Option (NodeId × Nat))
    (now : Nat) :
    reported select
        (self.executeActions actions inboundFrom now).pendingEvents =
      reported select self.pendingEvents ++
        actions.filterMap fun action =>
          (action.event self.engine.nodeId).bind select := by
  induction actions generalizing self with
  | nil => exact (List.append_nil _).symm
  | cons action actions inductionHypothesis =>
      have first := self.executeAction_reported failures inboundFrom now action
      rw [show self.executeActions (action :: actions) inboundFrom now =
        (self.executeAction inboundFrom now action).executeActions actions
          inboundFrom now from rfl]
      rw [inductionHypothesis, first.1, first.2, List.append_assoc,
        List.filterMap_cons]
      congr 1
      cases (action.event self.engine.nodeId).bind select with
      | none => rfl
      | some report => rfl

end

/-- What the engine hands over is reported as committed, batch by batch and in
the same order. -/
theorem executeActions_committedBatches
    (actions : List Action)
    (inboundFrom : Option (NodeId × Nat))
    (now : Nat) :
    committedBatches
        (self.executeActions actions inboundFrom now).pendingEvents =
      committedBatches self.pendingEvents ++ actions.filterMap Action.batch := by
  have batch : (fun action : Action =>
      (action.event self.engine.nodeId).bind Event.batch) = Action.batch := by
    funext action
    cases action with
    | send => rfl
    | broadcast => rfl
    | apply => rfl
    | becomeLeader => rfl
    | becomeFollower => rfl
    | becomeCandidate => rfl
    | snapshotInstallComplete => rfl
  rw [← batch]
  exact self.executeActions_reported (fun _ _ => rfl) actions inboundFrom now

/-- A quiet change that reports no batch. -/
structure Silent (before after : RaftBehaviour S) : Prop
    extends Quiet before after where
  batches : committedBatches after.pendingEvents =
    committedBatches before.pendingEvents

namespace Silent

variable {first second third : RaftBehaviour S}

theorem refl (self : RaftBehaviour S) : Silent self self :=
  ⟨.refl self, rfl⟩

theorem trans
    (start : Silent first second)
    (onward : Silent second third) :
    Silent first third :=
  ⟨start.toQuiet.trans onward.toQuiet, onward.batches.trans start.batches⟩

theorem armSleep
    (self : RaftBehaviour S)
    (deadline now : Nat) :
    Silent self (self.armSleep deadline now) :=
  ⟨.armSleep self deadline now, rfl⟩

theorem generateEvent
    (self : RaftBehaviour S)
    {event : Event}
    (noBatch : event.batch = none) :
    Silent self (self.pushEvent (.generateEvent event)) :=
  ⟨.generateEvent self event, reported_pushEvent_silent self noBatch⟩

end Silent

end RaftBehaviour

end Libp2pRaft
