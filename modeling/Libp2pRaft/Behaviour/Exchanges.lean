import Libp2pRaft.Behaviour.Pending
import Libp2pRaft.Handler.Handler

/-!
# Requests out and responses back

What dispatching actions does to the requests and responses of a behaviour.  A
message goes out as a request under a new id.  While a request of a peer is
handled, the first message back to its sender is the response to it.
-/

namespace Libp2pRaft

open TransitionSystem

/-- A response on its way to a handler. -/
structure Answer where
  conn : ConnectionId
  channelId : Nat
  correlationId : Nat
  msg : RaftMessage
  deriving DecidableEq, Repr

namespace ToSwarm

/-- The response an event hands to a connection. -/
def answer : ToSwarm → Option Answer
  | .notifyHandler _ (.one conn) (.sendResponse channelId correlationId msg) =>
      some ⟨conn, channelId, correlationId, msg⟩
  | _ => none

/-- An event that is not for a handler. -/
def IsLocal : ToSwarm → Prop
  | .notifyHandler .. => False
  | _ => True

theorem IsLocal.answer_eq_none
    {event : ToSwarm}
    (isLocal : event.IsLocal) :
    event.answer = none := by
  cases event with
  | notifyHandler => contradiction
  | generateEvent => rfl
  | dial => rfl

end ToSwarm

namespace RaftBehaviour

variable {S : Type}

/-- The responses in the queue. -/
def answers (self : RaftBehaviour S) : List Answer :=
  self.pendingEvents.filterMap ToSwarm.answer

/-- A change that leaves pending requests and open channels alone, and queues
nothing for a handler. -/
structure Inward (before after : RaftBehaviour S) : Prop where
  config : after.config = before.config
  peerMap : after.peerMap = before.peerMap
  connected : after.connected = before.connected
  nextCorrelationId : after.nextCorrelationId = before.nextCorrelationId
  pending : after.pending = before.pending
  inboundChannels : after.inboundChannels = before.inboundChannels
  queued : ∃ events, after.pendingEvents = before.pendingEvents ++ events ∧
    ∀ event ∈ events, event.IsLocal

namespace Inward

variable {before after : RaftBehaviour S}

theorem refl (self : RaftBehaviour S) : Inward self self :=
  ⟨rfl, rfl, rfl, rfl, rfl, rfl, [], (List.append_nil _).symm,
    fun _ inside => absurd inside List.not_mem_nil⟩

theorem answers
    (inward : Inward before after) :
    after.answers = before.answers := by
  obtain ⟨events, queuedEq, isLocal⟩ := inward.queued
  rw [RaftBehaviour.answers, queuedEq, List.filterMap_append,
    List.filterMap_eq_nil_iff.mpr fun event inside =>
      (isLocal event inside).answer_eq_none,
    List.append_nil]
  rfl

theorem generateEvent
    (self : RaftBehaviour S)
    (event : Event) :
    Inward self (self.pushEvent (.generateEvent event)) :=
  ⟨rfl, rfl, rfl, rfl, rfl, rfl, [.generateEvent event], rfl,
    by simp [ToSwarm.IsLocal]⟩

theorem dial
    (self : RaftBehaviour S)
    (peer : PeerId)
    (addresses : List Multiaddr) :
    Inward self (self.dial peer addresses) :=
  ⟨rfl, rfl, rfl, rfl, rfl, rfl, [.dial peer addresses], rfl,
    by simp [ToSwarm.IsLocal]⟩

theorem noteFailure
    (self : RaftBehaviour S)
    (target : NodeId)
    (kind : RpcKind) :
    Inward self (self.noteFailure target kind) :=
  ⟨rfl, rfl, rfl, rfl, rfl, rfl, [], (List.append_nil _).symm,
    fun _ inside => absurd inside List.not_mem_nil⟩

theorem dialSeed
    (self : RaftBehaviour S)
    (peer : PeerId)
    (now : Nat) :
    Inward self (self.dialSeed peer now) := by
  rcases self.dialSeed_cases peer now with idle | ⟨addresses, -, dialled⟩
  · rw [idle]
    exact .refl self
  · rw [dialled]
    exact .dial self peer addresses

end Inward

/-- What every inward change keeps, every request that goes out and the response
to the request being handled, holds after a dispatch. -/
theorem executeActions_induction
    {motive : RaftBehaviour S → Prop}
    {inboundFrom : Option (NodeId × Nat)}
    {now : Nat}
    (inward : ∀ before after, Inward before after →
      motive before → motive after)
    (posted : ∀ before target peer msg,
      before.peerMap.peerId target = some peer →
      before.isConnected peer = true →
      motive before → motive (before.post target peer msg now))
    (responded : ∀ before sender channelId channel msg,
      inboundFrom = some (sender, channelId) →
      before.inboundChannels.lookup channelId = some channel →
      motive before → motive (before.respond channelId channel msg))
    (self : RaftBehaviour S)
    (actions : List Action)
    (start : motive self) :
    motive (self.executeActions actions inboundFrom now) := by
  refine kept_of_reflTransGen (fun before after edit => ?_)
    (self.executeActions_edits actions) start
  cases edit with
  | reported event => exact inward before _ (.generateEvent before event)
  | noted target kind => exact inward before _ (.noteFailure before target kind)
  | dialled peer addresses => exact inward before _ (.dial before peer addresses)
  | posted target peer msg mapped connected =>
      exact posted before target peer msg mapped connected
  | responded sender channelId channel msg asked isOpen =>
      exact responded before sender channelId channel msg asked isOpen

theorem inboundChannels_executeActions
    (self : RaftBehaviour S)
    (actions : List Action)
    (now : Nat) :
    (self.executeActions actions none now).inboundChannels =
      self.inboundChannels := by
  apply executeActions_induction (motive := fun after =>
    after.inboundChannels = self.inboundChannels)
  · exact fun _ _ inward same => inward.inboundChannels.trans same
  · exact fun _ _ _ _ _ _ same => same
  · intro _ _ _ _ _ asked
    contradiction
  · rfl

/-- Local actions queue events for the application, and nothing else. -/
theorem executeActions_local
    (self : RaftBehaviour S)
    {actions : List Action}
    (isLocal : ∀ action ∈ actions, action.Local)
    (now : Nat) :
    ∃ events, (∀ event ∈ events, event.IsLocal) ∧
      self.executeActions actions none now =
        { self with pendingEvents := self.pendingEvents ++ events } := by
  induction actions generalizing self with
  | nil =>
      refine ⟨[], fun _ inside => absurd inside List.not_mem_nil, ?_⟩
      rw [List.append_nil]
      rfl
  | cons action actions inductionHypothesis =>
      have first : ∃ events, (∀ event ∈ events, ToSwarm.IsLocal event) ∧
          self.executeAction none now action =
            { self with pendingEvents := self.pendingEvents ++ events } := by
        have here := isLocal action (List.mem_cons_self ..)
        have one : ∀ event, ∀ queued ∈ [ToSwarm.generateEvent event],
            queued.IsLocal := by
          simp [ToSwarm.IsLocal]
        cases action with
        | send => contradiction
        | broadcast => contradiction
        | apply => exact ⟨_, one _, rfl⟩
        | becomeLeader => exact ⟨_, one _, rfl⟩
        | becomeFollower => exact ⟨_, one _, rfl⟩
        | becomeCandidate => exact ⟨_, one _, rfl⟩
        | snapshotInstallComplete =>
            refine ⟨[], fun _ inside => absurd inside List.not_mem_nil, ?_⟩
            rw [List.append_nil]
            rfl
      obtain ⟨events, eventsLocal, firstEq⟩ := first
      obtain ⟨more, moreLocal, restEq⟩ :=
        inductionHypothesis (self.executeAction none now action)
          fun action inside => isLocal action (List.mem_cons_of_mem _ inside)
      refine ⟨events ++ more, List.forall_mem_append.mpr
        ⟨eventsLocal, moreLocal⟩, ?_⟩
      rw [executeActions, List.foldl_cons, ← executeActions, restEq, firstEq,
        List.append_assoc]

/-! ## The request being handled -/

/-- The first message to a node. -/
theorem first_reply
    {sender : NodeId}
    {reply : RaftMessage}
    {actions : List Action}
    (sent : .send sender reply ∈ actions) :
    ∃ before first after, (∀ reply, .send sender reply ∉ before) ∧
      actions = before ++ .send sender first :: after := by
  induction actions with
  | nil => contradiction
  | cons action actions inductionHypothesis =>
      by_cases here : ∃ first, action = .send sender first
      · obtain ⟨first, rfl⟩ := here
        exact ⟨[], first, actions, fun _ => List.not_mem_nil, rfl⟩
      · rcases List.mem_cons.mp sent with rfl | inside
        · exact absurd ⟨reply, rfl⟩ here
        · obtain ⟨before, first, after, silent, rfl⟩ :=
            inductionHypothesis inside
          refine ⟨action :: before, first, after, ?_, rfl⟩
          intro other among
          rcases List.mem_cons.mp among with rfl | among
          · exact here ⟨other, rfl⟩
          · exact silent other among

section

variable (self : RaftBehaviour S) {sender : NodeId} {channelId : Nat}

/-- Without a message back to the sender the open channel does not matter. -/
theorem executeActions_unanswered
    {actions : List Action}
    (silent : ∀ reply, .send sender reply ∉ actions)
    (now : Nat) :
    self.executeActions actions (some (sender, channelId)) now =
      self.executeActions actions none now := by
  induction actions generalizing self with
  | nil => rfl
  | cons action actions inductionHypothesis =>
      have first : self.executeAction (some (sender, channelId)) now action =
          self.executeAction none now action := by
        cases action with
        | send target msg =>
            have other : target ≠ sender := by
              rintro rfl
              exact silent msg (List.mem_cons_self ..)
            simp only [executeAction, if_neg other]
        | broadcast => rfl
        | apply => rfl
        | becomeLeader => rfl
        | becomeFollower => rfl
        | becomeCandidate => rfl
        | snapshotInstallComplete => rfl
      simp only [executeActions, List.foldl_cons, first]
      exact inductionHypothesis _ fun reply inside =>
        silent reply (List.mem_cons_of_mem _ inside)

/-- Once the channel got its response it does not matter either. -/
theorem executeActions_closed
    (closed : self.inboundChannels.lookup channelId = none)
    (actions : List Action)
    (now : Nat) :
    self.executeActions actions (some (sender, channelId)) now =
      self.executeActions actions none now := by
  induction actions generalizing self with
  | nil => rfl
  | cons action actions inductionHypothesis =>
      have first : self.executeAction (some (sender, channelId)) now action =
          self.executeAction none now action := by
        cases action with
        | send target msg => simp only [executeAction, closed, ite_self]
        | broadcast => rfl
        | apply => rfl
        | becomeLeader => rfl
        | becomeFollower => rfl
        | becomeCandidate => rfl
        | snapshotInstallComplete => rfl
      have stillClosed : (self.executeAction none now action).inboundChannels =
          self.inboundChannels :=
        self.inboundChannels_executeActions [action] now
      simp only [executeActions, List.foldl_cons, first]
      apply inductionHypothesis
      rw [stillClosed, closed]

/-- The first message back to the sender is the response. -/
theorem executeActions_answered
    {channel : InboundChannel}
    (isOpen : self.inboundChannels.lookup channelId = some channel)
    {before : List Action}
    (silent : ∀ reply, .send sender reply ∉ before)
    (reply : RaftMessage)
    (after : List Action)
    (now : Nat) :
    self.executeActions (before ++ .send sender reply :: after)
        (some (sender, channelId)) now =
      ((self.executeActions before none now).respond channelId channel
        reply).executeActions after none now := by
  have stillOpen : (self.executeActions before none now).inboundChannels.lookup
      channelId = some channel := by
    rw [inboundChannels_executeActions, isOpen]
  have first : before.foldl
      (fun self action => self.executeAction (some (sender, channelId)) now
        action) self = self.executeActions before none now :=
    self.executeActions_unanswered silent now
  have rest : ((self.executeActions before none now).respond channelId channel
        reply).executeActions after (some (sender, channelId)) now =
      ((self.executeActions before none now).respond channelId channel
        reply).executeActions after none now :=
    executeActions_closed _ (AList.lookup_erase _ _) after now
  rw [executeActions, List.foldl_append, List.foldl_cons, first, ← rest]
  simp only [executeAction, if_pos, stillOpen]
  rfl

end

end RaftBehaviour

end Libp2pRaft
