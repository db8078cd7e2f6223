import Libp2pRaft.Behaviour.Exchanges

/-!
# What a behaviour asks of its handlers

Whatever happens to a behaviour, a request it queues has a pending entry under a
new id, and a response it queues answers the request being handled, at most
once.
-/

namespace Libp2pRaft

open TransitionSystem

namespace RaftBehaviour

variable {S : Type}

/-- A request to a peer is the only one that can be pending under its id. -/
def Owned
    (self : RaftBehaviour S)
    (peer : PeerId)
    (info : OutboundInfo) : Prop :=
  info.correlationId < self.nextCorrelationId ∧
    ∀ request, self.Pends info.correlationId request →
      request.msg = info.msg ∧ request.peer = peer

/-- A request in the queue goes to some connection of its peer, a response to one
connection. -/
def Proper (self : RaftBehaviour S) : ToSwarm → Prop
  | .notifyHandler peer .any (.sendRequest correlationId msg) =>
      self.Owned peer ⟨correlationId, msg⟩
  | .notifyHandler _ (.one _) (.sendResponse ..) => True
  | .notifyHandler .. => False
  | .generateEvent _ | .dial .. => True

theorem proper_of_isLocal
    (self : RaftBehaviour S)
    {event : ToSwarm}
    (isLocal : event.IsLocal) :
    self.Proper event := by
  cases event with
  | notifyHandler => contradiction
  | generateEvent => trivial
  | dial => trivial

/-- Whether an event is proper depends on the pending requests only as far as
they are its own. -/
theorem Proper.imp
    {before after : RaftBehaviour S}
    {event : ToSwarm}
    (proper : before.Proper event)
    (owned : ∀ peer info, before.Owned peer info → after.Owned peer info) :
    after.Proper event := by
  cases event with
  | notifyHandler peer handler command =>
      cases handler with
      | any =>
          cases command with
          | sendRequest id msg => exact owned peer ⟨id, msg⟩ proper
          | sendResponse => contradiction
      | one conn =>
          cases command with
          | sendRequest => contradiction
          | sendResponse => trivial
  | generateEvent => trivial
  | dial => trivial

/-- A request to a connected peer that became pending under a new id. -/
structure Asked
    (before after : RaftBehaviour S)
    (id : Nat)
    (request : PendingRequest) : Prop where
  newer : before.nextCorrelationId ≤ id
  handedOut : id < after.nextCorrelationId
  mapped : before.peerMap.peerId request.target = some request.peer
  kind : request.kind = rpcKind request.msg
  connected : before.isConnected request.peer = true

/-- A change that leaves the connections alone, under which new requests have new
ids of their own, and nothing but a list of responses is queued. -/
structure Moved
    (before after : RaftBehaviour S)
    (answered : List Answer) : Prop where
  config : after.config = before.config
  peerMap : after.peerMap = before.peerMap
  connected : after.connected = before.connected
  grown : before.nextCorrelationId ≤ after.nextCorrelationId
  pending : ∀ id request, after.Pends id request →
    before.Pends id request ∨ Asked before after id request
  queued : ∀ event ∈ after.pendingEvents,
    event ∈ before.pendingEvents ∨ after.Proper event
  answers : after.answers = before.answers ++ answered

namespace Moved

variable {before middle after : RaftBehaviour S} {answered more : List Answer}

/-- What belonged to one request goes on doing so. -/
theorem owned
    (moved : Moved before after answered)
    {peer : PeerId}
    {info : OutboundInfo}
    (owned : before.Owned peer info) :
    after.Owned peer info := by
  refine ⟨owned.1.trans_le moved.grown, fun request pends => ?_⟩
  rcases moved.pending _ request pends with old | asked
  · exact owned.2 request old
  · exact absurd owned.1 asked.newer.not_gt

theorem trans
    (first : Moved before middle answered)
    (second : Moved middle after more) :
    Moved before after (answered ++ more) where
  config := second.config.trans first.config
  peerMap := second.peerMap.trans first.peerMap
  connected := second.connected.trans first.connected
  grown := first.grown.trans second.grown
  pending := by
    intro id request pends
    rcases second.pending id request pends with old | asked
    · apply (first.pending id request old).imp_right
      intro asked
      exact { asked with handedOut := asked.handedOut.trans_le second.grown }
    · have mapped := asked.mapped
      have connected := asked.connected
      rw [first.peerMap] at mapped
      rw [isConnected, first.connected] at connected
      exact .inr ⟨first.grown.trans asked.newer, asked.handedOut, mapped,
        asked.kind, connected⟩
  queued := by
    intro event inside
    rcases second.queued event inside with old | proper
    · apply (first.queued event old).imp_right
      exact fun proper => proper.imp fun _ _ => second.owned
    · exact .inr proper
  answers := by
    rw [second.answers, first.answers, List.append_assoc]

theorem of_inward
    (inward : Inward before after) :
    Moved before after [] where
  config := inward.config
  peerMap := inward.peerMap
  connected := inward.connected
  grown := inward.nextCorrelationId.ge
  pending id request pends := by
    rw [Pends, inward.pending] at pends
    exact .inl pends
  queued event inside := by
    obtain ⟨events, queuedEq, isLocal⟩ := inward.queued
    rw [queuedEq, List.mem_append] at inside
    exact inside.imp_right fun new =>
      after.proper_of_isLocal (isLocal event new)
  answers := by
    rw [inward.answers, List.append_nil]

theorem refl (self : RaftBehaviour S) : Moved self self [] :=
  .of_inward (.refl self)

theorem post
    (self : RaftBehaviour S)
    {target : NodeId}
    {peer : PeerId}
    (mapped : self.peerMap.peerId target = some peer)
    (connected : self.isConnected peer = true)
    (msg : RaftMessage)
    (now : Nat) :
    Moved self (self.post target peer msg now) [] where
  config := rfl
  peerMap := rfl
  connected := rfl
  grown := Nat.le_succ _
  pending := by
    intro id request pends
    rcases self.pends_post.mp pends with ⟨rfl, rfl⟩ | ⟨-, old⟩
    · exact .inr ⟨le_rfl, Nat.lt_succ_self _, mapped, rfl, connected⟩
    · exact .inl old
  queued := by
    intro event inside
    rcases List.mem_append.mp inside with old | last
    · exact .inl old
    · rw [List.mem_singleton] at last
      subst last
      refine .inr ⟨Nat.lt_succ_self _, fun request pends => ?_⟩
      rcases self.pends_post.mp pends with ⟨-, rfl⟩ | ⟨other, -⟩
      · exact ⟨rfl, rfl⟩
      · exact absurd rfl other
  answers := by
    simp [RaftBehaviour.answers, RaftBehaviour.post, RaftBehaviour.pushEvent,
      ToSwarm.answer]

theorem erase
    (self : RaftBehaviour S)
    (id : Nat)
    (engine : RaftEngine S) :
    Moved self
      { self with pending := self.pending.erase id, engine := engine } [] where
  config := rfl
  peerMap := rfl
  connected := rfl
  grown := le_rfl
  pending _ _ pends := .inl (pends_erase.mp pends).2
  queued _ inside := .inl inside
  answers := (List.append_nil _).symm

/-- A change that no handler notices. -/
theorem of_eq
    (sameConfig : after.config = before.config)
    (samePeers : after.peerMap = before.peerMap)
    (sameConnected : after.connected = before.connected)
    (sameNext : after.nextCorrelationId = before.nextCorrelationId)
    (samePending : after.pending = before.pending)
    (sameEvents : after.pendingEvents = before.pendingEvents) :
    Moved before after [] where
  config := sameConfig
  peerMap := samePeers
  connected := sameConnected
  grown := sameNext.ge
  pending id request pends := by
    rw [Pends, samePending] at pends
    exact .inl pends
  queued event inside := by
    rw [sameEvents] at inside
    exact .inl inside
  answers := by
    rw [RaftBehaviour.answers, sameEvents, List.append_nil]
    rfl

theorem called
    (self : RaftBehaviour S)
    (engine : RaftEngine S) :
    Moved self { self with engine := engine } [] :=
  .of_eq rfl rfl rfl rfl rfl rfl

theorem armSleep
    (self : RaftBehaviour S)
    (deadline now : Nat) :
    Moved self (self.armSleep deadline now) [] :=
  .of_eq rfl rfl rfl rfl rfl rfl

theorem closed
    (self : RaftBehaviour S)
    (channelId now : Nat) :
    Moved self (self.closeChannel channelId now) [] :=
  .of_eq rfl rfl rfl rfl rfl rfl

theorem respond
    (self : RaftBehaviour S)
    (channelId : Nat)
    (channel : InboundChannel)
    (msg : RaftMessage) :
    Moved self (self.respond channelId channel msg)
      [⟨channel.conn, channelId, channel.correlationId, msg⟩] where
  config := rfl
  peerMap := rfl
  connected := rfl
  grown := le_rfl
  pending _ _ pends := .inl pends
  queued event inside := by
    rcases List.mem_append.mp inside with old | last
    · exact .inl old
    · rw [List.mem_singleton] at last
      subst last
      exact .inr trivial
  answers := by
    simp [RaftBehaviour.answers, RaftBehaviour.respond, RaftBehaviour.pushEvent,
      ToSwarm.answer]

/-- Unasked, nothing is answered. -/
theorem of_edit
    {now : Nat}
    (edit : Edit none now before after) :
    Moved before after [] := by
  cases edit with
  | reported event => exact .of_inward (.generateEvent before event)
  | noted target kind => exact .of_inward (.noteFailure before target kind)
  | dialled peer addresses => exact .of_inward (.dial before peer addresses)
  | posted target peer msg mapped connected =>
      exact .post before mapped connected msg now
  | responded _ _ _ _ asked => contradiction

theorem executeActions
    (self : RaftBehaviour S)
    (actions : List Action)
    (now : Nat) :
    Moved self (self.executeActions actions none now) [] :=
  kept_of_reflTransGen (motive := fun after => Moved self after [])
    (fun _ _ edit moved => moved.trans (.of_edit edit))
    (self.executeActions_edits actions) (.refl self)

theorem of_lapse
    (lapse : Lapse before after) :
    Moved before after [] := by
  cases lapse with
  | dropped id =>
      unfold RaftBehaviour.drop
      cases before.pending.lookup id with
      | none => exact .refl before
      | some request => exact .erase before id _
  | reported peer error => exact .of_inward (.generateEvent before _)

theorem of_lapses
    (lapses : Relation.ReflTransGen Lapse before after) :
    Moved before after [] :=
  kept_of_reflTransGen (motive := fun after => Moved before after [])
    (fun _ _ lapse moved => moved.trans (.of_lapse lapse))
    lapses (.refl before)

/-- An own entry point that no request has come in through answers nothing. -/
theorem of_updates
    {now : Nat}
    (updates : Relation.ReflTransGen (Update now) before after) :
    Moved before after [] := by
  refine kept_of_reflTransGen (motive := fun after => Moved before after [])
    (fun middle last update moved => moved.trans ?_) updates (.refl before)
  cases update with
  | edited _ edit => exact .of_edit edit
  | lapsed _ lapse => exact .of_lapse lapse
  | called engine => exact .called middle engine
  | settled correlationId engine => exact .erase middle correlationId engine
  | armed deadline => exact .armSleep middle deadline now

theorem dialFailure
    (self : RaftBehaviour S)
    (peer : Option PeerId)
    (error : String)
    (now : Nat) :
    Moved self (self.onSwarmEvent (.dialFailure peer error) now) [] := by
  have heard : Moved self (self.hear (.dialFailure peer error) now) [] := by
    cases peer with
    | none => exact .refl self
    | some peer =>
        simp only [hear]
        split_ifs
        · exact .of_eq rfl rfl rfl rfl rfl rfl
        · exact .of_eq rfl rfl rfl rfl rfl rfl
  exact heard.trans
    (.of_lapses (self.onSwarmEvent_lapses (.dialFailure peer error) now))

theorem connectionClosed
    (self : RaftBehaviour S)
    (peer : PeerId)
    (conn : ConnectionId)
    (now : Nat) :
    Moved (self.disconnect peer conn)
      (self.onSwarmEvent (.connectionClosed peer conn) now) [] :=
  .of_lapses (self.onSwarmEvent_lapses (.connectionClosed peer conn) now)

section

variable [Storage S]

theorem act
    (self : RaftBehaviour S)
    (call : Call)
    (now : Nat) :
    Moved self (self.act call now) [] :=
  (called self _).trans (.executeActions _ _ now)

theorem propose
    (self : RaftBehaviour S)
    (data : List UInt8)
    (now : Nat) :
    Moved self (self.propose data now).1 [] :=
  .of_updates (self.propose_updates data now)

theorem tickEngine
    (self : RaftBehaviour S)
    (now : Nat) :
    Moved self (self.tickEngine now) [] :=
  .of_updates (self.tickEngine_updates now)

/-- Settling a request takes its entry out before anything else. -/
theorem settled
    (self : RaftBehaviour S)
    {id : Nat}
    {request : PendingRequest}
    (pends : self.Pends id request)
    (peer : PeerId)
    (conn : ConnectionId)
    (msg : RaftMessage)
    (now : Nat) :
    Moved
      { self with
        pending := self.pending.erase id
        engine := (self.engine.call (.rpc request.target msg now)).1 }
      (self.onConnectionHandlerEvent peer conn (.response id msg) now) [] := by
  rw [Pends] at pends
  simp only [onConnectionHandlerEvent, pends]
  exact (executeActions _ _ now).trans (.armSleep _ _ now)

theorem response
    (self : RaftBehaviour S)
    (peer : PeerId)
    (conn : ConnectionId)
    (id : Nat)
    (msg : RaftMessage)
    (now : Nat) :
    Moved self
      (self.onConnectionHandlerEvent peer conn (.response id msg) now) [] :=
  .of_updates (self.response_updates peer conn id msg now)

theorem failure
    (self : RaftBehaviour S)
    (peer : PeerId)
    (conn : ConnectionId)
    (id : Option Nat)
    (error : String)
    (now : Nat) :
    Moved self
      (self.onConnectionHandlerEvent peer conn (.failure id error) now) [] :=
  .of_updates (self.failure_updates peer conn id error now)

theorem opened
    (self : RaftBehaviour S)
    (peer : PeerId)
    (conn : ConnectionId)
    (correlationId channelId : Nat)
    (sender : NodeId)
    (msg : RaftMessage)
    (now : Nat) :
    Moved self (self.openChannel peer conn correlationId channelId sender msg now)
      [] :=
  .of_eq rfl rfl rfl rfl rfl rfl

section

variable (self : RaftBehaviour S) {peer : PeerId} (conn : ConnectionId)
  (correlationId : Nat) {msg : RaftMessage} (channelId : Nat) {now : Nat}

/-- A request the engine has no message back for is not answered. -/
theorem request_unanswered
    (silent : ∀ sender, self.peerMap.nodeId peer = some sender →
      ∀ reply, .send sender reply ∉ (self.engine.handleRpc sender msg now).2) :
    Moved self (self.onConnectionHandlerEvent peer conn
      (.request correlationId msg channelId) now) [] := by
  cases mapped : self.peerMap.nodeId peer with
  | none =>
      simp only [onConnectionHandlerEvent, mapped]
      exact .of_inward (.generateEvent self _)
  | some sender =>
      rw [onRequest_eq _ mapped, executeActions_unanswered _ (silent sender mapped)]
      exact ((opened self peer conn correlationId channelId sender msg now).trans
        (executeActions _ _ now)).trans (closed _ channelId now)

/-- A request the engine has a message back for is answered with it. -/
theorem request_answered
    {sender : NodeId}
    (mapped : self.peerMap.nodeId peer = some sender)
    {reply : RaftMessage}
    (sent : .send sender reply ∈ (self.engine.handleRpc sender msg now).2) :
    ∃ first, Moved self (self.onConnectionHandlerEvent peer conn
      (.request correlationId msg channelId) now)
        [⟨conn, channelId, correlationId, first⟩] := by
  obtain ⟨before, first, after, silent, actionsEq⟩ := first_reply sent
  refine ⟨first, ?_⟩
  rw [onRequest_eq _ mapped, actionsEq,
    executeActions_answered _ (AList.lookup_insert _) silent]
  have dispatched := (opened self peer conn correlationId channelId sender msg
    now).trans (executeActions _ before now)
  have responded := dispatched.trans
    (respond _ channelId ⟨peer, conn, correlationId⟩ first)
  exact (responded.trans (executeActions _ after now)).trans
    (closed _ channelId now)

/-- A request is answered at most once, on its own channel. -/
theorem request :
    ∃ answered, Moved self (self.onConnectionHandlerEvent peer conn
        (.request correlationId msg channelId) now) answered ∧
      (answered = [] ∨
        ∃ reply, answered = [⟨conn, channelId, correlationId, reply⟩]) := by
  by_cases silent : ∀ sender, self.peerMap.nodeId peer = some sender →
      ∀ reply, .send sender reply ∉ (self.engine.handleRpc sender msg now).2
  · exact ⟨[], request_unanswered self conn correlationId channelId silent,
      .inl rfl⟩
  · push Not at silent
    obtain ⟨sender, mapped, reply, sent⟩ := silent
    obtain ⟨first, moved⟩ :=
      request_answered self conn correlationId channelId mapped sent
    exact ⟨_, moved, .inr ⟨first, rfl⟩⟩

/-- Whatever a handler reports, at most one response is queued. -/
theorem handled (event : ToBehaviour) :
    ∃ answered,
      Moved self (self.onConnectionHandlerEvent peer conn event now)
        answered := by
  cases event with
  | request correlationId msg channelId =>
      obtain ⟨answered, moved, -⟩ := request self conn correlationId channelId
      exact ⟨answered, moved⟩
  | response correlationId msg =>
      exact ⟨[], response self peer conn correlationId msg now⟩
  | failure id error => exact ⟨[], failure self peer conn id error now⟩

end

end

theorem expirePending
    (self : RaftBehaviour S)
    (now : Nat) :
    Moved self (self.expirePending now) [] :=
  .of_lapses (self.expirePending_lapses now)

end Moved

/-! ## Polling -/

/-- The first event of a queue is taken. -/
structure Popped
    (before after : RaftBehaviour S)
    (event : ToSwarm) : Prop where
  config : after.config = before.config
  peerMap : after.peerMap = before.peerMap
  connected : after.connected = before.connected
  nextCorrelationId : after.nextCorrelationId = before.nextCorrelationId
  pending : after.pending = before.pending
  queued : before.pendingEvents = event :: after.pendingEvents

section

variable [Storage S]

/-- A round expires, ticks, or takes one event. -/
theorem pollRound_cases
    (self : RaftBehaviour S)
    (now : Nat)
    (elapsed : Bool) :
    ∃ middle, (middle = self ∨ middle = self.expirePending now ∨
        middle = (self.expirePending now).tickEngine now) ∧
      (∀ after event, self.pollRound now elapsed = (after, .ready event) →
        Popped middle after event) ∧
      ((∀ event, (self.pollRound now elapsed).2 ≠ .ready event) →
        (self.pollRound now elapsed).1 = middle ∨
          ∃ deadline, (self.pollRound now elapsed).1 =
            middle.armSleep deadline now) := by
  have ready : ∀ {before after here : RaftBehaviour S} {event taken : ToSwarm},
      Popped before after event →
      ((after, PollRound.ready event) : RaftBehaviour S × PollRound) =
        (here, .ready taken) →
      Popped before here taken := by
    intro before after here event taken popped same
    obtain ⟨rfl, sameRound⟩ := Prod.mk.inj same
    injection sameRound with sameEvent
    rw [← sameEvent]
    exact popped
  unfold pollRound
  cases queued : self.pendingEvents with
  | cons event rest =>
      refine ⟨self, .inl rfl, ?_, fun idle => absurd rfl (idle event)⟩
      exact fun _ _ => ready ⟨rfl, rfl, rfl, rfl, rfl, queued⟩
  | nil =>
      simp only
      cases expired : (self.expirePending now).pendingEvents with
      | cons event rest =>
          refine ⟨_, .inr (.inl rfl), ?_, fun idle => absurd rfl (idle event)⟩
          exact fun _ _ => ready ⟨rfl, rfl, rfl, rfl, rfl, expired⟩
      | nil =>
          simp only
          cases ticked : ((self.expirePending now).tickEngine now).pendingEvents with
          | cons event rest =>
              refine ⟨_, .inr (.inr rfl), ?_,
                fun idle => absurd rfl (idle event)⟩
              exact fun _ _ => ready ⟨rfl, rfl, rfl, rfl, rfl, ticked⟩
          | nil =>
              refine ⟨_, .inr (.inr rfl), ?_, ?_⟩
              · intro after event isReady
                simp only at isReady
                split at isReady
                · exact absurd (congrArg Prod.snd isReady) PollRound.noConfusion
                · exact absurd (congrArg Prod.snd isReady) PollRound.noConfusion
              · intro _
                simp only
                split
                · exact .inr ⟨_, rfl⟩
                · exact .inl rfl

theorem Moved.pollRound_ready
    {self after : RaftBehaviour S}
    {now : Nat}
    {elapsed : Bool}
    {event : ToSwarm}
    (ready : self.pollRound now elapsed = (after, .ready event)) :
    ∃ middle, Moved self middle [] ∧ Popped middle after event := by
  obtain ⟨middle, reached, popped, -⟩ := self.pollRound_cases now elapsed
  refine ⟨middle, ?_, popped after event ready⟩
  rcases reached with rfl | rfl | rfl
  · exact .refl _
  · exact .expirePending self now
  · exact (Moved.expirePending self now).trans (.tickEngine _ now)

theorem Moved.pollRound_idle
    (self : RaftBehaviour S)
    {now : Nat}
    {elapsed : Bool}
    (idle : ∀ event, (self.pollRound now elapsed).2 ≠ .ready event) :
    Moved self (self.pollRound now elapsed).1 [] := by
  obtain ⟨middle, reached, -, settled⟩ := self.pollRound_cases now elapsed
  have moved : Moved self middle [] := by
    rcases reached with rfl | rfl | rfl
    · exact .refl _
    · exact .expirePending self now
    · exact (Moved.expirePending self now).trans (.tickEngine _ now)
  rcases settled idle with same | ⟨deadline, same⟩
  · rw [same]
    exact moved
  · rw [same]
    exact moved.trans (.armSleep _ _ _)

end

/-- Pending requests went to the peers of their targets under ids that were
handed out, and everything in the queue is proper. -/
structure Orderly (behaviour : RaftBehaviour S) : Prop where
  fresh : behaviour.Fresh
  mapped : ∀ id request, behaviour.Pends id request →
    behaviour.peerMap.peerId request.target = some request.peer
  kind : ∀ id request, behaviour.Pends id request →
    request.kind = rpcKind request.msg
  queued : ∀ event ∈ behaviour.pendingEvents, behaviour.Proper event

/-- An id that was handed out and is not pending. -/
def Gone (self : RaftBehaviour S) (id : Nat) : Prop :=
  id < self.nextCorrelationId ∧ ∀ request, ¬ self.Pends id request

/-- An id that is gone is never pending again. -/
theorem Gone.moved
    {before after : RaftBehaviour S}
    {id : Nat}
    {answered : List Answer}
    (gone : before.Gone id)
    (moved : Moved before after answered) :
    after.Gone id := by
  refine ⟨gone.1.trans_le moved.grown, fun request pends => ?_⟩
  rcases moved.pending id request pends with old | asked
  · exact gone.2 request old
  · exact absurd gone.1 asked.newer.not_gt

theorem Popped.gone
    {before after : RaftBehaviour S}
    {event : ToSwarm}
    (popped : Popped before after event)
    {id : Nat}
    (gone : before.Gone id) :
    after.Gone id := by
  rw [Gone, popped.nextCorrelationId]
  simp only [Pends, popped.pending]
  exact gone

/-- The response that is taken was the first. -/
theorem Popped.answers
    {before after : RaftBehaviour S}
    {event : ToSwarm}
    (popped : Popped before after event) :
    before.answers = event.answer.toList ++ after.answers := by
  rw [RaftBehaviour.answers, popped.queued, List.filterMap_cons]
  cases event.answer with
  | none => rfl
  | some answer => rfl

theorem Popped.owned
    {before after : RaftBehaviour S}
    {event : ToSwarm}
    (popped : Popped before after event)
    {peer : PeerId}
    {info : OutboundInfo}
    (owned : before.Owned peer info) :
    after.Owned peer info := by
  rw [Owned, popped.nextCorrelationId]
  simp only [Pends, popped.pending]
  exact owned

namespace Orderly

variable {before after : RaftBehaviour S}

theorem moved
    {answered : List Answer}
    (orderly : Orderly before)
    (moved : Moved before after answered) :
    Orderly after where
  fresh := by
    intro id request pends
    rcases moved.pending id request pends with old | asked
    · exact (orderly.fresh id request old).trans_le moved.grown
    · exact asked.handedOut
  mapped := by
    intro id request pends
    rw [moved.peerMap]
    rcases moved.pending id request pends with old | asked
    · exact orderly.mapped id request old
    · exact asked.mapped
  kind := by
    intro id request pends
    rcases moved.pending id request pends with old | asked
    · exact orderly.kind id request old
    · exact asked.kind
  queued := by
    intro event inside
    rcases moved.queued event inside with old | proper
    · exact (orderly.queued event old).imp fun _ _ => moved.owned
    · exact proper

/-- Taking an event from the queue leaves it to its taker. -/
theorem popped
    {event : ToSwarm}
    (orderly : Orderly before)
    (popped : Popped before after event) :
    Orderly after ∧ after.Proper event := by
  have proper : ∀ queued ∈ event :: after.pendingEvents, after.Proper queued := by
    intro queued inside
    rw [← popped.queued] at inside
    exact (orderly.queued queued inside).imp fun _ _ => popped.owned
  refine ⟨⟨?_, ?_, ?_, ?_⟩, proper event (List.mem_cons_self ..)⟩
  · intro id request pends
    rw [Pends, popped.pending] at pends
    rw [popped.nextCorrelationId]
    exact orderly.fresh id request pends
  · intro id request pends
    rw [Pends, popped.pending] at pends
    rw [popped.peerMap]
    exact orderly.mapped id request pends
  · intro id request pends
    rw [Pends, popped.pending] at pends
    exact orderly.kind id request pends
  · exact fun queued inside => proper queued (List.mem_cons_of_mem _ inside)

end Orderly

end RaftBehaviour

end Libp2pRaft
