import Libp2pRaft.Swarm.Channels
import Libp2pRaft.Swarm.Outbound

/-!
# The inbound exchanges of a process

Channel ids collide between connections, so an answer in the queue of the
behaviour belongs to a connection and a channel of it.  Every step of a process
keeps the exchanges of every connection in order.
-/

namespace Libp2pRaft

/-- The channels of a connection that are answered in the queue. -/
def RaftBehaviour.answeredOn
    {S : Type}
    (self : RaftBehaviour S)
    (conn : ConnectionId) : List Nat :=
  self.answers.filterMap fun answer =>
    if answer.conn = conn then some answer.channelId else none

namespace Swarm

open RaftBehaviour TransitionSystem

/-- The inbound exchanges of a process. -/
structure Inbound (state : Swarm) : Prop where
  numbered : ∀ conn connection,
    state.connections.lookup conn = some connection →
      conn < state.nextConnection
  written : ∀ frame ∈ state.written, frame.stream.conn < state.nextConnection
  answers : ∀ answer ∈ state.behaviour.answers,
    answer.conn < state.nextConnection
  connections : ∀ conn connection,
    state.connections.lookup conn = some connection →
      connection.Inbound (state.behaviour.answeredOn conn) state.written
        state.heard conn

theorem lifetime_inbound
    (config : RaftConfig)
    (storage : MemoryStorage)
    (now : Nat) :
    Inbound (lifetime config storage now).init where
  numbered := nofun
  written := nofun
  answers := by
    intro answer inside
    obtain ⟨event, queued, isAnswer⟩ := List.mem_filterMap.mp inside
    obtain ⟨seed, -, rfl⟩ := List.mem_map.mp queued
    contradiction
  connections := nofun

section

variable {reply : OutboundInfo → WireEnvelope → Prop} {before after : Swarm}
  {input : Input}

/-- Changes of the behaviour that answer nothing do not matter. -/
theorem Inbound.changed
    (inbound : Inbound before)
    {behaviour : MemoryBehaviour}
    (same : behaviour.answers = before.behaviour.answers) :
    Inbound { before with behaviour := behaviour } where
  numbered := inbound.numbered
  written := inbound.written
  answers answer inside := inbound.answers answer (same ▸ inside)
  connections conn connection isOpen := by
    have here := inbound.connections conn connection isOpen
    rw [answeredOn, ← same] at here
    exact here

theorem Inbound.moved
    (inbound : Inbound before)
    {behaviour : MemoryBehaviour}
    (moved : Moved before.behaviour behaviour []) :
    Inbound { before with behaviour := behaviour } :=
  inbound.changed (moved.answers.trans (List.append_nil _))

/-- The channel an answer takes from the queue of a connection. -/
theorem answeredOn_popped
    {middle behaviour : MemoryBehaviour}
    {event : ToSwarm}
    (popped : Popped middle behaviour event)
    (conn : ConnectionId) :
    middle.answeredOn conn =
      (event.answer.bind fun answer =>
        if answer.conn = conn then some answer.channelId else none).toList ++
          behaviour.answeredOn conn := by
  rw [answeredOn, popped.answers, List.filterMap_append]
  cases event.answer with
  | none => rfl
  | some answer =>
      by_cases same : answer.conn = conn
      · simp [same, answeredOn]
      · simp [same, answeredOn]

/-- Taking an event from the queue does not matter to a connection unless it
answers a request on it. -/
theorem Inbound.popped
    (inbound : Inbound before)
    {behaviour : MemoryBehaviour}
    {event : ToSwarm}
    (popped : Popped before.behaviour behaviour event)
    {conn : ConnectionId}
    (unanswered : ∀ answer, event.answer = some answer → answer.conn ≠ conn)
    {connection : Connection}
    (isOpen : before.connections.lookup conn = some connection) :
    connection.Inbound (behaviour.answeredOn conn) before.written before.heard
      conn := by
  have here := inbound.connections conn connection isOpen
  rw [answeredOn_popped popped] at here
  cases answered : event.answer with
  | none =>
      rw [answered] at here
      exact here
  | some answer =>
      rw [answered, Option.bind_some, if_neg (unanswered answer answered)] at here
      exact here

theorem Inbound.answers_popped
    (inbound : Inbound before)
    {behaviour : MemoryBehaviour}
    {event : ToSwarm}
    (popped : Popped before.behaviour behaviour event) :
    ∀ answer ∈ behaviour.answers, answer.conn < before.nextConnection := by
  intro answer inside
  apply inbound.answers
  rw [popped.answers]
  exact List.mem_append_right _ inside

/-- A command that is taken to a connection stays on its way. -/
theorem Inbound.taken
    (inbound : Inbound before)
    (orderly : before.behaviour.Orderly)
    {behaviour : MemoryBehaviour}
    {peer : PeerId}
    {handler : NotifyHandler}
    {command : FromBehaviour}
    (popped : Popped before.behaviour behaviour
      (.notifyHandler peer handler command))
    {conn : ConnectionId}
    {connection : Connection}
    (isOpen : before.connections.lookup conn = some connection)
    (matching : handler = .one conn ∨ handler = .any ∧ connection.peer = peer) :
    Inbound { before with
      behaviour := behaviour
      connections := before.connections.insert conn
        { connection with commands := connection.commands ++ [command] } } := by
  refine ⟨forall_insert (inbound.numbered conn connection isOpen)
      fun other found _ => inbound.numbered other found,
    inbound.written, inbound.answers_popped popped, ?_⟩
  cases command with
  | sendRequest id msg =>
      have unanswered : ∀ other answer,
          (ToSwarm.notifyHandler peer handler (.sendRequest id msg)).answer =
            some answer → answer.conn ≠ other := by
        intro other answer isAnswer
        cases handler with
        | one => contradiction
        | any => contradiction
      refine forall_insert ?_ fun other found _ isOpen =>
        inbound.popped popped (unanswered other) isOpen
      exact (inbound.popped popped (unanswered conn) isOpen).takeRequest id msg
  | sendResponse channelId id msg =>
      have isOne : handler = .one conn := by
        rcases matching with isOne | ⟨rfl, -⟩
        · exact isOne
        · exact absurd (orderly.popped popped).2 not_false
      subst isOne
      have here := inbound.connections conn connection isOpen
      rw [answeredOn_popped popped] at here
      simp only [ToSwarm.answer, Option.bind_some, if_true,
        Option.toList_some, List.singleton_append] at here
      refine forall_insert (here.takeResponse id msg) fun other found different
        isOpen => inbound.popped popped ?_ isOpen
      rintro answer ⟨⟩
      exact different.symm

theorem Inbound.turned
    (inbound : Inbound before)
    {conn : ConnectionId}
    {connection changed : Connection}
    {written heard : Option Frame}
    {refused : Option Stream}
    (isOpen : before.connections.lookup conn = some connection)
    (turn : connection.Turn reply conn changed written heard refused) :
    Inbound { before with
      connections := before.connections.insert conn changed
      written := before.written ++ written.toList
      heard := before.heard ++ heard.toList
      refused := before.refused ++ refused.toList } := by
  have here := inbound.connections conn connection isOpen
  have isNumbered := inbound.numbered conn connection isOpen
  have wroteHere := turn.written_conn fun task inside =>
    (here.served.own task inside).1
  refine ⟨forall_insert isNumbered fun other found _ =>
    inbound.numbered other found, ?_, inbound.answers, ?_⟩
  · intro frame inside
    rcases List.mem_append.mp inside with old | new
    · exact inbound.written frame old
    · rw [wroteHere frame (Option.mem_toList.mp new)]
      exact isNumbered
  · refine forall_insert (here.turn turn) fun other found different isThere =>
      (inbound.connections other found isThere).elsewhere ?_
    intro frame isFrame
    rw [wroteHere frame isFrame]
    exact different.symm

/-- A request that is handled leaves at most an answer on its own channel. -/
theorem Inbound.asked
    (inbound : Inbound before)
    {conn : ConnectionId}
    {connection : Connection}
    {exchange : Exchange}
    {id channelId : Nat}
    {msg : RaftMessage}
    {rest : List (Exchange × ToBehaviour)}
    (isOpen : before.connections.lookup conn = some connection)
    (reports : connection.reports =
      (exchange, .request id msg channelId) :: rest)
    {behaviour : MemoryBehaviour}
    {answered : List Answer}
    (moved : Moved before.behaviour behaviour answered)
    (isAnswer : answered = [] ∨
      ∃ reply, answered = [⟨conn, channelId, id, reply⟩]) :
    Inbound { before with
      behaviour := behaviour
      connections := before.connections.insert conn
        { connection with reports := rest } } := by
  have isNumbered := inbound.numbered conn connection isOpen
  have answeredOn_eq : ∀ other, behaviour.answeredOn other =
      before.behaviour.answeredOn other ++ answered.filterMap fun answer =>
        if answer.conn = other then some answer.channelId else none := by
    intro other
    rw [answeredOn, moved.answers, List.filterMap_append]
    rfl
  refine ⟨forall_insert isNumbered fun other found _ =>
    inbound.numbered other found, inbound.written, ?_, forall_insert ?_ ?_⟩
  · intro answer inside
    simp only [moved.answers, List.mem_append] at inside
    rcases inside with old | new
    · exact inbound.answers answer old
    · rcases isAnswer with rfl | ⟨reply, rfl⟩
      · contradiction
      · rw [List.mem_singleton.mp new]
        exact isNumbered
  · have here := inbound.connections conn connection isOpen
    simp only [answeredOn_eq]
    apply here.takeAsked reports
    rcases isAnswer with rfl | ⟨reply, rfl⟩
    · exact .inl rfl
    · exact .inr (by simp)
  · intro other found different isThere
    have elsewhere : behaviour.answeredOn other =
        before.behaviour.answeredOn other := by
      rw [answeredOn_eq]
      rcases isAnswer with rfl | ⟨reply, rfl⟩
      · exact List.append_nil _
      · simp [Ne.symm different]
    simp only [elsewhere]
    exact inbound.connections other found isThere

/-- A report that is handled leaves the inbound exchanges in order. -/
theorem Inbound.reported
    (inbound : Inbound before)
    {conn : ConnectionId}
    {connection : Connection}
    {exchange : Exchange}
    {event : ToBehaviour}
    {rest : List (Exchange × ToBehaviour)}
    (isOpen : before.connections.lookup conn = some connection)
    (reports : connection.reports = (exchange, event) :: rest)
    (now : Nat) :
    Inbound { before with
      behaviour := before.behaviour.onConnectionHandlerEvent connection.peer conn
        event now
      connections := before.connections.insert conn
        { connection with reports := rest } } := by
  have silent : reportedChannel (exchange, event) = none →
      Inbound { before with
        connections := before.connections.insert conn
          { connection with reports := rest } } := by
    intro silent
    have isNumbered := inbound.numbered conn connection isOpen
    have here := inbound.connections conn connection isOpen
    exact ⟨forall_insert isNumbered fun other found _ =>
        inbound.numbered other found, inbound.written, inbound.answers,
      forall_insert (here.takeReport reports silent) fun other found _ =>
        inbound.connections other found⟩
  cases event with
  | request id msg channelId =>
      obtain ⟨answered, moved, isAnswer⟩ :=
        Moved.request before.behaviour conn id channelId
      exact inbound.asked isOpen reports moved isAnswer
  | response id msg =>
      exact (silent rfl).moved (.response before.behaviour _ conn id msg now)
  | failure id error =>
      exact (silent rfl).moved (.failure before.behaviour _ conn id error now)

/-- Every step keeps the inbound exchanges. -/
theorem Inbound.step
    (inbound : Inbound before)
    (orderly : before.behaviour.Orderly)
    (step : Step reply before input after) :
    Inbound after := by
  cases step with
  | moved behaviour moved => exact inbound.moved moved
  | dropped middle behaviour event moved popped gone =>
      have settled := inbound.moved moved
      refine ⟨inbound.numbered, inbound.written, settled.answers_popped popped,
        ?_⟩
      intro conn connection isOpen
      refine settled.popped popped ?_ isOpen
      rintro answer isAnswer rfl
      simp only [gone answer isAnswer] at isOpen
      contradiction
  | taken middle behaviour peer handler command conn connection moved popped
      isOpen matching =>
      exact (inbound.moved moved).taken (orderly.moved moved) popped isOpen
        matching
  | connected peer now =>
      have later : ∀ conn, conn < before.nextConnection →
          conn < before.nextConnection + 1 :=
        fun _ earlier => earlier.trans (Nat.lt_succ_self _)
      have quiet : before.behaviour.answeredOn before.nextConnection = [] := by
        rw [answeredOn, List.filterMap_eq_nil_iff]
        intro answer inside
        exact if_neg (inbound.answers answer inside).ne
      have fresh : (Connection.new peer).Inbound
          (before.behaviour.answeredOn before.nextConnection) before.written
          before.heard before.nextConnection := by
        rw [quiet]
        exact .new peer fun frame inside => (inbound.written frame inside).ne
      exact ⟨forall_insert (Nat.lt_succ_self _) fun other found _ isOpen =>
          later other (inbound.numbered other found isOpen),
        fun frame inside => later _ (inbound.written frame inside),
        fun answer inside => later _ (inbound.answers answer inside),
        forall_insert fresh fun other found _ => inbound.connections other found⟩
  | disconnected conn connection now isOpen =>
      have closed : Inbound { before with
          behaviour := before.behaviour.disconnect connection.peer conn
          connections := before.connections.erase conn } :=
        ⟨forall_erase fun other found _ => inbound.numbered other found,
          inbound.written, inbound.answers,
          forall_erase fun other found _ => inbound.connections other found⟩
      exact closed.moved (.connectionClosed before.behaviour connection.peer conn
        now)
  | turned conn connection changed written heard refused isOpen turn =>
      exact inbound.turned isOpen turn
  | reported conn connection exchange event rest now isReport isOpen reports =>
      exact inbound.reported isOpen reports now

end

/-- The inbound exchanges are in order after every run. -/
theorem run_inbound
    (config : RaftConfig)
    (storage : MemoryStorage)
    (now : Nat)
    (inputs : List Input) :
    Inbound ((lifetime config storage now).run inputs) := by
  suffices both : ∀ state : Swarm,
      state = (lifetime config storage now).run inputs →
        state.Accounted (fun _ _ => True) ∧ Inbound state from (both _ rfl).2
  rintro state rfl
  refine (lifetime config storage now).invariant
    (motive := fun state => state.Accounted (fun _ _ => True) ∧ Inbound state)
    ⟨lifetime_accounted config storage now,
      lifetime_inbound config storage now⟩ ?_ inputs
  rintro state input ⟨accounted, inbound⟩
  have step := step_cases state input (hears_any state input)
  exact ⟨accounted.step step, inbound.step accounted.orderly step⟩

end Swarm

end Libp2pRaft
