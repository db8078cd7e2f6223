import Libp2pRaft.Behaviour.Moves
import Libp2pRaft.Swarm.Swarm

/-!
# What a step of a process can do

The inversion of `Swarm.step`: a behaviour moves on its own, a command is taken
to a connection, a report is taken to the behaviour, or one connection takes a
turn.
-/

namespace Libp2pRaft

namespace Task

/-- What a future that is woken and goes on does: what becomes of it, the frame
it writes, the frame it reads, and the substream it fails to write to.  What
peers reply to a request is up to a relation. -/
inductive Went
    (reply : OutboundInfo → WireEnvelope → Prop)
    (responseTxs : Finset Nat) :
    Task → Task ⊕ IoOutcome → Option Frame → Option Frame → Option Stream → Prop
  | requestWritten (stream : Stream) (info : OutboundInfo) :
      Went reply responseTxs (.outboundWrite stream info)
        (.inl (.outboundRead stream info))
        (some ⟨stream, none, ⟨info.correlationId, info.msg⟩⟩) none none
  | requestRefused (stream : Stream) (info : OutboundInfo) (error : String) :
      Went reply responseTxs (.outboundWrite stream info)
        (.inr (.failed (some info.correlationId) error)) none none (some stream)
  | responseRead (stream : Stream) (info : OutboundInfo) (env : WireEnvelope) :
      reply info env →
      Went reply responseTxs (.outboundRead stream info)
        (.inr (.outboundDone env.correlationId env.msg)) none
        (some ⟨stream, none, env⟩) none
  | responseUnread (stream : Stream) (info : OutboundInfo) (error : String) :
      Went reply responseTxs (.outboundRead stream info)
        (.inr (.failed (some info.correlationId) error)) none none none
  | requestRead (stream : Stream) (channelId : Nat) (env : WireEnvelope) :
      Went reply responseTxs (.inboundRead stream channelId)
        (.inr (.inboundRead channelId stream env)) none
        (some ⟨stream, some channelId, env⟩) none
  | requestUnread (stream : Stream) (channelId : Nat) (error : String) :
      Went reply responseTxs (.inboundRead stream channelId)
        (.inr (.failed none error)) none none none
  | cancelled (stream : Stream) (channelId id : Nat) :
      channelId ∉ responseTxs →
      Went reply responseTxs (.inboundWrite stream channelId id none)
        (.inr (.failed (some id) "inbound response cancelled")) none none none
  | responseWritten (stream : Stream) (channelId id correlationId : Nat)
      (msg : RaftMessage) :
      Went reply responseTxs
        (.inboundWrite stream channelId id (some (correlationId, msg)))
        (.inr (.inboundWritten channelId))
        (some ⟨stream, some channelId, ⟨correlationId, msg⟩⟩) none none
  | responseRefused (stream : Stream) (channelId id correlationId : Nat)
      (msg : RaftMessage) (error : String) :
      Went reply responseTxs
        (.inboundWrite stream channelId id (some (correlationId, msg)))
        (.inr (.failed (some id) error)) none none (some stream)

/-- What a future reads as the reply to a request satisfies a relation. -/
def Hears (reply : OutboundInfo → WireEnvelope → Prop) : Task × Io → Prop
  | (.outboundRead _ info, .read (.ok env)) => reply info env
  | _ => True

instance
    {reply : OutboundInfo → WireEnvelope → Prop}
    [∀ info env, Decidable (reply info env)]
    (woken : Task × Io) :
    Decidable (Hears reply woken) := by
  unfold Hears
  split
  · infer_instance
  · infer_instance

variable {reply : OutboundInfo → WireEnvelope → Prop}
  {responseTxs : Finset Nat} {task : Task} {io : Io}

theorem poll_went
    {result : Task ⊕ IoOutcome}
    (hears : Hears reply (task, io))
    (polled : task.poll responseTxs io = some result) :
    Went reply responseTxs task result (task.wrote io) (task.heard io)
      (task.refused io) := by
  cases task with
  | outboundWrite stream info =>
      cases io with
      | written outcome =>
          simp only [poll] at polled
          simp only [wrote, heard, refused, frame, Option.bind_eq_bind,
            Option.bind_some]
          cases written : writeOutcome ⟨info.correlationId, info.msg⟩ outcome with
          | error error =>
              rw [written] at polled
              injection polled with same
              rw [← same]
              exact .requestRefused stream info error
          | ok _ =>
              rw [written] at polled
              injection polled with same
              rw [← same]
              exact .requestWritten stream info
      | read => contradiction
  | outboundRead stream info =>
      cases io with
      | written => contradiction
      | read outcome =>
          cases outcome with
          | error error =>
              injection polled with same
              rw [← same]
              exact .responseUnread stream info error
          | ok env =>
              injection polled with same
              rw [← same]
              exact .responseRead stream info env hears
  | inboundRead stream channelId =>
      cases io with
      | written => contradiction
      | read outcome =>
          cases outcome with
          | error error =>
              injection polled with same
              rw [← same]
              exact .requestUnread stream channelId error
          | ok env =>
              injection polled with same
              rw [← same]
              exact .requestRead stream channelId env
  | inboundWrite stream channelId id received =>
      cases received with
      | none =>
          simp only [poll] at polled
          split_ifs at polled with waits
          injection polled with same
          rw [← same]
          cases io with
          | written => exact .cancelled stream channelId id waits
          | read outcome =>
              cases outcome with
              | error => exact .cancelled stream channelId id waits
              | ok => exact .cancelled stream channelId id waits
      | some response =>
          obtain ⟨correlationId, msg⟩ := response
          cases io with
          | written outcome =>
              simp only [poll] at polled
              simp only [wrote, heard, refused, frame, Option.bind_eq_bind,
                Option.bind_some]
              cases written : writeOutcome ⟨correlationId, msg⟩ outcome with
              | error error =>
                  rw [written] at polled
                  injection polled with same
                  rw [← same]
                  exact .responseRefused stream channelId id correlationId msg
                    error
              | ok _ =>
                  rw [written] at polled
                  injection polled with same
                  rw [← same]
                  exact .responseWritten stream channelId id correlationId msg
          | read => contradiction

/-- A future that does not go on leaves no trace. -/
theorem poll_idle
    (idle : task.poll responseTxs io = none) :
    task.wrote io = none ∧ task.heard io = none ∧ task.refused io = none := by
  cases task with
  | outboundWrite stream info =>
      cases io with
      | written outcome =>
          simp only [poll] at idle
          split at idle
          · contradiction
          · contradiction
      | read outcome => cases outcome <;> exact ⟨rfl, rfl, rfl⟩
  | outboundRead stream info =>
      cases io with
      | written outcome => exact ⟨rfl, rfl, rfl⟩
      | read outcome => cases outcome <;> contradiction
  | inboundRead stream channelId =>
      cases io with
      | written outcome => exact ⟨rfl, rfl, rfl⟩
      | read outcome => cases outcome <;> contradiction
  | inboundWrite stream channelId id received =>
      cases received with
      | none =>
          cases io with
          | written => exact ⟨rfl, rfl, rfl⟩
          | read outcome => cases outcome <;> exact ⟨rfl, rfl, rfl⟩
      | some response =>
          cases io with
          | written outcome =>
              simp only [poll] at idle
              split at idle
              · contradiction
              · contradiction
          | read outcome => cases outcome <;> exact ⟨rfl, rfl, rfl⟩

/-- A response reaches the future that waits on its channel, and no other. -/
theorem receive_cases
    (channel correlationId : Nat)
    (msg : RaftMessage)
    (task : Task) :
    task.receive channel correlationId msg = task ∨
      ∃ stream id, task = .inboundWrite stream channel id none ∧
        task.receive channel correlationId msg =
          .inboundWrite stream channel id (some (correlationId, msg)) := by
  cases task with
  | outboundWrite => exact .inl rfl
  | outboundRead => exact .inl rfl
  | inboundRead => exact .inl rfl
  | inboundWrite stream other id received =>
      cases received with
      | some => exact .inl rfl
      | none =>
          by_cases same : other = channel
          · subst same
            exact .inr ⟨stream, id, rfl, if_pos rfl⟩
          · exact .inl (if_neg same)

@[simp] theorem stream_receive
    (channel correlationId : Nat)
    (msg : RaftMessage)
    (task : Task) :
    (task.receive channel correlationId msg).stream = task.stream := by
  rcases task.receive_cases channel correlationId msg with
    same | ⟨stream, id, rfl, received⟩
  · rw [same]
  · rw [received]
    rfl

@[simp] theorem channelId_receive
    (channel correlationId : Nat)
    (msg : RaftMessage)
    (task : Task) :
    (task.receive channel correlationId msg).channelId = task.channelId := by
  rcases task.receive_cases channel correlationId msg with
    same | ⟨stream, id, rfl, received⟩
  · rw [same]
  · rw [received]
    rfl

end Task

namespace Connection

/-- What a connection can do in one turn, with the frame written, the frame read
and the substream that could not be written to. -/
inductive Turn
    (reply : OutboundInfo → WireEnvelope → Prop)
    (conn : ConnectionId)
    (before : Connection) :
    Connection → Option Frame → Option Frame → Option Stream → Prop
  | idle : Turn reply conn before before none none none
  | requested (info : OutboundInfo) (rest : List FromBehaviour) :
      before.commands = .sendRequest info.correlationId info.msg :: rest →
      Turn reply conn before
        { before with
          commands := rest
          handler := { before.handler with
            pendingOutbound := before.handler.pendingOutbound ++ [info] } }
        none none none
  | responded (channelId correlationId : Nat) (msg : RaftMessage)
      (rest : List FromBehaviour) :
      before.commands = .sendResponse channelId correlationId msg :: rest →
      channelId ∈ before.handler.responseTxs →
      Turn reply conn before
        { before with
          commands := rest
          handler := { before.handler with
            responseTxs := before.handler.responseTxs.erase channelId
            inflight := before.handler.inflight.map
              (Task.receive channelId correlationId msg) } }
        none none none
  | unknown (channelId correlationId : Nat) (msg : RaftMessage)
      (rest : List FromBehaviour) (error : String) :
      before.commands = .sendResponse channelId correlationId msg :: rest →
      channelId ∉ before.handler.responseTxs →
      Turn reply conn before
        { before with
          commands := rest
          handler := before.handler.pushEvent (.inbound channelId)
            (.failure (some correlationId) error) }
        none none none
  | accepted :
      Turn reply conn before
        { before with
          nextStream := before.nextStream + 1
          handler := before.handler.pushInboundRead ⟨conn, before.nextStream⟩ }
        none none none
  | opened (info : OutboundInfo) (position : Nat) :
      before.opening[position]? = some info →
      Turn reply conn before
        { before with
          opening := before.opening.eraseIdx position
          nextStream := before.nextStream + 1
          handler := before.handler.pushOutboundIo ⟨conn, before.nextStream⟩
            info }
        none none none
  | openFailed (info : OutboundInfo) (position : Nat) (error : String) :
      before.opening[position]? = some info →
      Turn reply conn before
        { before with
          opening := before.opening.eraseIdx position
          handler := before.handler.pushEvent (.outbound info none)
            (.failure (some info.correlationId) error) }
        none none none
  | reported (event : Exchange × ToBehaviour)
      (rest : List (Exchange × ToBehaviour)) :
      before.handler.pendingEvents = event :: rest →
      Turn reply conn before
        { before with
          handler := { before.handler with pendingEvents := rest }
          reports := before.reports ++ [event] }
        none none none
  | asked (info : OutboundInfo) (rest : List OutboundInfo) :
      before.handler.pendingOutbound = info :: rest →
      Turn reply conn before
        { before with
          handler := { before.handler with pendingOutbound := rest }
          opening := before.opening ++ [info] }
        none none none
  | continued (task next : Task) (position : Nat) (written heard : Option Frame)
      (refused : Option Stream) :
      before.handler.inflight[position]? = some task →
      task.Went reply before.handler.responseTxs (.inl next) written
        heard refused →
      Turn reply conn before
        { before with
          handler := { before.handler with
            inflight := before.handler.inflight.eraseIdx position ++ [next] } }
        written heard refused
  | finished (task : Task) (outcome : IoOutcome) (position : Nat)
      (written heard : Option Frame) (refused : Option Stream) :
      before.handler.inflight[position]? = some task →
      task.Went reply before.handler.responseTxs (.inr outcome) written
        heard refused →
      Turn reply conn before
        { before with
          handler := { before.handler with
            inflight := before.handler.inflight.eraseIdx position }.finish
              task.exchange outcome }
        written heard refused

variable {reply : OutboundInfo → WireEnvelope → Prop} (conn : ConnectionId)
  (self : Connection)

theorem deliver_turn : Turn reply conn self self.deliver none none none := by
  unfold deliver
  cases commands : self.commands with
  | nil => exact .idle
  | cons command rest =>
      cases command with
      | sendRequest correlationId msg =>
          exact .requested ⟨correlationId, msg⟩ rest commands
      | sendResponse channelId correlationId msg =>
          simp only [RaftHandler.onBehaviourEvent]
          split
          · rename_i waits
            exact .responded channelId correlationId msg rest commands waits
          · rename_i unknown
            exact .unknown channelId correlationId msg rest _ commands unknown

theorem accept_turn : Turn reply conn self (self.accept conn) none none none :=
  .accepted

theorem opened_turn (position : Nat) :
    Turn reply conn self (self.opened conn position) none none none := by
  unfold opened
  cases asked : self.opening[position]? with
  | none => exact .idle
  | some info => exact .opened info position asked

theorem openFailed_turn
    (position : Nat)
    (error : StreamUpgradeError) :
    Turn reply conn self (self.openFailed position error) none none none := by
  unfold openFailed
  cases asked : self.opening[position]? with
  | none => exact .idle
  | some info => exact .openFailed info position _ asked

theorem poll_turn
    (ready : Option (Nat × Io))
    (hears : ∀ woken ∈ self.handler.woken ready, Task.Hears reply woken) :
    Turn reply conn self (self.poll ready)
      ((self.handler.woken ready).bind fun woken => woken.1.wrote woken.2)
      ((self.handler.woken ready).bind fun woken => woken.1.heard woken.2)
      ((self.handler.woken ready).bind fun woken => woken.1.refused woken.2) := by
  obtain ⟨peer, handler, commands, opening, reports, nextStream⟩ := self
  obtain ⟨inboundChannelId, pendingEvents, pendingOutbound, inflight,
    responseTxs, outboundInFlight⟩ := handler
  cases pendingEvents with
  | cons event rest => exact .reported event rest rfl
  | nil =>
      cases pendingOutbound with
      | cons info rest => exact .asked info rest rfl
      | nil =>
          cases ready with
          | none => exact .idle
          | some woken =>
              obtain ⟨position, io⟩ := woken
              simp only [poll, RaftHandler.pollRound, RaftHandler.woken]
                at hears ⊢
              cases running : inflight[position]? with
              | none => exact .idle
              | some task =>
                  rw [running] at hears
                  simp only [Option.map_some, Option.bind_some] at hears ⊢
                  cases polled : task.poll responseTxs io with
                  | none =>
                      obtain ⟨wrote, heard, refused⟩ := Task.poll_idle polled
                      rw [wrote, heard, refused]
                      exact .idle
                  | some result =>
                      have went : task.Went reply responseTxs result _ _ _ :=
                        Task.poll_went (hears _ rfl) polled
                      cases result with
                      | inl next =>
                          exact .continued task next position _ _ _ running went
                      | inr outcome =>
                          exact .finished task outcome position _ _ _ running
                            went

theorem Turn.peer
    {conn : ConnectionId}
    {before after : Connection}
    {wrote read : Option Frame}
    {refused : Option Stream}
    (turn : before.Turn reply conn after wrote read refused) :
    after.peer = before.peer := by
  cases turn with
  | idle => rfl
  | requested => rfl
  | responded => rfl
  | unknown => rfl
  | accepted => rfl
  | opened => rfl
  | openFailed => rfl
  | reported => rfl
  | asked => rfl
  | continued => rfl
  | finished => rfl

/-- The reports that are on their way to the behaviour. -/
def underway : List (Exchange × ToBehaviour) :=
  self.reports ++ self.handler.pendingEvents

/-- Another event is queued at the end of what is underway. -/
theorem underway_concat
    {before after : Connection}
    {report event : Exchange × ToBehaviour}
    (reports : after.reports = before.reports)
    (queued : after.handler.pendingEvents =
      before.handler.pendingEvents ++ [event])
    (inside : report ∈ after.underway) :
    report ∈ before.underway ∨ report = event := by
  rw [underway, reports, queued, ← List.append_assoc, List.mem_append,
    List.mem_singleton] at inside
  exact inside

end Connection

namespace Swarm

open RaftBehaviour (Moved Popped)

/-- What is read on the substream of a request satisfies a relation. -/
def Hears
    (reply : OutboundInfo → WireEnvelope → Prop)
    (self : Swarm) : Input → Prop
  | .pollHandler conn ready =>
      ∀ connection ∈ self.connections.lookup conn,
        ∀ woken ∈ connection.handler.woken ready, Task.Hears reply woken
  | _ => True

instance
    {reply : OutboundInfo → WireEnvelope → Prop}
    [∀ info env, Decidable (reply info env)]
    (self : Swarm)
    (input : Input) :
    Decidable (self.Hears reply input) := by
  unfold Hears
  split
  · infer_instance
  · infer_instance

/-- Nothing is assumed of what peers reply. -/
theorem hears_any (state : Swarm) (input : Input) :
    state.Hears (fun _ _ => True) input := by
  cases input with
  | pollHandler =>
      intro connection _ woken _
      unfold Task.Hears
      split
      · trivial
      · trivial
  | _ => trivial

/-- What a process can do in one step on an input. -/
inductive Step
    (reply : OutboundInfo → WireEnvelope → Prop)
    (self : Swarm)
    (input : Input) : Swarm → Prop
  | moved (behaviour : MemoryBehaviour) :
      Moved self.behaviour behaviour [] →
      Step reply self input { self with behaviour := behaviour }
  | dropped (middle behaviour : MemoryBehaviour) (event : ToSwarm) :
      Moved self.behaviour middle [] →
      Popped middle behaviour event →
      (∀ answer, event.answer = some answer →
        self.connections.lookup answer.conn = none) →
      Step reply self input { self with behaviour := behaviour }
  | taken (middle behaviour : MemoryBehaviour) (peer : PeerId)
      (handler : NotifyHandler) (command : FromBehaviour)
      (conn : ConnectionId) (connection : Connection) :
      Moved self.behaviour middle [] →
      Popped middle behaviour (.notifyHandler peer handler command) →
      self.connections.lookup conn = some connection →
      (handler = .one conn ∨ handler = .any ∧ connection.peer = peer) →
      Step reply self input
        { self with
          behaviour := behaviour
          connections := self.connections.insert conn
            { connection with commands := connection.commands ++ [command] } }
  | connected (peer : PeerId) (now : Nat) :
      Step reply self input
        { self with
          behaviour := self.behaviour.onSwarmEvent
            (.connectionEstablished peer self.nextConnection) now
          connections := self.connections.insert self.nextConnection (.new peer)
          nextConnection := self.nextConnection + 1 }
  | disconnected (conn : ConnectionId) (connection : Connection) (now : Nat) :
      self.connections.lookup conn = some connection →
      Step reply self input
        { self with
          behaviour := self.behaviour.onSwarmEvent
            (.connectionClosed connection.peer conn) now
          connections := self.connections.erase conn }
  | turned (conn : ConnectionId) (connection after : Connection)
      (written heard : Option Frame) (refused : Option Stream) :
      self.connections.lookup conn = some connection →
      connection.Turn reply conn after written heard refused →
      Step reply self input
        { self with
          connections := self.connections.insert conn after
          written := self.written ++ written.toList
          heard := self.heard ++ heard.toList
          refused := self.refused ++ refused.toList }
  | reported (conn : ConnectionId) (connection : Connection)
      (exchange : Exchange) (event : ToBehaviour)
      (rest : List (Exchange × ToBehaviour)) (now : Nat) :
      input = .report conn now →
      self.connections.lookup conn = some connection →
      connection.reports = (exchange, event) :: rest →
      Step reply self input
        { self with
          behaviour := self.behaviour.onConnectionHandlerEvent connection.peer
            conn event now
          connections := self.connections.insert conn
            { connection with reports := rest } }

/-- What holds of one connection and of every other holds of every connection. -/
theorem forall_insert
    {connections : HashMap ConnectionId Connection}
    {property : ConnectionId → Connection → Prop}
    {conn : ConnectionId}
    {connection : Connection}
    (here : property conn connection)
    (elsewhere : ∀ other found, other ≠ conn →
      connections.lookup other = some found → property other found) :
    ∀ other found, (connections.insert conn connection).lookup other =
      some found → property other found := by
  intro other found isOpen
  by_cases same : other = conn
  · subst same
    rw [AList.lookup_insert] at isOpen
    injection isOpen with same
    exact same ▸ here
  · rw [AList.lookup_insert_ne same] at isOpen
    exact elsewhere other found same isOpen

theorem forall_erase
    {connections : HashMap ConnectionId Connection}
    {property : ConnectionId → Connection → Prop}
    {conn : ConnectionId}
    (elsewhere : ∀ other found, other ≠ conn →
      connections.lookup other = some found → property other found) :
    ∀ other found, (connections.erase conn).lookup other = some found →
      property other found := by
  intro other found isOpen
  by_cases same : other = conn
  · subst same
    rw [AList.lookup_erase] at isOpen
    contradiction
  · rw [AList.lookup_erase_ne same] at isOpen
    exact elsewhere other found same isOpen

section

variable {reply : OutboundInfo → WireEnvelope → Prop} {input : Input}
  (self : Swarm)

theorem behaviour_modify
    (conn : ConnectionId)
    (change : Connection → Connection) :
    (self.modify conn change).behaviour = self.behaviour := by
  unfold modify
  split
  · rfl
  · rfl

theorem behaviour_pollHandler
    (conn : ConnectionId)
    (ready : Option (Nat × Io)) :
    (self.step (.pollHandler conn ready)).behaviour = self.behaviour := by
  simp only [step]
  split
  · rfl
  · rw [behaviour_modify]
    unfold record
    split
    · rfl
    · rfl

theorem behaviour_pollBehaviour
    (choice : ConnectionId)
    (now : Nat)
    (elapsed : Bool) :
    (self.step (.pollBehaviour choice now elapsed)).behaviour =
      (self.behaviour.pollRound now elapsed).1 := by
  simp only [step]
  rcases self.behaviour.pollRound now elapsed with ⟨behaviour, event | _ | _⟩
  · cases event with
    | generateEvent => rfl
    | dial => rfl
    | notifyHandler peer handler command =>
        simp only [route]
        split
        · rfl
        · rw [behaviour_modify]
  · rfl
  · rfl

/-- A command goes to the connection it names, or to one of the peer. -/
theorem recipient_some
    {peer : PeerId}
    {handler : NotifyHandler}
    {choice conn : ConnectionId}
    (found : self.recipient peer handler choice = some conn) :
    handler = .one conn ∨ handler = .any ∧ ∃ connection,
      self.connections.lookup conn = some connection ∧
        connection.peer = peer := by
  cases handler with
  | one other =>
      injection found with same
      exact .inl (by rw [same])
  | any =>
      have matching := List.find?_some found
      refine .inr ⟨rfl, ?_⟩
      cases isOpen : self.connections.lookup conn with
      | none =>
          rw [isOpen] at matching
          contradiction
      | some connection =>
          rw [isOpen] at matching
          exact ⟨connection, rfl, of_decide_eq_true matching⟩

/-- A turn of the connection that is changed is a step. -/
theorem modify_step
    (conn : ConnectionId)
    (change : Connection → Connection)
    (turn : ∀ connection : Connection,
      connection.Turn reply conn (change connection) none none none) :
    Step reply self input (self.modify conn change) := by
  unfold modify
  cases isOpen : self.connections.lookup conn with
  | none => exact .moved self.behaviour (.refl _)
  | some connection =>
      have step : Step reply self input _ :=
        .turned conn connection _ none none none isOpen (turn connection)
      simp only [Option.toList_none, List.append_nil] at step
      exact step

theorem pollHandler_step
    (conn : ConnectionId)
    (ready : Option (Nat × Io))
    (hears : self.Hears reply (.pollHandler conn ready)) :
    Step reply self input (self.step (.pollHandler conn ready)) := by
  simp only [step]
  cases isOpen : self.connections.lookup conn with
  | none => exact .moved self.behaviour (.refl _)
  | some connection =>
      have step : Step reply self input _ := .turned conn connection _ _ _ _ isOpen
        (connection.poll_turn conn ready (hears connection isOpen))
      simp only [modify, record]
      cases woken : connection.handler.woken ready with
      | none =>
          rw [woken] at step
          simp only [Option.bind_none, Option.toList_none, List.append_nil] at step
          simp only [isOpen]
          exact step
      | some task =>
          rw [woken] at step
          simp only [isOpen]
          exact step

theorem route_step
    (choice : ConnectionId)
    {middle behaviour : MemoryBehaviour}
    {event : ToSwarm}
    (moved : Moved self.behaviour middle [])
    (popped : Popped middle behaviour event) :
    Step reply self input
      ({ self with behaviour := behaviour }.route choice event) := by
  cases event with
  | generateEvent => exact .dropped middle behaviour _ moved popped nofun
  | dial => exact .dropped middle behaviour _ moved popped nofun
  | notifyHandler peer handler command =>
      simp only [route]
      cases found : { self with behaviour := behaviour }.recipient peer handler
          choice with
      | none =>
          refine .dropped middle behaviour _ moved popped ?_
          cases handler with
          | one => contradiction
          | any => exact nofun
      | some conn =>
          have matching := recipient_some _ found
          simp only [modify]
          cases isOpen : self.connections.lookup conn with
          | none =>
              refine .dropped middle behaviour _ moved popped ?_
              rcases matching with rfl | ⟨-, connection, isThere, -⟩
              · intro answer isAnswer
                cases command with
                | sendRequest => contradiction
                | sendResponse channelId correlationId msg =>
                    injection isAnswer with same
                    rw [← same]
                    exact isOpen
              · simp only [isOpen] at isThere
                contradiction
          | some connection =>
              refine .taken middle behaviour peer handler command conn connection
                moved popped isOpen ?_
              apply matching.imp_right
              rintro ⟨isAny, other, isThere, isPeer⟩
              simp only [isOpen, Option.some.injEq] at isThere
              exact ⟨isAny, isThere ▸ isPeer⟩

theorem pollBehaviour_step
    (choice : ConnectionId)
    (now : Nat)
    (elapsed : Bool) :
    Step reply self input (self.step (.pollBehaviour choice now elapsed)) := by
  have idle : (∀ event, (self.behaviour.pollRound now elapsed).2 ≠ .ready event) →
      Moved self.behaviour (self.behaviour.pollRound now elapsed).1 [] :=
    Moved.pollRound_idle self.behaviour
  simp only [step]
  rcases round : self.behaviour.pollRound now elapsed with ⟨behaviour, outcome⟩
  rw [round] at idle
  cases outcome with
  | ready event =>
      obtain ⟨middle, moved, popped⟩ := Moved.pollRound_ready round
      exact self.route_step choice moved popped
  | pending => exact .moved behaviour (idle nofun)
  | again => exact .moved behaviour (idle nofun)

theorem step_cases
    (input : Input)
    (hears : self.Hears reply input) :
    Step reply self input (self.step input) := by
  cases input with
  | propose data now => exact .moved _ (.propose _ data now)
  | pollBehaviour choice now elapsed => exact self.pollBehaviour_step choice now elapsed
  | dialFailure peer error now => exact .moved _ (.dialFailure _ peer error now)
  | connect peer now => exact .connected peer now
  | disconnect conn now =>
      simp only [step]
      cases isOpen : self.connections.lookup conn with
      | none => exact .moved self.behaviour (.refl _)
      | some connection => exact .disconnected conn connection now isOpen
  | deliver conn => exact self.modify_step conn _ (Connection.deliver_turn conn)
  | accept conn => exact self.modify_step conn _ (Connection.accept_turn conn)
  | opened conn position =>
      exact self.modify_step conn _ fun connection =>
        connection.opened_turn conn position
  | openFailed conn position error =>
      exact self.modify_step conn _ fun connection =>
        connection.openFailed_turn conn position error
  | pollHandler conn ready => exact self.pollHandler_step conn ready hears
  | report conn now =>
      simp only [step]
      cases isOpen : self.connections.lookup conn with
      | none => exact .moved self.behaviour (.refl _)
      | some connection =>
          simp only
          cases reports : connection.reports with
          | nil => exact .moved self.behaviour (.refl _)
          | cons report rest =>
              exact .reported conn connection report.1 report.2 rest now rfl
                isOpen reports

end

/-! ## Reports -/

/-- The peer of a connection and what its handler reports next. -/
def nextReport
    (self : Swarm)
    (conn : ConnectionId) : Option (PeerId × Exchange × ToBehaviour) := do
  let connection ← self.connections.lookup conn
  let report ← connection.reports.head?
  some (connection.peer, report)

theorem nextReport_eq_some
    {self : Swarm}
    {conn : ConnectionId}
    {peer : PeerId}
    {exchange : Exchange}
    {event : ToBehaviour}
    (isNext : self.nextReport conn = some (peer, exchange, event)) :
    ∃ connection rest,
      self.connections.lookup conn = some connection ∧
        connection.peer = peer ∧
        connection.reports = (exchange, event) :: rest := by
  unfold nextReport at isNext
  cases isOpen : self.connections.lookup conn with
  | none =>
      rw [isOpen] at isNext
      contradiction
  | some connection =>
      cases reports : connection.reports with
      | nil =>
          rw [isOpen] at isNext
          simp [reports] at isNext
      | cons report rest =>
          rw [isOpen] at isNext
          simp only [reports, Option.bind_eq_bind, Option.bind_some,
            List.head?_cons, Option.some.injEq, Prod.mk.injEq] at isNext
          obtain ⟨isPeer, isReport⟩ := isNext
          exact ⟨connection, rest, rfl, isPeer, by rw [reports, isReport]⟩

theorem step_report
    {self : Swarm}
    {conn : ConnectionId}
    {connection : Connection}
    {exchange : Exchange}
    {event : ToBehaviour}
    {rest : List (Exchange × ToBehaviour)}
    (isOpen : self.connections.lookup conn = some connection)
    (reports : connection.reports = (exchange, event) :: rest)
    (now : Nat) :
    self.step (.report conn now) =
      { self with
        behaviour := self.behaviour.onConnectionHandlerEvent connection.peer conn
          event now
        connections := self.connections.insert conn
          { connection with reports := rest } } := by
  simp only [step, isOpen, reports]

end Swarm

end Libp2pRaft
