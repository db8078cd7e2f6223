import Libp2pRaft.Raft.Replies
import Libp2pRaft.Swarm.Attribution
import Libp2pRaft.Swarm.Delivery
import Libp2pRaft.Swarm.Fates

/-!
# Every request is answered once, on its own substream

The engine has one message for the sender of a request, the behaviour makes it
the response on the channel of the request, and the handler writes it to the
substream of that channel.
-/

namespace Libp2pRaft

namespace RaftBehaviour

/-- A request is answered: the engine emits one message for its sender and
nothing else for other nodes, and the behaviour queues it as the response on the
channel of the request and nothing else for a handler. -/
structure Answered
    (before after : MemoryBehaviour)
    (peer : PeerId)
    (sender : NodeId)
    (conn : ConnectionId)
    (id channelId : Nat)
    (msg reply : RaftMessage)
    (now : Nat) : Prop where
  emitted : ∃ actions,
    (before.engine.call (.rpc sender msg now)).2 =
      actions ++ [.send sender reply] ∧
    ∀ action ∈ actions, action.Local
  engine : after.engine = (before.engine.call (.rpc sender msg now)).1
  fits : msg.RepliedBy reply
  term : reply.replyTerm = some after.engine.currentTerm
  queued : ∃ events, (∀ event ∈ events, event.IsLocal) ∧
    after.pendingEvents = before.pendingEvents ++ events ++
      [.notifyHandler peer (.one conn) (.sendResponse channelId id reply)]
  pending : after.pending = before.pending
  nextCorrelationId : after.nextCorrelationId = before.nextCorrelationId

theorem answered
    (self : MemoryBehaviour)
    {peer : PeerId}
    {sender : NodeId}
    (mapped : self.peerMap.nodeId peer = some sender)
    {msg : RaftMessage}
    (isRequest : msg.IsRequest)
    (conn : ConnectionId)
    (id channelId now : Nat) :
    ∃ reply, Answered self
      (self.onConnectionHandlerEvent peer conn (.request id msg channelId) now)
      peer sender conn id channelId msg reply now := by
  obtain ⟨actions, reply, emitted, isLocal, fits, term⟩ :=
    self.engine.request_answered sender isRequest now
  have silent : ∀ other, .send sender other ∉ actions :=
    fun other inside => isLocal _ inside
  obtain ⟨events, eventsLocal, dispatched⟩ := executeActions_local
    (self.openChannel peer conn id channelId sender msg now) isLocal now
  have handled : self.onConnectionHandlerEvent peer conn
      (.request id msg channelId) now =
        (((self.openChannel peer conn id channelId sender msg now).executeActions
          actions none now).respond channelId ⟨peer, conn, id⟩
            reply).closeChannel channelId now := by
    have emittedEq : (self.engine.handleRpc sender msg now).2 =
        actions ++ [.send sender reply] := emitted
    rw [onRequest_eq _ mapped, emittedEq,
      executeActions_answered _ (AList.lookup_insert _) silent]
    rfl
  rw [handled, dispatched]
  exact ⟨reply, ⟨actions, emitted, isLocal⟩, rfl, fits, term,
    ⟨events, eventsLocal, rfl⟩, rfl, rfl⟩

end RaftBehaviour

/-- A task that is woken with a frame to write writes it, or its substream
failed. -/
theorem Task.wrote_or_refused
    (task : Task)
    {env : WireEnvelope}
    (isFrame : task.frame = some env) :
    task.wrote (.written (.ok ())) =
        some ⟨task.stream, task.channelId, env⟩ ∨
      task.refused (.written (.ok ())) = some task.stream := by
  simp only [wrote, refused, isFrame, Option.bind_eq_bind, Option.bind_some]
  cases writeOutcome env (.ok ()) with
  | ok => exact .inl rfl
  | error => exact .inr rfl

/-- A poll takes what is queued before it wakes a future. -/
theorem Connection.poll_none (self : Connection) :
    (self.poll none).handler.inflight = self.handler.inflight ∧
      (self.poll none).handler.pendingEvents.length +
          (self.poll none).handler.pendingOutbound.length =
        self.handler.pendingEvents.length +
          self.handler.pendingOutbound.length - 1 := by
  obtain ⟨peer, handler, commands, opening, reports, nextStream⟩ := self
  obtain ⟨inboundChannelId, pendingEvents, pendingOutbound, inflight,
    responseTxs, outboundInFlight⟩ := handler
  cases pendingEvents with
  | cons event rest =>
      refine ⟨rfl, ?_⟩
      simp only [poll, RaftHandler.pollRound, List.length_cons]
      omega
  | nil =>
      cases pendingOutbound with
      | cons info rest => exact ⟨rfl, rfl⟩
      | nil => exact ⟨rfl, rfl⟩

namespace Swarm

open RaftBehaviour TransitionSystem

/-! ## Driving a response to its substream -/

/-- An input by which the swarm drives the exchanges of a connection. -/
def Input.Drives (conn : ConnectionId) : Input → Prop
  | .pollBehaviour .. => True
  | .deliver other | .pollHandler other _ => other = conn
  | _ => False

/-- The frame of a response is written, or its substream failed. -/
def Settled (state : Swarm) (stream : Stream) (answer : Answer) : Prop :=
  answer.frame stream ∈ state.written ∨ stream ∈ state.refused

/-- Driving the exchanges of a connection gets a response settled. -/
def CanSettle (state : Swarm) (stream : Stream) (answer : Answer) : Prop :=
  ∃ more : List Input, (∀ input ∈ more, input.Drives stream.conn) ∧
    Settled (more.foldl step state) stream answer

section

variable {state : Swarm} {conn : ConnectionId} {connection : Connection}
  {stream : Stream} {answer : Answer}

theorem Settled.canSettle
    (settled : Settled state stream answer) :
    CanSettle state stream answer :=
  ⟨[], nofun, settled⟩

theorem CanSettle.cons
    (input : Input)
    (drives : input.Drives stream.conn)
    (canSettle : CanSettle (state.step input) stream answer) :
    CanSettle state stream answer := by
  obtain ⟨more, driven, settled⟩ := canSettle
  exact ⟨input :: more, List.forall_mem_cons.mpr ⟨drives, driven⟩, settled⟩

theorem lookup_modify
    (isOpen : state.connections.lookup conn = some connection)
    (change : Connection → Connection) :
    (state.modify conn change).connections.lookup conn =
      some (change connection) := by
  simp only [modify, isOpen]
  exact AList.lookup_insert _

/-- Taking an event to a connection closes none, and queues at most one
command. -/
theorem open_route
    (isOpen : state.connections.lookup conn = some connection)
    (choice : ConnectionId)
    (event : ToSwarm) :
    ∃ changed,
      (state.route choice event).connections.lookup conn = some changed ∧
        changed.commands.length ≤ connection.commands.length + 1 := by
  have same : ∃ changed, state.connections.lookup conn = some changed ∧
      changed.commands.length ≤ connection.commands.length + 1 :=
    ⟨connection, isOpen, Nat.le_succ _⟩
  cases event with
  | generateEvent => exact same
  | dial => exact same
  | notifyHandler peer handler command =>
      simp only [route]
      split
      · exact same
      · rename_i other isRecipient
        by_cases here : conn = other
        · subst here
          refine ⟨_, lookup_modify isOpen _, ?_⟩
          rw [List.length_append, List.length_singleton]
        · unfold modify
          split
          · exact same
          · obtain ⟨changed, isFound, few⟩ := same
            exact ⟨changed, (AList.lookup_insert_ne here).trans isFound, few⟩

theorem lookup_pollHandler
    (isOpen : state.connections.lookup conn = some connection)
    (ready : Option (Nat × Io)) :
    (state.step (.pollHandler conn ready)).connections.lookup conn =
      some (connection.poll ready) := by
  simp only [step, isOpen]
  apply lookup_modify
  unfold record
  split
  · exact isOpen
  · exact isOpen

/-- A future that has its response gets to write it once nothing is queued before
it. -/
theorem canSettle_sent
    (isOpen : state.connections.lookup stream.conn = some connection)
    (writes : answer.writer stream ∈ connection.handler.inflight) :
    CanSettle state stream answer := by
  induction queued : connection.handler.pendingEvents.length +
      connection.handler.pendingOutbound.length
    generalizing state connection with
  | zero =>
      obtain ⟨noEvents, noOutbound⟩ := Nat.add_eq_zero_iff.mp queued
      rw [List.length_eq_zero_iff] at noEvents noOutbound
      obtain ⟨position, running⟩ := List.mem_iff_getElem?.mp writes
      apply CanSettle.cons
        (.pollHandler stream.conn (some (position, .written (.ok ())))) rfl
      apply Settled.canSettle
      have woken : connection.handler.woken
          (some (position, .written (.ok ()))) =
            some (answer.writer stream, .written (.ok ())) := by
        simp only [RaftHandler.woken, noEvents, noOutbound, running,
          Option.map_some]
      simp only [step, modify, record, isOpen, woken]
      rcases (answer.writer stream).wrote_or_refused rfl with wrote | refused
      · refine .inl (List.mem_append_right _ ?_)
        rw [wrote]
        exact List.mem_singleton_self _
      · refine .inr (List.mem_append_right _ ?_)
        rw [refused]
        exact List.mem_singleton_self _
  | succ queued inductionHypothesis =>
      obtain ⟨inflight, fewer⟩ := connection.poll_none
      apply CanSettle.cons (.pollHandler stream.conn none) rfl
      apply inductionHypothesis (lookup_pollHandler isOpen none)
      · rw [inflight]
        exact writes
      · rw [fewer, queued]
        rfl

/-- A response that is not settled can be driven to its substream: first the
queue of the behaviour is taken, then the commands, then what the handler has
queued. -/
theorem Delivery.canSettle
    (delivery : Delivery state stream answer)
    (accounted : Accounted (fun _ _ => True) state)
    (inbound : Inbound state)
    (isHere : answer.conn = stream.conn)
    (isOpen : state.connections.lookup stream.conn = some connection) :
    CanSettle state stream answer := by
  induction rank : 2 * state.behaviour.pendingEvents.length +
      connection.commands.length
    using Nat.strong_induction_on generalizing state connection with
  | _ size inductionHypothesis =>
  have further : ∀ (input : Input) (changed : Connection),
      input.Drives stream.conn →
      (state.step input).connections.lookup stream.conn = some changed →
      2 * (state.step input).behaviour.pendingEvents.length +
        changed.commands.length < size →
      CanSettle state stream answer := by
    intro input changed drives isThere fewer
    have here : Step (fun _ _ => True) state input (state.step input) :=
      step_cases state input (hears_any state input)
    exact .cons input drives (inductionHypothesis _ fewer
      (delivery.step inbound isHere here) (accounted.step here)
      (inbound.step accounted.orderly here) isThere rfl)
  cases delivery with
  | awaited found isFound awaits =>
      obtain rfl := Option.some.inj (isFound.symm.trans isOpen)
      rcases awaits.coming with queued | commanded
      · obtain ⟨event, rest, pendingEvents⟩ :
            ∃ event rest, state.behaviour.pendingEvents = event :: rest := by
          obtain ⟨event, inside, -⟩ := List.mem_filterMap.mp queued
          exact List.exists_cons_of_ne_nil (List.ne_nil_of_mem inside)
        set taken : Swarm := { state with
          behaviour := { state.behaviour with pendingEvents := rest } }
        have stepEq : state.step (.pollBehaviour stream.conn 0 false) =
            taken.route stream.conn event := by
          simp only [Swarm.step, pollRound, pendingEvents]
          rfl
        have fewer : (state.step
            (.pollBehaviour stream.conn 0 false)).behaviour.pendingEvents = rest := by
          rw [behaviour_pollBehaviour]
          simp only [pollRound, pendingEvents]
        obtain ⟨changed, isThere, few⟩ : ∃ changed, (state.step
            (.pollBehaviour stream.conn 0 false)).connections.lookup stream.conn =
              some changed ∧
            changed.commands.length ≤ found.commands.length + 1 := by
          rw [stepEq]
          have isTaken : taken.connections.lookup stream.conn = some found :=
            isFound
          exact open_route isTaken stream.conn event
        apply further (.pollBehaviour stream.conn 0 false) changed trivial isThere
        rw [fewer]
        rw [pendingEvents, List.length_cons] at rank
        omega
      · have isThere := lookup_modify isFound Connection.deliver
        apply further (.deliver stream.conn) _ rfl isThere
        have sameBehaviour :=
          behaviour_modify state stream.conn Connection.deliver
        obtain ⟨command, rest, commands⟩ :=
          List.exists_cons_of_ne_nil (List.ne_nil_of_mem commanded)
        have fewer : found.deliver.commands = rest := by
          simp only [Connection.deliver, commands]
        simp only [Swarm.step, sameBehaviour, fewer]
        rw [commands, List.length_cons] at rank
        omega
  | sent found isFound writes => exact canSettle_sent isFound writes
  | written found isFound spent frames =>
      apply Settled.canSettle
      have inside : answer.frame stream ∈
          state.framesOn stream answer.channelId := by
        rw [frames]
        exact List.mem_singleton_self _
      exact .inl (List.mem_of_mem_filter inside)
  | refused found isFound spent frames failed =>
      exact Settled.canSettle (.inr failed)
  | closed gone =>
      rw [isOpen] at gone
      contradiction

end

/-! ## Answered once -/

/-- A response has at most one frame, which carries it.  As long as the
connection is open and the substream did not fail, the frame is written or the
response is on its way, and driving the exchanges gets it there. -/
structure AnsweredOnce
    (state : Swarm)
    (stream : Stream)
    (answer : Answer) : Prop where
  once : state.framesOn stream answer.channelId = [] ∨
    state.framesOn stream answer.channelId = [answer.frame stream]
  kept : ∀ connection,
    state.connections.lookup stream.conn = some connection →
      stream ∉ state.refused →
        state.framesOn stream answer.channelId = [answer.frame stream] ∨
          connection.Awaits state.behaviour.answers stream answer ∨
          answer.writer stream ∈ connection.handler.inflight
  driven : ∀ connection,
    state.connections.lookup stream.conn = some connection →
      CanSettle state stream answer

theorem Delivery.answeredOnce
    {state : Swarm}
    {stream : Stream}
    {answer : Answer}
    (delivery : Delivery state stream answer)
    (accounted : Accounted (fun _ _ => True) state)
    (inbound : Inbound state)
    (isHere : answer.conn = stream.conn) :
    AnsweredOnce state stream answer where
  once := delivery.framesOn inbound
  kept connection isOpen succeeds := by
    cases delivery with
    | awaited found isFound awaits =>
        obtain rfl := Option.some.inj (isFound.symm.trans isOpen)
        exact .inr (.inl awaits)
    | sent found isFound writes =>
        obtain rfl := Option.some.inj (isFound.symm.trans isOpen)
        exact .inr (.inr writes)
    | written found isFound spent frames => exact .inl frames
    | refused found isFound spent frames failed => exact absurd failed succeeds
    | closed gone =>
        rw [isOpen] at gone
        contradiction
  driven connection isOpen :=
    delivery.canSettle accounted inbound isHere isOpen

/-- In every state a request from a mapped peer gets one response, and in every
run the response to the request that is reported next gets to the substream of
the request, once and to no other. -/
theorem requests_answered_once :
    (∀ (behaviour : MemoryBehaviour) (peer : PeerId) (sender : NodeId)
        (conn : ConnectionId) (id channelId : Nat) (msg : RaftMessage)
        (now : Nat),
      behaviour.peerMap.nodeId peer = some sender → msg.IsRequest →
      ∃ reply, Answered behaviour (behaviour.onConnectionHandlerEvent peer conn
        (.request id msg channelId) now) peer sender conn id channelId msg reply
          now) ∧
    ∀ (config : RaftConfig) (storage : MemoryStorage) (start : Nat)
        (past : List Input) (conn : ConnectionId) (peer : PeerId)
        (sender : NodeId) (exchange : Exchange) (id channelId : Nat)
        (msg : RaftMessage) (now : Nat),
      ((lifetime config storage start).run past).nextReport conn =
        some (peer, exchange, .request id msg channelId) →
      ((lifetime config storage start).run past).behaviour.peerMap.nodeId peer =
        some sender →
      msg.IsRequest →
      ∃ reply stream,
        Answered ((lifetime config storage start).run past).behaviour
          ((lifetime config storage start).run
            (past ++ [.report conn now])).behaviour
          peer sender conn id channelId msg reply now ∧
        stream.conn = conn ∧
        (⟨stream, some channelId, ⟨id, msg⟩⟩ : Frame) ∈
          ((lifetime config storage start).run past).heard ∧
        ∀ later, AnsweredOnce
          ((lifetime config storage start).run
            (past ++ [.report conn now] ++ later))
          stream ⟨conn, channelId, id, reply⟩ := by
  refine ⟨fun behaviour peer sender conn id channelId msg now mapped isRequest =>
    answered behaviour mapped isRequest conn id channelId now, ?_⟩
  intro config storage start past conn peer sender exchange id channelId msg now
    isNext mapped isRequest
  obtain ⟨connection, rest, isOpen, rfl, reports⟩ := nextReport_eq_some isNext
  obtain ⟨reply, isAnswered⟩ := answered _ mapped isRequest conn id channelId now
  have inbound := run_inbound config storage start past
  have here := inbound.connections conn connection isOpen
  obtain ⟨stream, waits, read⟩ := here.asked exchange id msg channelId (by
    rw [Connection.underway, reports]
    exact List.mem_cons_self ..)
  have onConn : stream.conn = conn := (here.served.own _ waits).1
  subst onConn
  have stepEq := ((lifetime config storage start).run_concat past
    (.report stream.conn now)).trans (step_report isOpen reports now)
  refine ⟨reply, stream, ?_, rfl, read, fun later => ?_⟩
  · rw [stepEq]
    exact isAnswered
  · have delivery : Delivery ((lifetime config storage start).run
        (past ++ [.report stream.conn now])) stream
          ⟨stream.conn, channelId, id, reply⟩ := by
      rw [stepEq]
      refine .awaited _ (AList.lookup_insert _) ⟨waits, .inl ?_⟩
      obtain ⟨events, -, queued⟩ := isAnswered.queued
      simp only [answers, queued]
      exact List.mem_filterMap.mpr
        ⟨_, List.mem_append_right _ (List.mem_singleton_self _), rfl⟩
    exact (delivery.run rfl later).answeredOnce
      (run_accounted config storage start (along_any config storage start _))
      (run_inbound config storage start _) rfl

/-- Node 1 reads the vote request of node 2. -/
def voteAsked : List Input :=
  [.connect 12 0, .pollBehaviour 0 0 false, .accept 0,
    .pollHandler 0 (some (0, .read (.ok ⟨1, .requestVote 1 2 0 0⟩))),
    .pollHandler 0 none]

theorem requests_answered_once_voteAsked :
    ∃ reply stream,
      Answered ((lifetime twoNodes MemoryStorage.new 0).run voteAsked).behaviour
        ((lifetime twoNodes MemoryStorage.new 0).run
          (voteAsked ++ [.report 0 10])).behaviour
        12 2 0 1 1 (.requestVote 1 2 0 0) reply 10 ∧
      stream.conn = 0 ∧
      (⟨stream, some 1, ⟨1, .requestVote 1 2 0 0⟩⟩ : Frame) ∈
        ((lifetime twoNodes MemoryStorage.new 0).run voteAsked).heard ∧
      ∀ later, AnsweredOnce
        ((lifetime twoNodes MemoryStorage.new 0).run
          (voteAsked ++ [.report 0 10] ++ later))
        stream ⟨0, 1, 1, reply⟩ :=
  requests_answered_once.2 twoNodes MemoryStorage.new 0 voteAsked 0 12 2
    (.inbound 1) 1 1 (.requestVote 1 2 0 0) 10 (by decide +kernel)
    (by decide +kernel) (by decide)

end Swarm

end Libp2pRaft
