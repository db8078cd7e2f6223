import Libp2pRaft.Swarm.Steps

/-!
# Where the requests of a process are

A request that left the queue of the behaviour waits for a substream, runs as a
future, or ended in a report.  Wherever it is, it is on a connection of its
peer, and a report about it says what became of it.
-/

namespace Libp2pRaft

/-- The request of a command. -/
def FromBehaviour.info : FromBehaviour → Option OutboundInfo
  | .sendRequest correlationId msg => some ⟨correlationId, msg⟩
  | .sendResponse .. => none

/-- The request of an outbound exchange. -/
def Exchange.info : Exchange → Option OutboundInfo
  | .outbound info _ => some info
  | .inbound _ => none

/-- A report says what became of its exchange: the reply that was read where the
request was written, a failure under the id of the request, or what came in. -/
inductive Truthful
    (reply : OutboundInfo → WireEnvelope → Prop)
    (written heard : List Frame)
    (conn : ConnectionId) : Exchange × ToBehaviour → Prop
  | replied (stream : Stream) (info : OutboundInfo) (env : WireEnvelope) :
      stream.conn = conn →
      ⟨stream, none, ⟨info.correlationId, info.msg⟩⟩ ∈ written →
      ⟨stream, none, env⟩ ∈ heard →
      reply info env →
      Truthful reply written heard conn
        (.outbound info (some stream), .response env.correlationId env.msg)
  | failed (info : OutboundInfo) (stream : Option Stream) (error : String) :
      Truthful reply written heard conn
        (.outbound info stream, .failure (some info.correlationId) error)
  | asked (channelId correlationId : Nat) (msg : RaftMessage) :
      Truthful reply written heard conn
        (.inbound channelId, .request correlationId msg channelId)
  | unanswered (channelId : Nat) (id : Option Nat) (error : String) :
      Truthful reply written heard conn
        (.inbound channelId, .failure id error)

/-- A future that reads a reply wrote the request on the same substream. -/
def Task.Carried
    (written : List Frame)
    (conn : ConnectionId) : Task → Prop
  | .outboundWrite stream _ => stream.conn = conn
  | .outboundRead stream info =>
      stream.conn = conn ∧
        ⟨stream, none, ⟨info.correlationId, info.msg⟩⟩ ∈ written
  | .inboundRead .. | .inboundWrite .. => True

namespace Connection

variable (self : Connection)

/-- The requests that have no substream yet, in the order in which they ask for
one. -/
def waiting : List OutboundInfo :=
  self.opening ++ self.handler.pendingOutbound ++
    self.commands.filterMap FromBehaviour.info

end Connection

/-- Every request and every report of a connection is accounted for. -/
structure Connection.Accounted
    (connection : Connection)
    (reply : OutboundInfo → WireEnvelope → Prop)
    (owned : OutboundInfo → Prop)
    (written heard : List Frame)
    (conn : ConnectionId) : Prop where
  waiting : ∀ info ∈ connection.waiting, owned info
  running : ∀ task ∈ connection.handler.inflight, ∀ info ∈ task.info, owned info
  ended : ∀ report ∈ connection.underway, ∀ info ∈ report.1.info, owned info
  carried : ∀ task ∈ connection.handler.inflight, task.Carried written conn
  truthful : ∀ report ∈ connection.underway,
    Truthful reply written heard conn report

section

variable {reply : OutboundInfo → WireEnvelope → Prop}
  {written heard moreWritten moreHeard : List Frame} {conn : ConnectionId}

theorem Truthful.mono
    {report : Exchange × ToBehaviour}
    (truthful : Truthful reply written heard conn report) :
    Truthful reply (written ++ moreWritten) (heard ++ moreHeard) conn report := by
  cases truthful with
  | replied stream info env own wrote read replied =>
      exact .replied stream info env own (List.mem_append_left _ wrote)
        (List.mem_append_left _ read) replied
  | failed info stream error => exact .failed info stream error
  | asked channelId correlationId msg => exact .asked channelId correlationId msg
  | unanswered channelId id error => exact .unanswered channelId id error

/-- A response that is reported was read where its request was written. -/
theorem Truthful.response
    {info : OutboundInfo}
    {stream : Option Stream}
    {id : Nat}
    {msg : RaftMessage}
    (truthful : Truthful reply written heard conn
      (.outbound info stream, .response id msg)) :
    ∃ carrier, stream = some carrier ∧ carrier.conn = conn ∧
      ⟨carrier, none, ⟨info.correlationId, info.msg⟩⟩ ∈ written ∧
      ⟨carrier, none, ⟨id, msg⟩⟩ ∈ heard ∧ reply info ⟨id, msg⟩ := by
  generalize isReport : (Exchange.outbound info stream,
    ToBehaviour.response id msg) = report at truthful
  cases truthful with
  | replied carrier other env own wrote read replied =>
      injection isReport with sameExchange sameEvent
      injection sameExchange with sameInfo sameStream
      injection sameEvent with sameId sameMsg
      subst sameInfo sameStream sameId sameMsg
      exact ⟨carrier, rfl, own, wrote, read, replied⟩
  | failed => injection isReport; contradiction
  | asked => injection isReport; contradiction
  | unanswered => injection isReport; contradiction

/-- A failure of an outbound exchange carries the id of its request. -/
theorem Truthful.failure
    {info : OutboundInfo}
    {stream : Option Stream}
    {id : Nat}
    {error : String}
    (truthful : Truthful reply written heard conn
      (.outbound info stream, .failure (some id) error)) :
    info.correlationId = id := by
  generalize isReport : (Exchange.outbound info stream,
    ToBehaviour.failure (some id) error) = report at truthful
  cases truthful with
  | replied => injection isReport; contradiction
  | failed other =>
      injection isReport with sameExchange sameEvent
      injection sameExchange with sameInfo
      injection sameEvent with sameId
      injection sameId with sameId
      rw [sameInfo, sameId]
  | asked => injection isReport; contradiction
  | unanswered => injection isReport; contradiction

theorem Task.Carried.mono
    {task : Task}
    (carried : task.Carried written conn) :
    task.Carried (written ++ moreWritten) conn := by
  cases task with
  | outboundWrite => exact carried
  | outboundRead => exact ⟨carried.1, List.mem_append_left _ carried.2⟩
  | inboundRead => trivial
  | inboundWrite => trivial

end

namespace Connection

variable {reply : OutboundInfo → WireEnvelope → Prop}
  {owned : OutboundInfo → Prop} {written heard : List Frame}
  {conn : ConnectionId} {before after : Connection}

theorem Accounted.new (peer : PeerId) :
    (Connection.new peer).Accounted reply owned written heard conn where
  waiting _ inside := absurd inside List.not_mem_nil
  running _ inside := absurd inside List.not_mem_nil
  ended _ inside := absurd inside List.not_mem_nil
  carried _ inside := absurd inside List.not_mem_nil
  truthful _ inside := absurd inside List.not_mem_nil

/-- What is underway may grow by a truthful report, the futures by a request
that is accounted for, and what waits may shrink. -/
theorem Accounted.of_subset
    (accounted : before.Accounted reply owned written heard conn)
    {moreWritten moreHeard : List Frame}
    (waiting : ∀ info ∈ after.waiting, info ∈ before.waiting)
    (inflight : ∀ task ∈ after.handler.inflight,
      task ∈ before.handler.inflight ∨
        (∀ info ∈ task.info, owned info) ∧
          task.Carried (written ++ moreWritten) conn)
    (underway : ∀ report ∈ after.underway, report ∈ before.underway ∨
      (∀ info ∈ report.1.info, owned info) ∧
        Truthful reply (written ++ moreWritten) (heard ++ moreHeard) conn
          report) :
    after.Accounted reply owned (written ++ moreWritten) (heard ++ moreHeard)
      conn where
  waiting info inside := accounted.waiting info (waiting info inside)
  running task inside := by
    rcases inflight task inside with old | ⟨isOwned, -⟩
    · exact accounted.running task old
    · exact isOwned
  ended report inside := by
    rcases underway report inside with old | ⟨isOwned, -⟩
    · exact accounted.ended report old
    · exact isOwned
  carried task inside := by
    rcases inflight task inside with old | ⟨-, carried⟩
    · exact (accounted.carried task old).mono
    · exact carried
  truthful report inside := by
    rcases underway report inside with old | ⟨-, truthful⟩
    · exact (accounted.truthful report old).mono
    · exact truthful

theorem Accounted.imp
    {others : OutboundInfo → Prop}
    (accounted : before.Accounted reply owned written heard conn)
    (implied : ∀ info, owned info → others info) :
    before.Accounted reply others written heard conn where
  waiting info inside := implied info (accounted.waiting info inside)
  running task inside info isInfo :=
    implied info (accounted.running task inside info isInfo)
  ended report inside info isInfo :=
    implied info (accounted.ended report inside info isInfo)
  carried := accounted.carried
  truthful := accounted.truthful

theorem Accounted.mono
    (accounted : before.Accounted reply owned written heard conn)
    {moreWritten moreHeard : List Frame} :
    before.Accounted reply owned (written ++ moreWritten) (heard ++ moreHeard)
      conn :=
  accounted.of_subset (fun _ inside => inside) (fun _ inside => .inl inside)
    fun _ inside => .inl inside

theorem mem_waiting_command
    {command : FromBehaviour}
    {info : OutboundInfo} :
    info ∈ { before with commands := before.commands ++ [command] }.waiting ↔
      info ∈ before.waiting ∨ command.info = some info := by
  simp [waiting, or_assoc]

/-- A turn that ends an exchange with a truthful report keeps everything
accounted for. -/
theorem Accounted.report
    (accounted : before.Accounted reply owned written heard conn)
    {moreWritten moreHeard : List Frame}
    {event : Exchange × ToBehaviour}
    (waiting : ∀ info ∈ after.waiting, info ∈ before.waiting)
    (inflight : ∀ task ∈ after.handler.inflight,
      task ∈ before.handler.inflight ∨
        (∀ info ∈ task.info, owned info) ∧
          task.Carried (written ++ moreWritten) conn)
    (reports : after.reports = before.reports)
    (queued : after.handler.pendingEvents =
      before.handler.pendingEvents ++ [event])
    (isOwned : ∀ info ∈ event.1.info, owned info)
    (truthful : Truthful reply (written ++ moreWritten) (heard ++ moreHeard) conn
      event) :
    after.Accounted reply owned (written ++ moreWritten) (heard ++ moreHeard)
      conn := by
  apply accounted.of_subset waiting inflight
  intro report inside
  rcases underway_concat reports queued inside with old | rfl
  · exact .inl old
  · exact .inr ⟨isOwned, truthful⟩

/-- What a future ends with is a truthful report about its request. -/
theorem Accounted.finished
    (accounted : before.Accounted reply owned written heard conn)
    {task : Task}
    {outcome : IoOutcome}
    {position : Nat}
    {wrote read : Option Frame}
    {refused : Option Stream}
    (running : before.handler.inflight[position]? = some task)
    (went : task.Went reply before.handler.responseTxs (.inr outcome) wrote read
      refused) :
    { before with
      handler := { before.handler with
        inflight := before.handler.inflight.eraseIdx position }.finish
          task.exchange outcome }.Accounted reply owned
        (written ++ wrote.toList) (heard ++ read.toList) conn := by
  have inside := List.mem_of_getElem? running
  have isOwned := accounted.running task inside
  have carried := accounted.carried task inside
  have others : ∀ other ∈ before.handler.inflight.eraseIdx position,
      other ∈ before.handler.inflight ∨ (∀ info ∈ other.info, owned info) ∧
        other.Carried (written ++ wrote.toList) conn :=
    fun _ among => .inl (List.mem_of_mem_eraseIdx among)
  cases went with
  | requestRefused stream info error =>
      exact accounted.report (fun _ waits => waits) others rfl rfl isOwned
        (.failed info (some stream) error)
  | responseRead stream info env replied =>
      refine accounted.report (fun _ waits => waits) others rfl rfl isOwned ?_
      exact .replied stream info env carried.1 (by simpa using carried.2)
        (List.mem_append_right _ (List.mem_singleton_self _)) replied
  | responseUnread stream info error =>
      exact accounted.report (fun _ waits => waits) others rfl rfl isOwned
        (.failed info (some stream) error)
  | requestRead stream channelId env =>
      refine accounted.report (fun _ waits => waits) ?_ rfl rfl nofun
        (.asked channelId env.correlationId env.msg)
      intro other among
      rcases List.mem_append.mp among with old | last
      · exact others other old
      · rw [List.mem_singleton.mp last]
        exact .inr ⟨nofun, trivial⟩
  | requestUnread stream channelId error =>
      exact accounted.report (fun _ waits => waits) others rfl rfl nofun
        (.unanswered channelId none error)
  | cancelled stream channelId id closed =>
      exact accounted.report (fun _ waits => waits) others rfl rfl nofun
        (.unanswered channelId (some id) _)
  | responseWritten stream channelId id correlationId msg =>
      exact accounted.of_subset (fun _ waits => waits) others
        fun _ among => .inl among
  | responseRefused stream channelId id correlationId msg error =>
      exact accounted.report (fun _ waits => waits) others rfl rfl nofun
        (.unanswered channelId (some id) error)

/-- A turn keeps every request and every report accounted for. -/
theorem Accounted.turn
    (accounted : before.Accounted reply owned written heard conn)
    {wrote read : Option Frame}
    {refused : Option Stream}
    (turn : before.Turn reply conn after wrote read refused) :
    after.Accounted reply owned (written ++ wrote.toList)
      (heard ++ read.toList) conn := by
  have sameTasks : ∀ task ∈ before.handler.inflight,
      task ∈ before.handler.inflight ∨ (∀ info ∈ task.info, owned info) ∧
        task.Carried (written ++ wrote.toList) conn :=
    fun _ inside => .inl inside
  have sameReports : ∀ report ∈ before.underway, report ∈ before.underway ∨
      (∀ info ∈ report.1.info, owned info) ∧
        Truthful reply (written ++ wrote.toList) (heard ++ read.toList) conn
          report :=
    fun _ inside => .inl inside
  cases turn with
  | idle =>
      exact accounted.of_subset (fun _ waits => waits) sameTasks sameReports
  | requested info rest commands =>
      refine accounted.of_subset (fun other waits => ?_) sameTasks sameReports
      simpa [Connection.waiting, commands, FromBehaviour.info] using waits
  | responded channelId correlationId msg rest commands waits =>
      refine accounted.of_subset (fun other waits => ?_) ?_ sameReports
      · simpa [Connection.waiting, commands, FromBehaviour.info] using waits
      · intro task inside
        obtain ⟨old, among, rfl⟩ := List.mem_map.mp inside
        rcases old.receive_cases channelId correlationId msg with
          same | ⟨stream, id, -, received⟩
        · rw [same]
          exact .inl among
        · rw [received]
          exact .inr ⟨nofun, trivial⟩
  | unknown channelId correlationId msg rest error commands closed =>
      refine accounted.report (fun other waits => ?_) sameTasks rfl rfl nofun
        (.unanswered channelId (some correlationId) error)
      simpa [Connection.waiting, commands, FromBehaviour.info, RaftHandler.pushEvent] using
        waits
  | accepted =>
      refine accounted.of_subset (fun _ waits => waits) ?_ sameReports
      intro task inside
      rcases List.mem_append.mp inside with old | last
      · exact .inl old
      · rw [List.mem_singleton.mp last]
        exact .inr ⟨nofun, trivial⟩
  | opened info position asked =>
      have isWaiting : info ∈ before.waiting := by
        simp [Connection.waiting, List.mem_of_getElem? asked]
      refine accounted.of_subset (fun other waits => ?_) ?_ sameReports
      · simp only [Connection.waiting, List.mem_append] at waits ⊢
        exact waits.imp_left (.imp_left List.mem_of_mem_eraseIdx)
      · intro task inside
        rcases List.mem_append.mp inside with old | last
        · exact .inl old
        · rw [List.mem_singleton.mp last]
          refine .inr ⟨?_, rfl⟩
          rintro _ ⟨⟩
          exact accounted.waiting info isWaiting
  | openFailed info position error asked =>
      have isWaiting : info ∈ before.waiting := by
        simp [Connection.waiting, List.mem_of_getElem? asked]
      refine accounted.report (fun other waits => ?_) sameTasks rfl rfl ?_
        (.failed info none error)
      · simp only [Connection.waiting, List.mem_append] at waits ⊢
        exact waits.imp_left (.imp_left List.mem_of_mem_eraseIdx)
      · rintro _ ⟨⟩
        exact accounted.waiting info isWaiting
  | reported event rest queued =>
      refine accounted.of_subset (fun _ waits => waits) sameTasks ?_
      intro report inside
      simp only [underway, queued, List.append_assoc, List.singleton_append]
        at inside ⊢
      exact .inl inside
  | asked info rest outbound =>
      refine accounted.of_subset (fun other waits => ?_) sameTasks sameReports
      simpa [Connection.waiting, outbound] using waits
  | continued task next position wrote read refused running went =>
      have inside := List.mem_of_getElem? running
      refine accounted.of_subset (fun _ waits => waits) ?_ sameReports
      intro other among
      rcases List.mem_append.mp among with old | last
      · exact .inl (List.mem_of_mem_eraseIdx old)
      · rw [List.mem_singleton.mp last]
        cases went with
        | requestWritten stream info =>
            have isOwned := accounted.running (.outboundWrite stream info) inside
            have carried := accounted.carried (.outboundWrite stream info) inside
            exact .inr ⟨isOwned, carried,
              List.mem_append_right _ (List.mem_singleton_self _)⟩
  | finished task outcome position wrote read refused running went =>
      exact accounted.finished running went

end Connection

namespace Swarm

open RaftBehaviour

variable {reply : OutboundInfo → WireEnvelope → Prop} {input : Input}

/-- Every request of a process is accounted for. -/
structure Accounted
    (reply : OutboundInfo → WireEnvelope → Prop)
    (state : Swarm) : Prop where
  orderly : state.behaviour.Orderly
  connections : ∀ conn connection,
    state.connections.lookup conn = some connection →
      connection.Accounted reply (state.behaviour.Owned connection.peer)
        state.written state.heard conn

theorem lifetime_accounted
    (config : RaftConfig)
    (storage : MemoryStorage)
    (now : Nat) :
    Accounted reply (lifetime config storage now).init where
  orderly := by
    refine ⟨nofun, nofun, nofun, ?_⟩
    intro event inside
    obtain ⟨seed, -, rfl⟩ := List.mem_map.mp inside
    trivial
  connections := nofun

section

variable {before after : Swarm}

theorem Accounted.moved
    (accounted : Accounted reply before)
    {behaviour : MemoryBehaviour}
    {answered : List Answer}
    (moved : Moved before.behaviour behaviour answered) :
    Accounted reply { before with behaviour := behaviour } where
  orderly := accounted.orderly.moved moved
  connections conn connection isOpen :=
    (accounted.connections conn connection isOpen).imp fun _ => moved.owned

theorem Accounted.popped
    (accounted : Accounted reply before)
    {behaviour : MemoryBehaviour}
    {event : ToSwarm}
    (popped : Popped before.behaviour behaviour event) :
    Accounted reply { before with behaviour := behaviour } where
  orderly := (accounted.orderly.popped popped).1
  connections conn connection isOpen :=
    (accounted.connections conn connection isOpen).imp fun _ => popped.owned

/-- Every step keeps every request accounted for. -/
theorem Accounted.step
    (accounted : Accounted reply before)
    (step : Step reply before input after) :
    Accounted reply after := by
  cases step with
  | moved behaviour moved => exact accounted.moved moved
  | dropped middle behaviour event moved popped =>
      exact (accounted.moved moved).popped popped
  | taken middle behaviour peer handler command conn connection moved popped
      isOpen matching =>
      have settled := (accounted.moved moved).popped popped
      have proper := ((accounted.moved moved).orderly.popped popped).2
      refine ⟨settled.orderly, forall_insert ?_ ?_⟩
      · have here := settled.connections conn connection isOpen
        refine ⟨?_, here.running, here.ended, here.carried, here.truthful⟩
        intro info waits
        rcases Connection.mem_waiting_command.mp waits with old | isInfo
        · exact here.waiting info old
        · cases command with
          | sendRequest correlationId msg =>
              injection isInfo with same
              subst same
              rcases matching with rfl | ⟨rfl, rfl⟩
              · contradiction
              · exact proper
          | sendResponse => contradiction
      · exact fun other found _ => settled.connections other found
  | connected peer now =>
      refine ⟨⟨accounted.orderly.fresh, accounted.orderly.mapped,
        accounted.orderly.kind, accounted.orderly.queued⟩,
        forall_insert (.new peer) ?_⟩
      exact fun other found _ => accounted.connections other found
  | disconnected conn connection now isOpen =>
      have closed : Accounted reply { before with
          behaviour := before.behaviour.disconnect connection.peer conn
          connections := before.connections.erase conn } :=
        ⟨⟨accounted.orderly.fresh, accounted.orderly.mapped,
          accounted.orderly.kind, accounted.orderly.queued⟩,
          forall_erase fun other found _ => accounted.connections other found⟩
      exact closed.moved (.connectionClosed before.behaviour connection.peer conn
        now)
  | turned conn connection after written heard refused isOpen turn =>
      refine ⟨accounted.orderly, forall_insert ?_ ?_⟩
      · rw [turn.peer]
        exact (accounted.connections conn connection isOpen).turn turn
      · exact fun other found _ isOpen =>
          (accounted.connections other found isOpen).mono
  | reported conn connection exchange event rest now isReport isOpen reports =>
      have taken : Accounted reply { before with
          connections := before.connections.insert conn
            { connection with reports := rest } } := by
        refine ⟨accounted.orderly, forall_insert ?_ ?_⟩
        · have here := accounted.connections conn connection isOpen
          have fewer : ∀ report ∈ { connection with reports := rest }.underway,
              report ∈ connection.underway := by
            intro report inside
            simp only [Connection.underway, reports, List.cons_append]
            exact List.mem_cons_of_mem _ inside
          exact ⟨here.waiting, here.running,
            fun report inside => here.ended report (fewer report inside),
            here.carried,
            fun report inside => here.truthful report (fewer report inside)⟩
        · exact fun other found _ => accounted.connections other found
      obtain ⟨answered, moved⟩ := Moved.handled before.behaviour conn event
      exact taken.moved moved

end

/-- As long as peers reply in a certain way, every request is accounted for. -/
theorem run_accounted
    (config : RaftConfig)
    (storage : MemoryStorage)
    (now : Nat)
    {inputs : List Input}
    (hears : (lifetime config storage now).Along (Hears reply) inputs) :
    Accounted reply ((lifetime config storage now).run inputs) :=
  (lifetime config storage now).invariant_along
    (lifetime_accounted config storage now)
    (fun _ input accounted hears => accounted.step (step_cases _ input hears))
    hears

end Swarm

end Libp2pRaft
