import Libp2pRaft.Swarm.Served

/-!
# The inbound exchanges of a connection

A request that was read is reported, handled, and answered by a command, and
each channel is in one of these places at most once.  As long as it is, the
handler holds the sender of the channel.
-/

namespace Libp2pRaft

/-- The channel of a request that is reported. -/
def reportedChannel : Exchange × ToBehaviour → Option Nat
  | (_, .request _ _ channelId) => some channelId
  | _ => none

/-- The channel of a response. -/
def FromBehaviour.channelId : FromBehaviour → Option Nat
  | .sendResponse channelId _ _ => some channelId
  | .sendRequest .. => none

/-- The channels of a connection that are on their way: reported, commanded, or
answered in the queue of the behaviour. -/
def Connection.tokens
    (self : Connection)
    (answered : List Nat) : List Nat :=
  self.underway.filterMap reportedChannel ++
    (self.commands.filterMap FromBehaviour.channelId ++ answered)

/-- The inbound exchanges of a connection. -/
structure Connection.Inbound
    (connection : Connection)
    (answered : List Nat)
    (written heard : List Frame)
    (conn : ConnectionId) : Prop where
  served : Served written conn connection.nextStream
    connection.handler.inboundChannelId connection.handler.responseTxs
    connection.handler.inflight
  once : (connection.tokens answered).Nodup
  held : ∀ channelId ∈ connection.tokens answered,
    channelId ∈ connection.handler.responseTxs
  asked : ∀ exchange id msg channelId,
    (exchange, .request id msg channelId) ∈ connection.underway →
      ∃ stream,
        .inboundWrite stream channelId id none ∈ connection.handler.inflight ∧
        ⟨stream, some channelId, ⟨id, msg⟩⟩ ∈ heard

theorem perm_cons_eraseIdx
    {α : Type}
    {items : List α}
    {position : Nat}
    {item : α}
    (found : items[position]? = some item) :
    items.Perm (item :: items.eraseIdx position) := by
  obtain ⟨isIndex, rfl⟩ := List.getElem?_eq_some_iff.mp found
  exact (List.getElem_cons_eraseIdx_perm isIndex).symm

namespace Connection

variable {reply : OutboundInfo → WireEnvelope → Prop} {answered : List Nat}
  {written heard moreWritten moreHeard : List Frame} {conn : ConnectionId}
  {before after : Connection}

theorem mem_tokens
    {channelId : Nat} :
    channelId ∈ before.tokens answered ↔
      (∃ exchange id msg,
        (exchange, .request id msg channelId) ∈ before.underway) ∨
      (∃ id msg, .sendResponse channelId id msg ∈ before.commands) ∨
      channelId ∈ answered := by
  rw [tokens, List.mem_append, List.mem_append, List.mem_filterMap,
    List.mem_filterMap]
  refine or_congr ?_ (or_congr ?_ Iff.rfl)
  · constructor
    · rintro ⟨⟨exchange, event⟩, inside, isChannel⟩
      cases event with
      | request id msg other =>
          injection isChannel with same
          exact ⟨exchange, id, msg, same ▸ inside⟩
      | response => contradiction
      | failure => contradiction
    · rintro ⟨exchange, id, msg, inside⟩
      exact ⟨_, inside, rfl⟩
  · constructor
    · rintro ⟨command, inside, isChannel⟩
      cases command with
      | sendRequest => contradiction
      | sendResponse other id msg =>
          injection isChannel with same
          exact ⟨id, msg, same ▸ inside⟩
    · rintro ⟨id, msg, inside⟩
      exact ⟨_, inside, rfl⟩

theorem Inbound.new
    (peer : PeerId)
    (unused : ∀ frame ∈ written, frame.stream.conn ≠ conn) :
    (Connection.new peer).Inbound [] written heard conn where
  served := .nil unused
  once := List.nodup_nil
  held := nofun
  asked := nofun

/-- A turn that moves no channel keeps the inbound exchanges. -/
theorem Inbound.steady
    (inbound : before.Inbound answered written heard conn)
    (served : Served (written ++ moreWritten) conn after.nextStream
      after.handler.inboundChannelId after.handler.responseTxs
      after.handler.inflight)
    (tokens : after.tokens answered = before.tokens answered)
    (held : before.handler.responseTxs ⊆ after.handler.responseTxs)
    (waiting : ∀ task ∈ before.handler.inflight, task.Waits →
      task ∈ after.handler.inflight)
    (underway : ∀ report ∈ after.underway, report ∈ before.underway ∨
      reportedChannel report = none) :
    after.Inbound answered (written ++ moreWritten) (heard ++ moreHeard)
      conn where
  served := served
  once := by
    rw [tokens]
    exact inbound.once
  held channelId inside := by
    rw [tokens] at inside
    exact held (inbound.held channelId inside)
  asked exchange id msg channelId inside := by
    rcases underway _ inside with old | silent
    · obtain ⟨stream, waits, read⟩ := inbound.asked exchange id msg channelId old
      exact ⟨stream, waiting _ waits trivial, List.mem_append_left _ read⟩
    · contradiction

/-- A turn that ends an exchange with a report about no channel keeps the inbound
exchanges. -/
theorem Inbound.report
    (inbound : before.Inbound answered written heard conn)
    {event : Exchange × ToBehaviour}
    (silent : reportedChannel event = none)
    (served : Served (written ++ moreWritten) conn after.nextStream
      after.handler.inboundChannelId after.handler.responseTxs
      after.handler.inflight)
    (reports : after.reports = before.reports)
    (queued : after.handler.pendingEvents =
      before.handler.pendingEvents ++ [event])
    (commands : after.commands = before.commands)
    (held : after.handler.responseTxs = before.handler.responseTxs)
    (waiting : ∀ task ∈ before.handler.inflight, task.Waits →
      task ∈ after.handler.inflight) :
    after.Inbound answered (written ++ moreWritten) (heard ++ moreHeard)
      conn := by
  apply inbound.steady served ?_ held.ge waiting ?_
  · simp [tokens, underway, reports, queued, commands, silent]
  · intro report inside
    rcases underway_concat reports queued inside with old | rfl
    · exact .inl old
    · exact .inr silent

/-- Whoever waits is still there when another future goes on. -/
theorem waiting_of_perm
    {inflight others : List Task}
    {task : Task}
    (same : inflight.Perm (task :: others))
    (ready : ¬ task.Waits) :
    ∀ other ∈ inflight, other.Waits → other ∈ others := by
  intro other inside waits
  rcases List.mem_cons.mp (same.mem_iff.mp inside) with rfl | among
  · exact absurd waits ready
  · exact among

/-- Reading a request puts its channel on its way. -/
theorem Inbound.requestRead
    (inbound : before.Inbound answered written heard conn)
    {stream : Stream}
    {channelId position : Nat}
    (running : before.handler.inflight[position]? =
      some (.inboundRead stream channelId))
    (env : WireEnvelope) :
    { before with
      handler := { before.handler with
        inflight := before.handler.inflight.eraseIdx position }.finish
          (.inbound channelId) (.inboundRead channelId stream env) }.Inbound
      answered written (heard ++ [(⟨stream, some channelId, env⟩ : Frame)]) conn := by
  have same := perm_cons_eraseIdx running
  have served := inbound.served.perm same
  have waiting : ∀ other ∈ before.handler.inflight, other.Waits →
      other ∈ before.handler.inflight.eraseIdx position :=
    waiting_of_perm same not_false
  have free : channelId ∉ before.tokens answered := fun inside =>
    served.unheld rfl not_false (inbound.held channelId inside)
  set after : Connection := { before with
    handler := { before.handler with
      inflight := before.handler.inflight.eraseIdx position }.finish
        (.inbound channelId) (.inboundRead channelId stream env) } with isAfter
  have isUnderway : after.underway = before.underway ++
      [(.inbound channelId, .request env.correlationId env.msg channelId)] := by
    rw [underway, underway, List.append_assoc]
    rfl
  have tokens : (after.tokens answered).Perm
      (channelId :: before.tokens answered) := by
    rw [Connection.tokens, isUnderway, List.filterMap_append, List.append_assoc]
    exact List.perm_middle
  refine ⟨?_, ?_, ?_, ?_⟩
  · exact (served.asked env.correlationId).perm
      (List.perm_append_singleton _ _).symm
  · exact (tokens.nodup_iff).mpr (List.nodup_cons.mpr ⟨free, inbound.once⟩)
  · intro other inside
    rcases List.mem_cons.mp (tokens.mem_iff.mp inside) with rfl | old
    · exact Finset.mem_insert_self _ _
    · exact Finset.mem_insert_of_mem (inbound.held other old)
  · intro exchange id msg other inside
    rw [isUnderway, List.mem_append, List.mem_singleton] at inside
    rcases inside with old | last
    · obtain ⟨waiter, waits, read⟩ := inbound.asked exchange id msg other old
      exact ⟨waiter, List.mem_append_left _ (waiting _ waits trivial),
        List.mem_append_left _ read⟩
    · injection last with _ isRequest
      injection isRequest with sameId sameMsg sameChannel
      subst sameId sameMsg sameChannel
      exact ⟨stream, List.mem_append_right _ (List.mem_singleton_self _),
        List.mem_append_right _ (List.mem_singleton_self _)⟩

/-- Sending a response takes its channel out of the way. -/
theorem Inbound.responded
    (inbound : before.Inbound answered written heard conn)
    {channelId correlationId : Nat}
    {msg : RaftMessage}
    {rest : List FromBehaviour}
    (commands : before.commands =
      .sendResponse channelId correlationId msg :: rest) :
    { before with
      commands := rest
      handler := { before.handler with
        responseTxs := before.handler.responseTxs.erase channelId
        inflight := before.handler.inflight.map
          (Task.receive channelId correlationId msg) } }.Inbound
      answered written heard conn := by
  set after : Connection := { before with
    commands := rest
    handler := { before.handler with
      responseTxs := before.handler.responseTxs.erase channelId
      inflight := before.handler.inflight.map
        (Task.receive channelId correlationId msg) } }
  have tokens : (before.tokens answered).Perm
      (channelId :: after.tokens answered) := by
    have isChannel : (FromBehaviour.sendResponse channelId correlationId
        msg).channelId = some channelId := rfl
    rw [Connection.tokens, commands, List.filterMap_cons_some isChannel]
    exact List.perm_middle
  obtain ⟨gone, once⟩ := List.nodup_cons.mp (tokens.nodup_iff.mp inbound.once)
  refine ⟨inbound.served.received channelId correlationId msg, once, ?_, ?_⟩
  · intro other inside
    refine Finset.mem_erase.mpr ⟨?_, inbound.held other
      (tokens.mem_iff.mpr (List.mem_cons_of_mem _ inside))⟩
    rintro rfl
    exact gone inside
  · intro exchange id request other inside
    obtain ⟨stream, waits, read⟩ :=
      inbound.asked exchange id request other inside
    refine ⟨stream, List.mem_map.mpr ⟨_, waits, if_neg ?_⟩, read⟩
    rintro rfl
    exact gone (mem_tokens.mpr (.inl ⟨exchange, id, request, inside⟩))

/-- A future that goes on keeps the inbound exchanges. -/
theorem Inbound.continued
    (inbound : before.Inbound answered written heard conn)
    {task next : Task}
    {position : Nat}
    {wrote read : Option Frame}
    {refused : Option Stream}
    (running : before.handler.inflight[position]? = some task)
    (went : task.Went reply before.handler.responseTxs (.inl next) wrote read
      refused) :
    { before with
      handler := { before.handler with
        inflight := before.handler.inflight.eraseIdx position ++
          [next] } }.Inbound
      answered (written ++ wrote.toList) (heard ++ read.toList) conn := by
  have split := perm_cons_eraseIdx running
  cases went with
  | requestWritten stream info =>
      refine inbound.steady ?_ rfl (Finset.Subset.refl _) ?_ fun _ inside =>
        .inl inside
      · exact ((inbound.served.perm split).wroteRequest _).perm
          (List.perm_append_singleton _ _).symm
      · intro other inside waits
        exact List.mem_append_left _
          (waiting_of_perm split not_false other inside waits)

/-- A future that ends keeps the inbound exchanges. -/
theorem Inbound.finished
    (inbound : before.Inbound answered written heard conn)
    {task : Task}
    {outcome : IoOutcome}
    {position : Nat}
    {wrote read : Option Frame}
    {refused : Option Stream}
    (running : before.handler.inflight[position]? = some task)
    (went : task.Went reply before.handler.responseTxs (.inr outcome) wrote read
      refused) :
    { before with
      handler := { before.handler with
        inflight := before.handler.inflight.eraseIdx position }.finish
          task.exchange outcome }.Inbound
      answered (written ++ wrote.toList) (heard ++ read.toList) conn := by
  have split := perm_cons_eraseIdx running
  have served := inbound.served.perm split
  rw [← List.append_nil written] at served
  cases went with
  | requestRefused stream info error =>
      exact inbound.report rfl (served.done not_false) rfl rfl rfl rfl
        (waiting_of_perm split not_false)
  | responseRead stream info env replied =>
      exact inbound.report rfl (served.done not_false) rfl rfl rfl rfl
        (waiting_of_perm split not_false)
  | responseUnread stream info error =>
      exact inbound.report rfl (served.done not_false) rfl rfl rfl rfl
        (waiting_of_perm split not_false)
  | requestRead stream channelId env =>
      simp only [Option.toList_none, List.append_nil]
      exact inbound.requestRead running env
  | requestUnread stream channelId error =>
      exact inbound.report rfl (served.done not_false) rfl rfl rfl rfl
        (waiting_of_perm split not_false)
  | cancelled stream channelId id closed =>
      refine absurd ((inbound.served.waits channelId).mpr ?_) closed
      exact ⟨stream, id, List.mem_of_getElem? running⟩
  | responseWritten stream channelId id correlationId msg =>
      have unheld := served.unheld rfl not_false
      refine inbound.steady ?_ rfl ?_ (waiting_of_perm split not_false)
        fun _ inside => .inl inside
      · simp only [RaftHandler.finish, Finset.erase_eq_of_notMem unheld]
        exact (inbound.served.perm split).write not_false rfl rfl
      · exact (Finset.erase_eq_of_notMem unheld).ge
  | responseRefused stream channelId id correlationId msg error =>
      exact inbound.report rfl (served.done not_false) rfl rfl rfl rfl
        (waiting_of_perm split not_false)

/-- A turn keeps the inbound exchanges. -/
theorem Inbound.turn
    (inbound : before.Inbound answered written heard conn)
    {wrote read : Option Frame}
    {refused : Option Stream}
    (turn : before.Turn reply conn after wrote read refused) :
    after.Inbound answered (written ++ wrote.toList) (heard ++ read.toList)
      conn := by
  have stays : ∀ task ∈ before.handler.inflight, task.Waits →
      task ∈ before.handler.inflight :=
    fun _ inside _ => inside
  have same : Served (written ++ []) conn before.nextStream
      before.handler.inboundChannelId before.handler.responseTxs
      before.handler.inflight := by
    rw [List.append_nil]
    exact inbound.served
  cases turn with
  | idle =>
      exact inbound.steady same rfl (Finset.Subset.refl _) stays
        fun _ inside => .inl inside
  | requested info rest commands =>
      refine inbound.steady same ?_ (Finset.Subset.refl _) stays
        fun _ inside => .inl inside
      rw [tokens, tokens, commands, List.filterMap_cons_none rfl]
      rfl
  | responded channelId correlationId msg rest commands waits =>
      simp only [Option.toList_none, List.append_nil]
      exact inbound.responded commands
  | unknown channelId correlationId msg rest error commands closed =>
      refine absurd (inbound.held channelId ?_) closed
      rw [mem_tokens, commands]
      exact .inr (.inl ⟨_, _, List.mem_cons_self ..⟩)
  | accepted =>
      refine inbound.steady ?_ rfl (Finset.Subset.refl _)
        (fun _ inside _ => List.mem_append_left _ inside) fun _ inside =>
          .inl inside
      refine (same.join (.inboundRead ⟨conn, before.nextStream⟩
        before.handler.inboundChannelId) rfl not_false (Nat.le_succ _) ?_).perm
          (List.perm_append_singleton _ _).symm
      rintro channelId ⟨⟩
      exact ⟨le_rfl, Nat.lt_succ_self _⟩
  | opened info position asked =>
      refine inbound.steady ?_ rfl (Finset.Subset.refl _)
        (fun _ inside _ => List.mem_append_left _ inside) fun _ inside =>
          .inl inside
      exact (same.join (.outboundWrite ⟨conn, before.nextStream⟩ info) rfl
        not_false le_rfl nofun).perm (List.perm_append_singleton _ _).symm
  | openFailed info position error asked =>
      exact inbound.report rfl same rfl rfl rfl rfl stays
  | reported event rest queued =>
      have sameUnderway : before.reports ++ [event] ++ rest =
          before.underway := by
        rw [underway, queued, List.append_assoc]
        rfl
      refine inbound.steady same ?_ (Finset.Subset.refl _) stays ?_
      · simp only [tokens, underway]
        rw [sameUnderway]
        rfl
      · intro report inside
        rw [← sameUnderway]
        exact .inl inside
  | asked info rest outbound =>
      exact inbound.steady same rfl (Finset.Subset.refl _) stays
        fun _ inside => .inl inside
  | continued task next position wrote read refused running went =>
      exact inbound.continued running went
  | finished task outcome position wrote read refused running went =>
      exact inbound.finished running went

/-- What a connection writes is on a substream of its own. -/
theorem Turn.written_conn
    {wrote read : Option Frame}
    {refused : Option Stream}
    (turn : before.Turn reply conn after wrote read refused)
    (own : ∀ task ∈ before.handler.inflight, task.stream.conn = conn) :
    ∀ frame ∈ wrote, frame.stream.conn = conn := by
  have went : ∀ (task : Task) (position : Nat) (result : Task ⊕ IoOutcome)
      (wrote read : Option Frame) (refused : Option Stream),
      before.handler.inflight[position]? = some task →
      task.Went reply before.handler.responseTxs result wrote read refused →
      ∀ frame ∈ wrote, frame.stream.conn = conn := by
    intro task position result wrote read refused running went frame isFrame
    have here := own task (List.mem_of_getElem? running)
    cases went with
    | requestWritten stream info =>
        injection isFrame with same
        exact same ▸ here
    | responseWritten stream channelId id correlationId msg =>
        injection isFrame with same
        exact same ▸ here
    | _ => contradiction
  cases turn with
  | continued task next position wrote read refused running done =>
      exact went task position _ wrote read refused running done
  | finished task outcome position wrote read refused running done =>
      exact went task position _ wrote read refused running done
  | _ => exact nofun

theorem Inbound.elsewhere
    (inbound : before.Inbound answered written heard conn)
    {wrote : Option Frame}
    (isElsewhere : ∀ frame ∈ wrote, frame.stream.conn ≠ conn) :
    before.Inbound answered (written ++ wrote.toList) (heard ++ moreHeard)
      conn := by
  apply inbound.steady ?_ rfl (Finset.Subset.refl _)
    (fun _ inside _ => inside) fun _ inside => .inl inside
  cases wrote with
  | none =>
      rw [Option.toList_none, List.append_nil]
      exact inbound.served
  | some frame => exact inbound.served.elsewhere (isElsewhere frame rfl)

/-- A request of the own node is no channel. -/
theorem Inbound.takeRequest
    (inbound : before.Inbound answered written heard conn)
    (id : Nat)
    (msg : RaftMessage) :
    { before with
      commands := before.commands ++ [FromBehaviour.sendRequest id msg] }.Inbound answered
        written heard conn := by
  have tokens : { before with
      commands := before.commands ++ [FromBehaviour.sendRequest id msg] }.tokens answered =
        before.tokens answered := by
    rw [Connection.tokens, List.filterMap_append]
    simp [FromBehaviour.channelId, Connection.tokens, underway]
  exact ⟨inbound.served, tokens ▸ inbound.once, tokens ▸ inbound.held,
    inbound.asked⟩

/-- A response that leaves the queue is on its way as a command. -/
theorem Inbound.takeResponse
    {channelId : Nat}
    (inbound : before.Inbound (channelId :: answered) written heard conn)
    (id : Nat)
    (msg : RaftMessage) :
    { before with
      commands := before.commands ++
        [FromBehaviour.sendResponse channelId id msg] }.Inbound answered written
          heard conn := by
  have tokens : { before with
      commands := before.commands ++
        [FromBehaviour.sendResponse channelId id msg] }.tokens answered =
          before.tokens (channelId :: answered) := by
    rw [Connection.tokens, List.filterMap_append]
    simp [FromBehaviour.channelId, Connection.tokens, underway]
  exact ⟨inbound.served, tokens ▸ inbound.once, tokens ▸ inbound.held,
    inbound.asked⟩

/-- Reports about no channel come and go. -/
theorem Inbound.takeReport
    (inbound : before.Inbound answered written heard conn)
    {report : Exchange × ToBehaviour}
    {rest : List (Exchange × ToBehaviour)}
    (reports : before.reports = report :: rest)
    (silent : reportedChannel report = none) :
    { before with reports := rest }.Inbound answered written heard conn := by
  have tokens : { before with reports := rest }.tokens answered =
      before.tokens answered := by
    simp [Connection.tokens, underway, reports, silent]
  refine ⟨inbound.served, tokens ▸ inbound.once, tokens ▸ inbound.held, ?_⟩
  intro exchange id msg channelId inside
  apply inbound.asked exchange id msg channelId
  rw [underway, reports, List.cons_append]
  exact List.mem_cons_of_mem _ inside

/-- A request that is handled is answered or forgotten. -/
theorem Inbound.takeAsked
    (inbound : before.Inbound answered written heard conn)
    {exchange : Exchange}
    {id channelId : Nat}
    {msg : RaftMessage}
    {rest : List (Exchange × ToBehaviour)}
    (reports : before.reports =
      (exchange, .request id msg channelId) :: rest)
    {more : List Nat}
    (isAnswer : more = [] ∨ more = [channelId]) :
    { before with reports := rest }.Inbound (answered ++ more) written heard
      conn := by
  have tokens : before.tokens answered =
      channelId :: { before with reports := rest }.tokens answered := by
    simp [Connection.tokens, underway, reports, reportedChannel]
  have once := inbound.once
  have held := inbound.held
  rw [tokens] at once held
  have asked : ∀ exchange id msg channelId,
      (exchange, .request id msg channelId) ∈
        { before with reports := rest }.underway → _ :=
    fun exchange id msg channelId inside =>
      inbound.asked exchange id msg channelId (by
        rw [underway, reports, List.cons_append]
        exact List.mem_cons_of_mem _ inside)
  rcases isAnswer with rfl | rfl
  · rw [List.append_nil]
    exact ⟨inbound.served, (List.nodup_cons.mp once).2,
      fun other inside => held other (List.mem_cons_of_mem _ inside), asked⟩
  · have moved : ({ before with reports := rest }.tokens
        (answered ++ [channelId])).Perm
          (channelId :: { before with reports := rest }.tokens answered) := by
      simp only [Connection.tokens, ← List.append_assoc]
      exact List.perm_append_singleton _ _
    exact ⟨inbound.served, moved.nodup_iff.mpr once,
      fun other inside => held other (moved.mem_iff.mp inside), asked⟩

end Connection

end Libp2pRaft
