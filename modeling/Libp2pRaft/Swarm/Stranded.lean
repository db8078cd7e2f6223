import Libp2pRaft.Raft.Feedback
import Libp2pRaft.Swarm.Answers

/-!
# Requests that are never answered

The sender of a channel is let go of by a response only.  A request that the
behaviour has no response to is stranded: its future waits, and its handler keeps
the sender, until the connection closes.
-/

namespace Libp2pRaft

/-- Every sender a handler holds is for a channel on its way. -/
def Connection.Covered (connection : Connection) (answered : List Nat) : Prop :=
  ∀ channelId ∈ connection.handler.responseTxs,
    channelId ∈ connection.tokens answered

namespace Connection

variable {reply : OutboundInfo → WireEnvelope → Prop} {answered : List Nat}
  {written heard : List Frame} {conn : ConnectionId}
  {before after : Connection}

theorem underway_subset
    {event : Exchange × ToBehaviour}
    (reports : after.reports = before.reports)
    (queued : after.handler.pendingEvents =
      before.handler.pendingEvents ++ [event]) :
    before.underway ⊆ after.underway := by
  rw [underway, underway, reports, queued, ← List.append_assoc]
  exact List.subset_append_left _ _

theorem tokens_mono
    {more : List Nat}
    (underway : before.underway ⊆ after.underway)
    (commands : before.commands ⊆ after.commands)
    (grown : answered ⊆ more) :
    before.tokens answered ⊆ after.tokens more := by
  intro channelId inside
  rw [mem_tokens] at inside ⊢
  rcases inside with
    ⟨exchange, id, msg, reported⟩ | ⟨id, msg, commanded⟩ | queued
  · exact .inl ⟨exchange, id, msg, underway reported⟩
  · exact .inr (.inl ⟨id, msg, commands commanded⟩)
  · exact .inr (.inr (grown queued))

theorem Covered.mono
    {more : List Nat}
    (covered : before.Covered answered)
    (fewer : after.handler.responseTxs ⊆ before.handler.responseTxs)
    (tokens : before.tokens answered ⊆ after.tokens more) :
    after.Covered more :=
  fun channelId held => tokens (covered channelId (fewer held))

/-- What a future ended with leaves the senders covered. -/
theorem Covered.finish
    {handler : RaftHandler}
    (covered : { before with handler := handler }.Covered answered)
    (exchange : Exchange)
    (outcome : IoOutcome) :
    { before with handler := handler.finish exchange outcome }.Covered
      answered := by
  have reported : ∀ {after : Connection} {event},
      after.reports = before.reports →
      after.handler.pendingEvents = handler.pendingEvents ++ [event] →
      after.commands = before.commands →
      { before with handler := handler }.tokens answered ⊆
        after.tokens answered := by
    intro after event reports queued commands
    have grown : { before with handler := handler }.underway ⊆ after.underway :=
      underway_subset reports queued
    refine tokens_mono grown ?_ (List.Subset.refl _)
    rw [commands]
    exact List.Subset.refl _
  cases outcome with
  | outboundDone =>
      exact covered.mono (Finset.Subset.refl _) (reported rfl rfl rfl)
  | inboundRead channelId stream env =>
      intro other held
      rcases Finset.mem_insert.mp held with rfl | old
      · rw [mem_tokens]
        refine .inl ⟨exchange, env.correlationId, env.msg, ?_⟩
        exact List.mem_append_right _
          (List.mem_append_right _ (List.mem_singleton_self _))
      · have grown : { before with handler := handler }.tokens answered ⊆
            { before with
              handler := handler.finish exchange
                (.inboundRead channelId stream env) }.tokens answered :=
          reported rfl rfl rfl
        exact grown (covered other old)
  | inboundWritten channelId =>
      exact covered.mono (Finset.erase_subset _ _) (List.Subset.refl _)
  | failed correlationId error =>
      cases correlationId with
      | none => exact covered.mono (Finset.Subset.refl _) (reported rfl rfl rfl)
      | some id => exact covered.mono (Finset.Subset.refl _) (reported rfl rfl rfl)

/-- A turn leaves the senders covered. -/
theorem Covered.turn
    (covered : before.Covered answered)
    {wrote read : Option Frame}
    {refused : Option Stream}
    (turn : before.Turn reply conn after wrote read refused) :
    after.Covered answered := by
  have same : ∀ {after : Connection},
      after.handler.responseTxs = before.handler.responseTxs →
      after.underway = before.underway → after.commands = before.commands →
        after.Covered answered := by
    intro after responseTxs underway commands
    exact covered.mono responseTxs.subset
      (tokens_mono (underway ▸ List.Subset.refl _)
        (commands ▸ List.Subset.refl _) (List.Subset.refl _))
  cases turn with
  | idle => exact covered
  | requested info rest commands =>
      refine covered.mono (Finset.Subset.refl _) ?_
      rw [tokens, commands, List.filterMap_cons_none rfl]
      exact List.Subset.refl _
  | responded channelId correlationId msg rest commands waits =>
      intro other held
      obtain ⟨different, old⟩ := Finset.mem_erase.mp held
      have inside := covered other old
      rw [mem_tokens, commands] at inside
      rw [mem_tokens]
      refine inside.imp_right (Or.imp_left ?_)
      rintro ⟨id, sent, commanded⟩
      rcases List.mem_cons.mp commanded with isHead | among
      · injection isHead with sameChannel
        exact absurd sameChannel different
      · exact ⟨id, sent, among⟩
  | unknown channelId correlationId msg rest error commands closed =>
      intro other held
      have inside := covered other held
      rw [mem_tokens, commands] at inside
      rw [mem_tokens]
      rcases inside with ⟨exchange, id, asked, reported⟩ | ⟨id, sent, commanded⟩ |
        queued
      · refine .inl ⟨exchange, id, asked, ?_⟩
        have grown : before.underway ⊆ { before with
            commands := rest
            handler := before.handler.pushEvent (.inbound channelId)
              (.failure (some correlationId) error) }.underway :=
          underway_subset rfl rfl
        exact grown reported
      · rcases List.mem_cons.mp commanded with isHead | among
        · injection isHead with sameChannel
          exact absurd (sameChannel ▸ held) closed
        · exact .inr (.inl ⟨id, sent, among⟩)
      · exact .inr (.inr queued)
  | accepted => exact same rfl rfl rfl
  | opened => exact same rfl rfl rfl
  | openFailed info position error =>
      exact covered.mono (Finset.Subset.refl _) (tokens_mono
        (underway_subset rfl rfl) (List.Subset.refl _) (List.Subset.refl _))
  | reported event rest queued =>
      refine same rfl ?_ rfl
      rw [underway, underway, queued, List.append_assoc]
      rfl
  | asked => exact same rfl rfl rfl
  | continued => exact same rfl rfl rfl
  | finished task outcome position =>
      have rest : { before with
          handler := { before.handler with
            inflight := before.handler.inflight.eraseIdx position } }.Covered
              answered :=
        same rfl rfl rfl
      exact rest.finish _ _

end Connection

/-- A behaviour has a response to what a handler reports, if it is a request. -/
def RaftBehaviour.Releases
    (self : MemoryBehaviour)
    (peer : PeerId) : ToBehaviour → Prop
  | .request _ msg _ =>
      ∃ sender ∈ self.peerMap.nodeId peer, self.engine.Replies sender msg
  | .response .. | .failure .. => True

namespace Swarm

open RaftBehaviour TransitionSystem

/-- A channel whose sender is held, or whose future waits, while neither its
request nor a response to it is on its way. -/
def Stranded
    (self : Swarm)
    (conn : ConnectionId)
    (channelId : Nat) : Prop :=
  ∃ connection, self.connections.lookup conn = some connection ∧
    (channelId ∈ connection.handler.responseTxs ∨ ∃ stream id,
      .inboundWrite stream channelId id none ∈ connection.handler.inflight) ∧
    channelId ∉ connection.tokens (self.behaviour.answeredOn conn)

/-- An input reports a request only if the behaviour has a response to it. -/
def Releases (self : Swarm) : Input → Prop
  | .report conn _ =>
      ∀ report ∈ self.nextReport conn, self.behaviour.Releases report.1 report.2.2
  | _ => True

instance
    (self : MemoryBehaviour)
    (peer : PeerId)
    (event : ToBehaviour) :
    Decidable (self.Releases peer event) :=
  match event with
  | .request .. => inferInstanceAs (Decidable (∃ sender ∈ _, _))
  | .response .. | .failure .. => .isTrue trivial

instance (self : Swarm) (input : Input) : Decidable (self.Releases input) :=
  match input with
  | .report .. => inferInstanceAs (Decidable (∀ report ∈ _, _))
  | .propose .. | .pollBehaviour .. | .dialFailure .. | .connect ..
  | .disconnect .. | .deliver .. | .accept .. | .opened .. | .openFailed ..
  | .pollHandler .. => .isTrue trivial

/-- Every sender of every connection is for a channel on its way. -/
def Covered (state : Swarm) : Prop :=
  ∀ conn connection, state.connections.lookup conn = some connection →
    connection.Covered (state.behaviour.answeredOn conn)

variable {reply : OutboundInfo → WireEnvelope → Prop}
  {before after state : Swarm} {input : Input}

/-- A future waits only as long as the sender is held. -/
theorem Inbound.covered_iff
    (inbound : Inbound state) :
    Covered state ↔ ∀ conn channelId, ¬ state.Stranded conn channelId := by
  constructor
  · rintro covered conn channelId ⟨connection, isOpen, held, lost⟩
    have here := inbound.connections conn connection isOpen
    rw [here.served.waits, or_self, ← here.served.waits] at held
    exact lost (covered conn connection isOpen channelId held)
  · intro free conn connection isOpen channelId held
    by_contra lost
    exact free conn channelId ⟨connection, isOpen, .inl held, lost⟩

theorem mem_answeredOn
    {behaviour : MemoryBehaviour}
    {conn : ConnectionId}
    {channelId : Nat} :
    channelId ∈ behaviour.answeredOn conn ↔
      ∃ answer ∈ behaviour.answers, answer.conn = conn ∧
        answer.channelId = channelId := by
  rw [answeredOn, List.mem_filterMap]
  refine exists_congr fun answer => and_congr_right fun _ => ?_
  split_ifs with here
  · simp [here]
  · simp [here]

theorem answeredOn_mono
    {first second : MemoryBehaviour}
    {answered : List Answer}
    (answers : second.answers = first.answers ++ answered)
    (conn : ConnectionId) :
    first.answeredOn conn ⊆ second.answeredOn conn := by
  rw [answeredOn, answeredOn, answers, List.filterMap_append]
  exact List.subset_append_left _ _

/-- A behaviour that answers more covers as much. -/
theorem Covered.grown
    (covered : Covered before)
    {behaviour : MemoryBehaviour}
    {answered : List Answer}
    (answers : behaviour.answers = before.behaviour.answers ++ answered) :
    Covered { before with behaviour := behaviour } :=
  fun conn connection isOpen =>
    (covered conn connection isOpen).mono (Finset.Subset.refl _)
      (Connection.tokens_mono (List.Subset.refl _) (List.Subset.refl _)
        (answeredOn_mono answers conn))

/-- Taking an event from the queue does not matter to a connection unless it
answers a request on it. -/
theorem Covered.popped
    (covered : Covered before)
    {behaviour : MemoryBehaviour}
    {event : ToSwarm}
    (popped : Popped before.behaviour behaviour event)
    {conn : ConnectionId}
    (unanswered : ∀ answer, event.answer = some answer → answer.conn ≠ conn)
    {connection : Connection}
    (isOpen : before.connections.lookup conn = some connection) :
    connection.Covered (behaviour.answeredOn conn) := by
  have here := covered conn connection isOpen
  rw [answeredOn_popped popped] at here
  cases answered : event.answer with
  | none =>
      rw [answered] at here
      exact here
  | some answer =>
      rw [answered, Option.bind_some, if_neg (unanswered answer answered)] at here
      exact here

/-- A response that is taken to its connection is on its way there. -/
theorem Covered.taken
    (covered : Covered before)
    {behaviour : MemoryBehaviour}
    {peer : PeerId}
    {handler : NotifyHandler}
    {command : FromBehaviour}
    (popped : Popped before.behaviour behaviour
      (.notifyHandler peer handler command))
    {conn : ConnectionId}
    {connection : Connection}
    (isOpen : before.connections.lookup conn = some connection)
    (matching : handler = .one conn ∨ handler = .any ∧ connection.peer = peer) :
    Covered { before with
      behaviour := behaviour
      connections := before.connections.insert conn
        { connection with commands := connection.commands ++ [command] } } := by
  refine forall_insert ?_ fun other found different isThere =>
    covered.popped popped ?_ isThere
  · intro channelId held
    have inside := covered conn connection isOpen channelId held
    rw [answeredOn_popped popped, Connection.mem_tokens, List.mem_append]
      at inside
    rw [Connection.mem_tokens]
    rcases inside with reported | ⟨id, msg, commanded⟩ | taken | queued
    · exact .inl reported
    · exact .inr (.inl ⟨id, msg, List.mem_append_left _ commanded⟩)
    · refine .inr (.inl ?_)
      rw [Option.mem_toList, Option.bind_eq_some_iff] at taken
      obtain ⟨answer, isAnswer, isChannel⟩ := taken
      cases handler with
      | any => contradiction
      | one other =>
          cases command with
          | sendRequest => contradiction
          | sendResponse answered id msg =>
              injection isAnswer with same
              subst same
              split_ifs at isChannel
              injection isChannel with sameChannel
              rw [← sameChannel]
              exact ⟨id, msg, List.mem_append_right _
                (List.mem_singleton_self _)⟩
    · exact .inr (.inr queued)
  · intro answer isAnswer
    rcases matching with rfl | ⟨rfl, -⟩
    · cases command with
      | sendRequest => contradiction
      | sendResponse channelId id msg =>
          injection isAnswer with same
          rw [← same]
          exact different.symm
    · contradiction

/-- A report that is about no request, or about one that is answered, leaves the
senders covered. -/
theorem Covered.reported
    (covered : Covered before)
    {conn : ConnectionId}
    {connection : Connection}
    {exchange : Exchange}
    {event : ToBehaviour}
    {rest : List (Exchange × ToBehaviour)}
    (isOpen : before.connections.lookup conn = some connection)
    (reports : connection.reports = (exchange, event) :: rest)
    (releases : before.behaviour.Releases connection.peer event)
    (now : Nat) :
    Covered { before with
      behaviour := before.behaviour.onConnectionHandlerEvent connection.peer conn
        event now
      connections := before.connections.insert conn
        { connection with reports := rest } } := by
  obtain ⟨answered, moved⟩ := Moved.handled before.behaviour conn event
  have grown := answeredOn_mono moved.answers
  refine forall_insert ?_ fun other found _ isThere =>
    (covered other found isThere).mono (Finset.Subset.refl _)
      (Connection.tokens_mono (List.Subset.refl _) (List.Subset.refl _)
        (grown other))
  intro channelId held
  have inside := covered conn connection isOpen channelId held
  rw [Connection.mem_tokens] at inside ⊢
  rcases inside with ⟨asking, id, msg, reported⟩ | commanded | queued
  · rw [Connection.underway, reports, List.cons_append, List.mem_cons] at reported
    rcases reported with isHead | among
    · injection isHead with _ isEvent
      subst isEvent
      obtain ⟨sender, mapped, replies⟩ := releases
      obtain ⟨_, sent⟩ :=
        (before.behaviour.engine.handleRpc_sends sender msg now).mpr replies
      obtain ⟨first, handled⟩ := Moved.request_answered before.behaviour conn id
        channelId mapped sent
      refine .inr (.inr (mem_answeredOn.mpr
        ⟨⟨conn, channelId, id, first⟩, ?_, rfl, rfl⟩))
      rw [handled.answers]
      exact List.mem_append_right _ (List.mem_singleton_self _)
    · exact .inl ⟨asking, id, msg, among⟩
  · exact .inr (.inl commanded)
  · exact .inr (.inr (grown conn queued))

/-- Every step leaves the senders covered, if it reports a request only to a
behaviour that has a response to it. -/
theorem Covered.step
    (covered : Covered before)
    (step : Step reply before input after)
    (releases : before.Releases input) :
    Covered after := by
  cases step with
  | moved behaviour moved => exact covered.grown moved.answers
  | dropped middle behaviour event moved popped gone =>
      have settled := covered.grown moved.answers
      intro conn connection isOpen
      refine settled.popped popped ?_ isOpen
      rintro answer isAnswer rfl
      simp only [gone answer isAnswer] at isOpen
      contradiction
  | taken middle behaviour peer handler command conn connection moved popped
      isOpen matching =>
      exact (covered.grown moved.answers).taken popped isOpen matching
  | connected peer now =>
      exact forall_insert nofun fun other found _ => covered other found
  | disconnected conn connection now isOpen =>
      have closed := Moved.connectionClosed before.behaviour connection.peer conn
        now
      have rest : Covered { before with
          behaviour := before.behaviour.disconnect connection.peer conn
          connections := before.connections.erase conn } :=
        forall_erase fun other found _ => covered other found
      exact rest.grown closed.answers
  | turned conn connection changed wrote read refused isOpen turn =>
      exact forall_insert ((covered conn connection isOpen).turn turn)
        fun other found _ => covered other found
  | reported conn connection exchange event rest now isReport isOpen reports =>
      subst isReport
      refine covered.reported isOpen reports (releases (_, exchange, event) ?_)
        now
      simp [nextReport, isOpen, reports]

/-- If the senders are covered after a step, it reported a request only to a
behaviour that has a response to it. -/
theorem Covered.releases
    (inbound : Inbound state)
    (covered : Covered (state.step input)) :
    state.Releases input := by
  cases input with
  | report conn now =>
      rintro ⟨peer, exchange, event⟩ isNext
      obtain ⟨connection, rest, isOpen, rfl, reports⟩ := nextReport_eq_some isNext
      cases event with
      | request id msg channelId =>
          by_contra unanswered
          have silent : ∀ sender,
              state.behaviour.peerMap.nodeId connection.peer = some sender →
              ∀ reply, .send sender reply ∉
                (state.behaviour.engine.handleRpc sender msg now).2 := by
            intro sender mapped reply sent
            exact unanswered ⟨sender, mapped,
              (state.behaviour.engine.handleRpc_sends sender msg now).mp
                ⟨reply, sent⟩⟩
          have moved := Moved.request_unanswered state.behaviour conn id channelId
            silent
          have here := inbound.connections conn connection isOpen
          have isToken : connection.tokens (state.behaviour.answeredOn conn) =
              channelId :: { connection with reports := rest }.tokens
                (state.behaviour.answeredOn conn) := by
            simp [Connection.tokens, Connection.underway, reports,
              reportedChannel]
          have once := here.once
          rw [isToken] at once
          have held := here.held channelId
            (isToken ▸ List.mem_cons_self ..)
          apply (List.nodup_cons.mp once).1
          rw [step_report isOpen reports now] at covered
          have there := covered conn { connection with reports := rest }
            (AList.lookup_insert _) channelId held
          have same : (state.behaviour.onConnectionHandlerEvent connection.peer
              conn (.request id msg channelId) now).answeredOn conn =
                state.behaviour.answeredOn conn := by
            rw [answeredOn, answeredOn, moved.answers, List.append_nil]
          rw [← same]
          exact there
      | response => trivial
      | failure => trivial
  | _ => trivial

theorem lifetime_covered
    (config : RaftConfig)
    (storage : MemoryStorage)
    (now : Nat) :
    Covered (lifetime config storage now).init :=
  nofun

/-- No channel is stranded in any state of a run exactly if the behaviour has a
response to every request that is reported to it. -/
theorem none_stranded_iff
    (config : RaftConfig)
    (storage : MemoryStorage)
    (start : Nat)
    (inputs : List Input) :
    (∀ past, past <+: inputs → ∀ conn channelId,
      ¬ ((lifetime config storage start).run past).Stranded conn channelId) ↔
      (lifetime config storage start).Along Releases inputs := by
  constructor
  · intro free past input isPast
    have covered := (run_inbound config storage start
      (past ++ [input])).covered_iff.mpr (free _ isPast)
    rw [System.run_concat] at covered
    exact covered.releases (run_inbound config storage start past)
  · intro releases past isPast
    apply (run_inbound config storage start past).covered_iff.mp
    exact (lifetime config storage start).invariant_along
      (lifetime_covered config storage start)
      (fun state input covered releases =>
        covered.step (step_cases state input (hears_any state input)) releases)
      (releases.of_isPrefix isPast)

/-- A peer sends node 1 a message on a substream of its own. -/
def messageRead (peer : PeerId) (msg : RaftMessage) : List Input :=
  [.connect peer 0, .pollBehaviour 0 0 false, .accept 0,
    .pollHandler 0 (some (0, .read (.ok ⟨1, msg⟩))), .pollHandler 0 none]

/-- A snapshot of node 2 and a vote request of a peer of no node are stranded. -/
theorem stranded_messageRead :
    (¬ ∀ past,
      past <+: messageRead 12 (.installSnapshot 1 2 0 0 0 [] true) ++
        [.report 0 10] → ∀ conn channelId,
      ¬ ((lifetime twoNodes MemoryStorage.new 0).run past).Stranded conn
        channelId) ∧
    ¬ ∀ past,
      past <+: messageRead 99 (.requestVote 1 2 0 0) ++ [.report 0 10] →
        ∀ conn channelId,
      ¬ ((lifetime twoNodes MemoryStorage.new 0).run past).Stranded conn
        channelId := by
  have released : ∀ past input,
      (∀ conn channelId, ¬ ((lifetime twoNodes MemoryStorage.new 0).run
        (past ++ [input])).Stranded conn channelId) →
      ((lifetime twoNodes MemoryStorage.new 0).run past).Releases input := by
    intro past input free
    have covered := (run_inbound twoNodes MemoryStorage.new 0
      (past ++ [input])).covered_iff.mpr free
    rw [System.run_concat] at covered
    exact covered.releases (run_inbound twoNodes MemoryStorage.new 0 past)
  constructor
  · intro free
    exact absurd (released _ _ (free _ (List.prefix_refl _)))
      (by decide +kernel)
  · intro free
    exact absurd (released _ _ (free _ (List.prefix_refl _)))
      (by decide +kernel)

end Swarm

end Libp2pRaft
