import Libp2pRaft.Swarm.Links
import Libp2pRaft.Swarm.Outbound

/-!
# What ends a request of a process

A pending request is to end by its own response or failure, by its timeout, or
when no connection to its peer is left.  Two things end others: the failure of
an inbound exchange carries the id of the peer, which is looked up among the own
requests, and a failed dial fails every request to the peer, connected or not.
-/

namespace Libp2pRaft

/-- A peer running the same code replies under the id of the request. -/
def RepliesInKind (info : OutboundInfo) (env : WireEnvelope) : Prop :=
  env.correlationId = info.correlationId

instance (info : OutboundInfo) (env : WireEnvelope) :
    Decidable (RepliesInKind info env) :=
  inferInstanceAs (Decidable (_ = _))

/-- The id that the failure of an inbound exchange carries. -/
def foreignId : Exchange × ToBehaviour → Option Nat
  | (.inbound _, .failure id _) => id
  | _ => none

theorem foreignId_some
    {report : Exchange × ToBehaviour}
    {id : Nat}
    (isForeign : foreignId report = some id) :
    ∃ channelId error,
      report = (.inbound channelId, .failure (some id) error) := by
  obtain ⟨exchange, event⟩ := report
  cases exchange with
  | outbound => contradiction
  | inbound channelId =>
      cases event with
      | request => contradiction
      | response => contradiction
      | failure failed error =>
          have sameId : failed = some id := isForeign
          exact ⟨channelId, error, by rw [sameId]⟩

namespace Swarm

open RaftBehaviour TransitionSystem

variable (self : Swarm)

/-- An input reports the response to a request, or its failure. -/
def ReportsOwn
    (id : Nat)
    (request : PendingRequest)
    (input : Input) : Prop :=
  ∃ conn now connection stream event rest,
    input = .report conn now ∧
    self.connections.lookup conn = some connection ∧
    connection.peer = request.peer ∧
    connection.reports = (.outbound ⟨id, request.msg⟩ stream, event) :: rest ∧
    ((∃ msg, event = .response id msg) ∨
      ∃ error, event = .failure (some id) error)

/-- A poll finds that a request has waited for the timeout. -/
def TimesOut (request : PendingRequest) (input : Input) : Prop :=
  ∃ choice now elapsed, input = .pollBehaviour choice now elapsed ∧
    self.behaviour.config.rpcTimeout ≤ now - request.sentAt

/-- No connection to a peer is left. -/
def CutOff (peer : PeerId) : Prop :=
  ∀ entry ∈ self.connections.entries, entry.2.peer ≠ peer

/-- An input ends a pending request only by the fate of the request. -/
def EndsByFate (input : Input) : Prop :=
  ∀ id request, self.behaviour.Pends id request →
    ¬ (self.step input).behaviour.Pends id request →
      self.ReportsOwn id request input ∨ self.TimesOut request input ∨
        (self.step input).CutOff request.peer

/-- A failed inbound exchange carries no id that is pending, and no dial to a
connected peer fails while a request to it is pending. -/
def Undisturbed : Input → Prop
  | .report conn _ =>
      ∀ connection ∈ self.connections.lookup conn,
        ∀ report ∈ connection.reports.head?, ∀ id ∈ foreignId report,
          self.behaviour.pending.lookup id = none
  | .dialFailure (some peer) _ _ =>
      self.CutOff peer ∨
        ∀ entry ∈ self.behaviour.pending.entries, entry.2.peer ≠ peer
  | _ => True

instance (peer : PeerId) : Decidable (self.CutOff peer) :=
  inferInstanceAs (Decidable (∀ entry ∈ self.connections.entries, _))

instance (input : Input) : Decidable (self.Undisturbed input) := by
  unfold Undisturbed
  split
  · infer_instance
  · infer_instance
  · infer_instance

variable {self} {reply : OutboundInfo → WireEnvelope → Prop}

theorem peerAt_eq_some
    {conn : ConnectionId}
    {peer : PeerId} :
    self.peerAt conn = some peer ↔ ∃ connection,
      self.connections.lookup conn = some connection ∧
        connection.peer = peer := by
  unfold peerAt
  rw [Option.map_eq_some_iff]

theorem cutOff_iff
    {peer : PeerId} :
    self.CutOff peer ↔ ∀ conn, self.peerAt conn ≠ some peer := by
  constructor
  · intro cut conn isThere
    obtain ⟨connection, isOpen, isPeer⟩ := peerAt_eq_some.mp isThere
    exact cut ⟨conn, connection⟩ (AList.mem_lookup_iff.mp isOpen) isPeer
  · intro absent entry inside isPeer
    exact absent entry.1 (peerAt_eq_some.mpr
      ⟨entry.2, AList.mem_lookup_iff.mpr inside, isPeer⟩)

/-- The peer of a pending request is not cut off. -/
theorem Linked.not_cutOff
    (linked : Linked self)
    {id : Nat}
    {request : PendingRequest}
    (pends : self.behaviour.Pends id request) :
    ¬ self.CutOff request.peer := by
  intro cut
  obtain ⟨conn, inside⟩ :=
    isConnected_iff.mp (linked.reached id request pends)
  exact cutOff_iff.mp cut conn ((linked.links request.peer conn).mp inside)

/-- A peer that does not count as connected is cut off. -/
theorem Linked.cutOff
    (linked : Linked self)
    {peer : PeerId}
    (gone : self.behaviour.isConnected peer = false) :
    self.CutOff peer := by
  rw [cutOff_iff]
  intro conn isThere
  have inside := (linked.links peer conn).mpr isThere
  rw [isConnected_iff.mpr ⟨conn, inside⟩] at gone
  contradiction

/-- The failure of an inbound exchange is not the fate of a request. -/
theorem Linked.not_byFate
    (linked : Linked self)
    {conn : ConnectionId}
    {now : Nat}
    {connection : Connection}
    (isOpen : self.connections.lookup conn = some connection)
    {channelId id : Nat}
    {error : String}
    {rest : List (Exchange × ToBehaviour)}
    (reports : connection.reports =
      (.inbound channelId, .failure (some id) error) :: rest)
    {request : PendingRequest}
    (pends : self.behaviour.Pends id request) :
    ¬ self.EndsByFate (.report conn now) := by
  intro byFate
  have ended : ¬ (self.step (.report conn now)).behaviour.Pends id request := by
    simp only [Swarm.step, isOpen, reports]
    exact fun stays => (pends_failure.mp stays).1 rfl
  rcases byFate id request pends ended with own | timedOut | cut
  · obtain ⟨_, _, other, _, _, _, same, isThere, -, isReport, -⟩ := own
    injection same with same
    subst same
    rw [isOpen] at isThere
    injection isThere with same
    rw [← same, reports] at isReport
    injection isReport with isReport
    injection isReport with isInbound
    contradiction
  · obtain ⟨_, _, _, same, -⟩ := timedOut
    contradiction
  · apply absurd _ (linked.not_cutOff pends)
    rw [cutOff_iff] at cut ⊢
    intro other isThere
    apply cut other
    simp only [Swarm.step, isOpen, reports]
    refine (peerAt_insert isOpen ?_ other).trans isThere
    rfl

/-- If requests end only by their fates, nothing disturbs them. -/
theorem EndsByFate.undisturbed
    (linked : Linked self)
    {input : Input}
    (byFate : self.EndsByFate input) :
    self.Undisturbed input := by
  cases input with
  | report conn now =>
      intro connection isOpen report isReport id isForeign
      obtain ⟨rest, reports⟩ := List.head?_eq_some_iff.mp isReport
      obtain ⟨channelId, error, rfl⟩ := foreignId_some isForeign
      cases pends : self.behaviour.pending.lookup id with
      | none => rfl
      | some request =>
          exact absurd byFate (linked.not_byFate isOpen reports pends)
  | dialFailure peer error now =>
      cases peer with
      | none => trivial
      | some peer =>
          by_cases cut : self.CutOff peer
          · exact .inl cut
          refine .inr fun entry inside isPeer => cut ?_
          have pends : self.behaviour.Pends entry.1 entry.2 :=
            AList.mem_lookup_iff.mpr inside
          have ended : ¬ (self.step (.dialFailure (some peer) error now)
              |>.behaviour.Pends entry.1 entry.2) :=
            fun stays => (pends_dialFailure.mp stays).1 isPeer
          rcases byFate _ _ pends ended with own | timedOut | cutOff
          · obtain ⟨_, _, _, _, _, _, same, -⟩ := own
            contradiction
          · obtain ⟨_, _, _, same, -⟩ := timedOut
            contradiction
          · exact isPeer ▸ cutOff
  | _ => trivial

/-- A request that ends with a report is the one the report is about. -/
theorem Accounted.reportsOwn
    (accounted : Accounted RepliesInKind self)
    {conn : ConnectionId}
    {now : Nat}
    {connection : Connection}
    (isOpen : self.connections.lookup conn = some connection)
    {info : OutboundInfo}
    {stream : Option Stream}
    {event : ToBehaviour}
    {rest : List (Exchange × ToBehaviour)}
    (reports : connection.reports = (.outbound info stream, event) :: rest)
    {id : Nat}
    {request : PendingRequest}
    (pends : self.behaviour.Pends id request)
    (isOwn : (∃ msg, event = .response id msg) ∨
      ∃ error, event = .failure (some id) error) :
    self.ReportsOwn id request (.report conn now) := by
  have here := accounted.connections conn connection isOpen
  have isUnderway : (Exchange.outbound info stream, event) ∈
      connection.underway := by
    simp [Connection.underway, reports]
  have sameId : info.correlationId = id := by
    have truthful := here.truthful _ isUnderway
    rcases isOwn with ⟨msg, rfl⟩ | ⟨error, rfl⟩
    · obtain ⟨-, -, -, -, -, replied⟩ := truthful.response
      exact replied.symm
    · exact truthful.failure
  subst sameId
  obtain ⟨sameMsg, samePeer⟩ := (here.ended _ isUnderway info rfl).2 _ pends
  refine ⟨conn, now, connection, stream, event, rest, rfl, isOpen, samePeer.symm,
    ?_, isOwn⟩
  rw [reports, sameMsg]

/-- A report ends no request but its own, unless it disturbs one. -/
theorem Accounted.endsOwn
    (accounted : Accounted RepliesInKind self)
    {conn : ConnectionId}
    {now : Nat}
    {connection : Connection}
    (isOpen : self.connections.lookup conn = some connection)
    {exchange : Exchange}
    {event : ToBehaviour}
    {rest : List (Exchange × ToBehaviour)}
    (reports : connection.reports = (exchange, event) :: rest)
    (undisturbed : self.Undisturbed (.report conn now))
    {id : Nat}
    {request : PendingRequest}
    (pends : self.behaviour.Pends id request)
    (ended : ¬ (self.behaviour.onConnectionHandlerEvent connection.peer conn
      event now).Pends id request) :
    self.ReportsOwn id request (.report conn now) := by
  have fresh := accounted.orderly.fresh
  have truthful := (accounted.connections conn connection isOpen).truthful
    (exchange, event) (by simp [Connection.underway, reports])
  cases event with
  | request correlationId msg channelId =>
      exact absurd (pends_request fresh pends now _ _ _ _ _) ended
  | response other msg =>
      by_cases same : id = other
      · subst same
        cases exchange with
        | outbound info stream =>
            exact accounted.reportsOwn isOpen reports pends (.inl ⟨msg, rfl⟩)
        | inbound channelId => cases truthful
      · exact absurd (pends_response fresh pends now _ _ same _) ended
  | failure other error =>
      by_cases same : other = some id
      · subst same
        cases exchange with
        | outbound info stream =>
            exact accounted.reportsOwn isOpen reports pends (.inr ⟨error, rfl⟩)
        | inbound channelId =>
            have free := undisturbed connection isOpen (_, _)
              (List.head?_eq_some_iff.mpr ⟨rest, reports⟩) id rfl
            rw [Pends, free] at pends
            contradiction
      · exact absurd (pends_failure.mpr ⟨same, pends⟩) ended

/-- If nothing disturbs requests, they end only by their fates. -/
theorem Undisturbed.endsByFate
    (accounted : Accounted RepliesInKind self)
    {input : Input}
    (linkedAfter : Linked (self.step input))
    (undisturbed : self.Undisturbed input) :
    self.EndsByFate input := by
  intro id request pends ended
  have fresh := accounted.orderly.fresh
  cases input with
  | propose data now => exact absurd (pends_propose fresh pends now data) ended
  | pollBehaviour choice now elapsed =>
      refine .inr (.inl ⟨choice, now, elapsed, rfl, ?_⟩)
      by_contra early
      apply ended
      rw [behaviour_pollBehaviour]
      exact pends_pollRound fresh pends now early elapsed
  | dialFailure peer error now =>
      cases peer with
      | none => exact absurd pends ended
      | some peer =>
          by_cases isPeer : request.peer = peer
          · rcases undisturbed with cut | free
            · exact .inr (.inr (isPeer ▸ cut))
            · exact absurd isPeer
                (free ⟨id, request⟩ (AList.mem_lookup_iff.mp pends))
          · exact absurd (pends_dialFailure.mpr ⟨isPeer, pends⟩) ended
  | connect peer now => exact absurd pends ended
  | disconnect conn now =>
      cases isOpen : self.connections.lookup conn with
      | none =>
          simp only [step, isOpen] at ended
          exact absurd pends ended
      | some connection =>
          refine .inr (.inr ?_)
          have closed := Moved.connectionClosed self.behaviour connection.peer conn
            now
          have lost : ((self.behaviour.disconnect connection.peer
              conn).isConnected connection.peer = false) ∧
                request.peer = connection.peer := by
            by_contra kept
            simp only [step, isOpen] at ended
            apply ended
            exact pends_connectionClosed.mpr
              ⟨fun gone isPeer => kept ⟨gone, isPeer⟩, pends⟩
          apply linkedAfter.cutOff
          simp only [step, isOpen]
          rw [isConnected, closed.connected, ← isConnected, lost.2]
          exact lost.1
  | deliver conn =>
      exact absurd pends (behaviour_modify self conn _ ▸ ended)
  | accept conn =>
      exact absurd pends (behaviour_modify self conn _ ▸ ended)
  | opened conn position =>
      exact absurd pends (behaviour_modify self conn _ ▸ ended)
  | openFailed conn position error =>
      exact absurd pends (behaviour_modify self conn _ ▸ ended)
  | pollHandler conn ready =>
      exact absurd pends (behaviour_pollHandler self conn ready ▸ ended)
  | report conn now =>
      cases isOpen : self.connections.lookup conn with
      | none =>
          simp only [step, isOpen] at ended
          exact absurd pends ended
      | some connection =>
          cases reports : connection.reports with
          | nil =>
              simp only [step, isOpen, reports] at ended
              exact absurd pends ended
          | cons report rest =>
              obtain ⟨exchange, event⟩ := report
              simp only [step, isOpen, reports] at ended
              exact .inl (accounted.endsOwn isOpen reports undisturbed pends
                ended)

/-- In every run with peers that reply under the id of the request, pending
requests end only by their fates exactly if no failed inbound exchange carries
an id that is pending, and no dial to a connected peer fails while a request to
it is pending. -/
theorem requests_end_by_fate
    (config : RaftConfig)
    (storage : MemoryStorage)
    (start : Nat)
    (inputs : List Input)
    (hears : (lifetime config storage start).Along (Hears RepliesInKind)
      inputs) :
    (lifetime config storage start).Along EndsByFate inputs ↔
      (lifetime config storage start).Along Undisturbed inputs := by
  constructor
  · intro byFate past input isPast
    have linked := run_linked config storage start past
    exact (byFate past input isPast).undisturbed linked
  · intro undisturbed past input isPast
    have accounted := run_accounted config storage start
      (hears.of_isPrefix ((List.prefix_append _ _).trans isPast))
    have linkedAfter := run_linked config storage start (past ++ [input])
    rw [System.run_concat] at linkedAfter
    exact (undisturbed past input isPast).endsByFate accounted linkedAfter

/-- Node 1 of two, which knows the peer of the other. -/
def twoNodes : RaftConfig :=
  { RaftConfig.cfg 1 [1, 2] with seedPeers := [⟨2, 12, []⟩] }

/-- Node 1 asks node 2 for its vote and gets it. -/
def votedFor : List Input :=
  [.connect 12 0, .pollBehaviour 0 0 false, .pollBehaviour 0 150 false,
    .pollBehaviour 0 150 false, .deliver 0, .pollHandler 0 none, .opened 0 0,
    .pollHandler 0 (some (0, .written (.ok ()))),
    .pollHandler 0 (some (0, .read (.ok ⟨1, .requestVoteResp 1 true⟩))),
    .pollHandler 0 none, .report 0 151]

theorem requests_end_by_fate_votedFor :
    (lifetime twoNodes MemoryStorage.new 0).Along EndsByFate votedFor :=
  (requests_end_by_fate twoNodes MemoryStorage.new 0 votedFor
    (by decide +kernel)).mpr (by decide +kernel)

/-- Node 1 votes for node 2, asks for its vote in turn, and fails to write the
response.  Both requests have number 1. -/
def crossedIds : List Input :=
  [.connect 12 0, .pollBehaviour 0 0 false, .accept 0,
    .pollHandler 0 (some (0, .read (.ok ⟨1, .requestVote 1 2 0 0⟩))),
    .pollHandler 0 none, .report 0 10, .pollBehaviour 0 10 false,
    .pollBehaviour 0 10 false, .deliver 0, .pollBehaviour 0 250 false,
    .pollBehaviour 0 250 false,
    .pollHandler 0 (some (0, .written (.error "broken pipe"))),
    .pollHandler 0 none]

/-- Another dial to the connected node 2 fails while node 1 waits for its
vote. -/
def redialled : List Input :=
  [.connect 12 0, .pollBehaviour 0 0 false, .pollBehaviour 0 150 false]

theorem requests_end_by_fate_crossedIds :
    ((lifetime twoNodes MemoryStorage.new 0).Along (Hears RepliesInKind)
        (crossedIds ++ [.report 0 251]) ∧
      ¬ (lifetime twoNodes MemoryStorage.new 0).Along EndsByFate
        (crossedIds ++ [.report 0 251])) ∧
    (lifetime twoNodes MemoryStorage.new 0).Along (Hears RepliesInKind)
        (redialled ++ [.dialFailure (some 12) "Timeout" 151]) ∧
      ¬ (lifetime twoNodes MemoryStorage.new 0).Along EndsByFate
        (redialled ++ [.dialFailure (some 12) "Timeout" 151]) := by
  have disturbed : ∀ past input,
      (lifetime twoNodes MemoryStorage.new 0).Along EndsByFate
        (past ++ [input]) →
      ((lifetime twoNodes MemoryStorage.new 0).run past).Undisturbed input :=
    fun past input byFate =>
      (byFate past input (List.prefix_refl _)).undisturbed
        (run_linked twoNodes MemoryStorage.new 0 past)
  refine ⟨⟨by decide +kernel, fun byFate => ?_⟩, by decide +kernel,
    fun byFate => ?_⟩
  · exact absurd (disturbed _ _ byFate) (by decide +kernel)
  · exact absurd (disturbed _ _ byFate) (by decide +kernel)

end Swarm

end Libp2pRaft
