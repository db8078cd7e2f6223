import Libp2pRaft.Behaviour.Reaction

/-!
# Pending requests

Every request on its way has a pending entry under an id of its own.  The
entries of a behaviour hold requests to mapped peers, under ids that were handed
out.
-/

namespace Libp2pRaft

/-- A behaviour around an engine over the in-memory storage. -/
abbrev MemoryBehaviour := RaftBehaviour MemoryStorage

namespace RaftBehaviour

section

variable {S : Type} (self : RaftBehaviour S)

/-- A request is pending under an id. -/
def Pends (id : Nat) (request : PendingRequest) : Prop :=
  self.pending.lookup id = some request

instance (id : Nat) (request : PendingRequest) :
    Decidable (self.Pends id request) :=
  inferInstanceAs (Decidable (_ = _))

/-- Every pending id was handed out. -/
def Fresh : Prop :=
  ∀ id request, self.Pends id request → id < self.nextCorrelationId

/-- A request that a dispatch of messages made pending. -/
structure Posted
    (before after : RaftBehaviour S)
    (messages : List (NodeId × RaftMessage))
    (id : Nat)
    (request : PendingRequest) : Prop where
  newer : before.nextCorrelationId ≤ id
  handedOut : id < after.nextCorrelationId
  asked : (request.target, request.msg) ∈ messages
  kind : request.kind = rpcKind request.msg
  mapped : before.peerMap.peerId request.target = some request.peer

/-- What a dispatch of messages does in total. -/
structure Dispatched
    (before after : RaftBehaviour S)
    (messages : List (NodeId × RaftMessage)) : Prop where
  failures : RaftEngine.Failures before.engine after.engine
  peerMap : after.peerMap = before.peerMap
  grown : before.nextCorrelationId ≤ after.nextCorrelationId
  fresh : after.Fresh
  pending : ∀ id request, after.Pends id request →
    before.Pends id request ∨ Posted before after messages id request
  requests : ∀ source, ∀ packet ∈ after.requests source,
    packet ∈ before.requests source ∨
      (packet.source = source ∧ ∃ request,
        Posted before after messages packet.correlationId request ∧
        after.Pends packet.correlationId request ∧
        request.peer = packet.peer ∧ request.msg = packet.msg)
  responses : ∀ source, after.responses source = before.responses source

theorem pends_post
    {target : NodeId}
    {peer : PeerId}
    {msg : RaftMessage}
    {now id : Nat}
    {request : PendingRequest} :
    (self.post target peer msg now).Pends id request ↔
      (id = self.nextCorrelationId ∧
          request = self.request target peer msg now) ∨
        (id ≠ self.nextCorrelationId ∧ self.Pends id request) := by
  unfold Pends post pushEvent
  by_cases same : id = self.nextCorrelationId
  · rw [same, AList.lookup_insert]
    simp [eq_comm]
  · rw [AList.lookup_insert_ne same]
    simp [same]

theorem requests_post
    (target : NodeId)
    (peer : PeerId)
    (msg : RaftMessage)
    (now : Nat)
    (source : NodeId) :
    (self.post target peer msg now).requests source =
      self.requests source ++
        [⟨source, peer, self.nextCorrelationId, msg⟩] := by
  simp [requests, post, pushEvent, ToSwarm.request]

theorem responses_post
    (target : NodeId)
    (peer : PeerId)
    (msg : RaftMessage)
    (now : Nat)
    (source : NodeId) :
    (self.post target peer msg now).responses source =
      self.responses source := by
  simp [responses, post, pushEvent, ToSwarm.response]

variable {self} {before middle after : RaftBehaviour S}
  {messages : List (NodeId × RaftMessage)}

theorem Posted.onward
    {id : Nat}
    {request : PendingRequest}
    (posted : Posted before middle messages id request)
    (grown : middle.nextCorrelationId ≤ after.nextCorrelationId) :
    Posted before after messages id request :=
  ⟨posted.newer, posted.handedOut.trans_le grown, posted.asked, posted.kind,
    posted.mapped⟩

theorem Dispatched.refl
    (fresh : before.Fresh)
    (messages : List (NodeId × RaftMessage)) :
    Dispatched before before messages where
  failures := .refl
  peerMap := rfl
  grown := le_rfl
  fresh := fresh
  pending _ _ pends := .inl pends
  requests _ _ inside := .inl inside
  responses _ := rfl

theorem Dispatched.quiet
    (dispatched : Dispatched before middle messages)
    (quiet : Quiet middle after) :
    Dispatched before after messages where
  failures := by
    rw [quiet.engine]
    exact dispatched.failures
  peerMap := quiet.peerMap.trans dispatched.peerMap
  grown := by
    rw [quiet.nextCorrelationId]
    exact dispatched.grown
  fresh := by
    intro id request pends
    rw [Pends, quiet.pending] at pends
    rw [quiet.nextCorrelationId]
    exact dispatched.fresh id request pends
  pending := by
    intro id request pends
    rw [Pends, quiet.pending] at pends
    exact (dispatched.pending id request pends).imp_right fun posted =>
      posted.onward quiet.nextCorrelationId.ge
  requests := by
    intro source packet inside
    rw [quiet.requests source] at inside
    refine (dispatched.requests source packet inside).imp_right ?_
    rintro ⟨own, request, posted, pends, rest⟩
    refine ⟨own, request, posted.onward quiet.nextCorrelationId.ge, ?_, rest⟩
    rw [Pends, quiet.pending]
    exact pends
  responses source := (quiet.responses source).trans (dispatched.responses source)

/-- A message that goes out gets a pending entry of its own. -/
theorem Dispatched.post
    (dispatched : Dispatched before middle messages)
    {target : NodeId}
    {peer : PeerId}
    {msg : RaftMessage}
    (asked : (target, msg) ∈ messages)
    (mapped : middle.peerMap.peerId target = some peer)
    (now : Nat) :
    Dispatched before (middle.post target peer msg now) messages := by
  have larger : middle.nextCorrelationId ≤
      (middle.post target peer msg now).nextCorrelationId := Nat.le_succ _
  have posted : Posted before (middle.post target peer msg now) messages
      middle.nextCorrelationId (middle.request target peer msg now) := by
    refine ⟨dispatched.grown, Nat.lt_succ_self _, asked, rfl, ?_⟩
    rw [← dispatched.peerMap]
    exact mapped
  refine ⟨dispatched.failures, dispatched.peerMap, dispatched.grown.trans larger,
    ?_, ?_, ?_, ?_⟩
  · intro id request pends
    rcases (middle.pends_post).mp pends with ⟨rfl, -⟩ | ⟨-, old⟩
    · exact Nat.lt_succ_self _
    · exact (dispatched.fresh id request old).trans_le larger
  · intro id request pends
    rcases (middle.pends_post).mp pends with ⟨rfl, rfl⟩ | ⟨-, old⟩
    · exact .inr posted
    · exact (dispatched.pending id request old).imp_right fun posted =>
        posted.onward larger
  · intro source packet inside
    rw [requests_post, List.mem_append, List.mem_singleton] at inside
    rcases inside with old | rfl
    · refine (dispatched.requests source packet old).imp_right ?_
      rintro ⟨own, request, posted, pends, rest⟩
      refine ⟨own, request, posted.onward larger, ?_, rest⟩
      refine (middle.pends_post).mpr (.inr ⟨Nat.ne_of_lt ?_, pends⟩)
      exact dispatched.fresh _ request pends
    · exact .inr ⟨rfl, _, posted, (middle.pends_post).mpr (.inl ⟨rfl, rfl⟩), rfl,
        rfl⟩
  · intro source
    rw [responses_post]
    exact dispatched.responses source

theorem Dispatched.noteFailure
    (dispatched : Dispatched before middle messages)
    (target : NodeId)
    (kind : RpcKind) :
    Dispatched before (middle.noteFailure target kind) messages where
  failures := dispatched.failures.concat target kind
  peerMap := dispatched.peerMap
  grown := dispatched.grown
  fresh := dispatched.fresh
  pending id request pends :=
    (dispatched.pending id request pends).imp_right fun posted =>
      posted.onward le_rfl
  requests := by
    intro source packet inside
    refine (dispatched.requests source packet inside).imp_right ?_
    rintro ⟨own, request, posted, rest⟩
    exact ⟨own, request, posted.onward le_rfl, rest⟩
  responses := dispatched.responses

/-- Every dispatch of actions is a dispatch of their messages. -/
theorem executeActions_dispatched
    (self : RaftBehaviour S)
    (fresh : self.Fresh)
    (actions : List Action)
    (now : Nat) :
    Dispatched self (self.executeActions actions none now)
      (outgoing self.engine.otherVoters actions) := by
  suffices dispatched : Dispatched self (self.executeActions actions none now)
        (outgoing self.engine.otherVoters actions) ∧
      [] ⊆ outgoing self.engine.otherVoters actions from dispatched.1
  refine self.executeActions_rule
    (motive := fun rest middle =>
      Dispatched self middle (outgoing self.engine.otherVoters actions) ∧
        rest ⊆ outgoing self.engine.otherVoters actions) ?_ ?_ ?_ ?_
  · rintro rest middle after quiet ⟨dispatched, subset⟩
    exact ⟨dispatched.quiet quiet, subset⟩
  · rintro rest middle target peer msg mapped ⟨dispatched, subset⟩
    obtain ⟨asked, rest⟩ := List.cons_subset.mp subset
    exact ⟨dispatched.post asked mapped now, rest⟩
  · rintro rest middle target msg ⟨dispatched, subset⟩
    exact ⟨dispatched.noteFailure target _, (List.cons_subset.mp subset).2⟩
  · exact ⟨.refl fresh _, List.Subset.refl _⟩

/-! ## Dropped requests -/

theorem pends_erase
    {id : Nat}
    {engine : RaftEngine S}
    {other : Nat}
    {request : PendingRequest} :
    { self with
        pending := self.pending.erase id
        engine := engine }.Pends other request ↔
      other ≠ id ∧ self.Pends other request := by
  unfold Pends
  by_cases same : other = id
  · rw [same, AList.lookup_erase]
    simp
  · rw [AList.lookup_erase_ne same]
    simp [same]

/-- What dropping pending requests does in total. -/
structure Dropped
    (before after : RaftBehaviour S)
    (ids : List Nat) : Prop where
  failures : RaftEngine.Failures before.engine after.engine
  peerMap : after.peerMap = before.peerMap
  nextCorrelationId : after.nextCorrelationId = before.nextCorrelationId
  pending : ∀ id request, after.Pends id request ↔
    id ∉ ids ∧ before.Pends id request
  pendingEvents : after.pendingEvents = before.pendingEvents
  freed : ∀ target ∈ before.engine.aeInflight, target ∉ after.engine.aeInflight →
    ∃ id ∈ ids, ∃ request, before.Pends id request ∧ request.target = target ∧
      request.kind = .appendEntries

theorem drop_dropped
    (self : RaftBehaviour S)
    (id : Nat) :
    Dropped self (self.drop id) [id] := by
  unfold drop
  cases pends : self.pending.lookup id with
  | none =>
      refine ⟨.refl, rfl, rfl, ?_, rfl, fun _ inside outside =>
        absurd inside outside⟩
      intro other request
      refine ⟨fun found => ⟨?_, found⟩, fun found => found.2⟩
      intro same
      rw [Pends, List.mem_singleton.mp same, pends] at found
      contradiction
  | some request =>
      refine ⟨RaftEngine.Failures.refl.concat _ _, rfl, rfl, ?_, rfl, ?_⟩
      · intro other found
        rw [pends_erase, List.mem_singleton]
      · intro target inside outside
        obtain ⟨same, append⟩ :=
          RaftEngine.freed_handleRpcFailure inside outside
        exact ⟨id, List.mem_singleton_self id, request, pends, same, append⟩

theorem Dropped.trans
    {ids later : List Nat}
    (first : Dropped before middle ids)
    (second : Dropped middle after later) :
    Dropped before after (ids ++ later) where
  failures := by
    obtain ⟨failed, firstEq⟩ := first.failures
    obtain ⟨more, secondEq⟩ := second.failures
    exact ⟨failed ++ more, by rw [List.foldl_append, ← firstEq, secondEq]⟩
  peerMap := second.peerMap.trans first.peerMap
  nextCorrelationId := second.nextCorrelationId.trans first.nextCorrelationId
  pending id request := by
    rw [second.pending, first.pending, List.mem_append]
    tauto
  pendingEvents := second.pendingEvents.trans first.pendingEvents
  freed := by
    intro target inside outside
    by_cases between : target ∈ middle.engine.aeInflight
    · obtain ⟨id, among, request, pends, rest⟩ :=
        second.freed target between outside
      exact ⟨id, List.mem_append_right _ among, request,
        ((first.pending id request).mp pends).2, rest⟩
    · obtain ⟨id, among, rest⟩ := first.freed target inside between
      exact ⟨id, List.mem_append_left _ among, rest⟩

theorem dropAll_dropped
    (self : RaftBehaviour S)
    (ids : List Nat) :
    Dropped self (ids.foldl drop self) ids := by
  induction ids generalizing self with
  | nil =>
      exact ⟨.refl, rfl, rfl, fun _ _ => by simp, rfl,
        fun _ inside outside => absurd inside outside⟩
  | cons id ids inductionHypothesis =>
      exact (self.drop_dropped id).trans (inductionHypothesis _)

theorem mem_peerRequests
    {peer : PeerId}
    {id : Nat}
    {request : PendingRequest}
    (pends : self.Pends id request) :
    id ∈ self.peerRequests peer ↔ request.peer = peer := by
  have entry : ⟨id, request⟩ ∈ self.pending.entries :=
    AList.mem_lookup_iff.mp pends
  unfold peerRequests
  rw [List.mem_map]
  constructor
  · rintro ⟨⟨other, found⟩, inside, same⟩
    obtain ⟨inside, isPeer⟩ := List.mem_filter.mp inside
    have same : other = id := same
    subst same
    have foundEq := AList.mem_lookup_iff.mpr inside
    rw [Option.mem_def, pends] at foundEq
    injection foundEq with sameRequest
    rw [sameRequest]
    exact of_decide_eq_true isPeer
  · rintro isPeer
    exact ⟨_, List.mem_filter.mpr ⟨entry, decide_eq_true isPeer⟩, rfl⟩

end

/-! ## What is pending -/

/-- The pending requests of a behaviour are requests to mapped peers, under ids
that were handed out. -/
structure Tracked (behaviour : MemoryBehaviour) : Prop where
  fresh : behaviour.Fresh
  isRequest : ∀ id request, behaviour.Pends id request → request.msg.IsRequest
  kind : ∀ id request, behaviour.Pends id request →
    request.kind = rpcKind request.msg
  mapped : ∀ id request, behaviour.Pends id request →
    behaviour.peerMap.peerId request.target = some request.peer

namespace Tracked

variable {before middle after : MemoryBehaviour} {ids : List Nat}
  {call : Call}

theorem quiet
    (tracked : Tracked before)
    (quiet : Quiet before after) :
    Tracked after := by
  have same : ∀ id request, after.Pends id request ↔ before.Pends id request := by
    intro id request
    rw [Pends, Pends, quiet.pending]
  refine ⟨?_, ?_, ?_, ?_⟩
  · intro id request pends
    rw [quiet.nextCorrelationId]
    exact tracked.fresh id request ((same _ _).mp pends)
  · exact fun id request pends => tracked.isRequest id request ((same _ _).mp pends)
  · exact fun id request pends => tracked.kind id request ((same _ _).mp pends)
  · intro id request pends
    rw [quiet.peerMap]
    exact tracked.mapped id request ((same _ _).mp pends)

theorem dropped
    (tracked : Tracked before)
    (dropped : Dropped before after ids) :
    Tracked after := by
  have old : ∀ id request, after.Pends id request → before.Pends id request :=
    fun id request pends => ((dropped.pending id request).mp pends).2
  refine ⟨?_, ?_, ?_, ?_⟩
  · intro id request pends
    rw [dropped.nextCorrelationId]
    exact tracked.fresh id request (old _ _ pends)
  · exact fun id request pends => tracked.isRequest id request (old _ _ pends)
  · exact fun id request pends => tracked.kind id request (old _ _ pends)
  · intro id request pends
    rw [dropped.peerMap]
    exact tracked.mapped id request (old _ _ pends)

theorem dispatched
    (tracked : Tracked before)
    {messages : List (NodeId × RaftMessage)}
    (requests : ∀ target msg, (target, msg) ∈ messages → msg.IsRequest)
    (dispatched : Dispatched before after messages) :
    Tracked after where
  fresh := dispatched.fresh
  isRequest := by
    intro id request pends
    rcases dispatched.pending id request pends with old | posted
    · exact tracked.isRequest id request old
    · exact requests _ _ posted.asked
  kind := by
    intro id request pends
    rcases dispatched.pending id request pends with old | posted
    · exact tracked.kind id request old
    · exact posted.kind
  mapped := by
    intro id request pends
    rw [dispatched.peerMap]
    rcases dispatched.pending id request pends with old | posted
    · exact tracked.mapped id request old
    · exact posted.mapped

/-- Calling the engine keeps the pending entries as they are. -/
theorem called
    (tracked : Tracked before)
    (engine : MemoryEngine) :
    Tracked { before with engine := engine } :=
  ⟨tracked.fresh, tracked.isRequest, tracked.kind, tracked.mapped⟩

/-- What an unasked call sends out are requests. -/
theorem act
    (tracked : Tracked before)
    (unasked : ∀ sender msg now, call = .rpc sender msg now → ¬ msg.IsRequest)
    (now : Nat) :
    Tracked (before.act call now) := by
  refine (tracked.called _).dispatched ?_
    (executeActions_dispatched _ (tracked.called _).fresh _ now)
  intro target msg inside
  exact (before.engine.call_outcome call).isRequest unasked inside

theorem erased
    (tracked : Tracked before)
    (id : Nat) :
    Tracked { before with pending := before.pending.erase id } := by
  have old : ∀ other request,
      { before with pending := before.pending.erase id }.Pends other request →
        before.Pends other request :=
    fun other request pends => (pends_erase.mp pends).2
  exact ⟨fun _ _ pends => tracked.fresh _ _ (old _ _ pends),
    fun _ _ pends => tracked.isRequest _ _ (old _ _ pends),
    fun _ _ pends => tracked.kind _ _ (old _ _ pends),
    fun _ _ pends => tracked.mapped _ _ (old _ _ pends)⟩

end Tracked

end RaftBehaviour

end Libp2pRaft
