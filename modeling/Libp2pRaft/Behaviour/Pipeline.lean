import Libp2pRaft.Behaviour.Pending

/-!
# One AppendEntries per peer

While a node leads, the slots of its engine describe the AppendEntries of its
term that are pending: each of them holds the slot of its target, is the one
the slot records, and is the only one to its target.
-/

namespace Libp2pRaft

open Consensus

namespace RaftBehaviour

/-- An AppendEntries is pending under an id. -/
structure Offers
    (behaviour : MemoryBehaviour)
    (id : Nat)
    (request : PendingRequest)
    (term prev len : Nat) : Prop where
  pends : behaviour.Pends id request
  offer : request.msg.offer = some (term, prev, len)

/-- The slots of the engine describe the pending AppendEntries of its term. -/
structure Pipelined (behaviour : MemoryBehaviour) : Prop where
  term_le : ∀ id request term prev len,
    Offers behaviour id request term prev len →
      term ≤ behaviour.engine.currentTerm
  campaigning : behaviour.engine.role = .candidate →
    ∀ id request term prev len, Offers behaviour id request term prev len →
      term < behaviour.engine.currentTerm
  held : behaviour.engine.role = .leader → ∀ id request prev len,
    Offers behaviour id request behaviour.engine.currentTerm prev len →
      request.target ∈ behaviour.engine.aeInflight ∧
      behaviour.engine.lastAe.lookup request.target = some (prev, len)
  single : behaviour.engine.role = .leader →
    ∀ id request prev len other second secondPrev secondLen,
    Offers behaviour id request behaviour.engine.currentTerm prev len →
    Offers behaviour other second behaviour.engine.currentTerm secondPrev
      secondLen →
    request.target = second.target → id = other

/-- Messages that can still go out: their slots are taken for them, and no
AppendEntries of the term is pending to their targets. -/
structure Ready
    (behaviour : MemoryBehaviour)
    (messages : List (NodeId × RaftMessage)) : Prop where
  pipelined : Pipelined behaviour
  fresh : behaviour.Fresh
  isRequest : ∀ target msg, (target, msg) ∈ messages → msg.IsRequest
  waiting : ∀ target msg term prev len, (target, msg) ∈ messages →
    msg.offer = some (term, prev, len) →
      behaviour.engine.role = .leader ∧
      term = behaviour.engine.currentTerm ∧
      target ∈ behaviour.engine.aeInflight ∧
      behaviour.engine.lastAe.lookup target = some (prev, len) ∧
      ∀ id request pendingPrev pendingLen,
        Offers behaviour id request behaviour.engine.currentTerm pendingPrev
          pendingLen → request.target ≠ target
  apart : messages.Pairwise fun first second =>
    first.2.offer ≠ none → first.1 ≠ second.1

variable {before after : MemoryBehaviour} {call : Call}
  {messages : List (NodeId × RaftMessage)}

theorem Offers.of_pends
    (same : ∀ id request, after.Pends id request → before.Pends id request)
    {id : Nat}
    {request : PendingRequest}
    {term prev len : Nat}
    (offers : Offers after id request term prev len) :
    Offers before id request term prev len :=
  ⟨same _ _ offers.pends, offers.offer⟩

/-- Fewer pending requests around the same engine. -/
theorem Pipelined.mono
    (pipelined : Pipelined before)
    (sameEngine : after.engine = before.engine)
    (fewer : ∀ id request, after.Pends id request → before.Pends id request) :
    Pipelined after := by
  refine ⟨?_, ?_, ?_, ?_⟩ <;> rw [sameEngine]
  · exact fun id request term prev len offers =>
      pipelined.term_le _ _ _ _ _ (offers.of_pends fewer)
  · exact fun campaigning id request term prev len offers =>
      pipelined.campaigning campaigning _ _ _ _ _ (offers.of_pends fewer)
  · exact fun leading id request prev len offers =>
      pipelined.held leading _ _ _ _ (offers.of_pends fewer)
  · exact fun leading id request prev len other second secondPrev secondLen
      offers also =>
      pipelined.single leading _ _ _ _ _ _ _ _ (offers.of_pends fewer)
        (also.of_pends fewer)

theorem Pipelined.quiet
    (pipelined : Pipelined before)
    (quiet : Quiet before after) :
    Pipelined after := by
  apply pipelined.mono quiet.engine
  intro id request pends
  rw [Pends, quiet.pending] at pends
  exact pends

theorem Ready.quiet
    (ready : Ready before messages)
    (quiet : Quiet before after) :
    Ready after messages where
  pipelined := ready.pipelined.quiet quiet
  fresh := by
    intro id request pends
    rw [Pends, quiet.pending] at pends
    rw [quiet.nextCorrelationId]
    exact ready.fresh id request pends
  isRequest := ready.isRequest
  waiting := by
    intro target msg term prev len inside offered
    obtain ⟨leading, sameTerm, inflight, recorded, alone⟩ :=
      ready.waiting target msg term prev len inside offered
    rw [quiet.engine]
    refine ⟨leading, sameTerm, inflight, recorded, ?_⟩
    intro id request pendingPrev pendingLen offers
    refine alone id request pendingPrev pendingLen (offers.of_pends ?_)
    intro id request pends
    rw [Pends, quiet.pending] at pends
    exact pends
  apart := ready.apart

section

variable {target : NodeId} {peer : PeerId} {msg : RaftMessage} {now : Nat}

/-- An AppendEntries pending after a message went out was pending before, or is
that message. -/
theorem offers_post
    {id term prev len : Nat}
    {request : PendingRequest}
    (offers : Offers (before.post target peer msg now) id request term prev
      len) :
    (id = before.nextCorrelationId ∧ request.target = target ∧
        msg.offer = some (term, prev, len)) ∨
      Offers before id request term prev len := by
  rcases before.pends_post.mp offers.pends with ⟨same, rfl⟩ | ⟨-, old⟩
  · exact .inl ⟨same, rfl, offers.offer⟩
  · exact .inr ⟨old, offers.offer⟩

/-- A message that goes out occupies the slot that was taken for it. -/
theorem Ready.post
    (ready : Ready before ((target, msg) :: messages))
    (peer : PeerId)
    (now : Nat) :
    Ready (before.post target peer msg now) messages := by
  have first := ready.waiting target msg
  have apart := List.pairwise_cons.mp ready.apart
  refine ⟨⟨?_, ?_, ?_, ?_⟩, ?_, ?_, ?_, apart.2⟩
  · intro id request term prev len offers
    rcases offers_post offers with ⟨-, -, offered⟩ | old
    · exact (first _ _ _ List.mem_cons_self offered).2.1.le
    · exact ready.pipelined.term_le _ _ _ _ _ old
  · intro campaigning id request term prev len offers
    rcases offers_post offers with ⟨-, -, offered⟩ | old
    · have leading := (first _ _ _ List.mem_cons_self offered).1
      exact Role.noConfusion (campaigning.symm.trans leading)
    · exact ready.pipelined.campaigning campaigning _ _ _ _ _ old
  · intro leading id request prev len offers
    rcases offers_post offers with ⟨-, sameTarget, offered⟩ | old
    · obtain ⟨-, -, inflight, recorded, -⟩ :=
        first _ _ _ List.mem_cons_self offered
      rw [sameTarget]
      exact ⟨inflight, recorded⟩
    · exact ready.pipelined.held leading _ _ _ _ old
  · intro leading id request prev len other second secondPrev secondLen offers
      also sameTarget
    rcases offers_post offers with ⟨rfl, isTarget, offered⟩ | old
    · rcases offers_post also with ⟨rfl, -, -⟩ | secondOld
      · rfl
      · obtain ⟨-, -, -, -, alone⟩ := first _ _ _ List.mem_cons_self offered
        exact absurd (sameTarget.symm.trans isTarget) (alone _ _ _ _ secondOld)
    · rcases offers_post also with ⟨-, isTarget, offered⟩ | secondOld
      · obtain ⟨-, -, -, -, alone⟩ := first _ _ _ List.mem_cons_self offered
        exact absurd (sameTarget.trans isTarget) (alone _ _ _ _ old)
      · exact ready.pipelined.single leading _ _ _ _ _ _ _ _ old secondOld
          sameTarget
  · intro id request pends
    rcases before.pends_post.mp pends with ⟨rfl, -⟩ | ⟨-, old⟩
    · exact Nat.lt_succ_self _
    · exact (ready.fresh id request old).trans (Nat.lt_succ_self _)
  · exact fun target msg inside =>
      ready.isRequest target msg (List.mem_cons_of_mem _ inside)
  · intro other later term prev len inside offered
    obtain ⟨leading, sameTerm, inflight, recorded, alone⟩ :=
      ready.waiting other later term prev len (List.mem_cons_of_mem _ inside)
        offered
    refine ⟨leading, sameTerm, inflight, recorded, ?_⟩
    intro id request pendingPrev pendingLen offers
    rcases offers_post offers with ⟨-, isTarget, isOffer⟩ | old
    · rw [isTarget]
      exact apart.1 _ inside (by simp [isOffer])
    · exact alone _ _ _ _ old

theorem rpcKind_eq_appendEntries
    (isRequest : msg.IsRequest) :
    rpcKind msg = .appendEntries ↔ msg.offer ≠ none := by
  cases msg with
  | requestVote => simp [rpcKind, RaftMessage.offer]
  | appendEntries => simp [rpcKind, RaftMessage.offer]
  | requestVoteResp => contradiction
  | appendEntriesResp => contradiction
  | installSnapshot => contradiction
  | installSnapshotResp => contradiction

/-- Freeing a slot that no pending AppendEntries of the term holds. -/
theorem Pipelined.free
    (pipelined : Pipelined before)
    {target : NodeId}
    (unused : before.engine.role = .leader → ∀ id request prev len,
      Offers before id request before.engine.currentTerm prev len →
        request.target ≠ target)
    (kind : RpcKind) :
    Pipelined (before.noteFailure target kind) := by
  unfold noteFailure RaftEngine.handleRpcFailure
  split_ifs with append
  · refine ⟨?_, ?_, ?_, ?_⟩
    · exact fun _ _ _ _ _ offers =>
        pipelined.term_le _ _ _ _ _ ⟨offers.pends, offers.offer⟩
    · exact fun campaigning _ _ _ _ _ offers =>
        pipelined.campaigning campaigning _ _ _ _ _ ⟨offers.pends, offers.offer⟩
    · intro leading id request prev len offers
      have old : Offers before id request before.engine.currentTerm prev len :=
        ⟨offers.pends, offers.offer⟩
      obtain ⟨inflight, recorded⟩ := pipelined.held leading _ _ _ _ old
      exact ⟨Finset.mem_erase.mpr ⟨unused leading _ _ _ _ old, inflight⟩,
        recorded⟩
    · exact fun leading _ _ _ _ _ _ _ _ offers also =>
        pipelined.single leading _ _ _ _ _ _ _ _ ⟨offers.pends, offers.offer⟩
          ⟨also.pends, also.offer⟩
  · exact pipelined.mono rfl fun _ _ pends => pends

/-- A message that does not go out gives its slot back. -/
theorem Ready.noteFailure
    (ready : Ready before ((target, msg) :: messages)) :
    Ready (before.noteFailure target (rpcKind msg)) messages := by
  have isRequest := ready.isRequest target msg List.mem_cons_self
  have apart := List.pairwise_cons.mp ready.apart
  by_cases offered : msg.offer = none
  · have unchanged : before.noteFailure target (rpcKind msg) = before := by
      have other : rpcKind msg ≠ .appendEntries := fun append =>
        (rpcKind_eq_appendEntries isRequest).mp append offered
      unfold RaftBehaviour.noteFailure RaftEngine.handleRpcFailure
      rw [if_neg other]
    rw [unchanged]
    exact ⟨ready.pipelined, ready.fresh,
      fun target msg inside =>
        ready.isRequest target msg (List.mem_cons_of_mem _ inside),
      fun target msg term prev len inside =>
        ready.waiting target msg term prev len (List.mem_cons_of_mem _ inside),
      apart.2⟩
  · obtain ⟨⟨term, prev, len⟩, isOffer⟩ := Option.ne_none_iff_exists'.mp offered
    obtain ⟨-, -, -, -, alone⟩ :=
      ready.waiting target msg term prev len List.mem_cons_self isOffer
    refine ⟨ready.pipelined.free (fun _ => alone) _, ready.fresh, ?_, ?_,
      apart.2⟩
    · exact fun target msg inside =>
        ready.isRequest target msg (List.mem_cons_of_mem _ inside)
    · intro other later term prev len inside laterOffered
      obtain ⟨leading, sameTerm, inflight, recorded, otherAlone⟩ :=
        ready.waiting other later term prev len (List.mem_cons_of_mem _ inside)
          laterOffered
      have different := apart.1 _ inside offered
      have append := (rpcKind_eq_appendEntries isRequest).mpr offered
      simp only [RaftBehaviour.noteFailure, RaftEngine.handleRpcFailure, append,
        if_true]
      exact ⟨leading, sameTerm,
        Finset.mem_erase.mpr ⟨Ne.symm different, inflight⟩, recorded,
        fun _ _ _ _ offers => otherAlone _ _ _ _ ⟨offers.pends, offers.offer⟩⟩

end

/-- Dispatching messages whose slots are taken for them keeps the pipeline. -/
theorem Ready.executeActions
    {actions : List Action}
    (ready : Ready before (outgoing before.engine.otherVoters actions))
    (now : Nat) :
    Pipelined (before.executeActions actions none now) := by
  have done : Ready (before.executeActions actions none now) [] :=
    before.executeActions_rule
      (motive := fun rest middle => Ready middle rest)
      (fun _ _ _ quiet ready => ready.quiet quiet)
      (fun _ _ _ peer _ _ ready => ready.post peer now)
      (fun _ _ _ _ ready => ready.noteFailure)
      ready
  exact done.pipelined

/-- What a call leaves can be dispatched when nothing of it needs a slot. -/
theorem Ready.of_noOffers
    (pipelined : Pipelined before)
    (fresh : before.Fresh)
    (isRequest : ∀ target msg, (target, msg) ∈ messages → msg.IsRequest)
    (noOffers : ∀ target msg, (target, msg) ∈ messages → msg.offer = none) :
    Ready before messages where
  pipelined := pipelined
  fresh := fresh
  isRequest := isRequest
  waiting := by
    intro target msg term prev len inside offered
    rw [noOffers target msg inside] at offered
    contradiction
  apart := by
    refine List.pairwise_of_forall_mem_list ?_
    intro first inside _ _ offered
    exact absurd (noOffers first.1 first.2 inside) offered

/-- An election timer fires below the largest `u64`. -/
def CampaignsBelow (behaviour : MemoryBehaviour) (call : Call) : Prop :=
  ∀ now, call = .tick now → behaviour.engine.role ≠ .leader →
    behaviour.engine.electionDeadline ≤ now →
      behaviour.engine.currentTerm < u64Max

/-- A reply of the leader's term comes from a peer no AppendEntries of the term
is pending to. -/
def AnswersAlone (behaviour : MemoryBehaviour) (call : Call) : Prop :=
  ∀ sender success matchIndex now,
    call = .rpc sender (.appendEntriesResp behaviour.engine.currentTerm success
      matchIndex) now →
    behaviour.engine.role = .leader →
    ∀ id request prev len,
      Offers behaviour id request behaviour.engine.currentTerm prev len →
        request.target ≠ sender

/-- A leader whose pending AppendEntries are all of earlier terms keeps the
pipeline. -/
theorem Pipelined.of_earlier
    {engine : MemoryEngine}
    (earlier : ∀ id request term prev len,
      Offers { before with engine := engine } id request term prev len →
        term < engine.currentTerm) :
    Pipelined { before with engine := engine } where
  term_le _ _ _ _ _ offers := (earlier _ _ _ _ _ offers).le
  campaigning _ _ _ _ _ _ offers := earlier _ _ _ _ _ offers
  held _ _ _ _ _ offers :=
    absurd (earlier _ _ _ _ _ offers) (Nat.lt_irrefl _)
  single _ _ _ _ _ _ _ _ _ offers :=
    absurd (earlier _ _ _ _ _ offers) (Nat.lt_irrefl _)

/-- A leader that sends into free slots leaves the pending AppendEntries in
theirs. -/
theorem Pipelined.offered
    (pipelined : Pipelined before)
    (alone : AnswersAlone before call)
    {base : MemoryEngine}
    {result : MemoryEngine × List Action}
    (leading : before.engine.role = .leader)
    (stillLeading : result.1.role = .leader)
    (sameTerm : result.1.currentTerm = before.engine.currentTerm)
    (sameLast : base.lastAe = before.engine.lastAe)
    (freed : base.aeInflight = before.engine.aeInflight ∨
      ∃ sender success matchIndex now prev len,
        call = .rpc sender (.appendEntriesResp before.engine.currentTerm success
          matchIndex) now ∧
        before.engine.lastAe.lookup sender = some (prev, len) ∧
        base.aeInflight = before.engine.aeInflight.erase sender)
    (takes : RaftEngine.Takes base result.1 (outgoing [] result.2)) :
    Pipelined { before with engine := result.1 } := by
  have old : ∀ {id request term prev len},
      Offers { before with engine := result.1 } id request term prev len →
        Offers before id request term prev len :=
    fun offers => ⟨offers.pends, offers.offer⟩
  refine ⟨?_, ?_, ?_, ?_⟩
  · intro id request term prev len offers
    rw [sameTerm]
    exact pipelined.term_le _ _ _ _ _ (old offers)
  · exact fun campaigning =>
      Role.noConfusion (stillLeading.symm.trans campaigning)
  · intro _ id request prev len offers
    rw [sameTerm] at offers
    obtain ⟨inflight, recorded⟩ := pipelined.held leading _ _ _ _ (old offers)
    -- The slot that was freed is another one: its reply was alone.
    have inBase : request.target ∈ base.aeInflight := by
      rcases freed with same | ⟨sender, success, matchIndex, now, _, _, isCall,
        -, erased⟩
      · rw [same]
        exact inflight
      · rw [erased]
        exact Finset.mem_erase.mpr
          ⟨alone _ _ _ _ isCall leading _ _ _ _ (old offers), inflight⟩
    have outside : request.target ∉ (outgoing [] result.2).map Prod.fst := by
      intro inside
      obtain ⟨⟨target, msg⟩, isMessage, same⟩ := List.mem_map.mp inside
      obtain ⟨_, _, -, isFree, -⟩ := takes.taken target msg isMessage
      have same : target = request.target := same
      rw [same] at isFree
      exact isFree inBase
    obtain ⟨sameRecord, sameSlot⟩ := takes.others _ outside
    rw [sameRecord, sameLast]
    exact ⟨sameSlot.mpr inBase, recorded⟩
  · intro _ id request prev len other second secondPrev secondLen offers also
    rw [sameTerm] at offers also
    exact pipelined.single leading _ _ _ _ _ _ _ _ (old offers) (old also)

/-- A call leaves the pending AppendEntries in their slots. -/
theorem Pipelined.called
    (pipelined : Pipelined before)
    (notFailure : ∀ target kind, call ≠ .rpcFailure target kind)
    (below : CampaignsBelow before call)
    (alone : AnswersAlone before call) :
    Pipelined { before with engine := (before.engine.call call).1 } := by
  have change := (before.engine.call_outcome call).slotChange []
  generalize before.engine.call call = result at change ⊢
  have old : ∀ {id request term prev len},
      Offers { before with engine := result.1 } id request term prev len →
        Offers before id request term prev len :=
    fun offers => ⟨offers.pends, offers.offer⟩
  cases change with
  | kept _ _ sameRole sameTerm sameLast sameInflight =>
      refine ⟨?_, ?_, ?_, ?_⟩
      · intro id request term prev len offers
        rw [sameTerm]
        exact pipelined.term_le _ _ _ _ _ (old offers)
      · intro campaigning id request term prev len offers
        rw [sameTerm]
        exact pipelined.campaigning (sameRole.symm.trans campaigning) _ _ _ _ _
          (old offers)
      · intro leading id request prev len offers
        rw [sameTerm] at offers
        rw [sameLast, sameInflight]
        exact pipelined.held (sameRole.symm.trans leading) _ _ _ _ (old offers)
      · intro leading id request prev len other second secondPrev secondLen
          offers also
        rw [sameTerm] at offers also
        exact pipelined.single (sameRole.symm.trans leading) _ _ _ _ _ _ _ _
          (old offers) (old also)
  | retired _ _ following grown =>
      refine ⟨?_, ?_, ?_, ?_⟩
      · intro id request term prev len offers
        exact (pipelined.term_le _ _ _ _ _ (old offers)).trans grown
      · exact fun campaigning => Role.noConfusion (following.symm.trans campaigning)
      · exact fun leading => Role.noConfusion (following.symm.trans leading)
      · exact fun leading => Role.noConfusion (following.symm.trans leading)
  | campaigned now _ waiting due campaigning nextTerm =>
      have small := below now rfl waiting due
      rw [wrappingSucc_of_lt small] at nextTerm
      refine .of_earlier fun id request term prev len offers => ?_
      rw [nextTerm]
      exact Nat.lt_succ_of_le (pipelined.term_le _ _ _ _ _ (old offers))
  | elected sender now _ campaigning sameTerm =>
      refine .of_earlier fun id request term prev len offers => ?_
      rw [sameTerm]
      exact pipelined.campaigning campaigning _ _ _ _ _ (old offers)
  | offered _ base _ unasked leading stillLeading sameTerm baseTerm sameLast freed
      takes =>
      exact pipelined.offered alone leading stillLeading sameTerm sameLast freed
        takes
  | failed target => exact absurd rfl (notFailure _ _)

/-- Calling the engine and dispatching what it asks for keeps the pipeline. -/
theorem Pipelined.act
    (pipelined : Pipelined before)
    (fresh : before.Fresh)
    (unasked : ∀ sender msg now, call = .rpc sender msg now → ¬ msg.IsRequest)
    (notFailure : ∀ target kind, call ≠ .rpcFailure target kind)
    (below : CampaignsBelow before call)
    (alone : AnswersAlone before call)
    (now : Nat) :
    Pipelined (before.act call now) := by
  have called := pipelined.called notFailure below alone
  have requests : ∀ target msg, (target, msg) ∈ outgoing
      (before.engine.call call).1.otherVoters (before.engine.call call).2 →
        msg.IsRequest :=
    fun _ _ inside => (before.engine.call_outcome call).isRequest unasked inside
  refine Ready.executeActions ?_ now
  have change := (before.engine.call_outcome call).slotChange
    (before.engine.call call).1.otherVoters
  show Ready _ (outgoing (before.engine.call call).1.otherVoters
    (before.engine.call call).2)
  generalize (before.engine.call call).1.otherVoters = others
    at requests change ⊢
  generalize before.engine.call call = result at called requests change ⊢
  have isFresh : { before with engine := result.1 }.Fresh := fresh
  cases change with
  | kept _ _ _ _ _ _ noOffers =>
      exact .of_noOffers called isFresh requests noOffers
  | retired _ _ _ _ noOffers =>
      exact .of_noOffers called isFresh requests noOffers
  | campaigned _ _ _ _ _ _ noOffers =>
      exact .of_noOffers called isFresh requests noOffers
  | elected _ _ _ _ _ noOffers =>
      exact .of_noOffers called isFresh requests noOffers
  | failed => exact absurd rfl (notFailure _ _)
  | offered _ base _ _ leading stillLeading sameTerm baseTerm sameLast freed
      takes =>
      refine ⟨called, isFresh, requests, ?_, ?_⟩
      · intro target msg term prev len inside offered
        obtain ⟨takenPrev, takenLen, isOffer, isFree, inflight, recorded⟩ :=
          takes.taken target msg inside
        rw [offered, Option.some.injEq, Prod.mk.injEq, Prod.mk.injEq] at isOffer
        obtain ⟨rfl, rfl, rfl⟩ := isOffer
        refine ⟨stillLeading, baseTerm.trans sameTerm.symm, inflight, recorded,
          ?_⟩
        rintro id request pendingPrev pendingLen offers rfl
        have old : Offers before id request before.engine.currentTerm
            pendingPrev pendingLen := by
          rw [← sameTerm]
          exact ⟨offers.pends, offers.offer⟩
        have held := (pipelined.held leading _ _ _ _ old).1
        rcases freed with same | ⟨sender, success, matchIndex, time, _, _, isCall,
          -, erased⟩
        · rw [same] at isFree
          exact isFree held
        · rw [erased] at isFree
          exact isFree (Finset.mem_erase.mpr
            ⟨alone _ _ _ _ isCall leading _ _ _ _ old, held⟩)
      · have distinct := List.pairwise_map.mp takes.distinct
        refine distinct.imp ?_
        exact fun different _ => different

/-- Dropping a request keeps the pipeline, unless it gives away the slot of
another one. -/
theorem Pipelined.drop
    (pipelined : Pipelined before)
    (tracked : Tracked before)
    (id : Nat)
    (own : before.engine.role = .leader →
      ∀ request term prev len, Offers before id request term prev len →
        term ≠ before.engine.currentTerm →
          request.target ∉ before.engine.aeInflight) :
    Pipelined (before.drop id) := by
  unfold RaftBehaviour.drop
  cases pends : before.pending.lookup id with
  | none => exact pipelined
  | some request =>
      have erased : Pipelined
          { before with pending := before.pending.erase id } :=
        pipelined.mono rfl fun other found pends => (pends_erase.mp pends).2
      by_cases append : request.kind = .appendEntries
      · refine erased.free ?_ request.kind
        rintro leading other second prev len offers sameTarget
        obtain ⟨different, old⟩ := pends_erase.mp offers.pends
        have isOffer : request.msg.offer ≠ none := by
          rw [← rpcKind_eq_appendEntries (tracked.isRequest id request pends),
            ← tracked.kind id request pends]
          exact append
        obtain ⟨⟨term, failedPrev, failedLen⟩, offered⟩ :=
          Option.ne_none_iff_exists'.mp isOffer
        by_cases sameTerm : term = before.engine.currentTerm
        · subst sameTerm
          exact different (pipelined.single leading _ _ _ _ _ _ _ _
            ⟨old, offers.offer⟩ ⟨pends, offered⟩ sameTarget)
        · have held := (pipelined.held leading other second prev len
            ⟨old, offers.offer⟩).1
          rw [sameTarget] at held
          exact own leading request term _ _ ⟨pends, offered⟩ sameTerm held
      · have unchanged : (before.engine.handleRpcFailure request.target
            request.kind).1 = before.engine := by
          unfold RaftEngine.handleRpcFailure
          rw [if_neg append]
        exact pipelined.mono unchanged fun other found pends =>
          (pends_erase.mp pends).2

/-- Dropping every request to a peer keeps the pipeline. -/
theorem Pipelined.dropPeer
    (pipelined : Pipelined before)
    (tracked : Tracked before)
    (peer : PeerId) :
    Pipelined (before.dropPeer peer) := by
  have dropped : Dropped before (before.dropPeer peer) _ :=
    before.dropAll_dropped (before.peerRequests peer)
  obtain ⟨aeInflight, -, frame⟩ := dropped.failures.frame
  have old : ∀ {id request term prev len},
      Offers (before.dropPeer peer) id request term prev len →
        Offers before id request term prev len ∧ request.peer ≠ peer := by
    intro id request term prev len offers
    obtain ⟨among, pends⟩ := (dropped.pending id request).mp offers.pends
    exact ⟨⟨pends, offers.offer⟩, fun isPeer =>
      among ((mem_peerRequests pends).mpr isPeer)⟩
  have sameTerm : (before.dropPeer peer).engine.currentTerm =
      before.engine.currentTerm := by
    rw [frame]
    rfl
  have sameRole : (before.dropPeer peer).engine.role = before.engine.role := by
    rw [frame]
  have sameLast : (before.dropPeer peer).engine.lastAe =
      before.engine.lastAe := by
    rw [frame]
  refine ⟨?_, ?_, ?_, ?_⟩ <;> rw [sameTerm]
  · exact fun _ _ _ _ _ offers => pipelined.term_le _ _ _ _ _ (old offers).1
  · rw [sameRole]
    exact fun campaigning _ _ _ _ _ offers =>
      pipelined.campaigning campaigning _ _ _ _ _ (old offers).1
  · rw [sameRole, sameLast]
    intro leading id request prev len offers
    obtain ⟨offersBefore, otherPeer⟩ := old offers
    obtain ⟨inflight, recorded⟩ := pipelined.held leading _ _ _ _ offersBefore
    refine ⟨?_, recorded⟩
    by_contra outside
    obtain ⟨other, among, second, pends, sameTarget, -⟩ :=
      dropped.freed _ inflight outside
    have mapped := tracked.mapped id request offersBefore.pends
    rw [← sameTarget, tracked.mapped other second pends] at mapped
    injection mapped with samePeer
    exact otherPeer (samePeer.symm.trans ((mem_peerRequests pends).mp among))
  · rw [sameRole]
    exact fun leading _ _ _ _ _ _ _ _ offers also =>
      pipelined.single leading _ _ _ _ _ _ _ _ (old offers).1 (old also).1

end RaftBehaviour

end Libp2pRaft
