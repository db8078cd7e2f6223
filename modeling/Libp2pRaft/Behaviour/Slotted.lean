import Libp2pRaft.Behaviour.Pipeline

/-!
# No slot without a request

While a node leads, every taken slot of its engine is backed by a pending
AppendEntries of its term to the peer of the slot, so that a reply, a failure or
a timeout will free it.
-/

namespace Libp2pRaft

open Consensus TransitionSystem

namespace RaftBehaviour

/-- An AppendEntries of the current term is pending to a peer. -/
def Backed (behaviour : MemoryBehaviour) (peer : NodeId) : Prop :=
  ∃ id request prev len,
    Offers behaviour id request behaviour.engine.currentTerm prev len ∧
      request.target = peer

/-- Every taken slot of a leader is recorded and backed. -/
structure Slotted (behaviour : MemoryBehaviour) : Prop where
  recorded : behaviour.engine.role = .leader →
    ∀ peer ∈ behaviour.engine.aeInflight,
      behaviour.engine.lastAe.lookup peer ≠ none
  backed : behaviour.engine.role = .leader →
    ∀ peer ∈ behaviour.engine.aeInflight, Backed behaviour peer

/-- Every taken slot of a leader is backed, or its request is still to go
out. -/
structure Dispatching
    (behaviour : MemoryBehaviour)
    (messages : List (NodeId × RaftMessage)) : Prop where
  isRequest : ∀ target msg, (target, msg) ∈ messages → msg.IsRequest
  recorded : behaviour.engine.role = .leader →
    ∀ peer ∈ behaviour.engine.aeInflight,
      behaviour.engine.lastAe.lookup peer ≠ none
  backed : behaviour.engine.role = .leader →
    ∀ peer ∈ behaviour.engine.aeInflight, Backed behaviour peer ∨
      ∃ msg prev len, (peer, msg) ∈ messages ∧
        msg.offer = some (behaviour.engine.currentTerm, prev, len)

variable {before after : MemoryBehaviour} {call : Call}
  {messages : List (NodeId × RaftMessage)}

theorem Backed.mono
    {peer : NodeId}
    (backed : Backed before peer)
    (sameTerm : after.engine.currentTerm = before.engine.currentTerm)
    (kept : ∀ id request, before.Pends id request → request.target = peer →
      after.Pends id request) :
    Backed after peer := by
  obtain ⟨id, request, prev, len, offers, isTarget⟩ := backed
  refine ⟨id, request, prev, len, ⟨kept id request offers.pends isTarget, ?_⟩,
    isTarget⟩
  rw [sameTerm]
  exact offers.offer

theorem Backed.called
    {peer : NodeId}
    (backed : Backed before peer)
    {engine : MemoryEngine}
    (sameTerm : engine.currentTerm = before.engine.currentTerm) :
    Backed { before with engine := engine } peer := by
  obtain ⟨id, request, prev, len, offers, isTarget⟩ := backed
  refine ⟨id, request, prev, len, ⟨offers.pends, ?_⟩, isTarget⟩
  simp only [sameTerm]
  exact offers.offer

/-- Only engine and pending requests matter. -/
theorem Slotted.congr
    (slotted : Slotted before)
    (sameEngine : after.engine = before.engine)
    (samePending : after.pending = before.pending) :
    Slotted after := by
  constructor
  · rw [sameEngine]
    exact slotted.recorded
  · intro leading peer inFlight
    rw [sameEngine] at leading inFlight
    apply (slotted.backed leading peer inFlight).mono (by rw [sameEngine])
    intro id request pends _
    rw [Pends, samePending]
    exact pends

theorem Slotted.quiet
    (slotted : Slotted before)
    (quiet : Quiet before after) :
    Slotted after :=
  slotted.congr quiet.engine quiet.pending

/-! ## Dispatching -/

theorem Dispatching.quiet
    (dispatching : Dispatching before messages)
    (quiet : Quiet before after) :
    Dispatching after messages := by
  refine ⟨dispatching.isRequest, ?_, ?_⟩
  · rw [quiet.engine]
    exact dispatching.recorded
  · intro leading peer inFlight
    rw [quiet.engine] at leading inFlight ⊢
    apply (dispatching.backed leading peer inFlight).imp_left
    intro backed
    apply backed.mono (by rw [quiet.engine])
    intro id request pends _
    rw [Pends, quiet.pending]
    exact pends

section

variable {target : NodeId} {peer : PeerId} {msg : RaftMessage} {now : Nat}

/-- A message that goes out backs the slot that was taken for it. -/
theorem Dispatching.post
    (dispatching : Dispatching before ((target, msg) :: messages))
    (fresh : before.Fresh) :
    Dispatching (before.post target peer msg now) messages := by
  refine ⟨fun target msg inside =>
    dispatching.isRequest target msg (List.mem_cons_of_mem _ inside),
    dispatching.recorded, fun leading slot inFlight => ?_⟩
  rcases dispatching.backed leading slot inFlight with
    backed | ⟨sent, prev, len, inside, offered⟩
  · left
    have sameTerm : (before.post target peer msg now).engine.currentTerm =
        before.engine.currentTerm := rfl
    apply backed.mono sameTerm
    intro id request pends _
    have older := fresh id request pends
    exact before.pends_post.mpr (.inr ⟨older.ne, pends⟩)
  · rcases List.mem_cons.mp inside with same | later
    · obtain ⟨rfl, rfl⟩ := Prod.mk.inj same
      left
      exact ⟨_, _, prev, len,
        ⟨before.pends_post.mpr (.inl ⟨rfl, rfl⟩), offered⟩, rfl⟩
    · exact .inr ⟨sent, prev, len, later, offered⟩

/-- A message that does not go out gives its slot back. -/
theorem Dispatching.noteFailure
    (dispatching : Dispatching before ((target, msg) :: messages)) :
    Dispatching (before.noteFailure target (rpcKind msg)) messages := by
  have rest : ∀ target msg, (target, msg) ∈ messages → msg.IsRequest :=
    fun target msg inside =>
      dispatching.isRequest target msg (List.mem_cons_of_mem _ inside)
  have isRequest := dispatching.isRequest target msg List.mem_cons_self
  by_cases append : rpcKind msg = .appendEntries
  · simp only [RaftBehaviour.noteFailure, RaftEngine.handleRpcFailure, append,
      if_true]
    refine ⟨rest, fun leading slot inFlight => ?_,
      fun leading slot inFlight => ?_⟩
    · exact dispatching.recorded leading slot (Finset.mem_of_mem_erase inFlight)
    · obtain ⟨different, inFlight⟩ := Finset.mem_erase.mp inFlight
      rcases dispatching.backed leading slot inFlight with
        backed | ⟨sent, prev, len, inside, offered⟩
      · exact .inl (backed.mono rfl fun _ _ pends _ => pends)
      · rcases List.mem_cons.mp inside with same | later
        · exact absurd (Prod.mk.inj same).1 different
        · exact .inr ⟨sent, prev, len, later, offered⟩
  · have noOffer : msg.offer = none := by
      by_contra offered
      exact append ((rpcKind_eq_appendEntries isRequest).mpr offered)
    have unchanged : before.noteFailure target (rpcKind msg) = before := by
      unfold RaftBehaviour.noteFailure RaftEngine.handleRpcFailure
      rw [if_neg append]
    rw [unchanged]
    refine ⟨rest, dispatching.recorded, fun leading slot inFlight => ?_⟩
    apply (dispatching.backed leading slot inFlight).imp_right
    rintro ⟨sent, prev, len, inside, offered⟩
    rcases List.mem_cons.mp inside with same | later
    · rw [(Prod.mk.inj same).2, noOffer] at offered
      contradiction
    · exact ⟨sent, prev, len, later, offered⟩

end

/-- A dispatch sends or gives back whatever a slot was taken for. -/
theorem Dispatching.executeActions
    {actions : List Action}
    (fresh : before.Fresh)
    (dispatching : Dispatching before
      (outgoing before.engine.otherVoters actions))
    (now : Nat) :
    Slotted (before.executeActions actions none now) := by
  have done : (before.executeActions actions none now).Fresh ∧
      Dispatching (before.executeActions actions none now) [] := by
    refine before.executeActions_rule
      (motive := fun rest middle => middle.Fresh ∧ Dispatching middle rest)
      ?_ ?_ ?_ ⟨fresh, dispatching⟩
    · rintro rest middle after quiet ⟨fresh, dispatching⟩
      refine ⟨fun id request pends => ?_, dispatching.quiet quiet⟩
      rw [Pends, quiet.pending] at pends
      rw [quiet.nextCorrelationId]
      exact fresh id request pends
    · rintro rest middle target peer msg - ⟨fresh, dispatching⟩
      refine ⟨fun id request pends => ?_, dispatching.post fresh⟩
      rcases middle.pends_post.mp pends with ⟨rfl, -⟩ | ⟨-, old⟩
      · exact Nat.lt_succ_self _
      · exact (fresh id request old).trans (Nat.lt_succ_self _)
    · rintro rest middle target msg ⟨fresh, dispatching⟩
      exact ⟨fresh, dispatching.noteFailure⟩
  refine ⟨done.2.recorded, fun leading peer inFlight => ?_⟩
  rcases done.2.backed leading peer inFlight with
    backed | ⟨msg, prev, len, inside, -⟩
  · exact backed
  · exact absurd inside List.not_mem_nil

/-! ## Calls -/

/-- What takes its slots from backed ones can be dispatched. -/
theorem Dispatching.of_takes
    {base : MemoryEngine}
    {result : MemoryEngine × List Action}
    (requests : ∀ target msg, (target, msg) ∈ messages → msg.IsRequest)
    (sameTerm : result.1.currentTerm = before.engine.currentTerm)
    (baseTerm : base.currentTerm = before.engine.currentTerm)
    (recorded : ∀ peer ∈ base.aeInflight, base.lastAe.lookup peer ≠ none)
    (backed : ∀ peer ∈ base.aeInflight, Backed before peer)
    (takes : RaftEngine.Takes base result.1 messages) :
    Dispatching { before with engine := result.1 } messages := by
  have split : ∀ peer ∈ result.1.aeInflight,
      (∃ msg prev len, (peer, msg) ∈ messages ∧
        msg.offer = some (result.1.currentTerm, prev, len) ∧
        result.1.lastAe.lookup peer = some (prev, len)) ∨
      (peer ∈ base.aeInflight ∧
        result.1.lastAe.lookup peer = base.lastAe.lookup peer) := by
    intro peer inFlight
    by_cases sent : peer ∈ messages.map Prod.fst
    · obtain ⟨⟨target, msg⟩, inside, rfl⟩ := List.mem_map.mp sent
      obtain ⟨prev, len, offered, -, -, held⟩ := takes.taken target msg inside
      rw [baseTerm, ← sameTerm] at offered
      exact .inl ⟨msg, prev, len, inside, offered, held⟩
    · obtain ⟨sameLast, sameSlot⟩ := takes.others peer sent
      exact .inr ⟨sameSlot.mp inFlight, sameLast⟩
  refine ⟨requests, fun leading peer inFlight => ?_,
    fun leading peer inFlight => ?_⟩
  · rcases split peer inFlight with ⟨_, _, _, -, -, held⟩ | ⟨inBase, same⟩
    · simp only [held]
      exact Option.some_ne_none _
    · simp only [same]
      exact recorded peer inBase
  · rcases split peer inFlight with
      ⟨msg, prev, len, inside, offered, -⟩ | ⟨inBase, -⟩
    · exact .inr ⟨msg, prev, len, inside, offered⟩
    · exact .inl ((backed peer inBase).called sameTerm)

/-- Whoever does not lead has no slots to back. -/
theorem Dispatching.of_waiting
    (requests : ∀ target msg, (target, msg) ∈ messages → msg.IsRequest)
    (waiting : before.engine.role ≠ .leader) :
    Dispatching before messages :=
  ⟨requests, fun leading => absurd leading waiting,
    fun leading => absurd leading waiting⟩

/-- What leaves the slots of a leader alone can be dispatched. -/
theorem Dispatching.of_kept
    {engine : MemoryEngine}
    (slotted : Slotted before)
    (requests : ∀ target msg, (target, msg) ∈ messages → msg.IsRequest)
    (kept : engine.role = .leader →
      before.engine.role = .leader ∧
        engine.currentTerm = before.engine.currentTerm ∧
        engine.lastAe = before.engine.lastAe ∧
        engine.aeInflight = before.engine.aeInflight) :
    Dispatching { before with engine := engine } messages := by
  refine ⟨requests, fun leading peer inFlight => ?_,
    fun leading peer inFlight => ?_⟩
  · obtain ⟨led, -, sameLast, sameInflight⟩ := kept leading
    simp only [sameInflight] at inFlight
    simp only [sameLast]
    exact slotted.recorded led peer inFlight
  · obtain ⟨led, sameTerm, -, sameInflight⟩ := kept leading
    simp only [sameInflight] at inFlight
    exact .inl ((slotted.backed led peer inFlight).called sameTerm)

/-- Calling the engine and dispatching what it asks for backs every slot. -/
theorem Slotted.act
    (slotted : Slotted before)
    (fresh : before.Fresh)
    (unasked : ∀ sender msg now, call = .rpc sender msg now → ¬ msg.IsRequest)
    (notFailure : ∀ target kind, call ≠ .rpcFailure target kind)
    (now : Nat) :
    Slotted (before.act call now) := by
  have requests : ∀ target msg, (target, msg) ∈ outgoing
      (before.engine.call call).1.otherVoters (before.engine.call call).2 →
        msg.IsRequest :=
    fun _ _ inside => (before.engine.call_outcome call).isRequest unasked inside
  have free := (before.engine.call_outcome call).slots_free
  have change := (before.engine.call_outcome call).slotChange
    (before.engine.call call).1.otherVoters
  have isFresh : { before with
      engine := (before.engine.call call).1 }.Fresh := fresh
  refine Dispatching.executeActions isFresh ?_ now
  show Dispatching _ (outgoing (before.engine.call call).1.otherVoters
    (before.engine.call call).2)
  generalize (before.engine.call call).1.otherVoters = others
    at requests change ⊢
  generalize before.engine.call call = result at requests free change ⊢
  cases change with
  | kept _ _ sameRole sameTerm sameLast sameInflight =>
      exact .of_kept slotted requests fun leading =>
        ⟨sameRole.symm.trans leading, sameTerm, sameLast, sameInflight⟩
  | retired _ _ following =>
      exact .of_waiting requests fun leading =>
        Role.noConfusion (following.symm.trans leading)
  | campaigned _ _ _ _ campaigning =>
      exact .of_waiting requests fun leading =>
        Role.noConfusion (campaigning.symm.trans leading)
  | elected _ _ _ campaigning =>
      have waiting : before.engine.role ≠ .leader := fun leading =>
        Role.noConfusion (campaigning.symm.trans leading)
      refine ⟨requests, fun leading peer inFlight => ?_,
        fun leading peer inFlight => ?_⟩
      · simp only [free waiting leading] at inFlight
        exact absurd inFlight (Finset.notMem_empty _)
      · simp only [free waiting leading] at inFlight
        exact absurd inFlight (Finset.notMem_empty _)
  | failed => exact absurd rfl (notFailure _ _)
  | offered _ base _ _ leading stillLeading sameTerm baseTerm sameLast freed
      takes =>
      have fewer : ∀ peer ∈ base.aeInflight, peer ∈ before.engine.aeInflight := by
        intro peer inBase
        rcases freed with same | ⟨_, _, _, _, _, _, -, -, erased⟩
        · rw [← same]
          exact inBase
        · rw [erased] at inBase
          exact Finset.mem_of_mem_erase inBase
      refine .of_takes requests sameTerm baseTerm ?_ ?_ takes
      · intro peer inBase
        rw [sameLast]
        exact slotted.recorded leading peer (fewer peer inBase)
      · exact fun peer inBase => slotted.backed leading peer (fewer peer inBase)

/-- A request can be resolved when its slot is not taken. -/
theorem Slotted.erase
    (slotted : Slotted before)
    (id : Nat)
    (unused : before.engine.role = .leader → ∀ request prev len,
      Offers before id request before.engine.currentTerm prev len →
        request.target ∉ before.engine.aeInflight) :
    Slotted { before with pending := before.pending.erase id } := by
  refine ⟨slotted.recorded, fun leading peer inFlight => ?_⟩
  obtain ⟨other, request, prev, len, offers, isTarget⟩ :=
    slotted.backed leading peer inFlight
  refine ⟨other, request, prev, len, ⟨?_, offers.offer⟩, isTarget⟩
  refine pends_erase.mpr ⟨?_, offers.pends⟩
  rintro rfl
  rw [← isTarget] at inFlight
  exact unused leading request prev len offers inFlight

/-- The reply to an AppendEntries of the current term frees the slot it was
taken for, unless it is of a later term. -/
theorem Slotted.reply
    (slotted : Slotted before)
    (tracked : Tracked before)
    {id : Nat}
    {request : PendingRequest}
    {prev len : Nat}
    (offers : Offers before id request before.engine.currentTerm prev len)
    {replyTerm : Nat}
    (recent : before.engine.currentTerm ≤ replyTerm)
    (success : Bool)
    (matchIndex now : Nat) :
    Slotted (before.settle id request.target
      (.appendEntriesResp replyTerm success matchIndex) now) := by
  have unasked : ∀ sender msg time,
      Call.rpc request.target (.appendEntriesResp replyTerm success matchIndex)
        now = .rpc sender msg time → ¬ msg.IsRequest := by
    rintro _ _ _ ⟨⟩
    exact fun asked => asked
  have erased := tracked.erased id
  by_cases held : before.engine.role = .leader ∧
      request.target ∈ before.engine.aeInflight
  · obtain ⟨leading, inFlight⟩ := held
    have requests : ∀ target msg, (target, msg) ∈ outgoing
        (before.engine.call (.rpc request.target
          (.appendEntriesResp replyTerm success matchIndex) now)).1.otherVoters
        (before.engine.call (.rpc request.target
          (.appendEntriesResp replyTerm success matchIndex) now)).2 →
        msg.IsRequest :=
      fun _ _ inside =>
        (before.engine.call_outcome _).isRequest unasked inside
    have isFresh : { before with
        pending := before.pending.erase id
        engine := (before.engine.call (.rpc request.target
          (.appendEntriesResp replyTerm success matchIndex) now)).1 }.Fresh :=
      erased.fresh
    refine Dispatching.executeActions isFresh ?_ now
    rcases recent.lt_or_eq with newer | rfl
    · refine .of_waiting requests ?_
      have deposed : before.engine.call (.rpc request.target
            (.appendEntriesResp replyTerm success matchIndex) now) =
          before.engine.becomeFollower replyTerm none := by
        simp [RaftEngine.call, RaftEngine.handleRpc,
          RaftEngine.handleAppendEntriesResp, newer]
      simp only [deposed, RaftEngine.becomeFollower_eq]
      exact Role.noConfusion
    · obtain ⟨⟨lastPrev, lastLen⟩, recorded⟩ :=
        Option.ne_none_iff_exists'.mp
          (slotted.recorded leading request.target inFlight)
      obtain ⟨sameTerm, base, baseTerm, sameLast, sameInflight, takes⟩ :=
        before.engine.reply_takes (before.engine.call (.rpc request.target
          (.appendEntriesResp before.engine.currentTerm success matchIndex)
          now)).1.otherVoters leading recorded success matchIndex now
      refine @Dispatching.of_takes
        { before with pending := before.pending.erase id } _ base _ requests
        sameTerm baseTerm ?_ ?_ takes
      · intro peer inBase
        rw [sameInflight] at inBase
        rw [sameLast]
        exact slotted.recorded leading peer (Finset.mem_of_mem_erase inBase)
      · intro peer inBase
        rw [sameInflight] at inBase
        obtain ⟨different, inside⟩ := Finset.mem_erase.mp inBase
        obtain ⟨other, second, secondPrev, secondLen, also, isTarget⟩ :=
          slotted.backed leading peer inside
        refine ⟨other, second, secondPrev, secondLen, ⟨?_, also.offer⟩,
          isTarget⟩
        refine pends_erase.mpr ⟨?_, also.pends⟩
        rintro rfl
        have same := offers.pends.symm.trans also.pends
        rw [Option.some.inj same] at different
        exact different isTarget.symm
  · have free := slotted.erase id (by
      intro leading other prev len also inFlight
      have same := offers.pends.symm.trans also.pends
      rw [Option.some.inj same] at held
      exact held ⟨leading, inFlight⟩)
    exact free.act erased.fresh unasked (fun _ _ => Call.noConfusion) now

/-- A request being handled takes no slot. -/
theorem Slotted.asked
    (slotted : Slotted before)
    (sender : NodeId)
    {msg : RaftMessage}
    (isRequest : msg.IsRequest)
    (now : Nat) :
    Slotted { before with
      engine := (before.engine.call (.rpc sender msg now)).1 } := by
  have change := (before.engine.call_outcome (.rpc sender msg now)).slotChange []
  generalize before.engine.call (.rpc sender msg now) = result at change ⊢
  cases change with
  | kept _ _ sameRole sameTerm sameLast sameInflight =>
      refine ⟨fun leading peer inFlight => ?_, fun leading peer inFlight => ?_⟩
      · simp only [sameRole] at leading
        simp only [sameInflight] at inFlight
        simp only [sameLast]
        exact slotted.recorded leading peer inFlight
      · simp only [sameRole] at leading
        simp only [sameInflight] at inFlight
        exact (slotted.backed leading peer inFlight).called sameTerm
  | retired _ _ following =>
      refine ⟨fun leading => ?_, fun leading => ?_⟩
      · exact Role.noConfusion (following.symm.trans leading)
      · exact Role.noConfusion (following.symm.trans leading)
  | elected => exact absurd isRequest id
  | offered _ _ _ unasked => exact absurd isRequest (unasked _ _ _ rfl)

/-- A reply of its kind and of no earlier term resolves a request. -/
theorem Slotted.settle
    (slotted : Slotted before)
    (tracked : Tracked before)
    {id : Nat}
    {request : PendingRequest}
    (pends : before.Pends id request)
    {msg : RaftMessage}
    (replied : request.msg.RepliedBy msg)
    (now : Nat) :
    Slotted (before.settle id request.target msg now) := by
  by_cases current : ∃ prev len,
      Offers before id request before.engine.currentTerm prev len
  · obtain ⟨prev, len, offers⟩ := current
    have offered := offers.offer
    cases sent : request.msg with
    | appendEntries =>
        rw [sent] at replied offered
        obtain ⟨rfl, -⟩ := Prod.mk.inj (Option.some.inj offered)
        cases msg with
        | appendEntriesResp replyTerm success matchIndex =>
            exact slotted.reply tracked offers replied success matchIndex now
        | requestVote => contradiction
        | requestVoteResp => contradiction
        | appendEntries => contradiction
        | installSnapshot => contradiction
        | installSnapshotResp => contradiction
    | requestVote => simp [sent, RaftMessage.offer] at offered
    | requestVoteResp => simp [sent, RaftMessage.offer] at offered
    | appendEntriesResp => simp [sent, RaftMessage.offer] at offered
    | installSnapshot => simp [sent, RaftMessage.offer] at offered
    | installSnapshotResp => simp [sent, RaftMessage.offer] at offered
  · have free := slotted.erase id fun _ other prev len offers => by
      have same := Option.some.inj (pends.symm.trans offers.pends)
      rw [← same] at offers
      exact absurd ⟨prev, len, offers⟩ current
    refine free.act (tracked.erased id).fresh ?_ (fun _ _ => Call.noConfusion)
      now
    rintro _ _ _ ⟨⟩
    exact RaftMessage.RepliedBy.not_isRequest replied

/-! ## Dropped requests -/

/-- A dropped AppendEntries frees its slot. -/
theorem Slotted.drop
    (slotted : Slotted before)
    (tracked : Tracked before)
    (id : Nat) :
    Slotted (before.drop id) := by
  unfold RaftBehaviour.drop
  cases pends : before.pending.lookup id with
  | none => exact slotted
  | some request =>
      by_cases append : request.kind = .appendEntries
      · simp only [RaftEngine.handleRpcFailure, append, if_true]
        refine ⟨fun leading peer inFlight => ?_,
          fun leading peer inFlight => ?_⟩
        · exact slotted.recorded leading peer
            (Finset.mem_of_mem_erase inFlight)
        · obtain ⟨different, inside⟩ := Finset.mem_erase.mp inFlight
          obtain ⟨other, second, prev, len, offers, isTarget⟩ :=
            slotted.backed leading peer inside
          refine ⟨other, second, prev, len, ⟨?_, offers.offer⟩, isTarget⟩
          refine pends_erase.mpr ⟨?_, offers.pends⟩
          rintro rfl
          have same := pends.symm.trans offers.pends
          rw [Option.some.inj same] at different
          exact different isTarget.symm
      · have unchanged : (before.engine.handleRpcFailure request.target
            request.kind).1 = before.engine := by
          unfold RaftEngine.handleRpcFailure
          rw [if_neg append]
        simp only [unchanged]
        refine slotted.erase id fun leading other prev len offers => ?_
        have same := pends.symm.trans offers.pends
        obtain rfl := Option.some.inj same
        have isRequest := tracked.isRequest id request pends
        rw [tracked.kind id request pends,
          rpcKind_eq_appendEntries isRequest, offers.offer] at append
        exact absurd (Option.some_ne_none _) append

/-! ## Entry points -/

/-- What a handler reports comes from a peer that runs the same code: it sends
requests, and answers one with a reply of its kind and of no earlier term. -/
def SameCode (behaviour : MemoryBehaviour) : EntryPoint → Prop
  | .onConnectionHandlerEvent _ _ (.request _ msg _) _ => msg.IsRequest
  | .onConnectionHandlerEvent _ _ (.response id msg) _ =>
      ∀ request, behaviour.Pends id request → request.msg.RepliedBy msg
  | .onConnectionHandlerEvent _ _ (.failure ..) _ | .propose .. | .dialSeed ..
  | .onSwarmEvent .. | .poll .. => True

instance (behaviour : MemoryBehaviour) :
    (entry : EntryPoint) → Decidable (SameCode behaviour entry)
  | .onConnectionHandlerEvent _ _ (.request _ msg _) _ =>
      inferInstanceAs (Decidable msg.IsRequest)
  | .onConnectionHandlerEvent _ _ (.response id msg) _ =>
      inferInstanceAs (Decidable (∀ request ∈ behaviour.pending.lookup id,
        request.msg.RepliedBy msg))
  | .onConnectionHandlerEvent _ _ (.failure ..) _ | .propose .. | .dialSeed ..
  | .onSwarmEvent .. | .poll .. => inferInstanceAs (Decidable True)

/-- The pending requests of a behaviour, and the slots they back. -/
structure Sound (behaviour : MemoryBehaviour) : Prop where
  tracked : Tracked behaviour
  slotted : Slotted behaviour

namespace Sound

theorem quiet
    (sound : Sound before)
    (quiet : Quiet before after) :
    Sound after :=
  ⟨sound.tracked.quiet quiet, sound.slotted.quiet quiet⟩

/-- The queue and the sleep do not matter. -/
theorem queued
    (sound : Sound before)
    (events : List ToSwarm)
    (sleep : Nat) :
    Sound { before with pendingEvents := events, sleep := sleep } :=
  ⟨⟨sound.tracked.fresh, sound.tracked.isRequest, sound.tracked.kind,
    sound.tracked.mapped⟩, sound.slotted.congr rfl rfl⟩

theorem dropAll
    (sound : Sound before)
    (ids : List Nat) :
    Sound (ids.foldl RaftBehaviour.drop before) := by
  induction ids generalizing before with
  | nil => exact sound
  | cons id ids inductionHypothesis =>
      exact inductionHypothesis
        ⟨sound.tracked.dropped (before.drop_dropped id),
          sound.slotted.drop sound.tracked id⟩

theorem act
    (sound : Sound before)
    (unasked : ∀ sender msg now, call = .rpc sender msg now → ¬ msg.IsRequest)
    (notFailure : ∀ target kind, call ≠ .rpcFailure target kind)
    (now : Nat) :
    Sound (before.act call now) :=
  ⟨sound.tracked.act unasked now,
    sound.slotted.act sound.tracked.fresh unasked notFailure now⟩

theorem onSwarmEvent
    (sound : Sound before)
    (event : FromSwarm)
    (now : Nat) :
    Sound (before.onSwarmEvent event now) := by
  rcases before.onSwarmEvent_cases event now with silent | ⟨peer, silent⟩
  · exact sound.quiet silent.toQuiet
  · exact (sound.dropAll _).quiet silent.toQuiet

theorem expirePending
    (sound : Sound before)
    (now : Nat) :
    Sound (before.expirePending now) :=
  (sound.dropAll _).quiet
    (before.failPendings_silent (before.timedOut now) _ _ now).toQuiet

theorem tickEngine
    (sound : Sound before)
    (now : Nat) :
    Sound (before.tickEngine now) := by
  rcases before.tickEngine_cases now with idle | silent
  · rw [idle]
    exact sound
  · exact (sound.act (fun _ _ _ => Call.noConfusion)
      (fun _ _ => Call.noConfusion) now).quiet silent.toQuiet

theorem pollRound
    (sound : Sound before)
    (now : Nat)
    (elapsed : Bool) :
    Sound (before.pollRound now elapsed).1 := by
  have expired := sound.expirePending now
  have ticked := expired.tickEngine now
  unfold RaftBehaviour.pollRound
  split
  · exact sound.queued _ _
  · simp only
    split
    · exact expired.queued _ _
    · split
      · exact ticked.queued _ _
      · split
        · exact ticked.queued _ _
        · exact ticked

/-- A request is answered on its own channel, and takes no slot. -/
theorem request
    (sound : Sound before)
    (peer : PeerId)
    (conn : ConnectionId)
    (correlationId : Nat)
    {msg : RaftMessage}
    (isRequest : msg.IsRequest)
    (channelId now : Nat) :
    Sound (before.onConnectionHandlerEvent peer conn
      (.request correlationId msg channelId) now) := by
  rcases before.request_cases peer conn correlationId msg channelId now with
    ⟨-, silent⟩ | ⟨sender, -, -, answers⟩
  · exact sound.quiet silent.toQuiet
  · obtain ⟨actions, reply, emitted, -, silent, noBroadcast⟩ :=
      before.engine.request_reply [] sender isRequest now
    have answered := answers actions reply [] emitted silent noBroadcast
    have called : Sound { before with
        engine := (before.engine.call (.rpc sender msg now)).1 } :=
      ⟨sound.tracked.called _, sound.slotted.asked sender isRequest now⟩
    exact (called.queued _ before.sleep).quiet answered

/-- A reply resolves the request it answers. -/
theorem response
    (sound : Sound before)
    (peer : PeerId)
    (conn : ConnectionId)
    (id : Nat)
    {msg : RaftMessage}
    (replied : ∀ request, before.Pends id request → request.msg.RepliedBy msg)
    (now : Nat) :
    Sound (before.onConnectionHandlerEvent peer conn (.response id msg) now) := by
  rcases before.response_cases peer conn id msg now with
    ⟨-, ignored⟩ | ⟨request, pends, silent⟩
  · rw [ignored]
    exact sound
  · have unasked : ∀ sender reply time,
        Call.rpc request.target msg now = .rpc sender reply time →
          ¬ reply.IsRequest := by
      rintro _ _ _ ⟨⟩
      exact RaftMessage.RepliedBy.not_isRequest (replied request pends)
    have settled : Sound (before.settle id request.target msg now) :=
      ⟨(sound.tracked.erased id).act unasked now,
        sound.slotted.settle sound.tracked pends (replied request pends) now⟩
    exact settled.quiet silent.toQuiet

theorem through
    (sound : Sound before)
    (entry : EntryPoint)
    (sameCode : SameCode before entry) :
    Sound (before.through entry) := by
  cases entry with
  | propose data now =>
      exact (sound.act (fun _ _ _ => Call.noConfusion)
        (fun _ _ => Call.noConfusion) now).quiet
        (before.propose_silent data now).toQuiet
  | dialSeed peer now => exact sound.quiet (.dialSeed before peer now)
  | poll now elapsed => exact sound.pollRound now elapsed
  | onSwarmEvent event now => exact sound.onSwarmEvent event now
  | onConnectionHandlerEvent peer conn event now =>
      cases event with
      | request correlationId msg channelId =>
          exact sound.request peer conn correlationId sameCode channelId now
      | response id msg => exact sound.response peer conn id sameCode now
      | failure id error =>
          have silent := before.failure_silent peer conn id error now
          refine Sound.quiet ?_ silent.toQuiet
          cases id with
          | none => exact sound
          | some id => exact sound.dropAll [id]

theorem new
    (config : RaftConfig)
    (storage : MemoryStorage)
    (now : Nat) :
    Sound (RaftBehaviour.new config storage now) := by
  have nonePending : ∀ id request,
      ¬ (RaftBehaviour.new config storage now).Pends id request := by
    intro id request pends
    simp [Pends, RaftBehaviour.new, armSleep] at pends
  exact
    { tracked :=
        { fresh := fun _ _ pends => absurd pends (nonePending _ _)
          isRequest := fun _ _ pends => absurd pends (nonePending _ _)
          kind := fun _ _ pends => absurd pends (nonePending _ _)
          mapped := fun _ _ pends => absurd pends (nonePending _ _) }
      slotted :=
        { recorded := fun leading => Role.noConfusion leading
          backed := fun leading => Role.noConfusion leading } }

/-- A slot of a leader has a pending request. -/
theorem pending
    (sound : Sound before)
    (leading : before.engine.role = .leader)
    {peer : NodeId}
    (inFlight : peer ∈ before.engine.aeInflight) :
    ∃ id request, before.Pends id request ∧ request.target = peer ∧
      request.kind = .appendEntries := by
  obtain ⟨id, request, prev, len, offers, isTarget⟩ :=
    sound.slotted.backed leading peer inFlight
  refine ⟨id, request, offers.pends, isTarget, ?_⟩
  rw [sound.tracked.kind id request offers.pends, rpcKind_eq_appendEntries
    (sound.tracked.isRequest id request offers.pends), offers.offer]
  exact Option.some_ne_none _

end Sound

/-! ## Slots come free -/

/-- A pending request can free a slot: by a failure, by its timeout, and by its
reply, after which only a new request can hold the slot. -/
structure Frees
    (behaviour : MemoryBehaviour)
    (id : Nat)
    (request : PendingRequest) : Prop where
  failed : ∀ error emitEvent now, request.target ∉
    (behaviour.failPending id error emitEvent now).engine.aeInflight
  expired : ∀ now, request.sentAt + behaviour.config.rpcTimeout ≤ now →
    request.target ∉ (behaviour.expirePending now).engine.aeInflight
  replied : ∀ peer conn msg now, request.msg.RepliedBy msg →
    let answered := behaviour.onConnectionHandlerEvent peer conn
      (.response id msg) now
    answered.engine.role = .leader →
      request.target ∈ answered.engine.aeInflight →
      ∃ other second, other ≠ id ∧ answered.Pends other second ∧
        second.target = request.target ∧ second.kind = .appendEntries

theorem drop_frees
    {id : Nat}
    {request : PendingRequest}
    (pends : before.Pends id request)
    (append : request.kind = .appendEntries) :
    request.target ∉ (before.drop id).engine.aeInflight := by
  unfold RaftBehaviour.drop
  rw [pends]
  simp only [RaftEngine.handleRpcFailure, append, if_true]
  exact Finset.notMem_erase _ _

theorem dropAll_frees
    {id : Nat}
    {request : PendingRequest}
    (pends : before.Pends id request)
    (append : request.kind = .appendEntries)
    {ids : List Nat}
    (among : id ∈ ids) :
    request.target ∉ (ids.foldl RaftBehaviour.drop before).engine.aeInflight := by
  induction ids generalizing before with
  | nil => exact absurd among List.not_mem_nil
  | cons first ids inductionHypothesis =>
      by_cases here : id = first
      · subst here
        obtain ⟨aeInflight, fewer, frame⟩ :=
          ((before.drop id).dropAll_dropped ids).failures.frame
        rw [List.foldl_cons, frame]
        exact fun inside => drop_frees pends append (fewer inside)
      · apply inductionHypothesis _ ((List.mem_cons.mp among).resolve_left here)
        exact ((before.drop_dropped first).pending id request).mpr
          ⟨mt List.mem_singleton.mp here, pends⟩

theorem Sound.frees
    (sound : Sound before)
    {id : Nat}
    {request : PendingRequest}
    (pends : before.Pends id request)
    (append : request.kind = .appendEntries) :
    Frees before id request where
  failed error emitEvent now := by
    rw [(before.failPending_silent id error emitEvent now).engine]
    exact drop_frees pends append
  expired now elapsed := by
    unfold RaftBehaviour.expirePending
    rw [(before.failPendings_silent (before.timedOut now) "rpc timeout" false
      now).engine]
    apply dropAll_frees pends append
    unfold RaftBehaviour.timedOut
    refine List.mem_map.mpr ⟨⟨id, request⟩, List.mem_filter.mpr ⟨?_, ?_⟩, rfl⟩
    · exact AList.mem_lookup_iff.mp pends
    · exact decide_eq_true (Nat.le_sub_of_add_le' elapsed)
  replied peer conn msg now replied := by
    intro answered leading inFlight
    have same : ∀ other, before.Pends id other → other = request :=
      fun other also => Option.some.inj (also.symm.trans pends)
    have settled : Sound answered := sound.response peer conn id
      (fun other also => (same other also).symm ▸ replied) now
    obtain ⟨other, second, also, isTarget, kind⟩ :=
      settled.pending leading inFlight
    refine ⟨other, second, ?_, also, isTarget, kind⟩
    rintro rfl
    -- The id of the answered request is erased, and never handed out again.
    rcases before.response_cases peer conn other msg now with
      ⟨absent, -⟩ | ⟨resolved, -, silent⟩
    · rw [pends] at absent
      contradiction
    · have dispatched := executeActions_dispatched
        { before with
          pending := before.pending.erase other
          engine := (before.engine.call
            (.rpc resolved.target msg now)).1 }
        (sound.tracked.erased other).fresh
        (before.engine.call (.rpc resolved.target msg now)).2 now
      rw [Pends, silent.pending] at also
      rcases dispatched.pending other second also with old | posted
      · exact (pends_erase.mp old).1 rfl
      · exact Nat.not_lt.mpr posted.newer
          (sound.tracked.fresh other request pends)

/-- Replication to a peer never wedges: whenever the engine leads and the slot of
a peer is taken, an AppendEntries to the peer is pending that can free it. -/
theorem replication_never_wedges
    (config : RaftConfig)
    (storage : MemoryStorage)
    (start : Nat)
    (entries : List EntryPoint)
    (sameCode : (operation config storage start).Along SameCode entries)
    (leading :
      ((operation config storage start).run entries).engine.role = .leader)
    (peer : NodeId)
    (inFlight : peer ∈
      ((operation config storage start).run entries).engine.aeInflight) :
    ∃ id request,
      ((operation config storage start).run entries).pending.lookup id =
        some request ∧
      request.target = peer ∧ request.kind = .appendEntries ∧
      Frees ((operation config storage start).run entries) id request := by
  have sound : Sound ((operation config storage start).run entries) :=
    (operation config storage start).invariant_along
      (Sound.new config storage start)
      (fun _ entry sound sameCode => sound.through entry sameCode) sameCode
  obtain ⟨id, request, pends, isTarget, append⟩ :=
    sound.pending leading inFlight
  exact ⟨id, request, pends, isTarget, append, sound.frees pends append⟩

/-- Node 1 of two connects to node 2, is elected and proposes a command. -/
def electedAndProposing : List EntryPoint :=
  [.poll 0 false, .onSwarmEvent (.connectionEstablished 12 1) 10, .poll 150 true,
    .onConnectionHandlerEvent 12 1 (.response 1 (.requestVoteResp 1 true)) 151,
    .propose [7] 152]

theorem replication_never_wedges_second :
    ∃ id request,
      ((operation
        { RaftConfig.cfg 1 [1, 2] with seedPeers := [⟨2, 12, []⟩] }
        MemoryStorage.new 0).run electedAndProposing).pending.lookup id =
          some request ∧
      request.target = 2 ∧ request.kind = .appendEntries ∧
      Frees ((operation
        { RaftConfig.cfg 1 [1, 2] with seedPeers := [⟨2, 12, []⟩] }
        MemoryStorage.new 0).run electedAndProposing) id request :=
  replication_never_wedges
    { RaftConfig.cfg 1 [1, 2] with seedPeers := [⟨2, 12, []⟩] }
    MemoryStorage.new 0 electedAndProposing (by decide +kernel)
    (by decide +kernel) 2 (by decide +kernel)

end RaftBehaviour

end Libp2pRaft
