import Libp2pRaft.Raft.IndexBounds

/-!
# Term and vote under arbitrary messages

Every sum of the engine stays in the range of `u64`, and term and vote only
move forwards, until an election starts in the last term.
-/

namespace Libp2pRaft

open Consensus TransitionSystem

/-- A later term, or the same term and no vote taken back. -/
def HardState.Precedes (before after : HardState) : Prop :=
  before.currentTerm ≤ after.currentTerm ∧
    (before.currentTerm = after.currentTerm →
      ∀ candidate, before.votedFor = some candidate →
        after.votedFor = some candidate)

namespace HardState.Precedes

theorem refl (hardState : HardState) : hardState.Precedes hardState :=
  ⟨le_rfl, fun _ _ voted => voted⟩

theorem trans
    {first second third : HardState}
    (earlier : first.Precedes second)
    (later : second.Precedes third) :
    first.Precedes third := by
  refine ⟨earlier.1.trans later.1, fun sameTerm candidate voted => ?_⟩
  have sameFirst : first.currentTerm = second.currentTerm :=
    le_antisymm earlier.1 (sameTerm ▸ later.1)
  exact later.2 (sameFirst.symm.trans sameTerm) candidate
    (earlier.2 sameFirst candidate voted)

/-- A later term says nothing about the vote. -/
theorem of_lt
    {before after : HardState}
    (newer : before.currentTerm < after.currentTerm) :
    before.Precedes after :=
  ⟨newer.le, fun sameTerm => absurd sameTerm newer.ne⟩

end HardState.Precedes

namespace RaftEngine

/-- An election starts in the last term there is. -/
def CampaignsInLastTerm (self : MemoryEngine) : Call → Prop
  | .tick now =>
      self.role ≠ .leader ∧ self.electionDeadline ≤ now ∧
        self.currentTerm = u64Max
  | .propose _ | .rpc .. | .rpcFailure .. => False

instance (self : MemoryEngine) :
    (call : Call) → Decidable (self.CampaignsInLastTerm call)
  | .tick _ => inferInstanceAs (Decidable (_ ∧ _))
  | .propose _ | .rpc .. | .rpcFailure .. => inferInstanceAs (Decidable False)

variable {self : MemoryEngine} {call : Call}
  {result : MemoryEngine × List Action}

/-! ## Term and vote across a call -/

theorem precedes_of_view_eq
    {before after : MemoryEngine}
    (same : after.view = before.view) :
    before.storage.hardState.Precedes after.storage.hardState := by
  have sameTerm := congrArg View.term same
  have sameVote := congrArg View.vote same
  simp only [view_term, view_vote] at sameTerm sameVote
  exact ⟨sameTerm.ge, fun _ _ voted => sameVote.trans voted⟩

/-- An engine that enters a term has a later one, or is left as it was. -/
theorem precedes_enterTerm
    (self : MemoryEngine)
    (term : Nat) :
    self.storage.hardState.Precedes
      (self.enterTerm term).1.storage.hardState := by
  by_cases newer : self.currentTerm < term
  · have entered := congrArg View.term (self.view_enterTerm term)
    rw [if_pos newer] at entered
    exact .of_lt (newer.trans_eq entered.symm)
  · rw [show self.enterTerm term = (self, []) from if_neg newer]
    exact .refl _

theorem precedes_follow
    (self : MemoryEngine)
    (term : Nat)
    (leaderId : NodeId)
    (now : Nat) :
    self.storage.hardState.Precedes
      (self.follow term leaderId now).1.storage.hardState := by
  have followed := self.view_follow term leaderId now
  by_cases newer : self.currentTerm < term
  · rw [if_pos newer] at followed
    exact .of_lt (newer.trans_eq (congrArg View.term followed).symm)
  · rw [if_neg newer] at followed
    have sameTerm := congrArg View.term followed
    have sameVote := congrArg View.vote followed
    exact ⟨sameTerm.ge, fun _ _ voted => sameVote.trans voted⟩

/-- No call moves term and vote backwards, unless it starts an election in the
last term. -/
theorem Outcome.precedes
    (outcome : Outcome self call result)
    (inRange : self.currentTerm < 2 ^ 64)
    (calm : ¬ self.CampaignsInLastTerm call) :
    self.storage.hardState.Precedes result.1.storage.hardState := by
  cases outcome with
  | ignored => exact .refl _
  | campaigned now waiting due =>
      have below : self.currentTerm < u64Max := by
        have notLast : self.currentTerm ≠ u64Max := fun last =>
          calm ⟨waiting, due, last⟩
        unfold u64Max at notLast ⊢
        omega
      have nextTerm := congrArg View.term (self.view_startElection now)
      simp only [view_term, wrappingSucc_of_lt below] at nextTerm
      exact .of_lt (Nat.lt_of_succ_le nextTerm.ge)
  | heartbeat => exact precedes_of_view_eq self.view_replicateActions
  | proposed data =>
      have written := self.view_appendCommand data
      have kept := (self.appendCommand data).view_replicateActions
      exact .trans
        ⟨(congrArg View.term written).ge,
          fun _ _ voted => (congrArg View.vote written).trans voted⟩
        (precedes_of_view_eq kept)
  | failed => exact .refl _
  | voteStale => exact .refl _
  | voteRefused sender term => exact precedes_enterTerm self term
  | voteGranted sender term candidateId lastLogIndex lastLogTerm now recent
      grants =>
      apply (precedes_enterTerm self term).trans
      refine ⟨Nat.le_max_right _ _, fun _ candidate voted => ?_⟩
      rcases grants.1 with unvoted | same
      · rw [MemoryStorage.storage_hardState] at unvoted
        rw [unvoted] at voted
        contradiction
      · exact same.symm.trans voted
  | deposed sender msg now term reply newer =>
      have stepped := self.view_becomeFollower term none
      rw [if_pos newer] at stepped
      exact .of_lt (newer.trans_eq (congrArg View.term stepped).symm)
  | counted => exact .refl _
  | elected => exact .refl _
  | appendStale => exact .refl _
  | appendRefused sender term leaderId prevLogIndex prevLogTerm entries
      leaderCommit now =>
      exact precedes_follow self term leaderId now
  | appendAccepted sender term leaderId prevLogIndex prevLogTerm entries
      leaderCommit now recent agreed stored storedEq =>
      have kept := hardState_storeEntries (self.follow term leaderId now).1
        prevLogIndex entries
      rw [← storedEq] at kept
      have followed := precedes_follow self term leaderId now
      rw [← kept] at followed
      exact followed.trans
        (precedes_of_view_eq (stored.view_advanceCommitAndApply _ _))
  | matched sender matchIndex now reqPrev reqLen =>
      exact precedes_of_view_eq
        (view_handleAppendSuccess _ sender reqPrev reqLen)
  | unmatched sender matchIndex now reqPrev reqLen =>
      exact precedes_of_view_eq (view_handleAppendReject _ sender reqPrev)

/-! ## Runs -/

/-- No sum of a run overflows, the term never decreases, and a vote is kept as
long as its term lasts. -/
structure MovesForward
    (config : RaftConfig)
    (storage : MemoryStorage)
    (now : Nat)
    (calls : List Call) : Prop where
  inRange : (lifetime config storage now).Along
    (fun engine call => InRange (engine.sums call)) calls
  termGrows : ∀ past later, past <+: later → later <+: calls →
    ((lifetime config storage now).run past).currentTerm ≤
      ((lifetime config storage now).run later).currentTerm
  voteKept : ∀ past later, past <+: later → later <+: calls →
    ((lifetime config storage now).run past).currentTerm =
      ((lifetime config storage now).run later).currentTerm →
    ∀ candidate,
      ((lifetime config storage now).run past).storage.hardState.votedFor =
        some candidate →
      ((lifetime config storage now).run later).storage.hardState.votedFor =
        some candidate

/-- An election in the last term has no next one. -/
theorem CampaignsInLastTerm.not_inRange
    (ends : self.CampaignsInLastTerm call) :
    ¬ InRange (self.sums call) := by
  intro inRange
  cases call with
  | tick now =>
      obtain ⟨waiting, due, last⟩ := ends
      have overflow : self.currentTerm + 1 ∈ self.sums (.tick now) := by
        unfold sums tickSums
        cases role : self.role with
        | leader => exact absurd role waiting
        | follower => simp [nextDeadline, role, due.not_gt, due, startElectionSums]
        | candidate => simp [nextDeadline, role, due.not_gt, due, startElectionSums]
      have small := inRange _ overflow
      unfold u64Max at last
      omega
  | propose => contradiction
  | rpc => contradiction
  | rpcFailure => contradiction

/-- Whatever decodable messages arrive, a run moves forward if and only if it
starts no election in the last term. -/
theorem hard_state_moves_forward
    (config : RaftConfig)
    (storage : MemoryStorage)
    (now : Nat)
    (typed : storage.hardState.currentTerm < 2 ^ 64)
    (calls : List Call)
    (received : (lifetime config storage now).Along Received calls) :
    MovesForward config storage now calls ↔
      (lifetime config storage now).Along
        (fun engine call => ¬ engine.CampaignsInLastTerm call) calls := by
  have bounded := received.and_invariant (Bounded.new config storage now typed)
    (fun _ _ bounded received => bounded.step received)
  constructor
  · intro forward past call isPast ends
    exact ends.not_inRange (forward.inRange past call isPast)
  · intro calm
    have related : ∀ past later, past <+: later → later <+: calls →
        ((lifetime config storage now).run past).storage.hardState.Precedes
          ((lifetime config storage now).run later).storage.hardState := by
      intro past later isPast isLater
      have steps : (lifetime config storage now).Along
          (fun engine call =>
            engine.Bounded ∧ ¬ engine.CampaignsInLastTerm call) later :=
        fun earlier call isEarlier =>
          ⟨(bounded earlier call (isEarlier.trans isLater)).1,
            calm earlier call (isEarlier.trans isLater)⟩
      apply (lifetime config storage now).related_along
        (fun before after => HardState.Precedes before.storage.hardState
          after.storage.hardState)
        (fun _ => .refl _) .trans _ isPast steps
      rintro engine call ⟨bounded, calm⟩
      exact (engine.call_outcome call).precedes bounded.term calm
    refine ⟨fun past call isPast => ?_,
      fun past later isPast isLater => (related past later isPast isLater).1,
      fun past later isPast isLater =>
        (related past later isPast isLater).2⟩
    obtain ⟨within, admitted⟩ := bounded past call isPast
    apply within.inRange admitted
    rintro now rfl waiting due
    have notLast : ((lifetime config storage _).run past).currentTerm ≠
        u64Max := fun last =>
      calm past (.tick now) isPast ⟨waiting, due, last⟩
    have small := within.term
    unfold u64Max at notLast
    omega

/-- A vote request in a given term, decoded from a frame. -/
def voteRequest (term : Nat) : Call :=
  .rpc 2 (.requestVote term 2 0 0) 0

theorem received_voteRequest
    (self : MemoryEngine)
    (empty : self.storage.entries = [])
    {term : Nat}
    (typed : term < 2 ^ 64) :
    self.Received (voteRequest term) := by
  refine ⟨by rw [empty]; decide, ?_⟩
  rintro _ _ _ ⟨⟩
  apply RaftMessage.decodable
  · simp only [RaftMessage.Typed, RaftMessage.numbers, List.forall_mem_cons]
    exact ⟨typed, by decide, by decide, by decide,
      fun _ inside => absurd inside List.not_mem_nil⟩
  · simp [Bincode.serialize, Bincode.message, Bincode.u64, Bincode.u32,
      Binary.length_littleEndian]

theorem received_tick
    (self : MemoryEngine)
    (empty : self.storage.entries = [])
    (now : Nat) :
    self.Received (.tick now) := by
  refine ⟨by rw [empty]; decide, ?_⟩
  rintro _ _ _ ⟨⟩

/-- A node votes, hears from no leader, and starts an election. -/
theorem received_voteRequest_tick
    {term : Nat}
    (typed : term < 2 ^ 64)
    (empty : ((lifetime (.cfg 1 [1, 2, 3]) MemoryStorage.new 0).run
      [voteRequest term]).storage.entries = [])
    (now : Nat) :
    (lifetime (.cfg 1 [1, 2, 3]) MemoryStorage.new 0).Along Received
      [voteRequest term, .tick now] := by
  rw [show [voteRequest term, Call.tick now] =
    [] ++ [voteRequest term] ++ [.tick now] from rfl,
    System.along_concat, System.along_concat]
  exact ⟨⟨System.along_nil _, received_voteRequest _ rfl typed⟩,
    received_tick _ empty now⟩

theorem hard_state_moves_forward_vote :
    MovesForward (.cfg 1 [1, 2, 3]) MemoryStorage.new 0
      [voteRequest 7, .tick 150] := by
  apply (hard_state_moves_forward (.cfg 1 [1, 2, 3]) MemoryStorage.new 0
    (by decide) [voteRequest 7, .tick 150]
    (received_voteRequest_tick (by decide) (by decide) 150)).mpr
  decide

/-- A vote request in the last term, then an election: the next term is `0`. -/
theorem last_term_wraps :
    ¬ ∀ (config : RaftConfig) (storage : MemoryStorage) (now : Nat),
      storage.hardState.currentTerm < 2 ^ 64 → ∀ calls,
      (lifetime config storage now).Along Received calls →
      MovesForward config storage now calls := by
  intro always
  have forward := always (.cfg 1 [1, 2, 3]) MemoryStorage.new 0 (by decide)
    [voteRequest u64Max, .tick 150]
    (received_voteRequest_tick (by decide) (by decide) 150)
  have grows := forward.termGrows [voteRequest u64Max]
    [voteRequest u64Max, .tick 150] (List.prefix_append [voteRequest u64Max] [.tick 150])
    (List.prefix_refl _)
  revert grows
  decide

end RaftEngine

end Libp2pRaft
