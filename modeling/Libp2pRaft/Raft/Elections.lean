import Libp2pRaft.Raft.Emissions
import Libp2pRaft.Raft.Roles

/-!
# Won elections

A candidate that has the votes of a quorum is the leader when the call that
brought the last vote returns.  `start_election` records the first vote, the own
one, without comparing it with the quorum, so the only voter of a cluster stays
a candidate.
-/

namespace Libp2pRaft

open Consensus TransitionSystem

/-- An action that announces a leadership. -/
def Action.announcesLeader : Action → Bool
  | .becomeLeader _ => true
  | _ => false

namespace RaftEngine

variable {S : Type} [Storage S]

/-- The call is a tick that starts an election. -/
def Campaigns (self : RaftEngine S) : Call → Prop
  | .tick now => self.role ≠ .leader ∧ self.electionDeadline ≤ now
  | _ => False

instance (self : RaftEngine S) (call : Call) :
    Decidable (self.Campaigns call) :=
  match call with
  | .tick now =>
      inferInstanceAs (Decidable (self.role ≠ .leader ∧ _ ≤ now))
  | .propose _ | .rpc .. | .rpcFailure .. => .isFalse id

/-- The call brings the recorded votes to a quorum: a vote response does, and
so does the own vote of a new candidate where one vote is enough. -/
def Wins (self : RaftEngine S) : Call → Prop
  | .rpc sender (.requestVoteResp term true) _ =>
      self.role = .candidate ∧ term = self.currentTerm ∧
        self.membership.quorum ≤ (insert sender self.votes).card
  | call => self.Campaigns call ∧ self.membership.quorum ≤ 1

/-- What a call does about elections: a won one makes the engine leader and is
announced once, and nothing else is announced as one. -/
structure Recognises (engine : RaftEngine S) (call : Call) : Prop where
  leads : engine.Wins call → (engine.call call).1.role = .leader
  announced : engine.Wins call →
    (engine.call call).2.filter Action.announcesLeader =
      [.becomeLeader (engine.call call).1.currentTerm]
  silent : ¬ engine.Wins call →
    (engine.call call).2.filter Action.announcesLeader = []

/-- Every election of a run is recognised when it is won: no candidate has the
votes of a quorum, and between two won elections a new one is started. -/
structure ElectionsRecognised
    (config : RaftConfig)
    (storage : S)
    (start : Nat)
    (calls : List Call) : Prop where
  undecided : ∀ past, past <+: calls →
    ((lifetime config storage start).run past).role = .candidate →
    ((lifetime config storage start).run past).votes.card <
      (Membership.new config.voters).quorum
  recognised : (lifetime config storage start).Along Recognises calls
  separate : ∀ earlier first later second,
    earlier ++ [first] <+: later → later ++ [second] <+: calls →
    ((lifetime config storage start).run earlier).Wins first →
    ((lifetime config storage start).run later).Wins second →
    ∃ between call, earlier ++ [first] <+: between ∧
      between ++ [call] <+: later ++ [second] ∧
      ((lifetime config storage start).run between).Campaigns call

variable {self : RaftEngine S} {call : Call}

theorem call_of_campaigns
    (now : Nat)
    (campaigns : self.Campaigns (.tick now)) :
    self.call (.tick now) = self.startElection now := by
  obtain ⟨waiting, due⟩ := campaigns
  cases role : self.role with
  | leader => contradiction
  | follower =>
      simp [RaftEngine.call, tick, nextDeadline, role, due, Nat.not_lt.mpr due]
  | candidate =>
      simp [RaftEngine.call, tick, nextDeadline, role, due, Nat.not_lt.mpr due]

/-- The deciding vote makes a candidate leader. -/
theorem call_deciding_vote
    {sender : NodeId}
    (now : Nat)
    (campaigning : self.role = .candidate)
    (enough : self.membership.quorum ≤ (insert sender self.votes).card) :
    self.call (.rpc sender (.requestVoteResp self.currentTerm true) now) =
      { self with votes := insert sender self.votes }.becomeLeader
        self.currentTerm now := by
  simp [RaftEngine.call, handleRpc, handleRequestVoteResp, campaigning, enough]

section

variable [LawfulStorage S]

/-- A tick that starts an election is one that announces a candidate. -/
theorem campaigns_iff :
    self.Campaigns call ↔ ∃ term, .becomeCandidate term ∈ (self.call call).2 := by
  constructor
  · intro campaigns
    cases call with
    | tick now =>
        rw [call_of_campaigns now campaigns]
        exact ⟨_, List.mem_cons_self⟩
    | propose => contradiction
    | rpc => contradiction
    | rpcFailure => contradiction
  · rintro ⟨term, announced⟩
    cases (self.call_outcome call).emits announced with
    | candidate now asked waiting due =>
        subst asked
        exact ⟨waiting, due⟩

/-- What does not win an election is not announced as one. -/
theorem not_announced (lost : ¬ self.Wins call) :
    (self.call call).2.filter Action.announcesLeader = [] := by
  rw [List.filter_eq_nil_iff]
  intro action inside announces
  cases (self.call_outcome call).emits inside with
  | leader campaigning leads =>
      obtain ⟨sender, now, rfl, -, enough, -⟩ :=
        (self.call_outcome call).elected_of (by simp [campaigning]) leads
      exact lost ⟨campaigning, rfl, enough⟩
  | follower => contradiction
  | candidate => contradiction
  | voteRequest => contradiction
  | apply => contradiction
  | appendRequest target msg => contradiction
  | voteReply => contradiction
  | appendReply => contradiction

omit [LawfulStorage S] in
/-- Where one vote is not enough, only a vote response decides an election. -/
theorem wins_of_several
    (several : 1 < self.membership.quorum)
    (wins : self.Wins call) :
    self.role = .candidate ∧ ∃ sender now,
      call = .rpc sender (.requestVoteResp self.currentTerm true) now ∧
      self.membership.quorum ≤ (insert sender self.votes).card := by
  unfold Wins at wins
  split at wins
  · obtain ⟨campaigning, rfl, enough⟩ := wins
    exact ⟨campaigning, _, _, rfl, enough⟩
  · omega

theorem recognises
    (several : 1 < self.membership.quorum) :
    self.Recognises call := by
  have elected : self.Wins call →
      (self.call call).2 = [.becomeLeader (self.call call).1.currentTerm] ∧
        (self.call call).1.role = .leader := by
    intro wins
    obtain ⟨campaigning, sender, now, rfl, enough⟩ :=
      wins_of_several several wins
    rw [call_deciding_vote now campaigning enough]
    exact ⟨rfl, rfl⟩
  constructor
  · intro wins
    exact (elected wins).2
  · intro wins
    rw [(elected wins).1]
    rfl
  · exact not_announced

/-! ## Runs -/

variable (config : RaftConfig) (storage : S) (start : Nat)

/-- A step that makes a candidate is a tick that starts an election. -/
theorem campaigns_of_becomes_candidate
    (before : self.role ≠ .candidate)
    (after : (self.call call).1.role = .candidate) :
    self.Campaigns call := by
  rcases (self.call_outcome call).candidate_cases after with
    ⟨campaigning, -⟩ | ⟨now, rfl, waiting, due, -⟩ | ⟨sender, now, -, campaigning, -⟩
  · contradiction
  · exact ⟨waiting, due⟩
  · contradiction

/-- With another voter no candidate has the votes of a quorum. -/
theorem undecided_of_several
    (several : 1 < (Membership.new config.voters).quorum)
    (calls : List Call)
    (campaigning :
      ((lifetime config storage start).run calls).role = .candidate) :
    ((lifetime config storage start).run calls).votes.card <
      (Membership.new config.voters).quorum := by
  induction calls using List.reverseRecOn with
  | nil => contradiction
  | append_singleton calls call inductionHypothesis =>
      have voters := (lifetime_config config storage start calls).2
      rw [System.run_concat] at campaigning ⊢
      generalize (lifetime config storage start).run calls = engine at *
      change (engine.call call).1.role = .candidate at campaigning
      show (engine.call call).1.votes.card < _
      rcases (engine.call_outcome call).candidate_cases campaigning with
        ⟨already, sameVotes, -⟩ | ⟨now, -, -, -, started⟩ |
          ⟨sender, now, rfl, already, counted⟩
      · rw [sameVotes]
        exact inductionHypothesis already
      · rw [started]
        exact several
      · -- With the votes of a quorum the engine would be leader now.
        by_contra enough
        rw [counted, not_lt, ← voters] at enough
        rw [call_deciding_vote now already enough] at campaigning
        contradiction

/-- Where one vote is not enough, every won election is recognised. -/
theorem elections_of_several
    (several : 1 < (Membership.new config.voters).quorum)
    (calls : List Call) :
    ElectionsRecognised config storage start calls := by
  have enough : ∀ past,
      1 < ((lifetime config storage start).run past).membership.quorum := by
    intro past
    rw [(lifetime_config config storage start past).2]
    exact several
  refine ⟨fun past _ => undecided_of_several config storage start several past,
    fun past call _ => recognises (enough past), ?_⟩
  intro earlier first later second isEarlier isLater winsFirst winsSecond
  have leads := (recognises (enough earlier)).leads winsFirst
  obtain ⟨between, call, follows, isPart, off, on⟩ :=
    (lifetime config storage start).exists_step_between
      (fun engine => engine.role = .candidate) isEarlier
      (by
        rw [System.run_concat]
        exact ne_of_eq_of_ne leads (by decide))
      (wins_of_several (enough later) winsSecond).1
  exact ⟨between, call, follows, isPart.trans (List.prefix_append _ _),
    campaigns_of_becomes_candidate off on⟩

/-- Where no election is started, none is won. -/
theorem elections_of_quiet
    {calls : List Call}
    (quiet : (lifetime config storage start).Along
      (fun engine call => ¬ engine.Campaigns call) calls) :
    ElectionsRecognised config storage start calls := by
  have idle : ∀ past, past <+: calls →
      ((lifetime config storage start).run past).role ≠ .candidate := by
    intro past isPast
    refine (lifetime config storage start).invariant_along
      (motive := fun engine => engine.role ≠ .candidate) Role.noConfusion ?_
      (quiet.of_isPrefix isPast)
    intro engine call before silent campaigning
    exact silent (campaigns_of_becomes_candidate before campaigning)
  have lost : ∀ past call, past ++ [call] <+: calls →
      ¬ ((lifetime config storage start).run past).Wins call := by
    intro past call isPast wins
    unfold Wins at wins
    split at wins
    · exact idle past ((List.prefix_append _ _).trans isPast) wins.1
    · exact quiet past _ isPast wins.1
  refine ⟨fun past isPast campaigning => absurd campaigning (idle past isPast),
    ?_, ?_⟩
  · intro past call isPast
    have never := lost past call isPast
    exact ⟨fun wins => absurd wins never, fun wins => absurd wins never,
      not_announced⟩
  · intro earlier first later second isEarlier isLater winsFirst
    exact absurd winsFirst (lost earlier first
      (isEarlier.trans ((List.prefix_append _ _).trans isLater)))

/-- Won elections of a run are recognised, each by its own announcement,
exactly when there is another voter or no election is started: the own vote of
a new candidate is not compared with the quorum. -/
theorem won_elections_recognised
    (voter : config.nodeId ∈ config.voters)
    (calls : List Call) :
    ElectionsRecognised config storage start calls ↔
      (∃ other ∈ config.voters, other ≠ config.nodeId) ∨
        (lifetime config storage start).Along
          (fun engine call => ¬ engine.Campaigns call) calls := by
  rw [← Membership.one_lt_quorum_iff voter]
  constructor
  · intro recognised
    by_contra neither
    rw [not_or] at neither
    obtain ⟨alone, campaigns⟩ := neither
    apply campaigns
    intro past call isPast starts
    have undecided := recognised.undecided _ isPast
    cases call with
    | tick now =>
        -- The new candidate has its own vote, which is a quorum.
        have campaigned : (lifetime config storage start).run
            (past ++ [.tick now]) =
              (((lifetime config storage start).run past).startElection
                now).1 := by
          rw [System.run_concat]
          exact congrArg Prod.fst (call_of_campaigns now starts)
        rw [campaigned] at undecided
        exact alone (undecided rfl)
    | propose => contradiction
    | rpc => contradiction
    | rpcFailure => contradiction
  · rintro (several | quiet)
    · exact elections_of_several config storage start several calls
    · exact elections_of_quiet config storage start quiet

end

/-- The theorem applies to an election among three voters. -/
theorem won_elections_recognised_three :
    ElectionsRecognised (.cfg 1 [1, 2, 3]) MemoryStorage.new 0
      [.tick 150, .rpc 2 (.requestVoteResp 1 true) 160] :=
  (won_elections_recognised (.cfg 1 [1, 2, 3]) MemoryStorage.new 0 (by decide)
    [.tick 150, .rpc 2 (.requestVoteResp 1 true) 160]).mpr
    (.inl ⟨2, by decide, by decide⟩)

/-- The only voter of a cluster has its own vote, which is a quorum, and stays a
candidate. -/
theorem only_voter_stays_candidate :
    ¬ ∀ (config : RaftConfig) (storage : MemoryStorage) (start : Nat)
        (calls : List Call),
      config.nodeId ∈ config.voters →
        ElectionsRecognised config storage start calls := by
  intro recognised
  have undecided := (recognised (.cfg 1 [1]) .new 0 [.tick 150]
    (by decide)).undecided [.tick 150] (List.prefix_refl _)
  revert undecided
  decide +kernel

end RaftEngine

end Libp2pRaft
