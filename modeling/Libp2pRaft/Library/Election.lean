import Libp2pRaft.Library.History

/-!
# Election safety

A node votes at most once in a term, a leader has the votes of a majority, and
two majorities meet, so a term has at most one leader.  The logs of that leader
form a chain.  Nothing here depends on the logs, terms and votes the nodes
start with, only on every node starting as a follower.
-/

namespace Consensus

variable {ν ε : Type} [DecidableEq ν] [Tagged ε]

variable {voters : Finset ν} {start : ν → View ν ε} {history : History ν ε}
  {node other : ν} {view next earlier later : View ν ε}

/-- Every node starts as a follower. -/
def StartsFollowing (start : ν → View ν ε) : Prop :=
  ∀ node, (start node).standing = .follower

/-- A relation between the views of one node holds of any two of them when it
is reflexive and symmetric and relates every view to a later one. -/
theorem Valid.pairwise
    (related : ν → View ν ε → View ν ε → Prop)
    (reflexive : ∀ node view, related node view view)
    (symmetric : ∀ node first second,
      related node first second → related node second first)
    (newest : ∀ history node next, Valid voters start history →
      Step voters start history node next →
      ∀ view, Seen start history node view → related node view next)
    (valid : Valid voters start history)
    (firstSeen : Seen start history node earlier)
    (secondSeen : Seen start history node later) :
    related node earlier later := by
  induction valid with
  | nil =>
      simp only [Seen, List.not_mem_nil, or_false] at firstSeen secondSeen
      rw [firstSeen, secondSeen]
      exact reflexive _ _
  | cons valid step inductionHypothesis =>
      rcases seen_cons.mp firstSeen with firstOld | ⟨rfl, rfl⟩
      · rcases seen_cons.mp secondSeen with secondOld | ⟨rfl, rfl⟩
        · exact inductionHypothesis firstOld secondOld
        · exact newest _ _ _ valid step _ firstOld
      · rcases seen_cons.mp secondSeen with secondOld | ⟨-, rfl⟩
        · exact symmetric _ _ _ (newest _ _ _ valid step _ secondOld)
        · exact reflexive _ _

/-- The newest view has the largest term of its node. -/
theorem Valid.term_le_current
    (valid : Valid voters start history)
    (seen : Seen start history node view) :
    view.term ≤ (current start history node).term := by
  induction valid with
  | nil =>
      simp only [Seen, List.not_mem_nil, or_false] at seen
      rw [seen]
      exact le_rfl
  | @cons history actor next valid step inductionHypothesis =>
      rcases seen_cons.mp seen with old | ⟨rfl, rfl⟩
      · by_cases same : node = actor
        · subst same
          rw [current_cons_self]
          exact (inductionHypothesis old).trans step.term_le
        · rw [current_cons_of_ne same]
          exact inductionHypothesis old
      · rw [current_cons_self]

/-- A vote is still shown as long as the node stays in the term. -/
theorem Valid.vote_current
    (valid : Valid voters start history)
    (seen : Seen start history node view)
    {candidate : ν}
    (voted : view.vote = some candidate)
    (sameTerm : (current start history node).term = view.term) :
    (current start history node).vote = some candidate := by
  induction valid with
  | nil =>
      simp only [Seen, List.not_mem_nil, or_false] at seen
      rw [current, ← seen]
      exact voted
  | @cons history actor next valid step inductionHypothesis =>
      rcases seen_cons.mp seen with old | ⟨rfl, rfl⟩
      · by_cases same : node = actor
        · subst same
          rw [current_cons_self] at sameTerm ⊢
          have between := valid.term_le_current old
          have after := step.term_le
          exact step.vote_eq (by omega)
            (inductionHypothesis old (by omega))
        · rw [current_cons_of_ne same] at sameTerm ⊢
          exact inductionHypothesis old sameTerm
      · rw [current_cons_self]
        exact voted

/-- A node votes for at most one candidate in a term. -/
theorem Valid.vote_unique
    (valid : Valid voters start history)
    (firstSeen : Seen start history node earlier)
    (secondSeen : Seen start history node later)
    (sameTerm : earlier.term = later.term)
    {first second : ν}
    (firstVote : earlier.vote = some first)
    (secondVote : later.vote = some second) :
    first = second := by
  suffices related : earlier.term = later.term → ∀ first second,
      earlier.vote = some first → later.vote = some second → first = second by
    exact related sameTerm first second firstVote secondVote
  refine Valid.pairwise
    (fun _ earlier later => earlier.term = later.term →
      ∀ first second, earlier.vote = some first →
        later.vote = some second → first = second)
    ?_ ?_ ?_ valid firstSeen secondSeen
  · intro node view _ first second firstVote secondVote
    exact Option.some.inj (firstVote.symm.trans secondVote)
  · intro node one two holds same first second firstVote secondVote
    exact (holds same.symm second first secondVote firstVote).symm
  · intro history node next valid step view seen same first second
      firstVote secondVote
    have below := valid.term_le_current seen
    have above := step.term_le
    have kept := step.vote_eq (by omega)
      (valid.vote_current seen firstVote (by omega))
    exact Option.some.inj (kept.symm.trans secondVote)

/-- A step to a candidate is a campaign for a later term. -/
theorem Step.candidate_newer
    (step : Step voters start history node next)
    (standing : next.standing = .candidate) :
    (current start history node).term < next.term ∧
      next.vote = some node ∧
      next.log = (current start history node).log := by
  cases step with
  | campaign term newer => exact ⟨newer, rfl, rfl⟩
  | append entry leading => simp [leading] at standing
  | accept leader sent prev seen leading same following =>
      simp [following] at standing
  | settle => simp at standing
  | adopt => simp at standing
  | grant => simp at standing
  | elect => simp at standing

/-- A step to a leader wins an election or appends to a leader's log. -/
theorem Step.leader_cases
    (step : Step voters start history node next)
    (standing : next.standing = .leader) :
    next.term = (current start history node).term ∧
      next.vote = (current start history node).vote ∧
      (((current start history node).standing = .candidate ∧
          next.log = (current start history node).log ∧
          ∃ supporters, Majority voters supporters ∧
            ∀ supporter ∈ supporters, ∃ voted,
              Seen start history supporter voted ∧
                voted.term = next.term ∧ voted.vote = some node) ∨
        ((current start history node).standing = .leader ∧
          ∃ entry, Tagged.term entry = next.term ∧
            next.log = (current start history node).log ++ [entry])) := by
  cases step with
  | elect supporters majority campaigning votes =>
      exact ⟨rfl, rfl, .inl ⟨campaigning, rfl, supporters, majority, votes⟩⟩
  | append entry leading ownTerm =>
      exact ⟨rfl, rfl, .inr ⟨leading, entry, ownTerm, rfl⟩⟩
  | accept leader sent prev seen leading same following =>
      simp [following] at standing
  | settle => simp at standing
  | adopt => simp at standing
  | campaign => simp at standing
  | grant => simp at standing

section

variable (following : StartsFollowing start)

include following

/-- A leader was elected by a majority of the voters. -/
theorem Valid.elected
    (valid : Valid voters start history)
    (seen : Seen start history node view)
    (leading : view.standing = .leader) :
    ∃ supporters, Majority voters supporters ∧
      ∀ supporter ∈ supporters, ∃ voted,
        Seen start history supporter voted ∧
          voted.term = view.term ∧ voted.vote = some node := by
  induction valid generalizing view with
  | nil =>
      simp only [Seen, List.not_mem_nil, or_false] at seen
      rw [seen, following node] at leading
      contradiction
  | @cons history actor next valid step inductionHypothesis =>
      have weaken : ∀ {term : Nat}, (∃ supporters, Majority voters supporters ∧
            ∀ supporter ∈ supporters, ∃ voted,
              Seen start history supporter voted ∧
                voted.term = term ∧ voted.vote = some node) →
          ∃ supporters, Majority voters supporters ∧
            ∀ supporter ∈ supporters, ∃ voted,
              Seen start ((actor, next) :: history) supporter voted ∧
                voted.term = term ∧ voted.vote = some node := by
        rintro term ⟨supporters, majority, votes⟩
        refine ⟨supporters, majority, fun supporter inside => ?_⟩
        obtain ⟨voted, shown, rest⟩ := votes supporter inside
        exact ⟨voted, shown.cons, rest⟩
      rcases seen_cons.mp seen with old | ⟨rfl, rfl⟩
      · exact weaken (inductionHypothesis old leading)
      · obtain ⟨sameTerm, -, won | ⟨stillLeading, -⟩⟩ := step.leader_cases leading
        · exact weaken won.2.2
        · rw [sameTerm]
          exact weaken
            (inductionHypothesis (seen_current history node) stillLeading)

/-- A term has at most one leader. -/
theorem Valid.election_safety
    (valid : Valid voters start history)
    (firstSeen : Seen start history node earlier)
    (secondSeen : Seen start history other later)
    (firstLeading : earlier.standing = .leader)
    (secondLeading : later.standing = .leader)
    (sameTerm : earlier.term = later.term) :
    node = other := by
  obtain ⟨first, firstMajority, firstVotes⟩ :=
    valid.elected following firstSeen firstLeading
  obtain ⟨second, secondMajority, secondVotes⟩ :=
    valid.elected following secondSeen secondLeading
  obtain ⟨voter, inFirst, inSecond⟩ := firstMajority.meet secondMajority
  obtain ⟨_, seenFirst, termFirst, voteFirst⟩ := firstVotes voter inFirst
  obtain ⟨_, seenSecond, termSecond, voteSecond⟩ := secondVotes voter inSecond
  exact valid.vote_unique seenFirst seenSecond
    (by rw [termFirst, termSecond, sameTerm]) voteFirst voteSecond

/-- A node shows one candidate view in a term. -/
theorem Valid.candidate_unique
    (valid : Valid voters start history)
    (firstSeen : Seen start history node earlier)
    (secondSeen : Seen start history node later)
    (firstStanding : earlier.standing = .candidate)
    (secondStanding : later.standing = .candidate)
    (sameTerm : earlier.term = later.term) :
    earlier = later := by
  induction valid with
  | nil =>
      simp only [Seen, List.not_mem_nil, or_false] at firstSeen
      rw [firstSeen, following node] at firstStanding
      contradiction
  | @cons history actor next valid step inductionHypothesis =>
      rcases seen_cons.mp firstSeen with firstOld | ⟨rfl, rfl⟩
      · rcases seen_cons.mp secondSeen with secondOld | ⟨rfl, rfl⟩
        · exact inductionHypothesis firstOld secondOld
        · have newer := (step.candidate_newer secondStanding).1
          have below := valid.term_le_current firstOld
          omega
      · rcases seen_cons.mp secondSeen with secondOld | ⟨-, rfl⟩
        · have newer := (step.candidate_newer firstStanding).1
          have below := valid.term_le_current secondOld
          omega
        · rfl

/-- A node that campaigns in a term has not led that term before. -/
theorem Valid.not_led_of_candidate
    (valid : Valid voters start history)
    (campaigning : (current start history node).standing = .candidate)
    (seen : Seen start history node view)
    (sameTerm : view.term = (current start history node).term) :
    view.standing ≠ .leader := by
  induction valid with
  | nil =>
      rw [current, following node] at campaigning
      contradiction
  | @cons history actor next valid step inductionHypothesis =>
      by_cases same : node = actor
      · subst same
        rw [current_cons_self] at campaigning sameTerm
        rcases seen_cons.mp seen with old | ⟨-, rfl⟩
        · have newer := (step.candidate_newer campaigning).1
          have below := valid.term_le_current old
          omega
        · simp [campaigning]
      · rw [current_cons_of_ne same] at campaigning sameTerm
        rcases seen_cons.mp seen with old | ⟨rfl, -⟩
        · exact inductionHypothesis campaigning old sameTerm
        · exact absurd rfl same

/-- The log of a leader extends every log it held as candidate or leader of
the same term. -/
theorem Valid.prefix_of_leader
    (valid : Valid voters start history)
    (leading : (current start history node).standing = .leader)
    (seen : Seen start history node view)
    (active : view.standing ≠ .follower)
    (sameTerm : view.term = (current start history node).term) :
    view.log <+: (current start history node).log := by
  induction valid with
  | nil =>
      rw [current, following node] at leading
      contradiction
  | @cons history actor next valid step inductionHypothesis =>
      by_cases same : node = actor
      · subst same
        rw [current_cons_self] at leading sameTerm ⊢
        rcases seen_cons.mp seen with old | ⟨-, rfl⟩
        · obtain ⟨termEq, -, won | ⟨stillLeading, entry, -, grown⟩⟩ :=
            step.leader_cases leading
          · obtain ⟨campaigning, sameLog, -⟩ := won
            have notLeading := valid.not_led_of_candidate following
              campaigning old (sameTerm.trans termEq)
            have standing : view.standing = .candidate := by
              cases shown : view.standing with
              | follower => exact absurd shown active
              | candidate => rfl
              | leader => exact absurd shown notLeading
            rw [sameLog, valid.candidate_unique following old
              (seen_current history node) standing campaigning
              (sameTerm.trans termEq)]
          · rw [grown]
            exact (inductionHypothesis stillLeading old
              (sameTerm.trans termEq)).trans (List.prefix_append _ _)
        · exact List.prefix_refl _
      · rw [current_cons_of_ne same] at leading sameTerm ⊢
        rcases seen_cons.mp seen with old | ⟨rfl, -⟩
        · exact inductionHypothesis leading old sameTerm
        · exact absurd rfl same

/-- A step to a leader extends the logs held in the term before. -/
theorem Valid.prefix_of_step
    (valid : Valid voters start history)
    (step : Step voters start history node next)
    (leading : next.standing = .leader)
    (seen : Seen start history node view)
    (active : view.standing ≠ .follower)
    (sameTerm : view.term = next.term) :
    view.log <+: next.log := by
  have shown : current start ((node, next) :: history) node = next :=
    current_cons_self
  have extended := (valid.cons step).prefix_of_leader following
    (by rw [shown]; exact leading) seen.cons active
    (by rw [shown]; exact sameTerm)
  rwa [shown] at extended

/-- The logs of one term's leader form a chain. -/
theorem Valid.led_comparable
    (valid : Valid voters start history)
    {term : Nat}
    {log longer : List ε}
    (led : Led start history term log)
    (alsoLed : Led start history term longer) :
    Comparable log longer := by
  obtain ⟨leader, first, firstSeen, firstLeading, firstTerm, rfl⟩ := led
  obtain ⟨also, second, secondSeen, secondLeading, secondTerm, rfl⟩ := alsoLed
  have sameNode := valid.election_safety following firstSeen secondSeen
    firstLeading secondLeading (firstTerm.trans secondTerm.symm)
  subst sameNode
  refine Valid.pairwise
    (fun _ first second => first.standing = .leader →
      second.standing = .leader → first.term = second.term →
      Comparable first.log second.log)
    ?_ ?_ ?_ valid firstSeen secondSeen firstLeading secondLeading
    (firstTerm.trans secondTerm.symm)
  · exact fun _ _ _ _ _ => .inl (List.prefix_refl _)
  · exact fun _ _ _ holds one two same => (holds two one same.symm).symm
  · intro history node next valid step view seen viewLeading nextLeading same
    left
    exact valid.prefix_of_step following step nextLeading seen
      (by simp [viewLeading]) same

end

end Consensus
