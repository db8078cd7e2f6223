import Libp2pRaft.Library.LogMatching

/-!
# Leader completeness

An entry that a majority held in its own term is in the log of every later
leader.  The induction is on the term of the later leader.  What carries it is
stated per voter and needs no majority: an entry a node held in the entry's
term is still in its log, and in the log of every candidate it then votes for,
unless a leader of a term in between missed it.
-/

namespace Consensus

variable {ν ε : Type} [DecidableEq ν] [Tagged ε]

variable {voters : Finset ν} {start : ν → View ν ε} {history : History ν ε}
  {node : ν} {view next held : View ν ε} {low high position : Nat} {entry : ε}

/-- A leader of a term strictly between two others missed an entry. -/
def Missed
    (start : ν → View ν ε)
    (history : History ν ε)
    (low high position : Nat)
    (entry : ε) : Prop :=
  ∃ term log, low < term ∧ term < high ∧ Led start history term log ∧
    log[position]? ≠ some entry

omit [DecidableEq ν] [Tagged ε] in
theorem Missed.cons
    (missed : Missed start history low high position entry) :
    Missed start ((node, next) :: history) low high position entry := by
  obtain ⟨term, log, above, below, led, absent⟩ := missed
  exact ⟨term, log, above, below, led.cons, absent⟩

omit [DecidableEq ν] [Tagged ε] in
theorem Missed.mono
    (missed : Missed start history low high position entry)
    {higher : Nat}
    (order : high ≤ higher) :
    Missed start history low higher position entry := by
  obtain ⟨term, log, above, below, led, absent⟩ := missed
  exact ⟨term, log, above, below.trans_le order, led, absent⟩

/-- A view holds an entry in the entry's own term. -/
structure HoldsOwn (view : View ν ε) (position : Nat) (entry : ε) : Prop where
  stored : view.log[position]? = some entry
  ownTerm : Tagged.term entry = view.term

/-- How a step comes to show a vote. -/
theorem Step.vote_cases
    (step : Step voters start history node next)
    {candidate : ν}
    (voted : next.vote = some candidate) :
    (next.term = (current start history node).term ∧
        (current start history node).vote = some candidate) ∨
      (candidate = node ∧ next.standing = .candidate) ∨
      (next.term = (current start history node).term ∧
        ∃ asked, Seen start history candidate asked ∧
          asked.standing = .candidate ∧ asked.term = next.term ∧
          UpToDate asked.log (current start history node).log) := by
  cases step with
  | settle => exact .inl ⟨rfl, voted⟩
  | adopt => simp at voted
  | campaign =>
      simp only [Option.some.injEq] at voted
      exact .inr (.inl ⟨voted.symm, rfl⟩)
  | grant other asked seen standing sameTerm free upToDate =>
      simp only [Option.some.injEq] at voted
      subst voted
      exact .inr (.inr ⟨rfl, asked, seen, standing, sameTerm, upToDate⟩)
  | elect => exact .inl ⟨rfl, voted⟩
  | append => exact .inl ⟨rfl, voted⟩
  | accept => exact .inl ⟨rfl, voted⟩

section

variable (empty : StartsEmpty start)

include empty

/-- A vote names a node that campaigned in the term of the vote. -/
theorem Valid.campaigned
    (valid : Valid voters start history)
    (seen : Seen start history node view)
    {candidate : ν}
    (voted : view.vote = some candidate) :
    ∃ asked, Seen start history candidate asked ∧
      asked.standing = .candidate ∧ asked.term = view.term := by
  induction valid generalizing node view with
  | nil =>
      simp only [Seen, List.not_mem_nil, or_false] at seen
      rw [seen, empty.unvoted node] at voted
      contradiction
  | @cons history actor next valid step inductionHypothesis =>
      rcases seen_cons.mp seen with old | ⟨rfl, rfl⟩
      · obtain ⟨asked, shown, rest⟩ := inductionHypothesis old voted
        exact ⟨asked, shown.cons, rest⟩
      · rcases step.vote_cases voted with ⟨sameTerm, before⟩ |
          ⟨rfl, campaigning⟩ | ⟨-, asked, shown, standing, askedTerm, -⟩
        · obtain ⟨asked, shown, rest⟩ :=
            inductionHypothesis (seen_current history node) before
          exact ⟨asked, shown.cons, sameTerm ▸ rest⟩
        · exact ⟨view, .newest, campaigning, rfl⟩
        · exact ⟨asked, shown.cons, standing, askedTerm⟩

/-- A leader's log that replaces a log keeps the entries of the leader's own
term. -/
theorem Valid.own_entry_kept
    (valid : Valid voters start history)
    (seen : Seen start history node view)
    {log : List ε}
    (led : Led start history (Tagged.term entry) log)
    (notPrefix : ¬ log <+: view.log)
    (stored : view.log[position]? = some entry) :
    log[position]? = some entry := by
  obtain ⟨anchor, anchorLed, equal⟩ :=
    valid.anchored empty seen position entry stored
  have inside := (List.getElem?_eq_some_iff.mp stored).1
  have anchorLong := length_le_of_take_eq equal inside
  have comparable := valid.led_comparable empty.following led anchorLed
  have anchorStored : anchor[position]? = some entry := by
    rw [getElem?_of_take_eq equal (Nat.lt_succ_self position)]
    exact stored
  rcases Nat.lt_or_ge position log.length with reaches | short
  · have agreed : log.take (position + 1) = anchor.take (position + 1) :=
      comparable.take_eq reaches anchorLong
    rw [getElem?_of_take_eq agreed (Nat.lt_succ_self position)]
    exact anchorStored
  · exfalso
    apply notPrefix
    have below := comparable.prefix_of_length_le (by omega)
    have whole := List.prefix_iff_eq_take.mp below
    rw [take_eq_of_take_eq equal (by omega : log.length ≤ position + 1)] at whole
    rw [whole]
    exact List.take_prefix _ _

/-- An entry held in its own term is still in the log, unless a leader of a
later term missed it. -/
theorem Valid.own_entry_current
    (valid : Valid voters start history)
    (seen : Seen start history node held)
    (holds : HoldsOwn held position entry) :
    (current start history node).log[position]? = some entry ∨
      Missed start history held.term
        ((current start history node).term + 1) position entry := by
  induction valid with
  | nil =>
      simp only [Seen, List.not_mem_nil, or_false] at seen
      have stored := holds.stored
      rw [seen, empty.empty node] at stored
      simp at stored
  | @cons history actor next valid step inductionHypothesis =>
      by_cases same : node = actor
      · subst same
        rw [current_cons_self]
        rcases seen_cons.mp seen with old | ⟨-, rfl⟩
        · have grows := step.term_le
          have below := valid.term_le_current old
          rcases inductionHypothesis old with stored | missed
          · rcases valid.log_cases empty step with sameLog |
              ⟨-, -, -, last, -, grown⟩ | ⟨sameTerm, led, notPrefix⟩
            · left
              rw [sameLog]
              exact stored
            · left
              rw [grown]
              exact getElem?_of_isPrefix (List.prefix_append _ _) stored
            · by_cases kept : next.log[position]? = some entry
              · exact .inl kept
              · right
                refine ⟨next.term, next.log, ?_, by omega, led.cons, kept⟩
                apply Nat.lt_of_le_of_ne (by omega)
                intro sameOwn
                apply kept
                refine valid.own_entry_kept empty (seen_current history node)
                  ?_ notPrefix stored
                rw [holds.ownTerm, sameOwn]
                exact led
          · exact .inr (missed.cons.mono (by omega))
        · exact .inl holds.stored
      · rw [current_cons_of_ne same]
        rcases seen_cons.mp seen with old | ⟨rfl, -⟩
        · exact (inductionHypothesis old).imp id Missed.cons
        · exact absurd rfl same

/-- A candidate that is as up to date as a log holds its entries, unless a
leader of a term in between missed them. -/
theorem Valid.upToDate_keeps
    (valid : Valid voters start history)
    (seen : Seen start history node view)
    (stored : view.log[position]? = some entry)
    {candidate : ν}
    {asked : View ν ε}
    (askedSeen : Seen start history candidate asked)
    (campaigning : asked.standing = .candidate)
    (upToDate : UpToDate asked.log view.log) :
    asked.log[position]? = some entry ∨
      Missed start history (Tagged.term entry) asked.term position entry := by
  have inside := (List.getElem?_eq_some_iff.mp stored).1
  have viewNonempty : view.log ≠ [] := by
    intro equal
    rw [equal] at inside
    simp at inside
  obtain ⟨viewLast, viewLastAt, viewLastTerm⟩ := exists_last viewNonempty
  have entryLe : Tagged.term entry ≤ Tagged.term viewLast :=
    (valid.sorted empty seen).term_le stored viewLastAt (by omega)
  have askedNonempty : asked.log ≠ [] := by
    intro equal
    unfold UpToDate at upToDate
    rw [equal] at upToDate
    simp only [lastTerm, List.getLast?_nil, Option.map_none,
      Option.getD_none, Nat.not_lt_zero, List.length_nil, false_or] at upToDate
    omega
  obtain ⟨askedLast, askedLastAt, askedLastTerm⟩ := exists_last askedNonempty
  have askedPositive := List.length_pos_iff.mpr askedNonempty
  obtain ⟨anchor, anchorLed, anchorEq⟩ :=
    valid.anchored empty askedSeen _ askedLast askedLastAt
  rw [Nat.sub_add_cancel askedPositive, List.take_length] at anchorEq
  rcases upToDate with later | ⟨sameTerm, longer⟩
  · -- The candidate's last entry comes from a leader of a later term.
    rw [viewLastTerm, askedLastTerm] at later
    by_cases anchorStored : anchor[position]? = some entry
    · left
      obtain ⟨leader, led, ledSeen, -, -, rfl⟩ := anchorLed
      have anchorLastAt : led.log[asked.log.length - 1]? = some askedLast := by
        apply getElem?_of_isPrefix (anchorEq ▸ List.take_prefix _ _)
        exact askedLastAt
      have before : position < asked.log.length := by
        by_contra behind
        have order := (valid.sorted empty ledSeen).term_le anchorLastAt
          anchorStored (by omega)
        omega
      rw [← anchorEq, List.getElem?_take_of_lt before]
      exact anchorStored
    · right
      refine ⟨Tagged.term askedLast, anchor, by omega, ?_, anchorLed,
        anchorStored⟩
      exact (valid.entry_term_le empty askedSeen
        (List.mem_of_getElem? askedLastAt)).2 campaigning
  · -- Both logs end in entries of one leader, so the longer one extends the
    -- other.
    left
    obtain ⟨viewAnchor, viewAnchorLed, viewAnchorEq⟩ :=
      valid.anchored empty seen _ viewLast viewLastAt
    rw [Nat.sub_add_cancel (by omega), List.take_length] at viewAnchorEq
    rw [askedLastTerm, viewLastTerm] at sameTerm
    rw [sameTerm] at anchorLed
    have comparable :=
      valid.led_comparable empty.following anchorLed viewAnchorLed
    have belowAsked : asked.log <+: anchor := by
      rw [← anchorEq]
      exact List.take_prefix _ _
    have belowView : view.log <+: viewAnchor := by
      rw [← viewAnchorEq]
      exact List.take_prefix _ _
    have extended := (comparable.of_isPrefix belowAsked belowView).symm
    exact getElem?_of_isPrefix
      (Comparable.prefix_of_length_le extended longer) stored

/-- An entry a voter held in the entry's term is in the log of every candidate
it votes for later, unless the term already has a leader or a leader of a term
in between missed the entry. -/
theorem Valid.own_entry_voted
    (valid : Valid voters start history)
    (heldSeen : Seen start history node held)
    (holds : HoldsOwn held position entry)
    (voteSeen : Seen start history node view)
    {candidate : ν}
    (voted : view.vote = some candidate)
    (earlier : held.term < view.term) :
    (∃ log, Led start history view.term log) ∨
      ∀ asked, Seen start history candidate asked →
        asked.standing = .candidate → asked.term = view.term →
        asked.log[position]? = some entry ∨
          Missed start history held.term view.term position entry := by
  induction valid generalizing view with
  | nil =>
      simp only [Seen, List.not_mem_nil, or_false] at heldSeen
      have stored := holds.stored
      rw [heldSeen, empty.empty node] at stored
      simp at stored
  | @cons history actor next valid step inductionHypothesis =>
      have later := step.term_le
      -- A candidate view that is new belongs to a term nobody voted in yet.
      have extend : ∀ {voteView : View ν ε},
          Seen start history node voteView →
          voteView.vote = some candidate → voteView.term = view.term →
          Seen start history node held →
          (∃ log, Led start ((actor, next) :: history) view.term log) ∨
            ∀ asked, Seen start ((actor, next) :: history) candidate asked →
              asked.standing = .candidate → asked.term = view.term →
              asked.log[position]? = some entry ∨
                Missed start ((actor, next) :: history) held.term view.term
                  position entry := by
        intro voteView shown votedBefore sameTerm heldOld
        rcases inductionHypothesis heldOld shown votedBefore (by omega) with
          ⟨log, led⟩ | answers
        · exact .inl ⟨log, sameTerm ▸ led.cons⟩
        · right
          intro asked askedSeen campaigning askedTerm
          rcases seen_cons.mp askedSeen with old | ⟨rfl, rfl⟩
          · rw [sameTerm] at answers
            exact (answers asked old campaigning askedTerm).imp id Missed.cons
          · obtain ⟨first, firstSeen, -, firstTerm⟩ :=
              valid.campaigned empty shown votedBefore
            have bound := valid.term_le_current firstSeen
            have newer := (step.candidate_newer campaigning).1
            omega
      rcases seen_cons.mp heldSeen with heldOld | ⟨rfl, rfl⟩
      · rcases seen_cons.mp voteSeen with voteOld | ⟨rfl, rfl⟩
        · exact extend voteOld voted rfl heldOld
        · rcases step.vote_cases voted with ⟨sameTerm, before⟩ |
            ⟨rfl, campaigning⟩ | ⟨sameTerm, granted⟩
          · exact extend (seen_current history node) before sameTerm.symm heldOld
          · right
            obtain ⟨newer, -, sameLog⟩ := step.candidate_newer campaigning
            intro asked askedSeen askedStanding askedTerm
            rcases seen_cons.mp askedSeen with old | ⟨-, rfl⟩
            · have bound := valid.term_le_current old
              omega
            · rw [sameLog]
              exact (valid.own_entry_current empty heldOld holds).imp id
                fun missed => missed.cons.mono newer
          · obtain ⟨rule, ruleSeen, ruleStanding, ruleTerm, upToDate⟩ := granted
            rcases valid.own_entry_current empty heldOld holds with
              stored | ⟨term, log, above, below, led, absent⟩
            · right
              intro asked askedSeen askedStanding askedTerm
              have same := (valid.cons step).candidate_unique empty.following
                askedSeen ruleSeen.cons askedStanding ruleStanding
                (askedTerm.trans ruleTerm.symm)
              subst same
              rw [← holds.ownTerm, ← askedTerm]
              exact (valid.upToDate_keeps empty (seen_current history node)
                stored ruleSeen ruleStanding upToDate).imp id Missed.cons
            · rcases Nat.lt_or_eq_of_le (Nat.lt_succ_iff.mp below) with
                between | now
              · right
                intro asked _ _ _
                exact .inr ⟨term, log, above, by omega, led.cons, absent⟩
              · left
                rw [sameTerm, ← now]
                exact ⟨log, led.cons⟩
      · rcases seen_cons.mp voteSeen with voteOld | ⟨-, rfl⟩
        · have bound := valid.term_le_current voteOld
          omega
        · omega

/-- A leader was elected by a majority none of whose members can hold an entry
of an earlier term that the leader misses, unless a leader in between missed
it. -/
theorem Valid.elected_with
    (valid : Valid voters start history)
    (seen : Seen start history node view)
    (leading : view.standing = .leader) :
    ∃ supporters, Majority voters supporters ∧
      ∀ supporter ∈ supporters,
        (∃ shown, Seen start history supporter shown ∧
          view.term ≤ shown.term) ∧
        ∀ held, Seen start history supporter held → held.term < view.term →
          ∀ position entry, HoldsOwn held position entry →
            view.log[position]? = some entry ∨
              Missed start history held.term view.term position entry := by
  induction valid generalizing node view with
  | nil =>
      simp only [Seen, List.not_mem_nil, or_false] at seen
      rw [seen, empty.following node] at leading
      contradiction
  | @cons history actor next valid step inductionHypothesis =>
      -- The supporters have reached the term, so what they held in earlier
      -- terms was shown before this step.
      have lift : ∀ first : View ν ε,
          (∃ supporters, Majority voters supporters ∧
            ∀ supporter ∈ supporters,
              (∃ shown, Seen start history supporter shown ∧
                view.term ≤ shown.term) ∧
              ∀ held, Seen start history supporter held →
                held.term < view.term →
                ∀ position entry, HoldsOwn held position entry →
                  first.log[position]? = some entry ∨
                    Missed start history held.term view.term position entry) →
          first.log <+: view.log →
          ∃ supporters, Majority voters supporters ∧
            ∀ supporter ∈ supporters,
              (∃ shown, Seen start ((actor, next) :: history) supporter shown ∧
                view.term ≤ shown.term) ∧
              ∀ held, Seen start ((actor, next) :: history) supporter held →
                held.term < view.term →
                ∀ position entry, HoldsOwn held position entry →
                  view.log[position]? = some entry ∨
                    Missed start ((actor, next) :: history) held.term view.term
                      position entry := by
        rintro first ⟨supporters, majority, support⟩ grown
        refine ⟨supporters, majority, fun supporter inside => ?_⟩
        obtain ⟨⟨shown, shownSeen, reached⟩, keeps⟩ := support supporter inside
        refine ⟨⟨shown, shownSeen.cons, reached⟩, ?_⟩
        intro held heldSeen earlier position entry holds
        rcases seen_cons.mp heldSeen with old | ⟨rfl, rfl⟩
        · exact (keeps held old earlier position entry holds).imp
            (getElem?_of_isPrefix grown) Missed.cons
        · have bound := valid.term_le_current shownSeen
          have later := step.term_le
          omega
      rcases seen_cons.mp seen with old | ⟨rfl, rfl⟩
      · exact lift view (inductionHypothesis old leading) (List.prefix_refl _)
      · obtain ⟨sameTerm, -, won | ⟨stillLeading, last, -, grown⟩⟩ :=
          step.leader_cases leading
        · obtain ⟨campaigning, sameLog, supporters, majority, votes⟩ := won
          refine lift (current start history node)
            ⟨supporters, majority, fun supporter inside => ?_⟩
            (sameLog ▸ List.prefix_refl _)
          obtain ⟨voted, votedSeen, votedTerm, vote⟩ := votes supporter inside
          refine ⟨⟨voted, votedSeen, votedTerm.ge⟩, ?_⟩
          intro held heldSeen earlier position entry holds
          rcases valid.own_entry_voted empty heldSeen holds votedSeen vote
            (by omega) with ⟨log, other, led, ledSeen, ledLeading, ledTerm, -⟩ |
              answers
          · have same := (valid.cons step).election_safety empty.following
              ledSeen.cons seen ledLeading leading (by omega)
            subst same
            exact absurd ledLeading (valid.not_led_of_candidate
              empty.following campaigning ledSeen (by omega))
          · rw [votedTerm] at answers
            exact answers _ (seen_current history node) campaigning
              sameTerm.symm
        · refine lift (current start history node) ?_
            (grown ▸ List.prefix_append _ _)
          rw [sameTerm]
          exact inductionHypothesis (seen_current history node) stillLeading

/-- An entry that a majority held in the entry's own term is in the log of
every leader of a later term. -/
theorem Valid.leader_completeness
    (valid : Valid voters start history)
    {holders : Finset ν}
    (majority : Majority voters holders)
    {term : Nat}
    (holds : ∀ holder ∈ holders, ∃ held, Seen start history holder held ∧
      held.term = term ∧ HoldsOwn held position entry)
    {log : List ε}
    {later : Nat}
    (led : Led start history later log)
    (order : term < later) :
    log[position]? = some entry := by
  induction later using Nat.strong_induction_on generalizing log with
  | _ later inductionHypothesis =>
      obtain ⟨leader, view, seen, leading, rfl, rfl⟩ := led
      obtain ⟨supporters, elected, support⟩ :=
        valid.elected_with empty seen leading
      obtain ⟨voter, supports, inHolders⟩ := elected.meet majority
      obtain ⟨held, heldSeen, heldTerm, holdsOwn⟩ := holds voter inHolders
      rcases (support voter supports).2 held heldSeen (by omega) position entry
        holdsOwn with stored | ⟨between, missing, above, below, led, absent⟩
      · exact stored
      · exact absurd (inductionHypothesis between below led (by omega)) absent

end

end Consensus
