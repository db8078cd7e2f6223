import Libp2pRaft.Library.Completeness

/-!
# Committed prefixes

A log is chosen in a term when it is a prefix of the leader's log, ends in an
entry of the term, and a majority held it in that term.  Chosen logs form a
chain.  A commit index is settled when the entries up to it are a prefix of a
chosen log; no step of the protocol unsettles it, and two settled prefixes hold
the same entries.
-/

namespace Consensus

variable {ν ε : Type} [DecidableEq ν] [Tagged ε]

variable {voters : Finset ν} {start : ν → View ν ε} {history : History ν ε}
  {node : ν} {view next held : View ν ε} {log longer other : List ε}
  {term later commit : Nat}

/-- A majority held a log of the term's leader that ends in the term. -/
structure Chosen
    (voters : Finset ν)
    (start : ν → View ν ε)
    (history : History ν ε)
    (term : Nat)
    (log : List ε) : Prop where
  last : ∃ entry, log[log.length - 1]? = some entry ∧ Tagged.term entry = term
  led : ∃ longer, Led start history term longer ∧ log <+: longer
  majority : ∃ holders, Majority voters holders ∧ ∀ holder ∈ holders,
    ∃ held, Seen start history holder held ∧ held.term = term ∧
      log <+: held.log

/-- The first `commit` entries of a log were chosen by the given term. -/
def Settled
    (voters : Finset ν)
    (start : ν → View ν ε)
    (history : History ν ε)
    (term commit : Nat)
    (log : List ε) : Prop :=
  commit ≤ log.length ∧ (commit = 0 ∨ ∃ chosenTerm chosenLog,
    chosenTerm ≤ term ∧ Chosen voters start history chosenTerm chosenLog ∧
      commit ≤ chosenLog.length ∧ log.take commit = chosenLog.take commit)

omit [DecidableEq ν] in
theorem Chosen.cons
    (chosen : Chosen voters start history term log) :
    Chosen voters start ((node, next) :: history) term log where
  last := chosen.last
  led := by
    obtain ⟨longer, led, grown⟩ := chosen.led
    exact ⟨longer, led.cons, grown⟩
  majority := by
    obtain ⟨holders, majority, holds⟩ := chosen.majority
    refine ⟨holders, majority, fun holder inside => ?_⟩
    obtain ⟨held, seen, rest⟩ := holds holder inside
    exact ⟨held, seen.cons, rest⟩

namespace Settled

omit [DecidableEq ν] in
theorem zero : Settled voters start history term 0 log :=
  ⟨Nat.zero_le _, .inl rfl⟩

omit [DecidableEq ν] in
theorem cons
    (settled : Settled voters start history term commit log) :
    Settled voters start ((node, next) :: history) term commit log := by
  refine ⟨settled.1, settled.2.imp id ?_⟩
  rintro ⟨chosenTerm, chosenLog, below, chosen, rest⟩
  exact ⟨chosenTerm, chosenLog, below, chosen.cons, rest⟩

/-- What was settled stays settled. -/
theorem continued
    {actor : ν}
    {extended : History ν ε}
    (settled : Settled voters start history term commit log)
    (continues : Continues voters start actor history extended) :
    Settled voters start extended term commit log := by
  induction continues with
  | refl => exact settled
  | step _ _ inductionHypothesis => exact inductionHypothesis.cons

omit [DecidableEq ν] in
theorem mono
    (settled : Settled voters start history term commit log)
    (order : term ≤ later) :
    Settled voters start history later commit log := by
  refine ⟨settled.1, settled.2.imp id ?_⟩
  rintro ⟨chosenTerm, chosenLog, below, rest⟩
  exact ⟨chosenTerm, chosenLog, below.trans order, rest⟩

omit [DecidableEq ν] in
/-- An extension of a log is settled as far. -/
theorem extend
    (settled : Settled voters start history term commit log)
    (grown : log <+: longer) :
    Settled voters start history term commit longer := by
  have inside := settled.1
  have same : longer.take commit = log.take commit := by
    obtain ⟨rest, rfl⟩ := grown
    rw [List.take_append_of_le_length inside]
  exact ⟨inside.trans grown.length_le, by rw [same]; exact settled.2⟩

omit [DecidableEq ν] in
/-- A smaller commit index is settled as well. -/
theorem shorten
    (settled : Settled voters start history term commit log)
    {smaller : Nat}
    (order : smaller ≤ commit) :
    Settled voters start history term smaller log := by
  refine ⟨order.trans settled.1, ?_⟩
  rcases settled.2 with none | ⟨chosenTerm, chosenLog, below, chosen, inside, same⟩
  · exact .inl (by omega)
  · exact .inr ⟨chosenTerm, chosenLog, below, chosen, order.trans inside,
      take_eq_of_take_eq same order⟩

omit [DecidableEq ν] in
/-- A chosen prefix of a log settles it. -/
theorem of_chosen
    (chosen : Chosen voters start history term (log.take commit))
    (inside : commit ≤ log.length) :
    Settled voters start history term commit log := by
  refine ⟨inside, .inr ⟨term, log.take commit, le_rfl, chosen, ?_, ?_⟩⟩
  · rw [List.length_take]
    omega
  · rw [List.take_take, Nat.min_self]

end Settled

section

variable (empty : StartsEmpty start)

include empty

/-- Within a term a node's log grows, until a log of the term's leader that it
does not extend replaces it. -/
theorem Valid.same_term_log
    (valid : Valid voters start history)
    (seen : Seen start history node held)
    (sameTerm : (current start history node).term = held.term) :
    held.log <+: (current start history node).log ∨
      ∃ log, Led start history held.term log ∧
        log <+: (current start history node).log ∧ ¬ log <+: held.log := by
  induction valid with
  | nil =>
      simp only [Seen, List.not_mem_nil, or_false] at seen
      rw [current, ← seen]
      exact .inl (List.prefix_refl _)
  | @cons history actor next valid step inductionHypothesis =>
      have older : Seen start history node held →
          (current start history node).term = held.term →
          (held.log <+: (current start history node).log ∨
            ∃ log, Led start ((actor, next) :: history) held.term log ∧
              log <+: (current start history node).log ∧
              ¬ log <+: held.log) := by
        intro old same
        refine (inductionHypothesis old same).imp id ?_
        rintro ⟨log, led, rest⟩
        exact ⟨log, led.cons, rest⟩
      by_cases same : node = actor
      · subst same
        rw [current_cons_self] at sameTerm ⊢
        rcases seen_cons.mp seen with old | ⟨-, rfl⟩
        · have below := valid.term_le_current old
          have above := step.term_le
          have before := older old (by omega)
          rcases valid.log_cases empty step with sameLog |
            ⟨-, -, -, last, -, grown⟩ | ⟨-, led, notPrefix⟩
          · rw [sameLog]
            exact before
          · rw [grown]
            refine before.imp (fun kept => kept.trans (List.prefix_append _ _)) ?_
            rintro ⟨log, led, kept, absent⟩
            exact ⟨log, led, kept.trans (List.prefix_append _ _), absent⟩
          · right
            rw [sameTerm] at led
            rcases before with kept | ⟨log, logLed, kept, absent⟩
            · exact ⟨next.log, led.cons, List.prefix_refl _,
                fun back => notPrefix (back.trans kept)⟩
            · rcases (valid.cons step).led_comparable empty.following logLed
                led.cons with below | above
              · exact ⟨log, logLed, below, absent⟩
              · exact absurd (above.trans kept) notPrefix
        · exact .inl (List.prefix_refl _)
      · rw [current_cons_of_ne same] at sameTerm ⊢
        rcases seen_cons.mp seen with old | ⟨rfl, -⟩
        · exact older old sameTerm
        · exact absurd rfl same

/-- A prefix of the leader's log that a node held in the leader's term stays in
the node's log for the rest of the term. -/
theorem Valid.held_prefix_stable
    (valid : Valid voters start history)
    (seen : Seen start history node held)
    (sameTerm : (current start history node).term = held.term)
    (kept : log <+: held.log)
    (led : Led start history held.term longer)
    (isPrefix : log <+: longer) :
    log <+: (current start history node).log := by
  rcases valid.same_term_log empty seen sameTerm with
    grown | ⟨replacing, replacingLed, stored, absent⟩
  · exact kept.trans grown
  · have comparable := valid.led_comparable empty.following led replacingLed
    rcases comparable.of_isPrefix isPrefix (List.prefix_refl _) with below | above
    · exact below.trans stored
    · exact absurd (above.trans kept) absent

/-- Every leader of a later term has a chosen log. -/
theorem Valid.chosen_prefix_led
    (valid : Valid voters start history)
    (chosen : Chosen voters start history term log)
    (led : Led start history later other)
    (order : term < later) :
    log <+: other := by
  obtain ⟨longer, longerLed, isPrefix⟩ := chosen.led
  obtain ⟨entry, lastAt, ownTerm⟩ := chosen.last
  obtain ⟨holders, majority, holds⟩ := chosen.majority
  have inLater : other[log.length - 1]? = some entry := by
    refine valid.leader_completeness empty majority ?_ led order
    intro holder inside
    obtain ⟨held, seen, heldTerm, kept⟩ := holds holder inside
    exact ⟨held, seen, heldTerm, getElem?_of_isPrefix kept lastAt,
      ownTerm.trans heldTerm.symm⟩
  have inLonger := getElem?_of_isPrefix isPrefix lastAt
  have positive : 0 < log.length := by
    have inside := (List.getElem?_eq_some_iff.mp lastAt).1
    omega
  obtain ⟨_, laterView, laterSeen, -, -, rfl⟩ := led
  obtain ⟨_, longerView, longerSeen, -, -, rfl⟩ := longerLed
  have agreed := valid.log_matching empty longerSeen laterSeen _ _ _
    inLonger inLater rfl
  rw [Nat.sub_add_cancel positive] at agreed
  rw [List.prefix_iff_eq_take.mp isPrefix, agreed]
  exact List.take_prefix _ _

/-- A chosen log is comparable with every log of a leader of the same or a
later term. -/
theorem Valid.chosen_comparable_led
    (valid : Valid voters start history)
    (chosen : Chosen voters start history term log)
    (led : Led start history later other)
    (order : term ≤ later) :
    Comparable log other := by
  rcases Nat.lt_or_eq_of_le order with before | rfl
  · exact .inl (valid.chosen_prefix_led empty chosen led before)
  · obtain ⟨longer, longerLed, isPrefix⟩ := chosen.led
    exact (valid.led_comparable empty.following longerLed led).of_isPrefix
      isPrefix (List.prefix_refl _)

/-- Chosen logs form a chain. -/
theorem Valid.chosen_comparable
    (valid : Valid voters start history)
    (chosen : Chosen voters start history term log)
    (also : Chosen voters start history later other) :
    Comparable log other := by
  wlog order : term ≤ later generalizing term later log other
  · exact (this also chosen (by omega)).symm
  · obtain ⟨longer, led, isPrefix⟩ := also.led
    exact (valid.chosen_comparable_led empty chosen led order).of_isPrefix
      (List.prefix_refl _) isPrefix

/-- Settled prefixes hold the same entries. -/
theorem Valid.settled_agree
    (valid : Valid voters start history)
    {second : Nat}
    (settled : Settled voters start history term commit log)
    (also : Settled voters start history later second other)
    {position : Nat}
    (inside : position < commit)
    (alsoInside : position < second) :
    log[position]? = other[position]? := by
  rcases settled.2 with none | ⟨firstTerm, first, -, firstChosen, firstLong, firstEq⟩
  · omega
  rcases also.2 with none | ⟨nextTerm, last, -, lastChosen, lastLong, lastEq⟩
  · omega
  have comparable := valid.chosen_comparable empty firstChosen lastChosen
  have agreed : first.take (position + 1) = last.take (position + 1) :=
    comparable.take_eq (by omega) (by omega)
  calc log[position]? = first[position]? := getElem?_of_take_eq firstEq inside
    _ = last[position]? := getElem?_of_take_eq agreed (Nat.lt_succ_self _)
    _ = other[position]? := (getElem?_of_take_eq lastEq alsoInside).symm

/-- Of two settled prefixes the shorter one begins the longer one. -/
theorem Valid.settled_prefix
    (valid : Valid voters start history)
    {second : Nat}
    (settled : Settled voters start history term commit log)
    (also : Settled voters start history later second other)
    (order : commit ≤ second) :
    log.take commit <+: other.take second := by
  have same : log.take commit = other.take commit := by
    apply List.ext_getElem?
    intro position
    rw [List.getElem?_take, List.getElem?_take]
    split_ifs with inside
    · exact valid.settled_agree empty settled also inside (by omega)
    · rfl
  rw [same]
  exact List.take_prefix_take_left order

/-- A log that a leader's log of the same or a later term replaces is settled
in the replacement. -/
theorem Valid.settled_replaced
    (valid : Valid voters start history)
    (settled : Settled voters start history term commit log)
    (led : Led start history later other)
    (order : term ≤ later)
    (notPrefix : ¬ other <+: log) :
    Settled voters start history later commit other := by
  rcases settled.2 with rfl | ⟨chosenTerm, chosenLog, below, chosen, inside, same⟩
  · exact Settled.zero
  have comparable := valid.chosen_comparable_led empty chosen led
    (below.trans order)
  rcases Nat.lt_or_ge other.length commit with short | long
  · exfalso
    apply notPrefix
    have otherPrefix := comparable.symm.prefix_of_length_le (by omega)
    rw [List.prefix_iff_eq_take.mp otherPrefix,
      ← take_eq_of_take_eq same short.le]
    exact List.take_prefix _ _
  · exact ⟨long, .inr ⟨chosenTerm, chosenLog, below.trans order, chosen, inside,
      comparable.symm.take_eq long inside⟩⟩

/-- No step unsettles a commit index. -/
theorem Valid.settled_step
    (valid : Valid voters start history)
    (step : Step voters start history node next)
    (settled : Settled voters start history
      (current start history node).term commit
      (current start history node).log) :
    Settled voters start ((node, next) :: history) next.term commit
      next.log := by
  rcases valid.log_cases empty step with sameLog |
    ⟨-, -, -, last, -, grown⟩ | ⟨sameTerm, led, notPrefix⟩
  · rw [sameLog]
    exact (settled.mono step.term_le).cons
  · rw [grown]
    exact ((settled.mono step.term_le).extend (List.prefix_append _ _)).cons
  · exact (valid.settled_replaced empty settled led sameTerm.ge notPrefix).cons

/-- No step of any node unsettles a node's commit index. -/
theorem Valid.settled_continues
    (valid : Valid voters start history)
    {actor : ν}
    {extended : History ν ε}
    (continues : Continues voters start actor history extended)
    (settled : Settled voters start history
      (current start history node).term commit
      (current start history node).log) :
    Settled voters start extended (current start extended node).term commit
      (current start extended node).log := by
  induction continues with
  | refl => exact settled
  | step continues step inductionHypothesis =>
      by_cases same : node = actor
      · subst same
        rw [current_cons_self]
        exact (continues.valid valid).settled_step empty step inductionHypothesis
      · rw [current_cons_of_ne same]
        exact inductionHypothesis.cons

end

end Consensus
