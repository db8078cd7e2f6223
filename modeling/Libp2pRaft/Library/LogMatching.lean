import Libp2pRaft.Library.Election

/-!
# Log matching

When every node starts as a follower with an empty log, every log ever shown
coincides, up to each of its entries, with a log of the leader of that entry's
term.  The logs of one leader form a chain, so any two logs that hold entries
of one term at one position agree up to it, and a splice from a leader's log
either keeps the log or makes it the leader's.
-/

namespace Consensus

variable {ν ε : Type} [DecidableEq ν] [Tagged ε]

variable {voters : Finset ν} {start : ν → View ν ε} {history : History ν ε}
  {node other : ν} {view next : View ν ε} {log held : List ε} {term : Nat}

/-- Every node starts as a follower without a vote and with an empty log. -/
structure StartsEmpty (start : ν → View ν ε) : Prop where
  following : StartsFollowing start
  unvoted : ∀ node, (start node).vote = none
  empty : ∀ node, (start node).log = []

/-- Up to each of its entries, a log is a log of that entry's leader. -/
def Anchored
    (start : ν → View ν ε)
    (history : History ν ε)
    (log : List ε) : Prop :=
  ∀ position entry, log[position]? = some entry →
    ∃ held, Led start history (Tagged.term entry) held ∧
      held.take (position + 1) = log.take (position + 1)

omit [DecidableEq ν] in
theorem Anchored.cons
    (anchored : Anchored start history log) :
    Anchored start ((node, next) :: history) log := by
  intro position entry stored
  obtain ⟨held, led, equal⟩ := anchored position entry stored
  exact ⟨held, led.cons, equal⟩

omit [Tagged ε] in
theorem length_le_of_take_eq
    {first second : List ε}
    {position : Nat}
    (equal : first.take (position + 1) = second.take (position + 1))
    (inside : position < second.length) :
    position + 1 ≤ first.length := by
  have lengths := congrArg List.length equal
  rw [List.length_take, List.length_take] at lengths
  omega

/-- Anchored logs match. -/
theorem Valid.matching
    (following : StartsFollowing start)
    (valid : Valid voters start history)
    {other : List ε}
    (anchored : Anchored start history log)
    (otherAnchored : Anchored start history other) :
    Matching log other := by
  intro position stored sent storedAt sentAt same
  obtain ⟨first, firstLed, firstEq⟩ := anchored position stored storedAt
  obtain ⟨second, secondLed, secondEq⟩ := otherAnchored position sent sentAt
  rw [← same] at secondLed
  have comparable := valid.led_comparable following firstLed secondLed
  calc log.take (position + 1) = first.take (position + 1) := firstEq.symm
    _ = second.take (position + 1) :=
      comparable.take_eq
        (length_le_of_take_eq firstEq
          (List.getElem?_eq_some_iff.mp storedAt).1)
        (length_le_of_take_eq secondEq
          (List.getElem?_eq_some_iff.mp sentAt).1)
    _ = other.take (position + 1) := secondEq

/-- How a step can change a log, for logs that match. -/
theorem Step.log_cases
    (step : Step voters start history node next)
    (matching : ∀ leader sent, Seen start history leader sent →
      Matching (current start history node).log sent.log) :
    next.log = (current start history node).log ∨
      ((current start history node).standing = .leader ∧
        next.standing = .leader ∧
        next.term = (current start history node).term ∧
        ∃ entry, Tagged.term entry = next.term ∧
          next.log = (current start history node).log ++ [entry]) ∨
      (next.term = (current start history node).term ∧
        Led start history next.term next.log ∧
        ¬ next.log <+: (current start history node).log) := by
  cases step with
  | append entry leading ownTerm =>
      exact .inr (.inl ⟨leading, leading, rfl, entry, ownTerm, rfl⟩)
  | accept leader sent prev seen leading sameTerm standing inside agree =>
      rcases splice_cases (matching leader sent seen) inside agree with
        ⟨-, kept⟩ | ⟨notPrefix, replaced⟩
      · exact .inl kept
      · refine .inr (.inr ⟨rfl, ?_, ?_⟩)
        · exact ⟨leader, sent, seen, leading, sameTerm, replaced.symm⟩
        · show ¬ splice _ prev _ <+: _
          rw [replaced]
          exact notPrefix
  | settle => exact .inl rfl
  | adopt => exact .inl rfl
  | campaign => exact .inl rfl
  | grant => exact .inl rfl
  | elect => exact .inl rfl

section

variable (empty : StartsEmpty start)

include empty

/-- Every log ever shown is anchored. -/
theorem Valid.anchored
    (valid : Valid voters start history)
    (seen : Seen start history node view) :
    Anchored start history view.log := by
  induction valid generalizing node view with
  | nil =>
      simp only [Seen, List.not_mem_nil, or_false] at seen
      rw [seen, empty.empty node]
      intro position entry stored
      simp at stored
  | @cons history actor next valid step inductionHypothesis =>
      rcases seen_cons.mp seen with old | ⟨rfl, rfl⟩
      · exact (inductionHypothesis old).cons
      · have currentAnchored := inductionHypothesis (seen_current history node)
        have cases := step.log_cases fun leader sent sentSeen =>
          valid.matching empty.following currentAnchored
            (inductionHypothesis sentSeen)
        rcases cases with same | ⟨-, leading, -, entry, ownTerm, grown⟩ |
          ⟨-, ⟨leader, sent, sentSeen, -, -, sentLog⟩, -⟩
        · rw [same]
          exact currentAnchored.cons
        · intro position stored storedAt
          by_cases inside :
              position < (current start history node).log.length
          · rw [grown] at storedAt ⊢
            rw [List.getElem?_append_left inside] at storedAt
            rw [List.take_append_of_le_length inside]
            exact currentAnchored.cons position stored storedAt
          · have atEnd : position =
                (current start history node).log.length := by
              have bounded := (List.getElem?_eq_some_iff.mp storedAt).1
              rw [grown, List.length_append, List.length_singleton] at bounded
              omega
            have storedEq : stored = entry := by
              rw [grown, atEnd] at storedAt
              simpa using storedAt.symm
            refine ⟨view.log, ⟨node, view, .newest, leading, ?_, rfl⟩, rfl⟩
            rw [storedEq, ownTerm]
        · rw [← sentLog]
          exact (inductionHypothesis sentSeen).cons

/-- Any two logs ever shown match. -/
theorem Valid.log_matching
    (valid : Valid voters start history)
    {second : View ν ε}
    (seen : Seen start history node view)
    (otherSeen : Seen start history other second) :
    Matching view.log second.log :=
  valid.matching empty.following
    (valid.anchored empty seen) (valid.anchored empty otherSeen)

/-- How a step can change a log. -/
theorem Valid.log_cases
    (valid : Valid voters start history)
    (step : Step voters start history node next) :
    next.log = (current start history node).log ∨
      ((current start history node).standing = .leader ∧
        next.standing = .leader ∧
        next.term = (current start history node).term ∧
        ∃ entry, Tagged.term entry = next.term ∧
          next.log = (current start history node).log ++ [entry]) ∨
      (next.term = (current start history node).term ∧
        Led start history next.term next.log ∧
        ¬ next.log <+: (current start history node).log) :=
  step.log_cases fun _ _ sentSeen =>
    valid.log_matching empty (seen_current history node) sentSeen

/-- A log holds no entry of a later term, and a candidate's none of its own. -/
theorem Valid.entry_term_le
    (valid : Valid voters start history)
    (seen : Seen start history node view)
    {entry : ε}
    (stored : entry ∈ view.log) :
    Tagged.term entry ≤ view.term ∧
      (view.standing = .candidate → Tagged.term entry < view.term) := by
  induction valid generalizing node view with
  | nil =>
      simp only [Seen, List.not_mem_nil, or_false] at seen
      rw [seen, empty.empty node] at stored
      simp at stored
  | @cons history actor next valid step inductionHypothesis =>
      rcases seen_cons.mp seen with old | ⟨rfl, rfl⟩
      · exact inductionHypothesis old stored
      · have fromCurrent : entry ∈ (current start history node).log →
            Tagged.term entry ≤ view.term ∧
              (view.standing = .candidate →
                Tagged.term entry < view.term) := by
          intro before
          have bounded :=
            (inductionHypothesis (seen_current history node) before).1
          refine ⟨bounded.trans step.term_le, fun campaigning => ?_⟩
          exact bounded.trans_lt (step.candidate_newer campaigning).1
        rcases valid.log_cases empty step with same |
          ⟨-, leading, -, last, ownTerm, grown⟩ | ⟨sameTerm, led, -⟩
        · exact fromCurrent (same ▸ stored)
        · rw [grown, List.mem_append, List.mem_singleton] at stored
          rcases stored with before | rfl
          · exact fromCurrent before
          · exact ⟨ownTerm.le, fun campaigning => by
              rw [leading] at campaigning
              contradiction⟩
        · obtain ⟨leader, sent, sentSeen, -, sentTerm, sentLog⟩ := led
          rw [← sentLog] at stored
          have bounded := (inductionHypothesis sentSeen stored).1
          rw [sentTerm] at bounded
          refine ⟨bounded, fun campaigning => ?_⟩
          have newer := (step.candidate_newer campaigning).1
          omega

/-- Terms never decrease along a log. -/
theorem Valid.sorted
    (valid : Valid voters start history)
    (seen : Seen start history node view) :
    Sorted view.log := by
  induction valid generalizing node view with
  | nil =>
      simp only [Seen, List.not_mem_nil, or_false] at seen
      rw [seen, empty.empty node]
      exact List.Pairwise.nil
  | @cons history actor next valid step inductionHypothesis =>
      rcases seen_cons.mp seen with old | ⟨rfl, rfl⟩
      · exact inductionHypothesis old
      · rcases valid.log_cases empty step with same |
          ⟨-, -, sameTerm, last, ownTerm, grown⟩ |
          ⟨-, ⟨leader, sent, sentSeen, -, -, sentLog⟩, -⟩
        · rw [same]
          exact inductionHypothesis (seen_current history node)
        · rw [grown]
          apply (inductionHypothesis (seen_current history node)).concat
          intro stored inside
          rw [ownTerm, sameTerm]
          exact (valid.entry_term_le empty
            (seen_current history node) inside).1
        · rw [← sentLog]
          exact inductionHypothesis sentSeen

end

end Consensus
