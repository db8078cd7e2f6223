import Libp2pRaft.Library.Majority
import Libp2pRaft.Library.TaggedLog

/-!
# Histories of a leader-based replicated log

The abstract protocol: every node shows a view, its term, its vote in that
term, its standing and its log, and a history records the views shown so far.
Messages do not appear.  A node that acts on a message acts on a view that was
shown at some earlier moment, which is what delay, loss, duplication and
reordering leave of a network.
-/

namespace Consensus

/-- Standing of a node in its current term. -/
inductive Standing
  | follower
  | candidate
  | leader
  deriving DecidableEq

/-- What one node shows at one moment. -/
@[ext] structure View (ν ε : Type) where
  term : Nat
  vote : Option ν
  standing : Standing
  log : List ε

/-- The views shown so far, the newest one first. -/
abbrev History (ν ε : Type) := List (ν × View ν ε)

variable {ν ε : Type} [DecidableEq ν]

/-- The newest view of a node. -/
def current (start : ν → View ν ε) : History ν ε → ν → View ν ε
  | [], node => start node
  | (other, view) :: history, node =>
      if node = other then view else current start history node

/-- A node showed a view at some moment. -/
def Seen
    (start : ν → View ν ε)
    (history : History ν ε)
    (node : ν)
    (view : View ν ε) : Prop :=
  view = start node ∨ (node, view) ∈ history

variable {start : ν → View ν ε} {history : History ν ε} {node other : ν}
  {view next : View ν ε}

@[simp] theorem current_cons_self :
    current start ((node, view) :: history) node = view := by
  simp [current]

theorem current_cons_of_ne (different : other ≠ node) :
    current start ((node, view) :: history) other =
      current start history other := by
  simp [current, different]

omit [DecidableEq ν] in
theorem seen_cons :
    Seen start ((node, next) :: history) other view ↔
      Seen start history other view ∨ (other = node ∧ view = next) := by
  simp [Seen]
  tauto

omit [DecidableEq ν] in
theorem Seen.cons
    (seen : Seen start history other view) :
    Seen start ((node, next) :: history) other view :=
  seen_cons.mpr (.inl seen)

omit [DecidableEq ν] in
theorem Seen.newest :
    Seen start ((node, next) :: history) node next :=
  seen_cons.mpr (.inr ⟨rfl, rfl⟩)

theorem seen_current
    (history : History ν ε)
    (node : ν) :
    Seen start history node (current start history node) := by
  induction history with
  | nil => exact .inl rfl
  | cons shown history inductionHypothesis =>
      obtain ⟨actor, view⟩ := shown
      by_cases same : node = actor
      · subst same
        rw [current_cons_self]
        exact .newest
      · rw [current_cons_of_ne same]
        exact inductionHypothesis.cons

variable [Tagged ε]

/-- What a node may show next. -/
inductive Step
    (voters : Finset ν)
    (start : ν → View ν ε)
    (history : History ν ε)
    (node : ν) : View ν ε → Prop
  /-- Fall back to following in the same term. -/
  | settle :
      Step voters start history node
        { current start history node with standing := .follower }
  /-- Enter a later term without a vote. -/
  | adopt (term : Nat)
      (newer : (current start history node).term < term) :
      Step voters start history node
        { current start history node with
          term := term
          vote := none
          standing := .follower }
  /-- Enter a later term as its candidate. -/
  | campaign (term : Nat)
      (newer : (current start history node).term < term) :
      Step voters start history node
        { current start history node with
          term := term
          vote := some node
          standing := .candidate }
  /-- Vote for a candidate of the same term that is as up to date. -/
  | grant (candidate : ν) (asked : View ν ε)
      (seen : Seen start history candidate asked)
      (standing : asked.standing = .candidate)
      (sameTerm : asked.term = (current start history node).term)
      (free : (current start history node).vote = none ∨
        (current start history node).vote = some candidate)
      (upToDate : UpToDate asked.log (current start history node).log) :
      Step voters start history node
        { current start history node with
          vote := some candidate
          standing := .follower }
  /-- Win the term with the votes of a majority. -/
  | elect (supporters : Finset ν)
      (majority : Majority voters supporters)
      (standing : (current start history node).standing = .candidate)
      (votes : ∀ supporter ∈ supporters, ∃ voted,
        Seen start history supporter voted ∧
          voted.term = (current start history node).term ∧
          voted.vote = some node) :
      Step voters start history node
        { current start history node with standing := .leader }
  /-- Append an entry of the own term as a leader. -/
  | append (entry : ε)
      (standing : (current start history node).standing = .leader)
      (ownTerm : Tagged.term entry = (current start history node).term) :
      Step voters start history node
        { current start history node with
          log := (current start history node).log ++ [entry] }
  /-- Follow a leader of the same term: splice its log from an agreed
  position on into the own one. -/
  | accept (leader : ν) (sent : View ν ε) (prev : Nat)
      (seen : Seen start history leader sent)
      (leading : sent.standing = .leader)
      (sameTerm : sent.term = (current start history node).term)
      (standing : (current start history node).standing = .follower)
      (inside : prev ≤ sent.log.length)
      (agree : AgreeBefore prev (current start history node).log sent.log) :
      Step voters start history node
        { current start history node with
          log := splice (current start history node).log prev
            (sent.log.drop prev) }

/-- Histories in which every view was a permitted step of its node. -/
inductive Valid
    (voters : Finset ν)
    (start : ν → View ν ε) : History ν ε → Prop
  | nil : Valid voters start []
  | cons {history : History ν ε} {node : ν} {next : View ν ε}
      (valid : Valid voters start history)
      (step : Step voters start history node next) :
      Valid voters start ((node, next) :: history)

/-- A history continued by steps of one node. -/
inductive Continues
    (voters : Finset ν)
    (start : ν → View ν ε)
    (node : ν)
    (history : History ν ε) : History ν ε → Prop
  | refl : Continues voters start node history history
  | step {later : History ν ε} {next : View ν ε}
      (continued : Continues voters start node history later)
      (step : Step voters start later node next) :
      Continues voters start node history ((node, next) :: later)

namespace Continues

variable {voters : Finset ν} {later : History ν ε}

theorem single
    (step : Step voters start history node next) :
    Continues voters start node history ((node, next) :: history) :=
  .step .refl step

theorem trans
    {latest : History ν ε}
    (first : Continues voters start node history later)
    (second : Continues voters start node later latest) :
    Continues voters start node history latest := by
  induction second with
  | refl => exact first
  | step _ step inductionHypothesis => exact inductionHypothesis.step step

theorem valid
    (continued : Continues voters start node history later)
    (valid : Valid voters start history) :
    Valid voters start later := by
  induction continued with
  | refl => exact valid
  | step _ step inductionHypothesis => exact inductionHypothesis.cons step

theorem seen
    (continued : Continues voters start node history later)
    (seen : Seen start history other view) :
    Seen start later other view := by
  induction continued with
  | refl => exact seen
  | step _ _ inductionHypothesis => exact inductionHypothesis.cons

theorem current_of_ne
    (continued : Continues voters start node history later)
    (different : other ≠ node) :
    current start later other = current start history other := by
  induction continued with
  | refl => rfl
  | step _ _ inductionHypothesis =>
      rw [current_cons_of_ne different, inductionHypothesis]

end Continues

/-- A log was held by a leader of a term. -/
def Led
    (start : ν → View ν ε)
    (history : History ν ε)
    (term : Nat)
    (log : List ε) : Prop :=
  ∃ leader view, Seen start history leader view ∧
    view.standing = .leader ∧ view.term = term ∧ view.log = log

omit [DecidableEq ν] [Tagged ε] in
theorem Led.cons
    {term : Nat}
    {log : List ε}
    (led : Led start history term log) :
    Led start ((node, next) :: history) term log := by
  obtain ⟨leader, view, seen, rest⟩ := led
  exact ⟨leader, view, seen.cons, rest⟩

/-- A step never lowers the term. -/
theorem Step.term_le
    {voters : Finset ν}
    (step : Step voters start history node next) :
    (current start history node).term ≤ next.term := by
  cases step with
  | adopt term newer => exact newer.le
  | campaign term newer => exact newer.le
  | settle => exact le_rfl
  | grant => exact le_rfl
  | elect => exact le_rfl
  | append => exact le_rfl
  | accept => exact le_rfl

/-- Within a term a vote that was cast stays. -/
theorem Step.vote_eq
    {voters : Finset ν}
    (step : Step voters start history node next)
    (sameTerm : next.term = (current start history node).term)
    {candidate : ν}
    (voted : (current start history node).vote = some candidate) :
    next.vote = some candidate := by
  cases step with
  | adopt term newer => exact absurd sameTerm newer.ne'
  | campaign term newer => exact absurd sameTerm newer.ne'
  | settle => exact voted
  | grant other asked seen standing same free =>
      rcases free with none | some
      · rw [none] at voted
        contradiction
      · exact some.symm.trans voted
  | elect => exact voted
  | append => exact voted
  | accept => exact voted

end Consensus
