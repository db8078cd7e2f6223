import Mathlib.Data.Finset.Card

/-!
# Strict majorities

Two strict majorities of one finite set have a member in common.
-/

namespace Consensus

variable {ν : Type} [DecidableEq ν]

/-- More than half of the voters. -/
structure Majority (voters : Finset ν) (members : Finset ν) : Prop where
  subset : members ⊆ voters
  large : voters.card < 2 * members.card

/-- Two majorities of the same voters meet. -/
theorem Majority.meet
    {voters left right : Finset ν}
    (leftMajority : Majority voters left)
    (rightMajority : Majority voters right) :
    ∃ voter, voter ∈ left ∧ voter ∈ right := by
  by_contra disjoint
  have separate : Disjoint left right := by
    rw [Finset.disjoint_left]
    exact fun voter inLeft inRight => disjoint ⟨voter, inLeft, inRight⟩
  have together := Finset.card_union_of_disjoint separate
  have bounded := Finset.card_le_card
    (Finset.union_subset leftMajority.subset rightMajority.subset)
  have leftLarge := leftMajority.large
  have rightLarge := rightMajority.large
  omega

end Consensus
