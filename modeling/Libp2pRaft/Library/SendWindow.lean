import Mathlib.Logic.Relation
import Mathlib.Order.Lattice

/-!
# Send windows

The sender of a growing list of items keeps a window on every receiver: up to
where the receiver is known to hold the list, from where the next batch starts,
and what the last batch was.  A batch is the whole rest of the list.  A receiver
acknowledges the last batch or refuses it, and a refusal moves the start of the
next one back, but never behind what is known.
-/

namespace Consensus

/-- What a sender knows about one receiver.  The last batch is given by the
position before it and its length. -/
structure Window where
  matched : Nat
  next : Nat
  batch : Option (Nat × Nat)

/-- A window on a list of `total` items: the next batch starts behind what is
known and is at most empty, and the last batch reached what is known. -/
structure Window.Fits (window : Window) (total : Nat) : Prop where
  matched_lt : window.matched < window.next
  next_le : window.next ≤ total + 1
  covered : ∀ prev len, window.batch = some (prev, len) →
    window.matched ≤ prev + len ∧ prev + len ≤ total

/-- The window on a receiver nothing is known about. -/
def Window.opened (total : Nat) : Window where
  matched := 0
  next := total + 1
  batch := none

/-- What happens to a window on a list of `total` items. -/
inductive Move (total : Nat) (before : Window) : Window → Prop
  | send :
      Move total before
        { before with
          batch := some (before.next - 1, total - (before.next - 1)) }
  | acknowledge (prev len : Nat)
      (sent : before.batch = some (prev, len)) :
      Move total before
        { before with
          matched := max before.matched (prev + len)
          next := prev + len + 1 }
  | refuse (prev len : Nat)
      (sent : before.batch = some (prev, len))
      (latest : before.next = prev + 1) :
      Move total before
        { before with next := max (prev - 1) before.matched + 1 }

/-- A sequence of moves on a list that does not grow. -/
def Moves (total : Nat) : Window → Window → Prop :=
  Relation.ReflTransGen (Move total)

variable {total : Nat} {before after : Window}

theorem Window.opened_fits (total : Nat) : (Window.opened total).Fits total where
  matched_lt := Nat.succ_pos total
  next_le := le_rfl
  covered := by
    intro prev len sent
    contradiction

/-- A window still fits when the list has grown. -/
theorem Window.Fits.grow
    {longer : Nat}
    (fits : before.Fits total)
    (grown : total ≤ longer) :
    before.Fits longer where
  matched_lt := fits.matched_lt
  next_le := fits.next_le.trans (Nat.succ_le_succ grown)
  covered := by
    intro prev len sent
    have covered := fits.covered prev len sent
    exact ⟨covered.1, covered.2.trans grown⟩

/-- Nothing is known behind the end of the list. -/
theorem Window.Fits.matched_le
    (fits : before.Fits total) :
    before.matched ≤ total := by
  have bounded := fits.matched_lt.trans_le fits.next_le
  exact Nat.le_of_lt_succ bounded

/-- Every move keeps the window fitting. -/
theorem Move.fits
    (move : Move total before after)
    (fits : before.Fits total) :
    after.Fits total := by
  have matched_lt := fits.matched_lt
  have next_le := fits.next_le
  cases move with
  | send =>
      refine ⟨matched_lt, next_le, ?_⟩
      intro prev len sent
      simp only [Option.some.injEq, Prod.mk.injEq] at sent ⊢
      omega
  | acknowledge prev len sent =>
      have covered := fits.covered prev len sent
      refine ⟨?_, ?_, ?_⟩
      · simp only [Nat.max_eq_right covered.1]
        exact Nat.lt_succ_self _
      · exact Nat.succ_le_succ covered.2
      · intro otherPrev otherLen again
        rw [sent, Option.some.injEq, Prod.mk.injEq] at again
        obtain ⟨rfl, rfl⟩ := again
        exact ⟨Nat.max_le.mpr ⟨covered.1, le_rfl⟩, covered.2⟩
  | refuse prev len sent latest =>
      refine ⟨?_, ?_, fits.covered⟩
      · exact Nat.lt_succ_of_le (Nat.le_max_right _ _)
      · apply Nat.succ_le_succ
        omega

/-- What is known never shrinks. -/
theorem Move.matched_le
    (move : Move total before after) :
    before.matched ≤ after.matched := by
  cases move with
  | send => exact le_rfl
  | acknowledge => exact Nat.le_max_left _ _
  | refuse => exact le_rfl

/-- After an acknowledgement the next batch starts right behind what is
known. -/
theorem Window.Fits.matched_acknowledged
    (fits : before.Fits total)
    {prev len : Nat}
    (sent : before.batch = some (prev, len)) :
    max before.matched (prev + len) = prev + len :=
  Nat.max_eq_right (fits.covered prev len sent).1

theorem Moves.fits
    (moves : Moves total before after)
    (fits : before.Fits total) :
    after.Fits total := by
  induction moves with
  | refl => exact fits
  | tail _ move inductionHypothesis => exact move.fits inductionHypothesis

theorem Moves.matched_le
    (moves : Moves total before after) :
    before.matched ≤ after.matched := by
  induction moves with
  | refl => exact le_rfl
  | tail _ move inductionHypothesis =>
      exact inductionHypothesis.trans move.matched_le

end Consensus
