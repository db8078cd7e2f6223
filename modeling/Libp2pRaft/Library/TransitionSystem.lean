import Mathlib.Data.List.Infix
import Mathlib.Logic.Relation

/-!
# Runs of a deterministic transition system

A system reacts to a list of events.  An event that is not enabled leaves the
state as it is, so every list of events is a run, and the moments of a run are
the states after its prefixes.
-/

namespace TransitionSystem

/-- An initial state and a reaction to every event. -/
structure System (σ ε : Type) where
  init : σ
  step : σ → ε → σ

/-- A step of a prolonged list of events is an old one or a new one. -/
theorem concat_prefix_append
    {ε : Type}
    {past events more : List ε}
    {event : ε}
    (isStep : past ++ [event] <+: events ++ more) :
    past ++ [event] <+: events ∨
      ∃ rest, past = events ++ rest ∧ rest ++ [event] <+: more := by
  rcases List.prefix_or_prefix_of_prefix isStep (List.prefix_append _ _) with
    early | order
  · exact .inl early
  · rcases List.prefix_concat_iff.mp order with same | ⟨rest, rfl⟩
    · exact .inl (same ▸ List.prefix_refl _)
    · rw [List.append_assoc, List.prefix_append_right_inj] at isStep
      exact .inr ⟨rest, rfl, isStep⟩

/-! ## Sequences of updates -/

section

variable {σ : Type} {update : σ → σ → Prop}

/-- What every update keeps is kept by any number of updates. -/
theorem kept_of_reflTransGen
    {motive : σ → Prop}
    (kept : ∀ before after, update before after →
      motive before → motive after)
    {before after : σ}
    (updates : Relation.ReflTransGen update before after)
    (start : motive before) :
    motive after := by
  induction updates with
  | refl => exact start
  | tail _ last inductionHypothesis => exact kept _ _ last inductionHypothesis

/-- Items that are handled by updates, one after the other. -/
theorem reflTransGen_foldl
    {ι : Type}
    {handle : σ → ι → σ}
    (each : ∀ state item,
      Relation.ReflTransGen update state (handle state item))
    (items : List ι)
    (state : σ) :
    Relation.ReflTransGen update state (items.foldl handle state) := by
  induction items generalizing state with
  | nil => exact .refl
  | cons item items inductionHypothesis =>
      exact (each state item).trans (inductionHypothesis (handle state item))

end

/-! ## Runs -/

namespace System

variable {σ ε : Type} (system : System σ ε)

/-- The state after a list of events. -/
def run (events : List ε) : σ :=
  events.foldl system.step system.init

@[simp] theorem run_nil : system.run [] = system.init := rfl

@[simp] theorem run_concat
    (events : List ε)
    (event : ε) :
    system.run (events ++ [event]) =
      system.step (system.run events) event := by
  simp [run]

/-- A property of the initial state that every reaction keeps holds after
every run. -/
theorem invariant
    {motive : σ → Prop}
    (initial : motive system.init)
    (preserved : ∀ state event,
      motive state → motive (system.step state event))
    (events : List ε) :
    motive (system.run events) := by
  induction events using List.reverseRecOn with
  | nil => exact initial
  | append_singleton events event inductionHypothesis =>
      rw [run_concat]
      exact preserved _ _ inductionHypothesis

/-- Some moment of the run satisfies a property. -/
def Sometime (property : σ → Prop) (events : List ε) : Prop :=
  ∃ past, past <+: events ∧ property (system.run past)

@[simp] theorem sometime_nil
    {property : σ → Prop} :
    system.Sometime property [] ↔ property system.init := by
  simp [Sometime]

/-- A moment of a longer run is its last state or a moment before it. -/
@[simp] theorem sometime_concat
    {property : σ → Prop}
    {events : List ε}
    {event : ε} :
    system.Sometime property (events ++ [event]) ↔
      system.Sometime property events ∨
        property (system.step (system.run events) event) := by
  constructor
  · rintro ⟨past, isPast, holds⟩
    rcases List.prefix_concat_iff.mp isPast with rfl | earlier
    · exact .inr (by simpa using holds)
    · exact .inl ⟨past, earlier, holds⟩
  · rintro (⟨past, isPast, holds⟩ | now)
    · exact ⟨past, isPast.trans (List.prefix_append _ _), holds⟩
    · exact ⟨_, List.prefix_refl _, by simpa using now⟩

/-- Every step of the run meets a condition on the state before it. -/
def Along (condition : σ → ε → Prop) (events : List ε) : Prop :=
  ∀ past event, past ++ [event] <+: events →
    condition (system.run past) event

@[simp] theorem along_nil
    {condition : σ → ε → Prop} :
    system.Along condition [] := by
  intro past event isPast
  simp at isPast

@[simp] theorem along_concat
    {condition : σ → ε → Prop}
    {events : List ε}
    {event : ε} :
    system.Along condition (events ++ [event]) ↔
      system.Along condition events ∧ condition (system.run events) event := by
  constructor
  · intro along
    refine ⟨fun past earlier isPast => ?_, along _ _ (List.prefix_refl _)⟩
    exact along past earlier (isPast.trans (List.prefix_append _ _))
  · rintro ⟨along, last⟩ past earlier isPast
    rcases List.prefix_concat_iff.mp isPast with same | before
    · obtain ⟨rfl, rfl⟩ := List.append_inj' same rfl |>.imp_right
        List.singleton_inj.mp
      exact last
    · exact along past earlier before

variable {system} in
theorem Along.imp
    {condition weaker : σ → ε → Prop}
    {events : List ε}
    (along : system.Along condition events)
    (implied : ∀ state event, condition state event → weaker state event) :
    system.Along weaker events := by
  intro past event isPast
  exact implied _ _ (along past event isPast)

variable {system} in
theorem Along.of_isPrefix
    {condition : σ → ε → Prop}
    {past events : List ε}
    (along : system.Along condition events)
    (isPast : past <+: events) :
    system.Along condition past := by
  intro earlier event isEarlier
  exact along earlier event (isEarlier.trans isPast)

/-- A property that is kept by every step meeting a condition holds after every
run whose steps meet it. -/
theorem invariant_along
    {motive : σ → Prop}
    {condition : σ → ε → Prop}
    (initial : motive system.init)
    (preserved : ∀ state event, motive state → condition state event →
      motive (system.step state event))
    {events : List ε}
    (along : system.Along condition events) :
    motive (system.run events) := by
  induction events using List.reverseRecOn with
  | nil => exact initial
  | append_singleton events event inductionHypothesis =>
      rw [along_concat] at along
      rw [run_concat]
      exact preserved _ _ (inductionHypothesis along.1) along.2

/-- A run whose steps meet a condition meets an invariant at every step. -/
theorem Along.and_invariant
    {system : System σ ε}
    {motive : σ → Prop}
    {condition : σ → ε → Prop}
    (initial : motive system.init)
    (preserved : ∀ state event, motive state → condition state event →
      motive (system.step state event))
    {events : List ε}
    (along : system.Along condition events) :
    system.Along (fun state event => motive state ∧ condition state event)
      events := by
  intro past event isPast
  have before := along.of_isPrefix ((List.prefix_append _ _).trans isPast)
  exact ⟨system.invariant_along initial preserved before,
    along past event isPast⟩

/-- A preorder that every step climbs relates the states of a run in their
order. -/
theorem related_along
    (relation : σ → σ → Prop)
    {condition : σ → ε → Prop}
    (refl : ∀ state, relation state state)
    (trans : ∀ {first second third},
      relation first second → relation second third → relation first third)
    (climbs : ∀ state event, condition state event →
      relation state (system.step state event))
    {past later : List ε}
    (isPast : past <+: later)
    (along : system.Along condition later) :
    relation (system.run past) (system.run later) := by
  obtain ⟨rest, rfl⟩ := isPast
  induction rest using List.reverseRecOn with
  | nil =>
      rw [List.append_nil]
      exact refl _
  | append_singleton rest event inductionHypothesis =>
      rw [← List.append_assoc] at along ⊢
      rw [along_concat] at along
      rw [run_concat]
      exact trans (inductionHypothesis along.1) (climbs _ _ along.2)

/-- Something began at a step of the run, and no step after it has ended it. -/
def Since (begins ends : σ → ε → Prop) (events : List ε) : Prop :=
  ∃ past event, past ++ [event] <+: events ∧ begins (system.run past) event ∧
    ∀ between later, past ++ [event] <+: between →
      between ++ [later] <+: events → ¬ ends (system.run between) later

theorem since_nil
    {begins ends : σ → ε → Prop} :
    ¬ system.Since begins ends [] := by
  rintro ⟨past, event, isPast, -⟩
  simp at isPast

/-- It begins with the last step, or it has begun and the last step does not end
it. -/
theorem since_concat
    {begins ends : σ → ε → Prop}
    {events : List ε}
    {event : ε} :
    system.Since begins ends (events ++ [event]) ↔
      begins (system.run events) event ∨
        (system.Since begins ends events ∧ ¬ ends (system.run events) event) := by
  constructor
  · rintro ⟨past, first, isPast, begun, lasts⟩
    rcases List.prefix_concat_iff.mp isPast with same | before
    · obtain ⟨rfl, isLast⟩ := List.append_inj' same rfl
      obtain rfl := List.singleton_inj.mp isLast
      exact .inl begun
    · refine .inr ⟨⟨past, first, before, begun, ?_⟩,
        lasts events event before (List.prefix_refl _)⟩
      intro between later after isPast
      exact lasts between later after (isPast.trans (List.prefix_append _ _))
  · rintro (begun | ⟨⟨past, first, isPast, begun, lasts⟩, goesOn⟩)
    · refine ⟨events, event, List.prefix_refl _, begun, ?_⟩
      intro between later after isPast
      have long := after.length_le
      have short := isPast.length_le
      simp only [List.length_append, List.length_singleton] at long short
      omega
    · refine ⟨past, first, isPast.trans (List.prefix_append _ _), begun, ?_⟩
      intro between later after isLater
      rcases List.prefix_concat_iff.mp isLater with same | before
      · obtain ⟨rfl, isLast⟩ := List.append_inj' same rfl
        obtain rfl := List.singleton_inj.mp isLast
        exact goesOn
      · exact lasts between later after before

/-- A property that does not hold at a moment of a run and holds at a later one
is brought about by a step in between. -/
theorem exists_step_between
    (property : σ → Prop)
    {past later : List ε}
    (isPast : past <+: later)
    (before : ¬ property (system.run past))
    (after : property (system.run later)) :
    ∃ between event, past <+: between ∧ between ++ [event] <+: later ∧
      ¬ property (system.run between) ∧
      property (system.step (system.run between) event) := by
  obtain ⟨rest, rfl⟩ := isPast
  induction rest using List.reverseRecOn with
  | nil =>
      rw [List.append_nil] at after
      contradiction
  | append_singleton rest event inductionHypothesis =>
      rw [← List.append_assoc] at after ⊢
      by_cases already : property (system.run (past ++ rest))
      · obtain ⟨between, other, follows, isEarlier, off, on⟩ :=
          inductionHypothesis already
        exact ⟨between, other, follows,
          isEarlier.trans (List.prefix_append _ _), off, on⟩
      · rw [run_concat] at after
        exact ⟨past ++ rest, event, List.prefix_append _ _,
          List.prefix_refl _, already, after⟩

/-! ## Deciding properties of a concrete run -/

theorem sometime_iff
    {property : σ → Prop}
    {events : List ε} :
    system.Sometime property events ↔
      ∃ past ∈ events.inits, property (system.run past) := by
  simp [Sometime]

theorem along_iff
    {condition : σ → ε → Prop}
    {events : List ε} :
    system.Along condition events ↔
      ∀ position : Fin events.length,
        condition (system.run (events.take position)) events[position] := by
  constructor
  · intro along position
    apply along
    rw [Fin.getElem_fin, List.take_concat_get']
    exact List.take_prefix _ _
  · rintro holds past event ⟨rest, rfl⟩
    have last := holds ⟨past.length, by simp⟩
    simpa using last

instance
    {property : σ → Prop}
    [DecidablePred property]
    (events : List ε) :
    Decidable (system.Sometime property events) :=
  decidable_of_iff _ system.sometime_iff.symm

instance
    {condition : σ → ε → Prop}
    [∀ state event, Decidable (condition state event)]
    (events : List ε) :
    Decidable (system.Along condition events) :=
  decidable_of_iff _ system.along_iff.symm

end System

end TransitionSystem
