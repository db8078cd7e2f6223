import Libp2pRaft.Library.TransitionSystem

/-!
# What a run can still come to

A run is continued event by event.  Each event must be allowed in the state it
finds, and clock readings never go back.  Goals compose: one goal is reached
through another, along a decreasing measure, and member by member over a list.
-/

namespace TransitionSystem

namespace System

/-- A run, and a clock reading that none of its events is after. -/
structure Moment (ε : Type) where
  events : List ε
  now : Nat

variable {σ ε : Type} {system : System σ ε} {allowed : σ → ε → Prop}
  {clock : ε → Option Nat}

/-- A run is continued by allowed events. -/
inductive Extends
    (system : System σ ε)
    (allowed : σ → ε → Prop)
    (clock : ε → Option Nat)
    (start : Moment ε) : Moment ε → Prop
  | refl : Extends system allowed clock start start
  | step {middle : Moment ε} (event : ε) (later : Nat)
      (extended : Extends system allowed clock start middle)
      (isAllowed : allowed (system.run middle.events) event)
      (forward : middle.now ≤ later)
      (read : ∀ time ∈ clock event, middle.now ≤ time ∧ time ≤ later) :
      Extends system allowed clock start ⟨middle.events ++ [event], later⟩

/-- Some continuation of a run meets a goal. -/
def CanReach
    (system : System σ ε)
    (allowed : σ → ε → Prop)
    (clock : ε → Option Nat)
    (goal : Moment ε → Prop)
    (start : Moment ε) : Prop :=
  ∃ last, Extends system allowed clock start last ∧ goal last

/-- Events that may follow a moment, in the order of their clock readings. -/
structure Admissible
    (system : System σ ε)
    (allowed : σ → ε → Prop)
    (clock : ε → Option Nat)
    (start : Moment ε)
    (more : List ε) : Prop where
  isAllowed : ∀ past event, past ++ [event] <+: more →
    allowed (system.run (start.events ++ past)) event
  ordered : (more.filterMap clock).Pairwise (· ≤ ·)
  since : ∀ time ∈ more.filterMap clock, start.now ≤ time

variable {start middle last : Moment ε} {goal further : Moment ε → Prop}

theorem Extends.trans
    (first : Extends system allowed clock start middle)
    (second : Extends system allowed clock middle last) :
    Extends system allowed clock start last := by
  induction second with
  | refl => exact first
  | step event later _ isAllowed forward read inductionHypothesis =>
      exact .step event later inductionHypothesis isAllowed forward read

/-- What a continuation consists of. -/
theorem Extends.admissible
    (extended : Extends system allowed clock start last) :
    ∃ more, last.events = start.events ++ more ∧ start.now ≤ last.now ∧
      Admissible system allowed clock start more ∧
      ∀ time ∈ more.filterMap clock, time ≤ last.now := by
  induction extended with
  | refl =>
      refine ⟨[], by simp, le_rfl, ⟨?_, by simp, by simp⟩, by simp⟩
      intro past event isStep
      simp at isStep
  | @step middle event later _ isAllowed forward read inductionHypothesis =>
      obtain ⟨more, sameEvents, ordered, admissible, bounded⟩ :=
        inductionHypothesis
      have readings : (more ++ [event]).filterMap clock =
          more.filterMap clock ++ (clock event).toList := by
        rw [List.filterMap_append]
        cases read : clock event <;> simp [read]
      refine ⟨more ++ [event], ?_, ordered.trans forward, ⟨?_, ?_, ?_⟩, ?_⟩
      · rw [← List.append_assoc, ← sameEvents]
      · intro past other isStep
        rcases List.prefix_concat_iff.mp isStep with same | before
        · obtain ⟨rfl, isLast⟩ := List.append_inj' same rfl
          obtain rfl := List.singleton_inj.mp isLast
          rw [← sameEvents]
          exact isAllowed
        · exact admissible.isAllowed past other before
      · rw [readings, List.pairwise_append]
        refine ⟨admissible.ordered, ?_, ?_⟩
        · cases clock event <;> simp
        · intro time inside latest isLatest
          rw [Option.mem_toList] at isLatest
          exact (bounded time inside).trans (read latest isLatest).1
      · intro time inside
        rw [readings, List.mem_append, Option.mem_toList] at inside
        rcases inside with earlier | isLatest
        · exact admissible.since time earlier
        · exact ordered.trans (read time isLatest).1
      · intro time inside
        rw [readings, List.mem_append, Option.mem_toList] at inside
        rcases inside with earlier | isLatest
        · exact (bounded time earlier).trans forward
        · exact (read time isLatest).2

/-- A condition that every allowed event meets holds along the continuation. -/
theorem Admissible.along
    {condition : σ → ε → Prop}
    {more : List ε}
    (admissible : Admissible system allowed clock start more)
    (implied : ∀ state event, allowed state event → condition state event)
    (before : system.Along condition start.events) :
    system.Along condition (start.events ++ more) := by
  intro past event isStep
  rcases concat_prefix_append isStep with early | ⟨rest, rfl, isNew⟩
  · exact before past event early
  · exact implied _ _ (admissible.isAllowed rest event isNew)

namespace CanReach

theorem now
    (met : goal start) :
    CanReach system allowed clock goal start :=
  ⟨start, .refl, met⟩

theorem imp
    (reaches : CanReach system allowed clock goal start)
    (implied : ∀ moment, goal moment → further moment) :
    CanReach system allowed clock further start := by
  obtain ⟨last, extended, met⟩ := reaches
  exact ⟨last, extended, implied last met⟩

/-- A condition that every allowed event meets holds along what leads to a
goal. -/
theorem along
    {condition : σ → ε → Prop}
    (reaches : CanReach system allowed clock goal start)
    (implied : ∀ state event, allowed state event → condition state event)
    (before : system.Along condition start.events) :
    CanReach system allowed clock
      (fun later => goal later ∧ system.Along condition later.events) start := by
  obtain ⟨last, extended, met⟩ := reaches
  obtain ⟨more, sameEvents, -, admissible, -⟩ := extended.admissible
  refine ⟨last, extended, met, ?_⟩
  rw [sameEvents]
  exact admissible.along implied before

/-- One goal is reached through another. -/
theorem bind
    (reaches : CanReach system allowed clock goal start)
    (onward : ∀ moment, goal moment →
      CanReach system allowed clock further moment) :
    CanReach system allowed clock further start := by
  obtain ⟨middle, first, met⟩ := reaches
  obtain ⟨last, second, done⟩ := onward middle met
  exact ⟨last, first.trans second, done⟩

/-- A goal is reached by one event first. -/
theorem step
    (event : ε)
    (later : Nat)
    (isAllowed : allowed (system.run start.events) event)
    (forward : start.now ≤ later)
    (read : ∀ time ∈ clock event, start.now ≤ time ∧ time ≤ later)
    (reaches : CanReach system allowed clock goal
      ⟨start.events ++ [event], later⟩) :
    CanReach system allowed clock goal start := by
  obtain ⟨last, extended, met⟩ := reaches
  exact ⟨last, .trans (.step event later .refl isAllowed forward read) extended,
    met⟩

/-- A goal is reached along a measure that decreases until it is met. -/
theorem descend
    (before : Nat → Moment ε → Prop)
    (decreases : ∀ count moment, before count moment →
      CanReach system allowed clock
        (fun later => goal later ∨ ∃ fewer < count, before fewer later) moment)
    (count : Nat)
    (held : before count start) :
    CanReach system allowed clock goal start := by
  induction count using Nat.strongRecOn generalizing start with
  | ind count inductionHypothesis =>
      refine (decreases count start held).bind ?_
      rintro moment (met | ⟨fewer, less, still⟩)
      · exact .now met
      · exact inductionHypothesis fewer less still

/-- A goal about a list is reached member by member. -/
theorem over_list
    {α : Type}
    (property : List α → Moment ε → Prop)
    (items : List α)
    (next : ∀ done item rest, items = done ++ item :: rest → ∀ moment,
      property done moment →
        CanReach system allowed clock (property (done ++ [item])) moment)
    (held : property [] start) :
    CanReach system allowed clock (property items) start := by
  have upTo : ∀ rest done, items = done ++ rest → ∀ moment,
      property done moment →
        CanReach system allowed clock (property items) moment := by
    intro rest
    induction rest with
    | nil =>
        intro done all moment met
        rw [List.append_nil] at all
        exact .now (all ▸ met)
    | cons item rest inductionHypothesis =>
        intro done all moment met
        refine (next done item rest all moment met).bind ?_
        exact inductionHypothesis (done ++ [item]) (by simp [all])
  exact upTo items [] rfl start held

end CanReach

end System

end TransitionSystem
