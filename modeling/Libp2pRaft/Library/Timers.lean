import Libp2pRaft.Library.TransitionSystem

/-!
# Clocks and timers along a run

Some events of a run read a clock that never goes back.  A timer is a deadline
that a step leaves where it is or moves one period ahead of the clock, so it
only moves forward, and it stays a period ahead of every restart.
-/

namespace TransitionSystem

namespace System

variable {σ ε : Type}

/-- The clock of a run: the last reading, at first the one it starts with. -/
def clock (reading : ε → Option Nat) (start : Nat) : System Nat ε where
  init := start
  step := fun now event => (reading event).getD now

/-- The readings of a list of events never go back. -/
def Forward
    (reading : ε → Option Nat)
    (start : Nat)
    (events : List ε) : Prop :=
  (clock reading start).Along
    (fun now event => ∀ later ∈ reading event, now ≤ later) events

instance
    (reading : ε → Option Nat)
    (start : Nat)
    (events : List ε) :
    Decidable (Forward reading start events) :=
  inferInstanceAs (Decidable (Along _ _ _))

variable {reading : ε → Option Nat} {start : Nat}

theorem clock_step_of_reading
    {now later : Nat}
    {event : ε}
    (reads : reading event = some later) :
    (clock reading start).step now event = later := by
  simp [clock, reads]

theorem Forward.of_isPrefix
    {past events : List ε}
    (forward : Forward reading start events)
    (isPast : past <+: events) :
    Forward reading start past :=
  Along.of_isPrefix forward isPast

/-- The clock of a run is never behind the clock of its past. -/
theorem Forward.clock_le
    {past events : List ε}
    (forward : Forward reading start events)
    (isPast : past <+: events) :
    (clock reading start).run past ≤ (clock reading start).run events := by
  apply related_along _ (· ≤ ·) le_refl le_trans _ isPast forward
  intro now event ahead
  cases reads : reading event with
  | none => simp [clock, reads]
  | some later =>
      rw [clock_step_of_reading reads]
      exact ahead later reads

/-- A reading is not behind the clock of the run before it. -/
theorem Forward.clock_le_reading
    {past events : List ε}
    {event : ε}
    {now : Nat}
    (forward : Forward reading start events)
    (isPast : past ++ [event] <+: events)
    (reads : reading event = some now) :
    (clock reading start).run past ≤ now :=
  forward past event isPast now reads

variable {system : System σ ε} {deadline : σ → Nat} {period : Nat}

/-- A deadline that starts a period ahead of the clock, and that every step of
a run keeps or puts a period ahead of its reading. -/
structure Timer
    (system : System σ ε)
    (reading : ε → Option Nat)
    (start period : Nat)
    (deadline : σ → Nat) : Prop where
  init : deadline system.init = start + period
  step : ∀ past event,
    deadline (system.run (past ++ [event])) = deadline (system.run past) ∨
      ∃ now, reading event = some now ∧
        deadline (system.run (past ++ [event])) = now + period

/-- A timer is at most a period ahead of the clock. -/
theorem Timer.le_clock
    (timer : system.Timer reading start period deadline)
    {events : List ε}
    (forward : Forward reading start events) :
    deadline (system.run events) ≤
      (clock reading start).run events + period := by
  induction events using List.reverseRecOn with
  | nil => exact timer.init.le
  | append_singleton events event inductionHypothesis =>
      have isPast := List.prefix_append events [event]
      have ahead := forward.clock_le isPast
      have before := inductionHypothesis (forward.of_isPrefix isPast)
      rcases timer.step events event with kept | ⟨now, reads, restarted⟩
      · rw [kept]
        omega
      · rw [restarted, run_concat, clock_step_of_reading reads]

/-- A timer only moves forward. -/
theorem Timer.mono
    (timer : system.Timer reading start period deadline)
    {past events : List ε}
    (forward : Forward reading start events)
    (isPast : past <+: events) :
    deadline (system.run past) ≤ deadline (system.run events) := by
  obtain ⟨rest, rfl⟩ := isPast
  induction rest using List.reverseRecOn with
  | nil => rw [List.append_nil]
  | append_singleton rest event inductionHypothesis =>
      rw [← List.append_assoc] at forward ⊢
      have isEarlier := List.prefix_append (past ++ rest) [event]
      have earlier := forward.of_isPrefix isEarlier
      refine (inductionHypothesis earlier).trans ?_
      rcases timer.step (past ++ rest) event with
        kept | ⟨now, reads, restarted⟩
      · exact kept.ge
      · have bound := timer.le_clock earlier
        have ahead := forward.clock_le_reading (List.prefix_refl _) reads
        omega

/-- A timer is a period ahead of the start. -/
theorem Timer.start_le
    (timer : system.Timer reading start period deadline)
    {events : List ε}
    (forward : Forward reading start events) :
    start + period ≤ deadline (system.run events) := by
  have moved := timer.mono forward (List.nil_prefix)
  rwa [run_nil, timer.init] at moved

/-- A timer that is restarted whenever a state stops being held stays a period
ahead of every moment it was held at. -/
theorem Timer.held_or_le
    (timer : system.Timer reading start period deadline)
    (held : σ → Prop)
    {past events : List ε}
    (forward : Forward reading start events)
    (released : ∀ earlier event, earlier ++ [event] <+: events →
      held (system.run earlier) → ¬ held (system.run (earlier ++ [event])) →
      ∃ now, reading event = some now ∧
        now + period ≤ deadline (system.run (earlier ++ [event])))
    (isPast : past <+: events)
    (holds : held (system.run past)) :
    held (system.run events) ∨
      (clock reading start).run past + period ≤ deadline (system.run events) := by
  obtain ⟨rest, rfl⟩ := isPast
  induction rest using List.reverseRecOn with
  | nil =>
      rw [List.append_nil]
      exact .inl holds
  | append_singleton rest event inductionHypothesis =>
      rw [← List.append_assoc] at forward released ⊢
      have isEarlier := List.prefix_append (past ++ rest) [event]
      have before := inductionHypothesis (forward.of_isPrefix isEarlier)
        fun earlier other isPart =>
          released earlier other (isPart.trans isEarlier)
      rcases before with still | ahead
      · by_cases keeps : held (system.run (past ++ rest ++ [event]))
        · exact .inl keeps
        · obtain ⟨now, reads, restarted⟩ :=
            released _ _ (List.prefix_refl _) still keeps
          have read := forward.clock_le_reading (List.prefix_refl _) reads
          have order := (forward.of_isPrefix isEarlier).clock_le
            (List.prefix_append past rest)
          exact .inr (by omega)
      · exact .inr (ahead.trans (timer.mono forward isEarlier))

end System

end TransitionSystem
