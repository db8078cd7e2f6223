import Libp2pRaft.Behaviour.Wakeups

/-!
# The loop of `poll`

`poll` goes round until there is something to deliver or the sleep it polls is
not over.  While the clock stands still it returns after two rounds, if the timer
finds no sleep over before its deadline, unless the engine leads past its own
election deadline: that deadline is never moved, every sleep armed for it is
armed for no time at all, and only the timer ends the loop.
-/

namespace Libp2pRaft

namespace RaftBehaviour

variable {S : Type} [Storage S]

/-- The engine leads and its own election deadline has passed. -/
def Overdue (self : RaftBehaviour S) (now : Nat) : Prop :=
  self.engine.role = .leader ∧ self.engine.electionDeadline ≤ now

instance (self : RaftBehaviour S) (now : Nat) : Decidable (self.Overdue now) :=
  inferInstanceAs (Decidable (_ ∧ _))

/-- `poll`, with a clock reading for each round and whether the sleep is over by
then: what it leaves, and the event it returns or nothing if it waits.  `none` if
the readings run out. -/
def poll
    (self : RaftBehaviour S) :
    List (Nat × Bool) → Option (RaftBehaviour S × Option ToSwarm)
  | [] => none
  | (now, elapsed) :: later =>
      match self.pollRound now elapsed with
      | (self, .ready event) => some (self, some event)
      | (self, .pending) => some (self, none)
      | (self, .again) => self.poll later

/-- The timer finds no sleep over before its deadline. -/
def Punctual (self : RaftBehaviour S) : List (Nat × Bool) → Prop
  | [] => True
  | (now, elapsed) :: later =>
      (self.Idles now → elapsed = true → (self.advance now).sleep ≤ now) ∧
        (self.pollRound now elapsed).1.Punctual later

section

variable {self : RaftBehaviour S} {now : Nat}

omit [Storage S] in
/-- A calm behaviour has nothing due, unless it is overdue. -/
theorem Calm.earliestWake
    (calm : self.Calm now)
    (beats : 0 < self.engine.config.heartbeatInterval)
    (early : ¬ self.Overdue now) :
    now < self.earliestWake := by
  have inTime := calm.le_earliestWake fun outlasts =>
    early ⟨outlasts.1, outlasts.2.le⟩
  have ahead : now + 1 ≤ self.engine.nextDeadline := by
    by_cases leading : self.engine.role = .leader
    · have electing : now < self.engine.electionDeadline := by
        by_contra past
        exact early ⟨leading, Nat.not_lt.mp past⟩
      simp only [RaftEngine.nextDeadline, leading]
      exact lt_min ((calm.beaten leading).2 beats) electing
    · rw [nextDeadline_of_waiting leading]
      exact calm.waiting leading
  refine RaftBehaviour.le_earliestWake.mpr ⟨ahead, ?_⟩
  intro id request pends
  have waits : id ∉ self.timedOut now := by
    rw [calm.expired]
    exact List.not_mem_nil
  rw [mem_timedOut pends] at waits
  omega

omit [Storage S] in
theorem SameTimer.overdue
    {after : RaftBehaviour S}
    (same : SameTimer self.engine after.engine) :
    after.Overdue now ↔ self.Overdue now := by
  unfold Overdue
  rw [same.role, same.electionDeadline]

omit [Storage S] in
theorem Overdue.nextDeadline
    (overdue : self.Overdue now) :
    self.engine.nextDeadline ≤ now := by
  obtain ⟨leading, past⟩ := overdue
  simp only [RaftEngine.nextDeadline, leading]
  exact (min_le_right _ _).trans past

omit [Storage S] in
theorem Overdue.earliestWake
    (overdue : self.Overdue now) :
    self.earliestWake ≤ now :=
  (le_earliestWake.mp le_rfl).1.trans overdue.nextDeadline

omit [Storage S] in
/-- An overdue behaviour arms its sleep for no time at all. -/
theorem Overdue.sleep_armSleep
    (overdue : self.Overdue now) :
    (self.armSleep self.earliestWake now).sleep = now := by
  rw [RaftBehaviour.sleep_armSleep, max_eq_left overdue.earliestWake]

omit [Storage S] in
theorem Calm.expirePending
    (calm : self.Calm now) :
    self.expirePending now = self := by
  unfold RaftBehaviour.expirePending
  rw [calm.expired]
  rfl

/-! ## Rounds of a calm behaviour -/

theorem Calm.idles
    (calm : self.Calm now)
    (unchanged : self.advance now = self) :
    self.Idles now :=
  ⟨calm.empty, unchanged.symm ▸ calm.empty⟩

/-- A calm behaviour that is not overdue has nothing to expire and no tick. -/
theorem Calm.advance
    (calm : self.Calm now)
    (beats : 0 < self.engine.config.heartbeatInterval)
    (early : ¬ self.Overdue now) :
    self.advance now = self := by
  have ahead := (RaftBehaviour.le_earliestWake.mp
    (Nat.succ_le_of_lt (calm.earliestWake beats early))).1
  unfold RaftBehaviour.advance
  rw [calm.expirePending]
  exact if_neg (Nat.not_le.mpr ahead)

/-- The tick of one that is overdue does nothing, once its sleep is armed. -/
theorem Calm.advance_of_overdue
    (calm : self.Calm now)
    (overdue : self.Overdue now)
    (beats : 0 < self.engine.config.heartbeatInterval)
    (armed : self.armSleep self.earliestWake now = self) :
    self.advance now = self := by
  have beaten := (calm.beaten overdue.1).2 beats
  have ticked : self.act (.tick now) now = self := by
    have none : self.engine.call (.tick now) = (self.engine, []) := by
      simp [RaftEngine.call, RaftEngine.tick,
        Nat.not_lt.mpr overdue.nextDeadline, overdue.1, Nat.not_le.mpr beaten]
    unfold act
    rw [none]
    rfl
  unfold RaftBehaviour.advance
  rw [calm.expirePending, tickEngine_of_due overdue.nextDeadline, ticked, armed]

omit [Storage S] in
/-- Arming the sleep keeps a behaviour calm. -/
theorem Calm.armSleep
    (calm : self.Calm now)
    (deadline : Nat) :
    (self.armSleep deadline now).Calm now :=
  ⟨calm.empty, calm.expired, calm.beaten, calm.waiting⟩

/-- The behaviour after an idle round whose sleep was over. -/
def rearmed (self : RaftBehaviour S) (now : Nat) : RaftBehaviour S :=
  (self.advance now).armSleep (self.advance now).earliestWake now

theorem pollRound_rearms
    (idles : self.Idles now) :
    self.pollRound now true = (self.rearmed now, .again) :=
  pollRound_of_idles idles true

theorem rearmed_beats
    (idles : self.Idles now)
    (beats : 0 < self.engine.config.heartbeatInterval) :
    0 < (self.rearmed now).engine.config.heartbeatInterval :=
  beats.trans_eq (congrArg RaftConfig.heartbeatInterval
    (calm_advance idles).2.config.symm)

/-- An overdue behaviour goes round without a change. -/
theorem rearmed_idles
    (idles : self.Idles now)
    (overdue : self.Overdue now)
    (beats : 0 < self.engine.config.heartbeatInterval) :
    (self.rearmed now).Idles now ∧
      (self.rearmed now).rearmed now = self.rearmed now := by
  have calm := (calm_advance idles).1.armSleep (self.advance now).earliestWake
  have still : (self.rearmed now).Overdue now :=
    (calm_advance idles).2.overdue.mpr overdue
  have unchanged := calm.advance_of_overdue still (rearmed_beats idles beats) rfl
  refine ⟨calm.idles unchanged, ?_⟩
  unfold rearmed at unchanged ⊢
  rw [unchanged]
  rfl

/-- A round of an overdue behaviour that has nothing to deliver arms the sleep for
no time. -/
theorem Overdue.sleep_advance
    (overdue : self.Overdue now)
    (idles : self.Idles now) :
    (self.advance now).sleep = now := by
  obtain ⟨-, -, _, engine⟩ := self.expirePending_frame now
  have due : (self.expirePending now).engine.nextDeadline ≤ now := by
    rw [engine]
    exact overdue.nextDeadline
  have advanced : self.advance now =
      ((self.expirePending now).act (.tick now) now).armSleep
        ((self.expirePending now).act (.tick now) now).earliestWake now :=
    tickEngine_of_due due
  have still := (calm_advance idles).2.overdue.mpr overdue
  rw [advanced] at still ⊢
  exact Overdue.sleep_armSleep still

/-- Past its election deadline a leader waits only for a sleep armed for no
time. -/
theorem Overdue.pollRound
    (overdue : self.Overdue now)
    (elapsed : Bool) :
    (∃ after event, self.pollRound now elapsed = (after, .ready event)) ∨
      ∃ after, (self.pollRound now elapsed = (after, .pending) ∨
          self.pollRound now elapsed = (after, .again)) ∧
        SameTimer self.engine after.engine ∧ after.sleep = now := by
  by_cases idles : self.Idles now
  · right
    have same := (calm_advance idles).2
    cases elapsed with
    | true =>
        exact ⟨self.rearmed now, .inr (pollRound_rearms idles), same,
          Overdue.sleep_armSleep (same.overdue.mpr overdue)⟩
    | false =>
        exact ⟨self.advance now, .inl (pollRound_of_idles idles false), same,
          overdue.sleep_advance idles⟩
  · exact .inl (pollRound_of_loud idles elapsed)

/-- So does a whole `poll`, whatever its rounds read from the clock. -/
theorem Overdue.poll
    (overdue : self.Overdue now)
    {readings : List (Nat × Bool)}
    (later : ∀ reading ∈ readings, now ≤ reading.1)
    {after : RaftBehaviour S}
    (waits : self.poll readings = some (after, none)) :
    ∃ reading ∈ readings,
      after.engine.nextDeadline ≤ reading.1 ∧ after.sleep = reading.1 := by
  induction readings generalizing self with
  | nil => contradiction
  | cons reading readings inductionHypothesis =>
      obtain ⟨instant, elapsed⟩ := reading
      have ahead : now ≤ instant := later _ List.mem_cons_self
      have past : self.Overdue instant := ⟨overdue.1, overdue.2.trans ahead⟩
      rcases past.pollRound elapsed with
        ⟨_, _, ready⟩ | ⟨middle, waiting | again, same, slept⟩
      · simp [RaftBehaviour.poll, ready] at waits
      · simp only [RaftBehaviour.poll, waiting, Option.some.injEq, Prod.mk.injEq,
          and_true] at waits
        subst waits
        exact ⟨_, List.mem_cons_self, (same.overdue.mpr past).nextDeadline, slept⟩
      · rw [RaftBehaviour.poll, again] at waits
        obtain ⟨reading, inside, late⟩ := inductionHypothesis
          (same.overdue.mpr overdue)
          (fun reading inside => later reading (List.mem_cons_of_mem _ inside)) waits
        exact ⟨reading, List.mem_cons_of_mem _ inside, late⟩

/-- `poll` goes round as often as it finds the sleep over, and waits as soon as it
does not. -/
def Spins (self : RaftBehaviour S) (now rounds : Nat) : Prop :=
  self.Punctual (List.replicate rounds (now, true)) ∧
    self.poll (List.replicate rounds (now, true)) = none ∧
    ∃ after, self.poll (List.replicate rounds (now, true) ++ [(now, false)]) =
      some (after, none)

theorem Idles.spins_zero
    (idles : self.Idles now) :
    self.Spins now 0 := by
  refine ⟨trivial, rfl, self.advance now, ?_⟩
  simp only [List.replicate_zero, List.nil_append, poll, pollRound_of_idles idles]
  rfl

theorem Idles.spins_succ
    (idles : self.Idles now)
    (slept : (self.advance now).sleep = now)
    {rounds : Nat}
    (onward : (self.rearmed now).Spins now rounds) :
    self.Spins now (rounds + 1) := by
  have round := pollRound_rearms idles
  obtain ⟨punctual, goesOn, after, waits⟩ := onward
  unfold Spins
  rw [List.replicate_succ, List.cons_append]
  refine ⟨⟨fun _ _ => slept.le, ?_⟩, ?_, after, ?_⟩
  · rw [round]
    exact punctual
  · rw [poll, round]
    exact goesOn
  · rw [poll, round]
    exact waits

/-- A calm behaviour that is overdue spins. -/
theorem Idles.spins_of_overdue
    (idles : self.Idles now)
    (overdue : self.Overdue now)
    (beats : 0 < self.engine.config.heartbeatInterval)
    (rounds : Nat) :
    self.Spins now rounds := by
  obtain ⟨again, fixed⟩ := rearmed_idles idles overdue beats
  have still : (self.rearmed now).Overdue now :=
    (calm_advance idles).2.overdue.mpr overdue
  -- From the second round on nothing changes any more.
  have onward : ∀ rounds, (self.rearmed now).Spins now rounds := by
    intro rounds
    induction rounds with
    | zero => exact again.spins_zero
    | succ rounds inductionHypothesis =>
        apply again.spins_succ (still.sleep_advance again)
        rw [fixed]
        exact inductionHypothesis
  cases rounds with
  | zero => exact idles.spins_zero
  | succ rounds =>
      exact idles.spins_succ (overdue.sleep_advance idles) (onward rounds)

/-- While the clock stands still and the timer finds no sleep over before its
deadline, `poll` returns within two rounds, unless the engine leads past its own
election deadline and there is nothing to deliver.  Then it goes round for as long
as the sleep is over and waits as soon as it is not, and whatever the clock does,
past the election deadline of a leader `poll` waits only for a sleep whose
deadline has come. -/
theorem poll_returns
    (self : RaftBehaviour S)
    (now : Nat)
    (beats : 0 < self.engine.config.heartbeatInterval) :
    (¬ (self.Idles now ∧ self.Overdue now) → ∀ first second,
      self.Punctual [(now, first), (now, second)] →
      ∃ result, self.poll [(now, first), (now, second)] = some result) ∧
    (self.Idles now ∧ self.Overdue now → ∀ rounds,
      self.Punctual (List.replicate rounds (now, true)) ∧
      self.poll (List.replicate rounds (now, true)) = none ∧
      ∃ after, self.poll (List.replicate rounds (now, true) ++ [(now, false)]) =
        some (after, none)) ∧
    (self.Overdue now → ∀ readings, (∀ reading ∈ readings, now ≤ reading.1) →
      ∀ after, self.poll readings = some (after, none) →
        ∃ reading ∈ readings,
          after.engine.nextDeadline ≤ reading.1 ∧ after.sleep = reading.1) := by
  refine ⟨?_, ?_, ?_⟩
  · intro ends first second punctual
    by_cases idles : self.Idles now
    · cases first with
      | false =>
          exact ⟨_, by rw [poll, pollRound_of_idles idles]; rfl⟩
      | true =>
          -- The sleep is armed anew, and nothing is due in the next round.
          obtain ⟨calm, same⟩ := calm_advance idles
          have early : ¬ (self.rearmed now).Overdue now := fun overdue =>
            ends ⟨idles, same.overdue.mp overdue⟩
          have rearmed := calm.armSleep (self.advance now).earliestWake
          have stillBeats := rearmed_beats idles beats
          have unchanged := rearmed.advance stillBeats early
          have ahead := rearmed.earliestWake stillBeats early
          have round := pollRound_rearms idles
          have later := punctual.2.1
          rw [round] at later
          have idlesAgain : (self.rearmed now).Idles now := rearmed.idles unchanged
          have unfinished : second = false := by
            by_contra isOver
            have slept := later idlesAgain (Bool.eq_true_of_not_eq_false isOver)
            have armed : (self.rearmed now).sleep =
                max now (self.rearmed now).earliestWake := sleep_armSleep _ _ _
            rw [show (self.rearmed now).advance now = self.rearmed now from unchanged,
              armed] at slept
            exact absurd ahead (not_lt.mpr ((le_max_right _ _).trans slept))
          refine ⟨((self.rearmed now).advance now, none), ?_⟩
          rw [poll, round, unfinished]
          simp only [poll, pollRound_of_idles idlesAgain]
          rfl
    · obtain ⟨after, event, round⟩ := pollRound_of_loud idles first
      exact ⟨_, by rw [poll, round]⟩
  · rintro ⟨idles, overdue⟩ rounds
    exact idles.spins_of_overdue overdue beats rounds
  · exact fun overdue _ later _ waits => overdue.poll later waits

/-- The theorem applies to a leader whose election is an election delay ago. -/
theorem poll_returns_elected :
    elected.Overdue 311 ∧
      ∀ rounds, elected.poll (List.replicate rounds (311, true)) = none := by
  have overdue : elected.Overdue 311 := by decide +kernel
  exact ⟨overdue, fun rounds =>
    ((poll_returns elected 311 (by decide +kernel)).2.1
      ⟨⟨by decide +kernel, by decide +kernel⟩, overdue⟩ rounds).2.1⟩

end

end RaftBehaviour

end Libp2pRaft
