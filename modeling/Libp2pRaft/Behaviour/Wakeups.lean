import Libp2pRaft.Behaviour.Endings
import Libp2pRaft.Library.Timers
import Libp2pRaft.Raft.Elections

/-!
# Wake-ups

The behaviour waits for the sleep it armed last.  Whatever brings the next
deadline forward arms the sleep anew before the entry point returns; the paths
that do not arm it only drop pending requests.  A sleep is never armed for a past
instant, so a leader whose own election deadline has passed waits for a sleep that
comes too late.
-/

namespace Libp2pRaft

open TransitionSystem

namespace RaftBehaviour

variable {S : Type} {self before middle after : RaftBehaviour S}

/-- The next wake-up is the first of all deadlines. -/
theorem le_earliestWake
    {instant : Nat} :
    instant ≤ self.earliestWake ↔
      instant ≤ self.engine.nextDeadline ∧
        ∀ id request, self.Pends id request →
          instant ≤ request.sentAt + self.config.rpcTimeout := by
  have folded : ∀ (entries : List (Sigma fun _ : Nat => PendingRequest))
      (wake : Nat),
      instant ≤ entries.foldl
          (fun wake entry => min wake (entry.2.sentAt + self.config.rpcTimeout))
          wake ↔
        instant ≤ wake ∧ ∀ entry ∈ entries,
          instant ≤ entry.2.sentAt + self.config.rpcTimeout := by
    intro entries
    induction entries with
    | nil => simp
    | cons entry entries inductionHypothesis =>
        intro wake
        rw [List.foldl_cons, inductionHypothesis, le_min_iff,
          List.forall_mem_cons, and_assoc]
  rw [earliestWake, folded]
  constructor
  · rintro ⟨ticks, expires⟩
    refine ⟨ticks, fun id request pends => ?_⟩
    exact expires ⟨id, request⟩ (AList.mem_lookup_iff.mp pends)
  · rintro ⟨ticks, expires⟩
    refine ⟨ticks, fun entry inside => ?_⟩
    exact expires entry.1 entry.2 (AList.mem_lookup_iff.mpr inside)

/-- The deadline of the sleep is the next wake-up at the latest, or now. -/
def Armed (clock : Nat) (behaviour : RaftBehaviour S) : Prop :=
  behaviour.sleep ≤ max clock behaviour.earliestWake

theorem sleep_armSleep
    (self : RaftBehaviour S)
    (deadline now : Nat) :
    (self.armSleep deadline now).sleep = max now deadline := by
  show now + (deadline - now) = max now deadline
  omega

/-- A change that keeps the sleep and brings no deadline forward. -/
structure Relaxed (before after : RaftBehaviour S) : Prop where
  sleep : after.sleep = before.sleep
  config : after.config = before.config
  nextDeadline : before.engine.nextDeadline ≤ after.engine.nextDeadline
  pending : ∀ id request, after.Pends id request → before.Pends id request

namespace Relaxed

theorem refl (self : RaftBehaviour S) : Relaxed self self :=
  ⟨rfl, rfl, le_rfl, fun _ _ pends => pends⟩

theorem trans
    (start : Relaxed before middle)
    (onward : Relaxed middle after) :
    Relaxed before after where
  sleep := onward.sleep.trans start.sleep
  config := onward.config.trans start.config
  nextDeadline := start.nextDeadline.trans onward.nextDeadline
  pending id request pends := start.pending id request
    (onward.pending id request pends)

/-- The queue does not matter, nor do connections, dialling and channels. -/
theorem of_eq
    (sleep : after.sleep = before.sleep)
    (config : after.config = before.config)
    (engine : after.engine = before.engine)
    (pending : after.pending = before.pending) :
    Relaxed before after where
  sleep := sleep
  config := config
  nextDeadline := by rw [engine]
  pending id request pends := by
    unfold Pends at pends ⊢
    rwa [pending] at pends

theorem dialSeed
    (self : RaftBehaviour S)
    (peer : PeerId)
    (now : Nat) :
    Relaxed self (self.dialSeed peer now) := by
  rcases self.dialSeed_cases peer now with idle | ⟨addresses, -, dialled⟩
  · rw [idle]
    exact .refl self
  · rw [dialled]
    exact .of_eq rfl rfl rfl rfl

/-- A failed request is no longer pending. -/
theorem of_lapse
    (lapse : Lapse before after) :
    Relaxed before after := by
  cases lapse with
  | dropped id =>
      unfold RaftBehaviour.drop
      cases before.pending.lookup id with
      | none => exact .refl before
      | some request =>
          have same : (before.engine.handleRpcFailure request.target
              request.kind).1.nextDeadline = before.engine.nextDeadline := by
            unfold RaftEngine.handleRpcFailure
            split_ifs
            · rfl
            · rfl
          exact ⟨rfl, rfl, same.ge, fun _ _ pends => (pends_erase.mp pends).2⟩
  | reported peer error => exact .of_eq rfl rfl rfl rfl

theorem of_lapses
    (lapses : Relation.ReflTransGen Lapse before after) :
    Relaxed before after :=
  kept_of_reflTransGen (motive := Relaxed before)
    (fun _ _ lapse relaxed => relaxed.trans (.of_lapse lapse))
    lapses (.refl before)

/-- Events of the swarm arm nothing and bring no deadline forward. -/
theorem onSwarmEvent
    (self : RaftBehaviour S)
    (event : FromSwarm)
    (now : Nat) :
    Relaxed self (self.onSwarmEvent event now) := by
  have heard : Relaxed self (self.hear event now) := by
    obtain ⟨_, _, _, frame⟩ := self.hear_frame event now
    rw [frame]
    exact .of_eq rfl rfl rfl rfl
  exact heard.trans (.of_lapses (self.onSwarmEvent_lapses event now))

end Relaxed

/-- A change that brings no deadline forward keeps the sleep armed. -/
theorem Armed.relaxed
    {clock now : Nat}
    (armed : Armed clock before)
    (relaxed : Relaxed before after)
    (later : clock ≤ now) :
    Armed now after := by
  have onward : before.earliestWake ≤ after.earliestWake := by
    obtain ⟨ticks, expires⟩ := le_earliestWake.mp (le_refl before.earliestWake)
    refine le_earliestWake.mpr ⟨ticks.trans relaxed.nextDeadline, ?_⟩
    intro id request pends
    rw [relaxed.config]
    exact expires id request (relaxed.pending id request pends)
  unfold Armed at armed ⊢
  rw [relaxed.sleep]
  exact armed.trans (max_le_max later onward)

theorem Armed.armSleep
    (self : RaftBehaviour S)
    (now : Nat) :
    Armed now (self.armSleep self.earliestWake now) :=
  (self.sleep_armSleep self.earliestWake now).le

variable [Storage S]

/-! ## Entry points -/

theorem Armed.propose
    {clock now : Nat}
    (armed : Armed clock self)
    (later : clock ≤ now)
    (data : List UInt8) :
    Armed now (self.propose data now).1 := by
  have refused : ∀ engine error,
      self.engine.propose data = (engine, .error error) →
        engine = self.engine := by
    intro engine error result
    unfold RaftEngine.propose at result
    split_ifs at result
    · exact (congrArg Prod.fst result).symm
    · simp at result
  unfold RaftBehaviour.propose
  cases proposed : self.engine.propose data with
  | mk engine result =>
      cases result with
      | error error =>
          have relaxed : Relaxed self { self with engine := engine } :=
            .of_eq rfl rfl (refused engine error proposed) rfl
          exact armed.relaxed relaxed later
      | ok accepted => exact .armSleep _ now

/-- Whatever a handler reports, the sleep is armed, or nothing is brought
forward. -/
theorem Armed.onConnectionHandlerEvent
    {clock now : Nat}
    (armed : Armed clock self)
    (later : clock ≤ now)
    (peer : PeerId)
    (conn : ConnectionId)
    (event : ToBehaviour) :
    Armed now (self.onConnectionHandlerEvent peer conn event now) := by
  cases event with
  | request correlationId msg channelId =>
      simp only [RaftBehaviour.onConnectionHandlerEvent]
      cases self.peerMap.nodeId peer with
      | none => exact armed.relaxed (.of_eq rfl rfl rfl rfl) later
      | some sender => exact .armSleep _ now
  | response correlationId msg =>
      simp only [RaftBehaviour.onConnectionHandlerEvent]
      cases self.pending.lookup correlationId with
      | none => exact armed.relaxed (.refl self) later
      | some request => exact .armSleep _ now
  | failure correlationId error =>
      cases correlationId with
      | none => exact .armSleep _ now
      | some id => exact .armSleep _ now

theorem Armed.tickEngine
    {clock now : Nat}
    (armed : Armed clock self)
    (later : clock ≤ now) :
    Armed now (self.tickEngine now) := by
  unfold RaftBehaviour.tickEngine
  split_ifs
  · exact .armSleep _ now
  · exact armed.relaxed (.refl self) later

/-- A round of `poll` keeps the sleep armed. -/
theorem Armed.pollRound
    {clock now : Nat}
    (armed : Armed clock self)
    (later : clock ≤ now)
    (elapsed : Bool) :
    Armed now (self.pollRound now elapsed).1 := by
  have expired : Armed now (self.expirePending now) :=
    armed.relaxed (.of_lapses (self.expirePending_lapses now)) later
  have ticked := expired.tickEngine le_rfl
  unfold RaftBehaviour.pollRound
  cases self.pendingEvents with
  | cons event rest => exact armed.relaxed (.of_eq rfl rfl rfl rfl) later
  | nil =>
      simp only
      cases (self.expirePending now).pendingEvents with
      | cons event rest => exact .armSleep _ now
      | nil =>
          simp only
          cases ((self.expirePending now).tickEngine now).pendingEvents with
          | cons event rest => exact ticked.relaxed (.of_eq rfl rfl rfl rfl) le_rfl
          | nil =>
              simp only
              split_ifs
              · exact .armSleep _ now
              · exact ticked

theorem Armed.through
    {clock now : Nat}
    (armed : Armed clock self)
    (later : clock ≤ now)
    {entry : EntryPoint}
    (reads : entry.reading = some now) :
    Armed now (self.through entry) := by
  cases entry with
  | propose data =>
      obtain rfl := Option.some.inj reads
      exact armed.propose later data
  | dialSeed peer =>
      obtain rfl := Option.some.inj reads
      exact armed.relaxed (.dialSeed self peer _) later
  | onSwarmEvent event =>
      obtain rfl := Option.some.inj reads
      exact armed.relaxed (.onSwarmEvent self event _) later
  | onConnectionHandlerEvent peer conn event =>
      obtain rfl := Option.some.inj reads
      exact armed.onConnectionHandlerEvent later peer conn event
  | poll =>
      obtain rfl := Option.some.inj reads
      exact armed.pollRound later _

/-- The sleep of every run is armed. -/
theorem armed_run
    (config : RaftConfig)
    (storage : S)
    (start : Nat)
    {entries : List EntryPoint}
    (forward : System.Forward EntryPoint.reading start entries) :
    Armed ((System.clock EntryPoint.reading start).run entries)
      ((operation config storage start).run entries) := by
  induction entries using List.reverseRecOn with
  | nil => exact (sleep_armSleep _ _ _).le
  | append_singleton entries entry inductionHypothesis =>
      have before := inductionHypothesis
        (forward.of_isPrefix (List.prefix_append _ _))
      obtain ⟨now, reads⟩ : ∃ now, entry.reading = some now := by
        cases entry <;> exact ⟨_, rfl⟩
      have later := forward.clock_le_reading (List.prefix_refl _) reads
      rw [System.run_concat, System.run_concat,
        System.clock_step_of_reading reads]
      exact before.through later reads

section

omit [Storage S]

/-! ## Dispatches that queue nothing -/

/-- A dispatch only tells the engine of failures, and makes a request pending
only when it queues it. -/
structure Spent (before after : RaftBehaviour S) : Prop where
  config : after.config = before.config
  failures : ∃ aeInflight, after.engine =
    { before.engine with aeInflight := aeInflight }
  grown : before.pendingEvents.length ≤ after.pendingEvents.length
  unqueued : after.pendingEvents.length = before.pendingEvents.length →
    after.pending = before.pending

namespace Spent

variable {before middle after : RaftBehaviour S}

theorem refl (self : RaftBehaviour S) : Spent self self :=
  ⟨rfl, ⟨_, rfl⟩, le_rfl, fun _ => rfl⟩

theorem trans
    (first : Spent before middle)
    (second : Spent middle after) :
    Spent before after where
  config := second.config.trans first.config
  failures := by
    obtain ⟨_, firstEq⟩ := first.failures
    obtain ⟨aeInflight, secondEq⟩ := second.failures
    exact ⟨aeInflight, by rw [secondEq, firstEq]⟩
  grown := first.grown.trans second.grown
  unqueued := by
    intro same
    have early := first.grown
    have late := second.grown
    rw [second.unqueued (by omega), first.unqueued (by omega)]

theorem of_edit
    {inboundFrom : Option (NodeId × Nat)}
    {now : Nat}
    (edit : Edit inboundFrom now before after) :
    Spent before after := by
  -- An event at the end of the queue makes it longer, whatever else changes.
  have longer : ∀ event, before.pendingEvents.length <
      (before.pendingEvents ++ [event]).length := by
    simp
  cases edit with
  | reported event => exact ⟨rfl, ⟨_, rfl⟩, (longer _).le, fun _ => rfl⟩
  | noted target kind =>
      refine ⟨rfl, ?_, le_rfl, fun _ => rfl⟩
      unfold RaftBehaviour.noteFailure RaftEngine.handleRpcFailure
      split_ifs
      · exact ⟨_, rfl⟩
      · exact ⟨_, rfl⟩
  | dialled => exact ⟨rfl, ⟨_, rfl⟩, (longer _).le, fun _ => rfl⟩
  | posted =>
      exact ⟨rfl, ⟨_, rfl⟩, (longer _).le, fun same => absurd same (longer _).ne'⟩
  | responded => exact ⟨rfl, ⟨_, rfl⟩, (longer _).le, fun _ => rfl⟩

theorem executeActions
    (self : RaftBehaviour S)
    (actions : List Action)
    (now : Nat) :
    Spent self (self.executeActions actions none now) :=
  kept_of_reflTransGen (motive := Spent self)
    (fun _ _ edit spent => spent.trans (.of_edit edit))
    (self.executeActions_edits actions) (.refl self)

end Spent

/-- Expired requests are dropped without a word. -/
theorem failPending_eq_drop
    (self : RaftBehaviour S)
    (correlationId : Nat)
    (error : String)
    (now : Nat) :
    self.failPending correlationId error false now = self.drop correlationId := by
  rcases self.failPending_cases correlationId error false now with
    quiet | ⟨emitted, -⟩
  · exact quiet
  · contradiction

theorem expirePending_eq
    (self : RaftBehaviour S)
    (now : Nat) :
    self.expirePending now = (self.timedOut now).foldl drop self := by
  unfold expirePending
  generalize self.timedOut now = ids
  induction ids generalizing self with
  | nil => rfl
  | cons id ids inductionHypothesis =>
      rw [List.foldl_cons, List.foldl_cons, failPending_eq_drop]
      exact inductionHypothesis _

/-- What expiring requests leaves as it is. -/
theorem expirePending_frame
    (self : RaftBehaviour S)
    (now : Nat) :
    (self.expirePending now).pendingEvents = self.pendingEvents ∧
      (self.expirePending now).config = self.config ∧
      ∃ aeInflight, (self.expirePending now).engine =
        { self.engine with aeInflight := aeInflight } := by
  have relaxed : Relaxed self (self.expirePending now) :=
    .of_lapses (self.expirePending_lapses now)
  have dropped := self.dropAll_dropped (self.timedOut now)
  rw [← expirePending_eq] at dropped
  obtain ⟨aeInflight, -, frame⟩ := dropped.failures.frame
  exact ⟨dropped.pendingEvents, relaxed.config, aeInflight, frame⟩

/-- Requests expire at once. -/
theorem timedOut_expirePending
    (self : RaftBehaviour S)
    (now : Nat) :
    (self.expirePending now).timedOut now = [] := by
  rw [List.eq_nil_iff_forall_not_mem]
  intro id inside
  obtain ⟨entry, isEntry, rfl⟩ := List.mem_map.mp inside
  have pends : (self.expirePending now).Pends entry.1 entry.2 :=
    AList.mem_lookup_iff.mpr (List.mem_filter.mp isEntry).1
  have waited := (mem_timedOut pends).mp inside
  rw [(self.expirePending_frame now).2.1] at waited
  exact (pends_expirePending.mp pends).1 waited

/-! ## A round that queues nothing -/

theorem nextDeadline_of_waiting
    {engine : RaftEngine S}
    (waiting : engine.role ≠ .leader) :
    engine.nextDeadline = engine.electionDeadline := by
  cases role : engine.role with
  | leader => contradiction
  | follower => simp only [RaftEngine.nextDeadline, role]
  | candidate => simp only [RaftEngine.nextDeadline, role]

end

/-- Two engines in one role, with one election timer. -/
structure SameTimer (before after : RaftEngine S) : Prop where
  config : after.config = before.config
  role : after.role = before.role
  electionDeadline : after.electionDeadline = before.electionDeadline

/-- A tick of a leader that is due leaves its heartbeat deadline ahead, and moves
no other. -/
theorem tick_of_leader
    {engine : RaftEngine S}
    {now : Nat}
    (leading : engine.role = .leader)
    (due : engine.nextDeadline ≤ now) :
    SameTimer engine (engine.tick now).1 ∧
      now ≤ (engine.tick now).1.heartbeatDeadline ∧
      (0 < engine.config.heartbeatInterval →
        now < (engine.tick now).1.heartbeatDeadline) := by
  rw [RaftEngine.tick, if_neg (Nat.not_lt.mpr due)]
  by_cases beat : engine.heartbeatDeadline ≤ now
  · obtain ⟨_, _, frame⟩ := engine.replicateActions_frame
    simp only [leading, ge_iff_le, beat, if_true, frame]
    exact ⟨⟨rfl, leading.symm, rfl⟩, Nat.le_add_right _ _, Nat.lt_add_of_pos_right⟩
  · simp only [leading, ge_iff_le, beat, if_false]
    have ahead := Nat.not_le.mp beat
    exact ⟨⟨rfl, rfl, rfl⟩, ahead.le, fun _ => ahead⟩

omit [Storage S] in
theorem executeActions_candidate
    (self : RaftBehaviour S)
    (term : Nat)
    (actions : List Action)
    (now : Nat) :
    (self.executeActions (.becomeCandidate term :: actions) none
      now).pendingEvents ≠ [] := by
  have grown := (Spent.executeActions (self.pushEvent
    (.generateEvent (.roleChanged .candidate term none))) actions now).grown
  intro silent
  have none : ((self.pushEvent (.generateEvent (.roleChanged .candidate term
      none))).executeActions actions none now).pendingEvents = [] := silent
  rw [none] at grown
  simp [pushEvent] at grown

/-- A tick that is due calls the engine and arms the sleep. -/
theorem tickEngine_of_due
    {self : RaftBehaviour S}
    {now : Nat}
    (due : self.engine.nextDeadline ≤ now) :
    self.tickEngine now = (self.act (.tick now) now).armSleep
      (self.act (.tick now) now).earliestWake now :=
  if_pos due

/-- An election is announced. -/
theorem tickEngine_announces
    {self : RaftBehaviour S}
    {now : Nat}
    (waiting : self.engine.role ≠ .leader)
    (due : self.engine.electionDeadline ≤ now) :
    (self.tickEngine now).pendingEvents ≠ [] := by
  have early : self.engine.nextDeadline ≤ now :=
    (nextDeadline_of_waiting waiting).trans_le due
  have campaigns : self.engine.Campaigns (.tick now) := ⟨waiting, due⟩
  rw [tickEngine_of_due early]
  show (self.act (.tick now) now).pendingEvents ≠ []
  unfold act
  rw [RaftEngine.call_of_campaigns now campaigns]
  exact executeActions_candidate
    { self with engine := (self.engine.startElection now).1 }
    (wrappingSucc self.engine.currentTerm) [.broadcast _] now

/-- Once a round has queued nothing, no request is timed out and no timer but the
election timer of a leader is due. -/
structure Calm (now : Nat) (behaviour : RaftBehaviour S) : Prop where
  empty : behaviour.pendingEvents = []
  expired : behaviour.timedOut now = []
  beaten : behaviour.engine.role = .leader →
    now ≤ behaviour.engine.heartbeatDeadline ∧
      (0 < behaviour.engine.config.heartbeatInterval →
        now < behaviour.engine.heartbeatDeadline)
  waiting : behaviour.engine.role ≠ .leader →
    now < behaviour.engine.electionDeadline

/-- A tick that queues nothing leaves the behaviour calm, in its role and with its
election deadline. -/
theorem calm_tickEngine
    {self : RaftBehaviour S}
    {now : Nat}
    (empty : self.pendingEvents = [])
    (expired : self.timedOut now = [])
    (silent : (self.tickEngine now).pendingEvents = []) :
    Calm now (self.tickEngine now) ∧
      SameTimer self.engine (self.tickEngine now).engine := by
  by_cases leading : self.engine.role = .leader
  · by_cases due : self.engine.nextDeadline ≤ now
    · obtain ⟨same, beaten⟩ := tick_of_leader leading due
      have spent : Spent { self with engine := (self.engine.tick now).1 }
          (self.act (.tick now) now) :=
        .executeActions _ _ now
      rw [tickEngine_of_due due] at silent ⊢
      obtain ⟨aeInflight, engine⟩ := spent.failures
      have pending := spent.unqueued
        ((congrArg List.length silent).trans (congrArg List.length empty).symm)
      refine ⟨⟨silent, ?_, ?_, ?_⟩, ?_⟩
      · show RaftBehaviour.timedOut _ now = []
        unfold timedOut at expired ⊢
        simp only [RaftBehaviour.armSleep, pending, spent.config]
        exact expired
      · intro _
        simp only [RaftBehaviour.armSleep, engine, same.config]
        exact beaten
      · intro waiting
        simp only [RaftBehaviour.armSleep, engine] at waiting
        exact absurd (same.role.trans leading) waiting
      · simp only [RaftBehaviour.armSleep, engine]
        exact ⟨same.config, same.role, same.electionDeadline⟩
    · have idle : self.tickEngine now = self := if_neg due
      rw [idle]
      refine ⟨⟨empty, expired, ?_, fun waiting => absurd leading waiting⟩, rfl,
        rfl, rfl⟩
      intro _
      have ahead := Nat.not_le.mp due
      simp only [RaftEngine.nextDeadline, leading] at ahead
      have early := ahead.trans_le (min_le_left _ _)
      exact ⟨early.le, fun _ => early⟩
  · have ahead : now < self.engine.electionDeadline := by
      by_contra due
      exact tickEngine_announces leading (Nat.not_lt.mp due) silent
    have idle : self.tickEngine now = self := by
      refine if_neg (Nat.not_le.mpr ?_)
      rwa [nextDeadline_of_waiting leading]
    rw [idle]
    exact ⟨⟨empty, expired, fun leads => absurd leads leading, fun _ => ahead⟩,
      rfl, rfl, rfl⟩

/-! ## Rounds that wait -/

/-- The behaviour once a round has expired requests and ticked the engine. -/
def advance (self : RaftBehaviour S) (now : Nat) : RaftBehaviour S :=
  (self.expirePending now).tickEngine now

/-- A round has nothing to deliver. -/
def Idles (self : RaftBehaviour S) (now : Nat) : Prop :=
  self.pendingEvents = [] ∧ (self.advance now).pendingEvents = []

section

variable {now : Nat} {elapsed : Bool}

theorem pollRound_of_idles
    (idles : self.Idles now)
    (elapsed : Bool) :
    self.pollRound now elapsed =
      if elapsed then
        ((self.advance now).armSleep (self.advance now).earliestWake now, .again)
      else
        (self.advance now, .pending) := by
  obtain ⟨empty, quiet⟩ := idles
  have expired : (self.expirePending now).pendingEvents = [] :=
    (self.expirePending_frame now).1.trans empty
  unfold advance at quiet ⊢
  unfold pollRound
  simp only [empty, expired, quiet]

theorem pollRound_of_loud
    (loud : ¬ self.Idles now)
    (elapsed : Bool) :
    ∃ after event, self.pollRound now elapsed = (after, .ready event) := by
  unfold pollRound
  cases queued : self.pendingEvents with
  | cons event rest => exact ⟨_, event, rfl⟩
  | nil =>
      have expired : (self.expirePending now).pendingEvents = [] :=
        (self.expirePending_frame now).1.trans queued
      cases ticked : ((self.expirePending now).tickEngine now).pendingEvents with
      | cons event rest =>
          refine ⟨{ (self.expirePending now).tickEngine now with
            pendingEvents := rest }, event, ?_⟩
          simp only [expired, ticked]
      | nil => exact absurd ⟨queued, ticked⟩ loud

/-- Only an idle round waits, and only for a sleep that is not over. -/
theorem idles_of_waits
    (waits : self.pollRound now elapsed = (after, .pending)) :
    self.Idles now ∧ after = self.advance now := by
  by_cases idles : self.Idles now
  · rw [pollRound_of_idles idles] at waits
    split_ifs at waits
    · exact absurd (congrArg Prod.snd waits) PollRound.noConfusion
    · exact ⟨idles, (congrArg Prod.fst waits).symm⟩
  · obtain ⟨_, _, ready⟩ := pollRound_of_loud idles elapsed
    rw [waits] at ready
    exact absurd (congrArg Prod.snd ready) PollRound.noConfusion

/-- A silent round leaves the behaviour calm, in its role and with its election
deadline. -/
theorem calm_advance
    (idles : self.Idles now) :
    Calm now (self.advance now) ∧
      SameTimer self.engine (self.advance now).engine := by
  obtain ⟨empty, -, aeInflight, engine⟩ := self.expirePending_frame now
  obtain ⟨calm, same⟩ := calm_tickEngine (empty.trans idles.1)
    (self.timedOut_expirePending now) idles.2
  rw [engine] at same
  exact ⟨calm, same.config, same.role, same.electionDeadline⟩

/-- The engine leads, and its own election deadline lies in the past. -/
def Outlasts (self : RaftBehaviour S) (now : Nat) : Prop :=
  self.engine.role = .leader ∧ self.engine.electionDeadline < now

instance (self : RaftBehaviour S) (now : Nat) : Decidable (self.Outlasts now) :=
  inferInstanceAs (Decidable (_ ∧ _))

omit [Storage S] in
/-- Nothing lies in the past of a calm behaviour but the election deadline of a
leader. -/
theorem Calm.le_earliestWake
    (calm : self.Calm now)
    (early : ¬ self.Outlasts now) :
    now ≤ self.earliestWake := by
  refine RaftBehaviour.le_earliestWake.mpr ⟨?_, ?_⟩
  · by_cases leading : self.engine.role = .leader
    · have ahead : now ≤ self.engine.electionDeadline := by
        by_contra past
        exact early ⟨leading, Nat.not_le.mp past⟩
      simp only [RaftEngine.nextDeadline, leading]
      exact le_min (calm.beaten leading).1 ahead
    · rw [nextDeadline_of_waiting leading]
      exact (calm.waiting leading).le
  · intro id request pends
    have waits : id ∉ self.timedOut now := by
      rw [calm.expired]
      exact List.not_mem_nil
    rw [mem_timedOut pends] at waits
    omega

/-- A round that finds its engine past its deadline arms the sleep anew, for now
at the earliest. -/
theorem le_sleep_advance
    (due : self.engine.nextDeadline ≤ now) :
    now ≤ (self.advance now).sleep := by
  obtain ⟨-, -, _, engine⟩ := self.expirePending_frame now
  have still : (self.expirePending now).engine.nextDeadline ≤ now := by
    rw [engine]
    exact due
  unfold advance
  rw [tickEngine_of_due still, sleep_armSleep]
  exact le_max_left _ _

end

/-- Whenever `poll` waits, its queue is empty and the deadline of its sleep comes
no later than the deadline of the engine and the timeout of every pending
request, exactly if the engine does not lead past its own election deadline. -/
theorem no_missed_wake_up
    (config : RaftConfig)
    (storage : S)
    (start : Nat)
    (entries : List EntryPoint)
    (now : Nat)
    (elapsed : Bool)
    (forward : System.Forward EntryPoint.reading start
      (entries ++ [.poll now elapsed]))
    (after : RaftBehaviour S)
    (waits : ((operation config storage start).run entries).pollRound now elapsed =
      (after, .pending)) :
    (after.pendingEvents = [] ∧
      after.sleep ≤ after.engine.nextDeadline ∧
      ∀ id request, after.pending.lookup id = some request →
        after.sleep ≤ request.sentAt + after.config.rpcTimeout) ↔
    ¬ ((operation config storage start).run entries).Outlasts now := by
  have armed := armed_run config storage start
    (forward.of_isPrefix (List.prefix_append _ _))
  have later := forward.clock_le_reading (List.prefix_refl _) rfl
  have stillArmed := armed.pollRound later elapsed
  generalize (operation config storage start).run entries = behaviour
    at waits stillArmed ⊢
  rw [waits] at stillArmed
  obtain ⟨idles, rfl⟩ := idles_of_waits waits
  obtain ⟨calm, same⟩ := calm_advance idles
  constructor
  · rintro ⟨-, inTime, -⟩ ⟨leading, past⟩
    -- The deadline that has passed is that of the engine, before and after.
    have due : behaviour.engine.nextDeadline ≤ now := by
      simp only [RaftEngine.nextDeadline, leading]
      exact (min_le_right _ _).trans past.le
    have waiting := (le_sleep_advance due).trans inTime
    simp only [RaftEngine.nextDeadline, same.role.trans leading,
      same.electionDeadline] at waiting
    exact absurd past (waiting.trans (min_le_right _ _)).not_gt
  · intro early
    have stillEarly : ¬ (behaviour.advance now).Outlasts now := by
      unfold Outlasts
      rw [same.role, same.electionDeadline]
      exact early
    have ahead := calm.le_earliestWake stillEarly
    have inTime : (behaviour.advance now).sleep ≤
        (behaviour.advance now).earliestWake := by
      unfold Armed at stillArmed
      rwa [max_eq_right ahead] at stillArmed
    exact ⟨idles.2, le_earliestWake.mp inTime⟩

/-- Node 1 starts an election, reports it and waits. -/
def electionReported : List EntryPoint :=
  [.poll 150 true, .dialSeed 2 151, .poll 151 false, .poll 152 false]

/-- The theorem applies to the wait after an election. -/
theorem no_missed_wake_up_election :
    (((operation (.cfg 1 [1, 2, 3]) MemoryStorage.new 0).run
        electionReported).pollRound 160 false).1.sleep ≤
      (((operation (.cfg 1 [1, 2, 3]) MemoryStorage.new 0).run
        electionReported).pollRound 160 false).1.engine.nextDeadline :=
  ((no_missed_wake_up (.cfg 1 [1, 2, 3]) MemoryStorage.new 0 electionReported 160
    false (by decide) _ (Prod.ext rfl (by decide +kernel))).mpr
      (by decide +kernel)).2.1

/-- Node 1 is elected by node 2 and has sent its first heartbeat. -/
def electedAndBeaten : List EntryPoint :=
  [.onSwarmEvent (.connectionEstablished 12 7) 0, .poll 0 false, .poll 150 true,
    .poll 150 false,
    .onConnectionHandlerEvent 12 7 (.response 1 (.requestVoteResp 1 true)) 160,
    .poll 160 false, .poll 310 true]

/-- Node 1 once its heartbeats are out. -/
def elected : MemoryBehaviour :=
  (operation { RaftConfig.cfg 1 [1, 2] with
    seedPeers := [⟨2, 12, ["/dns4/two"]⟩] } MemoryStorage.new 0).run
      electedAndBeaten

/-- Node 1 waits at 311 for a sleep that ends at 311, while its election deadline
is 310. -/
theorem wakes_after_deadline :
    System.Forward EntryPoint.reading 0
        (electedAndBeaten ++ [.poll 311 false]) ∧
      (elected.pollRound 311 false).2 = .pending ∧
      (elected.pollRound 311 false).1.engine.nextDeadline = 310 ∧
      ¬ (elected.pollRound 311 false).1.sleep ≤
        (elected.pollRound 311 false).1.engine.nextDeadline := by
  decide +kernel

end RaftBehaviour

end Libp2pRaft
