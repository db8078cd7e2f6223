import Libp2pRaft.Cluster.Proposals
import Libp2pRaft.Cluster.Replication

/-!
# Committed entries over time

What a node has committed at one moment of a run it keeps at every later one,
and every leader of a later term has it.  What is handed over follows the order
in which proposals were made: an entry that was handed over before another one
was proposed has the smaller index.
-/

namespace Libp2pRaft

open Consensus TransitionSystem

/-- The entries of an engine's log up to its commit index. -/
def RaftEngine.committedLog (self : MemoryEngine) : List LogEntry :=
  self.storage.entries.take self.commitIndex

namespace Cluster

/-- Every commit index of a run is settled in one history. -/
structure Remembered
    (cluster : Cluster)
    (events : List Event)
    (history : History NodeId LogEntry) : Prop where
  linked : Linked cluster events history
  committed : Committed cluster events history
  settled : ∀ past, past <+: events → ∀ node,
    Settled cluster.voters cluster.startView history
      ((cluster.system.run past).engine node).currentTerm
      ((cluster.system.run past).engine node).commitIndex
      ((cluster.system.run past).engine node).storage.entries
  kept : ∀ past, past <+: events → ∀ node,
    Settled cluster.voters cluster.startView history
      ((cluster.system.run events).engine node).currentTerm
      ((cluster.system.run past).engine node).commitIndex
      ((cluster.system.run events).engine node).storage.entries

variable {cluster : Cluster} {events past later : List Event} {event : Event}
  {history : History NodeId LogEntry} {node other : NodeId} {entry : LogEntry}

/-- What was handed over was committed at that moment. -/
theorem applied_committed
    {entries : List LogEntry}
    (applied : (node, .apply entries) ∈ (cluster.system.run events).trace)
    (inside : entry ∈ entries) :
    ∃ past position, past <+: events ∧
      ((cluster.system.run past).engine node).storage.entries[position]? =
        some entry ∧
      position < ((cluster.system.run past).engine node).commitIndex ∧
      entry.index = position + 1 := by
  induction events using List.reverseRecOn with
  | nil => simp [system] at applied
  | append_singleton events event inductionHypothesis =>
      have ran := cluster.system.run_concat events event
      rw [ran] at applied
      rcases emitted_cases applied with old | ⟨call, -, -, called, emitted⟩
      · obtain ⟨past, position, isPast, rest⟩ := inductionHypothesis old
        exact ⟨past, position, isPast.trans (List.prefix_append _ _), rest⟩
      · have emits := (((cluster.system.run events).engine node).call_outcome
          call).emits emitted
        have engineEq : (cluster.system.run (events ++ [event])).engine node =
            (((cluster.system.run events).engine node).call call).1 := by
          rw [ran, called, react_engine_self]
        rw [← engineEq] at emits
        cases emits with
        | apply _ handedOver =>
            obtain ⟨position, storedAt, -, below⟩ := handedOver entry inside
            have counted := ((cluster.system.run (events ++ [event])).engine
              node).storage.contiguous.index_eq storedAt
            exact ⟨_, position, List.prefix_refl _, storedAt, below, by omega⟩

/-- Nodes have applied whatever they have committed. -/
theorem applied_through_commit
    (cluster : Cluster)
    (events : List Event)
    (node : NodeId) :
    ((cluster.system.run events).engine node).lastApplied =
      ((cluster.system.run events).engine node).commitIndex := by
  refine cluster.system.invariant
    (motive := fun state => (state.engine node).lastApplied =
      (state.engine node).commitIndex) rfl ?_ events
  intro state event before
  rcases cluster.step_cases state event with
    idle | ⟨actor, now, -, -, restarted⟩ | ⟨actor, call, -, -, -, called⟩
  · rw [idle]
    exact before
  · by_cases same : node = actor
    · subst same
      rw [restarted, react_engine_self]
      rfl
    · rw [restarted, react_engine_of_ne _ _ same]
      exact before
  · by_cases same : node = actor
    · subst same
      rw [called, react_engine_self]
      exact ((state.engine node).call_outcome call).progress.caughtUp before
    · rw [called, react_engine_of_ne _ _ same]
      exact before

section

variable (voting : cluster.nodes ⊆ cluster.voters) (new : cluster.StartsNew)
  (below : cluster.system.Along cluster.TermsBelowMax events)
  (reports : cluster.system.Along ReportsRecorded events)

include voting new below reports

/-- Behind every run stands a history that remembers what was committed. -/
theorem exists_remembered :
    ∃ history, Remembered cluster events history := by
  induction events using List.reverseRecOn with
  | nil =>
      refine ⟨[], .nil cluster, .nil cluster, ?_, ?_⟩
      · intro past isPast node
        rw [List.prefix_nil.mp isPast]
        exact .zero
      · intro past isPast node
        rw [List.prefix_nil.mp isPast]
        exact .zero
  | append_singleton events event inductionHypothesis =>
      obtain ⟨history, remembered⟩ := inductionHypothesis
        (System.along_concat _ |>.mp below).1
        (System.along_concat _ |>.mp reports).1
      obtain ⟨actor, later, continues, linked, committed⟩ :=
        remembered.committed.step voting new remembered.linked below reports
      refine ⟨later, linked, committed, ?_, ?_⟩
      · intro past isPast node
        rcases List.prefix_concat_iff.mp isPast with rfl | before
        · exact committed.settled node
        · exact (remembered.settled past before node).continued continues
      · intro past isPast node
        rcases List.prefix_concat_iff.mp isPast with rfl | before
        · exact committed.settled node
        · have held := remembered.kept past before node
          rw [← RaftEngine.view_term, ← RaftEngine.view_log,
            ← remembered.linked.shows] at held
          have still := remembered.linked.valid.settled_continues
            new.startsEmpty continues held
          rw [linked.shows] at still
          exact still

/-- A node keeps what it committed. -/
theorem committedLog_kept
    (isPast : past <+: events)
    (node : NodeId) :
    ((cluster.system.run past).engine node).committedLog <+:
      ((cluster.system.run events).engine node).storage.entries := by
  obtain ⟨history, remembered⟩ := exists_remembered voting new below reports
  exact (remembered.linked.valid.settled_prefix new.startsEmpty
    (remembered.settled past isPast node) (remembered.kept past isPast node)
    le_rfl).trans (List.take_prefix _ _)

/-- A node stores what it committed. -/
theorem commitIndex_le_length (node : NodeId) :
    ((cluster.system.run events).engine node).commitIndex ≤
      ((cluster.system.run events).engine node).storage.entries.length := by
  obtain ⟨history, remembered⟩ := exists_remembered voting new below reports
  exact (remembered.settled events (List.prefix_refl _) node).1

/-- A node has handed over what it committed. -/
theorem committed_applied
    {position : Nat}
    (stored : ((cluster.system.run events).engine
      node).storage.entries[position]? = some entry)
    (committed : position < ((cluster.system.run events).engine
      node).commitIndex) :
    ∃ entries, (node, .apply entries) ∈ (cluster.system.run events).trace ∧
      entry ∈ entries := by
  induction events using List.reverseRecOn with
  | nil => exact absurd committed (Nat.not_lt_zero _)
  | append_singleton events event inductionHypothesis =>
      have ran := cluster.system.run_concat events event
      have belowBefore := (System.along_concat _ |>.mp below).1
      have reportsBefore := (System.along_concat _ |>.mp reports).1
      -- What was committed before the event is still where it was.
      have earlier : position < ((cluster.system.run events).engine
          node).commitIndex →
          ∃ entries,
            (node, .apply entries) ∈ (cluster.system.run events).trace ∧
              entry ∈ entries := by
        intro already
        have inside := already.trans_le
          (commitIndex_le_length voting new belowBefore reportsBefore node)
        have old := List.getElem?_eq_getElem inside
        have kept := getElem?_of_isPrefix
          (committedLog_kept voting new below reports
            (List.prefix_append events [event]) node)
          ((List.getElem?_take_of_lt already).trans old)
        rw [stored, Option.some.injEq] at kept
        exact inductionHypothesis belowBefore reportsBefore
          (old.trans (congrArg some kept.symm)) already
      rcases cluster.step_cases (cluster.system.run events) event with
        idle | ⟨actor, now, -, -, restarted⟩ | ⟨actor, call, -, -, -, called⟩
      · rw [ran, idle] at committed ⊢
        exact earlier committed
      · by_cases same : node = actor
        · subst same
          rw [ran, restarted, react_engine_self] at committed
          exact absurd committed (Nat.not_lt_zero _)
        · rw [ran, restarted, react_engine_of_ne _ _ same] at committed
          obtain ⟨entries, applied, inside⟩ := earlier committed
          refine ⟨entries, ?_, inside⟩
          rw [ran, restarted, mem_react_trace]
          exact .inl applied
      · by_cases same : node = actor
        · subst same
          rcases Nat.lt_or_ge position
            ((cluster.system.run events).engine node).commitIndex with old | fresh
          · obtain ⟨entries, applied, inside⟩ := earlier old
            refine ⟨entries, ?_, inside⟩
            rw [ran, called, mem_react_trace]
            exact .inl applied
          · rw [ran, called, react_engine_self] at stored committed
            obtain ⟨entries, emitted, inside⟩ :=
              (((cluster.system.run events).engine node).call_outcome
                call).progress.handsOver
                (applied_through_commit cluster events node) stored fresh committed
            refine ⟨entries, ?_, inside⟩
            rw [ran, called, mem_react_trace]
            exact .inr ⟨rfl, emitted⟩
        · rw [ran, called, react_engine_of_ne _ _ same] at committed
          obtain ⟨entries, applied, inside⟩ := earlier committed
          refine ⟨entries, ?_, inside⟩
          rw [ran, called, mem_react_trace]
          exact .inl applied

/-- What two nodes committed at two moments is comparable. -/
theorem committedLog_comparable
    (isPast : past <+: events)
    (isLater : later <+: events)
    (node other : NodeId) :
    Comparable ((cluster.system.run past).engine node).committedLog
      ((cluster.system.run later).engine other).committedLog := by
  obtain ⟨history, remembered⟩ := exists_remembered voting new below reports
  have first := remembered.settled past isPast node
  have second := remembered.settled later isLater other
  rcases Nat.le_total ((cluster.system.run past).engine node).commitIndex
    ((cluster.system.run later).engine other).commitIndex with order | order
  · exact .inl (remembered.linked.valid.settled_prefix new.startsEmpty first
      second order)
  · exact .inr (remembered.linked.valid.settled_prefix new.startsEmpty second
      first order)

/-- Every leader of a later term has what a node committed, whichever of the two
moments comes first. -/
theorem committedLog_in_later_leader
    (isPast : past <+: events)
    (isLater : later <+: events)
    {term : Nat}
    (leads : IsLeader (cluster.system.run later) other term)
    (order : ((cluster.system.run past).engine node).currentTerm < term) :
    ((cluster.system.run past).engine node).committedLog <+:
      ((cluster.system.run later).engine other).storage.entries := by
  obtain ⟨history, remembered⟩ := exists_remembered voting new below reports
  rcases (remembered.settled past isPast node).2 with none |
    ⟨chosenTerm, chosenLog, early, chosen, -, same⟩
  · rw [RaftEngine.committedLog, none]
    exact List.nil_prefix
  · rw [RaftEngine.committedLog, same]
    exact (List.take_prefix _ _).trans
      (remembered.linked.valid.chosen_prefix_led new.startsEmpty chosen
        ⟨other, _, remembered.linked.seen_past isLater other,
          Role.standing_eq_leader.mpr leads.1, leads.2, rfl⟩ (by omega))

/-- The leader of a term has what a node committed before in that term. -/
theorem committedLog_in_leader
    (isPast : past <+: events)
    {term : Nat}
    (leads : IsLeader (cluster.system.run events) other term)
    (sameTerm : ((cluster.system.run past).engine node).currentTerm = term) :
    ((cluster.system.run past).engine node).committedLog <+:
      ((cluster.system.run events).engine other).storage.entries := by
  obtain ⟨history, remembered⟩ := exists_remembered voting new below reports
  have valid := remembered.linked.valid
  have leading := Role.standing_eq_leader.mpr leads.1
  have now : Led cluster.startView history term
      ((cluster.system.run events).engine other).storage.entries :=
    ⟨other, _, remembered.linked.seen_past (List.prefix_refl _) other, leading,
      leads.2, rfl⟩
  rcases (remembered.settled past isPast node).2 with none |
    ⟨chosenTerm, chosenLog, early, chosen, -, same⟩
  · rw [RaftEngine.committedLog, none]
    exact List.nil_prefix
  rw [RaftEngine.committedLog, same]
  apply (List.take_prefix _ _).trans
  rcases Nat.lt_or_eq_of_le early with before | isTerm
  · exact valid.chosen_prefix_led new.startsEmpty chosen now (by omega)
  · obtain ⟨longer, ⟨leader, view, seen, viewLeading, viewTerm, rfl⟩, isPrefix⟩ :=
      chosen.led
    obtain rfl : leader = other := valid.election_safety
      cluster.startsFollowing seen
      (remembered.linked.seen_past (List.prefix_refl _) other) viewLeading leading
      (by rw [viewTerm, isTerm, sameTerm]; exact leads.2.symm)
    have grown := valid.prefix_of_leader cluster.startsFollowing
      (by rw [remembered.linked.shows]; exact leading) seen
      (by simp [viewLeading])
      (by rw [remembered.linked.shows, viewTerm, isTerm, sameTerm]
          exact leads.2.symm)
    rw [remembered.linked.shows] at grown
    exact isPrefix.trans grown

/-- What was handed over before a proposal comes before it in the log. -/
theorem applied_before_proposed
    {entries others : List LogEntry}
    {first second : LogEntry}
    {proposer : NodeId}
    {data : List UInt8}
    (applied : (node, .apply entries) ∈ (cluster.system.run past).trace)
    (inside : first ∈ entries)
    (order : past <+: later)
    (accepts : cluster.Accepts events later proposer data second)
    (alsoApplied : (other, .apply others) ∈ (cluster.system.run events).trace)
    (alsoInside : second ∈ others) :
    first.index < second.index := by
  obtain ⟨history, remembered⟩ := exists_remembered voting new below reports
  obtain ⟨moment, position, isMoment, -, isCommitted, firstIndex⟩ :=
    applied_committed applied inside
  obtain ⟨_, commit, log, settled, place, isSettled, storedAt, secondIndex⟩ :=
    remembered.committed.applied other others alsoApplied second alsoInside
  by_contra notBefore
  have isEarlier : moment <+: later := isMoment.trans order
  have held := remembered.settled moment
    (isEarlier.trans ((List.prefix_append _ _).trans accepts.isStep)) node
  -- The second entry was in the log of the node before it was proposed.
  have already := remembered.linked.valid.settled_agree new.startsEmpty held
    settled (by omega) isSettled
  rw [storedAt] at already
  obtain ⟨made, maker, content, wasMade⟩ :=
    ((cluster.originated moment).stored node second
      (List.mem_of_getElem? already)).accepts new
  have sameProposal := (wasMade.extend (isEarlier.trans
    ((List.prefix_append _ _).trans accepts.isStep))).unique voting below accepts
  have before := wasMade.isStep.length_le
  have after := isEarlier.length_le
  rw [sameProposal.1, List.length_append, List.length_singleton] at before
  omega

end

end Cluster

end Libp2pRaft
