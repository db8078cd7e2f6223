import Libp2pRaft.Cluster.ElectionSafety

/-!
# Leader completeness and log matching

In runs of a cluster of voters from new storages, an entry that a majority held
in its term is in the log of every later leader; entries of one index and term
are preceded by the same entries; and a leader only extends its log.
-/

namespace Libp2pRaft

open Consensus TransitionSystem

namespace Cluster

variable {cluster : Cluster} {events : List Event} {node other : NodeId}
  {view : View NodeId LogEntry} {index : Nat} {entry : LogEntry}

/-- A node is the leader of a term in a state. -/
def IsLeader (state : State) (node : NodeId) (term : Nat) : Prop :=
  (state.engine node).role = .leader ∧ (state.engine node).currentTerm = term

instance (state : State) (node : NodeId) (term : Nat) :
    Decidable (IsLeader state node term) :=
  inferInstanceAs (Decidable (_ ∧ _))

/-- A node holds an entry at an index, in a term of its own. -/
def Holds
    (state : State)
    (node : NodeId)
    (term index : Nat)
    (entry : LogEntry) : Prop :=
  (state.engine node).currentTerm = term ∧
    (state.engine node).storage.entry index = some entry

instance
    (state : State)
    (node : NodeId)
    (term index : Nat)
    (entry : LogEntry) :
    Decidable (Holds state node term index entry) :=
  inferInstanceAs (Decidable (_ ∧ _))

/-- A stored index is a position of the log. -/
theorem entry_eq_some
    {storage : MemoryStorage} :
    storage.entry index = some entry ↔
      0 < index ∧ storage.entries[index - 1]? = some entry := by
  unfold MemoryStorage.entry
  split_ifs with zero
  · simp [zero]
  · simp [Nat.pos_of_ne_zero zero]

/-- Every moment of a run is in the history behind the run. -/
theorem Linked.seen_past
    {history : History NodeId LogEntry}
    (linked : Linked cluster events history)
    {past : List Event}
    (isPast : past <+: events)
    (node : NodeId) :
    Seen cluster.startView history node
      ((cluster.system.run past).engine node).view :=
  linked.seen node _ ⟨past, isPast, rfl⟩

/-- An entry that a majority held in the entry's term is in the log of every
leader of a later term. -/
theorem majority_entry_in_later_leaders
    (cluster : Cluster)
    (voting : cluster.nodes ⊆ cluster.voters)
    (new : cluster.StartsNew)
    (events : List Event)
    (below : cluster.system.Along cluster.TermsBelowMax events)
    {term index : Nat}
    {entry : LogEntry}
    (ownTerm : entry.term = term)
    {holders : Finset NodeId}
    (majority : Majority cluster.voters holders)
    (holds : ∀ holder ∈ holders,
      cluster.system.Sometime (Holds · holder term index entry) events)
    {past : List Event}
    (isPast : past <+: events)
    {leader : NodeId}
    {later : Nat}
    (leads : IsLeader (cluster.system.run past) leader later)
    (order : term < later) :
    ((cluster.system.run past).engine leader).storage.entry index =
      some entry := by
  obtain ⟨history, linked⟩ :=
    exists_linked (voterCampaigns_of_subset voting events) below
  have led : Led cluster.startView history later
      ((cluster.system.run past).engine leader).storage.entries :=
    ⟨leader, _, linked.seen_past isPast leader,
      Role.standing_eq_leader.mpr leads.1, leads.2, rfl⟩
  have held : ∀ holder ∈ holders, ∃ held,
      Seen cluster.startView history holder held ∧ held.term = term ∧
        HoldsOwn held (index - 1) entry := by
    intro holder inside
    obtain ⟨moment, isMoment, sameTerm, stored⟩ := holds holder inside
    exact ⟨_, linked.seen_past isMoment holder, sameTerm,
      (entry_eq_some.mp stored).2, ownTerm.trans sameTerm.symm⟩
  have positive : 0 < index := by
    obtain ⟨holder, inside, -⟩ := majority.meet majority
    obtain ⟨moment, -, -, stored⟩ := holds holder inside
    exact (entry_eq_some.mp stored).1
  exact entry_eq_some.mpr ⟨positive,
    linked.valid.leader_completeness new.startsEmpty majority held led order⟩

/-- The theorem applies to an entry that two of three nodes hold when the third
node's successor takes over. -/
def secondElection : List Event :=
  firstElection ++
    [.call 1 (.propose [7]),
      .call 2 (.rpc 1 (.appendEntries 1 1 0 0
        [{ index := 1, term := 1, entryType := .command [7] }] 0) 160),
      .call 2 (.tick 310),
      .call 3 (.rpc 2 (.requestVote 2 2 1 1) 320),
      .call 2 (.rpc 3 (.requestVoteResp 2 true) 330)]

theorem majority_entry_in_later_leaders_second :
    (((sample {1, 2, 3} [1, 2, 3]).system.run secondElection).engine
        2).storage.entry 1 =
      some { index := 1, term := 1, entryType := .command [7] } := by
  have majority : Majority (sample {1, 2, 3} [1, 2, 3]).voters {1, 2} :=
    ⟨by decide, by decide⟩
  have leads : IsLeader
      ((sample {1, 2, 3} [1, 2, 3]).system.run secondElection) 2 2 := by
    decide +kernel
  have earlier : 1 < 2 := by decide
  refine majority_entry_in_later_leaders (sample {1, 2, 3} [1, 2, 3]) (by decide)
    (fun _ => rfl) secondElection (by decide +kernel) rfl majority ?_
    (List.prefix_refl _) leads earlier
  decide +kernel

/-- Logs that share an entry's index and term share everything up to it, at any
two moments of a run, and a leader's log is only extended. -/
structure LogSafe (cluster : Cluster) (events : List Event) : Prop where
  matching : ∀ past later, past <+: events → later <+: events →
    ∀ node other index stored sent,
      ((cluster.system.run past).engine node).storage.entry index =
        some stored →
      ((cluster.system.run later).engine other).storage.entry index =
        some sent →
      stored.term = sent.term →
        ∀ earlier ≤ index,
          ((cluster.system.run past).engine node).storage.entry earlier =
            ((cluster.system.run later).engine other).storage.entry earlier
  appendOnly : ∀ past later, past <+: later → later <+: events →
    ∀ node term, IsLeader (cluster.system.run past) node term →
      IsLeader (cluster.system.run later) node term →
        ((cluster.system.run past).engine node).storage.entries <+:
          ((cluster.system.run later).engine node).storage.entries

/-- Log matching and leader append-only. -/
theorem log_safety
    (cluster : Cluster)
    (voting : cluster.nodes ⊆ cluster.voters)
    (new : cluster.StartsNew)
    (events : List Event)
    (below : cluster.system.Along cluster.TermsBelowMax events) :
    cluster.LogSafe events where
  matching := by
    intro past later isPast isLater node other index stored sent storedAt
      sentAt sameTerm earlier order
    obtain ⟨history, linked⟩ :=
      exists_linked (voterCampaigns_of_subset voting events) below
    obtain ⟨positive, storedAt⟩ := entry_eq_some.mp storedAt
    have agreed := linked.valid.log_matching new.startsEmpty
      (linked.seen_past isPast node) (linked.seen_past isLater other) _ _ _
      storedAt (entry_eq_some.mp sentAt).2 sameTerm
    unfold MemoryStorage.entry
    split_ifs with zero
    · rfl
    · exact getElem?_of_take_eq agreed (by omega)
  appendOnly := by
    intro past later isPast isLater node term leads stillLeads
    obtain ⟨history, linked⟩ := exists_linked
      (voterCampaigns_of_subset voting later) (below.of_isPrefix isLater)
    have leading : (current cluster.startView history node).standing =
        .leader := by
      rw [linked.shows]
      exact Role.standing_eq_leader.mpr stillLeads.1
    have sameTerm : ((cluster.system.run past).engine node).view.term =
        (current cluster.startView history node).term := by
      rw [linked.shows]
      exact leads.2.trans stillLeads.2.symm
    have grown := linked.valid.prefix_of_leader cluster.startsFollowing leading
      (linked.seen_past isPast node) (by simp [leads.1]) sameTerm
    rwa [linked.shows] at grown

/-- The theorem applies to a run with two leaderships. -/
theorem log_safety_second :
    (sample {1, 2, 3} [1, 2, 3]).LogSafe secondElection :=
  log_safety _ (by decide) (fun _ => rfl) secondElection (by decide +kernel)

end Cluster

end Libp2pRaft
