import Libp2pRaft.Cluster.LogSafety
import Libp2pRaft.Raft.CommittedLog

/-!
# Where entries come from

Only an accepted proposal makes a new entry; everything else a cluster stores,
sends and hands over is a copy of one.  Accepted proposals are told apart by the
index and the term of their entries, so that an entry has one proposal behind
it.
-/

namespace Libp2pRaft

open Consensus TransitionSystem

/-- What `propose` answers. -/
theorem RaftEngine.propose_eq_ok
    {engine : MemoryEngine}
    {data : List UInt8}
    {index : Nat}
    (accepted : ∃ actions, (engine.propose data).2 = .ok (index, actions)) :
    engine.role = .leader ∧ index = engine.storage.entries.length + 1 := by
  obtain ⟨actions, answer⟩ := accepted
  unfold RaftEngine.propose at answer
  split_ifs at answer with following
  rw [not_not] at following
  simp only [LawfulStorage.lastIndexTerm_eq] at answer
  injection answer with pair
  exact ⟨following, (congrArg Prod.fst pair).symm⟩

theorem RaftEngine.propose_of_leader
    {engine : MemoryEngine}
    (leading : engine.role = .leader)
    (data : List UInt8) :
    ∃ actions, (engine.propose data).2 =
      .ok (engine.storage.entries.length + 1, actions) := by
  unfold RaftEngine.propose
  rw [if_neg (not_not.mpr leading)]
  simp only [LawfulStorage.lastIndexTerm_eq]
  exact ⟨_, rfl⟩

namespace Cluster

/-- Right after a moment of a run a node accepts a proposal, and this is the
entry it answers for. -/
structure Accepts
    (cluster : Cluster)
    (events past : List Event)
    (node : NodeId)
    (data : List UInt8)
    (entry : LogEntry) : Prop where
  isStep : past ++ [.call node (.propose data)] <+: events
  inside : node ∈ cluster.nodes
  answered : ∃ actions,
    (((cluster.system.run past).engine node).propose data).2 =
      .ok (entry.index, actions)
  ownTerm : entry.term = ((cluster.system.run past).engine node).currentTerm
  command : entry.entryType = .command data

/-- An entry was stored before the run, or written for an accepted proposal. -/
def Originates
    (cluster : Cluster)
    (events : List Event)
    (entry : LogEntry) : Prop :=
  (∃ node, entry ∈ (cluster.storage node).entries) ∨
    ∃ past node data, cluster.Accepts events past node data entry

variable {cluster : Cluster} {events past later : List Event} {event : Event}
  {node other : NodeId} {data : List UInt8} {entry : LogEntry}

theorem Accepts.concat
    (accepts : cluster.Accepts events past node data entry) :
    cluster.Accepts (events ++ [event]) past node data entry :=
  { accepts with isStep := accepts.isStep.trans (List.prefix_append _ _) }

theorem Accepts.extend
    (accepts : cluster.Accepts events past node data entry)
    (isPast : events <+: later) :
    cluster.Accepts later past node data entry :=
  { accepts with isStep := accepts.isStep.trans isPast }

theorem Accepts.leading
    (accepts : cluster.Accepts events past node data entry) :
    ((cluster.system.run past).engine node).role = .leader :=
  (RaftEngine.propose_eq_ok accepts.answered).1

theorem Accepts.index_eq
    (accepts : cluster.Accepts events past node data entry) :
    entry.index =
      ((cluster.system.run past).engine node).storage.entries.length + 1 :=
  (RaftEngine.propose_eq_ok accepts.answered).2

theorem Accepts.entry_eq
    (accepts : cluster.Accepts events past node data entry) :
    entry = ((cluster.system.run past).engine node).commandEntry data := by
  obtain ⟨index, term, entryType⟩ := entry
  have indexEq : index = _ := accepts.index_eq
  have ownTerm : term = _ := accepts.ownTerm
  have command : entryType = _ := accepts.command
  rw [indexEq, ownTerm, command]
  rfl

/-- The accepted entry ends up behind the log of its node. -/
theorem Accepts.view_after
    (accepts : cluster.Accepts events past node data entry) :
    ((cluster.system.run (past ++ [.call node (.propose data)])).engine
      node).view =
      { ((cluster.system.run past).engine node).view with
        log := ((cluster.system.run past).engine node).storage.entries ++
          [entry] } := by
  have applied : cluster.system.step (cluster.system.run past)
      (.call node (.propose data)) = react (cluster.system.run past) node
        (((cluster.system.run past).engine node).call (.propose data)) :=
    if_pos accepts.inside
  rw [System.run_concat, applied, react_engine_self,
    RaftEngine.call_of_propose _ accepts.leading,
    RaftEngine.view_replicateActions, RaftEngine.view_appendCommand,
    ← accepts.entry_eq]
  rfl

theorem Originates.concat
    (originates : cluster.Originates events entry) :
    cluster.Originates (events ++ [event]) entry := by
  rcases originates with stored | ⟨past, node, data, accepts⟩
  · exact .inl stored
  · exact .inr ⟨past, node, data, accepts.concat⟩

/-- A leader's new entry is one it answers for. -/
theorem accepts_commandEntry
    (inside : node ∈ cluster.nodes)
    (leading : ((cluster.system.run past).engine node).role = .leader)
    (data : List UInt8) :
    cluster.Accepts (past ++ [.call node (.propose data)]) past node data
      (((cluster.system.run past).engine node).commandEntry data) where
  isStep := List.prefix_refl _
  inside := inside
  answered := RaftEngine.propose_of_leader leading data
  ownTerm := rfl
  command := rfl

/-- An entry is stored by a node, was sent in a request, or was handed over. -/
def Occurs (cluster : Cluster) (state : State) (entry : LogEntry) : Prop :=
  (∃ node, entry ∈ (state.engine node).storage.entries) ∨
    (∃ source target term leaderId prevLogIndex prevLogTerm entries
      leaderCommit,
      cluster.Sent state source target
        (.appendEntries term leaderId prevLogIndex prevLogTerm entries
          leaderCommit) ∧ entry ∈ entries) ∨
    ∃ node entries, (node, .apply entries) ∈ state.trace ∧ entry ∈ entries

/-- Everything in a cluster originates. -/
structure Originated (cluster : Cluster) (events : List Event) : Prop where
  stored : ∀ node,
    ∀ entry ∈ ((cluster.system.run events).engine node).storage.entries,
      cluster.Originates events entry
  sent : ∀ source target term leaderId prevLogIndex prevLogTerm entries
    leaderCommit,
    cluster.Sent (cluster.system.run events) source target
      (.appendEntries term leaderId prevLogIndex prevLogTerm entries
        leaderCommit) →
      ∀ entry ∈ entries, cluster.Originates events entry
  applied : ∀ node entries,
    (node, .apply entries) ∈ (cluster.system.run events).trace →
      ∀ entry ∈ entries, cluster.Originates events entry

/-- What a call leaves in the log originates. -/
theorem Originated.stored_call
    (originated : Originated cluster events)
    (inside : node ∈ cluster.nodes)
    {call : Call}
    (asked : ∀ sender msg now, call = .rpc sender msg now →
      cluster.Sent (cluster.system.run events) sender node msg)
    (stored : entry ∈ ((((cluster.system.run events).engine node).call
      call).1).storage.entries) :
    cluster.Originates (events ++ [.call node call]) entry := by
  have log := (((cluster.system.run events).engine node).call_outcome call).log_eq
  rw [← RaftEngine.view_log] at stored
  rcases log with same | ⟨data, rfl, leading, appended⟩ |
    ⟨sender, term, leaderId, prevLogIndex, prevLogTerm, entries, leaderCommit,
      now, rfl, -, -, spliced⟩
  · rw [same] at stored
    exact (originated.stored node entry stored).concat
  · rw [appended] at stored
    rcases List.mem_append.mp stored with old | isNew
    · exact (originated.stored node entry old).concat
    · rw [List.mem_singleton.mp isNew]
      exact .inr ⟨_, _, _, accepts_commandEntry inside leading data⟩
  · rw [spliced] at stored
    rcases RaftEngine.mem_of_mem_storeEntries _ stored with old | received
    · exact (originated.stored node entry old).concat
    · exact (originated.sent _ _ _ _ _ _ _ _ (asked _ _ _ rfl) entry
        received).concat

/-- Every event keeps it so. -/
theorem Originated.step
    (originated : Originated cluster events) :
    Originated cluster (events ++ [event]) := by
  have ran := cluster.system.run_concat events event
  have stored : ∀ node,
      ∀ entry ∈ ((cluster.system.run (events ++ [event])).engine
        node).storage.entries,
        cluster.Originates (events ++ [event]) entry := by
    intro node entry inside
    have unchanged : ((cluster.system.run (events ++ [event])).engine
        node).storage = ((cluster.system.run events).engine node).storage →
        cluster.Originates (events ++ [event]) entry := by
      intro same
      rw [same] at inside
      exact (originated.stored node entry inside).concat
    rcases cluster.step_cases (cluster.system.run events) event with
      idle | ⟨actor, now, -, -, restarted⟩ |
        ⟨actor, call, rfl, isNode, asked, called⟩
    · exact unchanged (by rw [ran, idle])
    · by_cases same : node = actor
      · subst same
        exact unchanged (by rw [ran, restarted, react_engine_self]; rfl)
      · exact unchanged (by rw [ran, restarted, react_engine_of_ne _ _ same])
    · by_cases same : node = actor
      · subst same
        rw [ran, called, react_engine_self] at inside
        exact originated.stored_call isNode asked inside
      · exact unchanged (by rw [ran, called, react_engine_of_ne _ _ same])
  refine ⟨stored, ?_, ?_⟩
  · intro source target term leaderId prevLogIndex prevLogTerm entries
      leaderCommit sent entry inside
    rw [ran] at sent
    rcases sent with direct | ⟨broadcast, rest⟩
    · rcases emitted_cases direct with old | ⟨call, -, -, called, emitted⟩
      · exact (originated.sent _ _ _ _ _ _ _ _ (.inl old) entry inside).concat
      have emits := (((cluster.system.run events).engine source).call_outcome
        call).emits emitted
      have now := stored source
      rw [ran, called, react_engine_self] at now
      generalize ((cluster.system.run events).engine source).call call = result
        at now emits
      generalize isRequest : RaftMessage.appendEntries term leaderId prevLogIndex
        prevLogTerm entries leaderCommit = request at emits
      cases emits with
      | appendRequest _ _ prev len leading built =>
          obtain ⟨_, -, -, -, rfl⟩ := RaftEngine.buildAppendEntries_some _ built
          injection isRequest with _ _ _ _ sameEntries
          rw [sameEntries] at inside
          exact now entry (List.mem_of_mem_drop inside)
      | voteReply => contradiction
      | appendReply => contradiction
    · rcases emitted_cases broadcast with old | ⟨call, -, -, -, emitted⟩
      · exact (originated.sent _ _ _ _ _ _ _ _ (.inr ⟨old, rest⟩) entry
          inside).concat
      · cases (((cluster.system.run events).engine source).call_outcome
          call).emits emitted
  · intro node entries applied entry inside
    rw [ran] at applied
    rcases emitted_cases applied with old | ⟨call, -, -, called, emitted⟩
    · exact (originated.applied node entries old entry inside).concat
    · have emits := (((cluster.system.run events).engine node).call_outcome
        call).emits emitted
      have now := stored node
      rw [ran, called, react_engine_self] at now
      generalize ((cluster.system.run events).engine node).call call = result
        at now emits
      cases emits with
      | apply _ handedOver =>
          obtain ⟨position, storedAt, -⟩ := handedOver entry inside
          exact now entry (List.mem_of_getElem? storedAt)

/-- Nothing is stored, sent or handed over that was not stored at first or
proposed. -/
theorem originated (cluster : Cluster) (events : List Event) :
    Originated cluster events := by
  induction events using List.reverseRecOn with
  | nil =>
      refine ⟨fun node entry inside => .inl ⟨node, inside⟩, ?_, ?_⟩
      · intro source target term leaderId prevLogIndex prevLogTerm entries
          leaderCommit sent
        simp [Sent, system] at sent
      · intro node entries applied
        simp [system] at applied
  | append_singleton events event inductionHypothesis =>
      exact inductionHypothesis.step

/-- From new storages, every entry was proposed. -/
theorem Originates.accepts
    (new : cluster.StartsNew)
    (originates : cluster.Originates events entry) :
    ∃ past node data, cluster.Accepts events past node data entry := by
  rcases originates with ⟨node, stored⟩ | accepted
  · rw [new node] at stored
    exact absurd stored List.not_mem_nil
  · exact accepted

/-! ## One proposal for an entry -/

section

variable (voting : cluster.nodes ⊆ cluster.voters) (new : cluster.StartsNew)
  (below : cluster.system.Along cluster.TermsBelowMax events)

include voting below

/-- Leaders of one term at two moments are one node, and its log grows. -/
theorem leader_log_grows
    (isPast : past <+: later)
    (isLater : later <+: events)
    {term : Nat}
    (leads : IsLeader (cluster.system.run past) node term)
    (stillLeads : IsLeader (cluster.system.run later) other term) :
    node = other ∧
      ((cluster.system.run past).engine node).storage.entries <+:
        ((cluster.system.run later).engine other).storage.entries := by
  obtain ⟨history, linked⟩ := exists_linked
    (voterCampaigns_of_subset voting later) (below.of_isPrefix isLater)
  have isLeader := Role.standing_eq_leader.mpr leads.1
  have isLeaderLater := Role.standing_eq_leader.mpr stillLeads.1
  obtain rfl : node = other := linked.valid.election_safety
    cluster.startsFollowing (linked.seen_past isPast node)
    (linked.seen_past (List.prefix_refl _) other) isLeader isLeaderLater
    (leads.2.trans stillLeads.2.symm)
  refine ⟨rfl, ?_⟩
  have grown := linked.valid.prefix_of_leader cluster.startsFollowing
    (by rw [linked.shows]; exact isLeaderLater)
    (linked.seen_past isPast node) (by simp [leads.1])
    (by rw [linked.shows]; exact leads.2.trans stillLeads.2.symm)
  rwa [linked.shows] at grown

/-- A proposal that is accepted later has a later index or another term. -/
theorem Accepts.index_lt
    (accepts : cluster.Accepts events past node data entry)
    {more : List UInt8}
    {second : LogEntry}
    (again : cluster.Accepts events later other more second)
    (sameTerm : entry.term = second.term)
    (order : past ++ [.call node (.propose data)] <+: later) :
    entry.index < second.index := by
  have view := accepts.view_after
  have leads : IsLeader (cluster.system.run
      (past ++ [.call node (.propose data)])) node entry.term := by
    refine ⟨Role.standing_eq_leader.mp ?_, ?_⟩
    · rw [← RaftEngine.view_standing, view]
      exact Role.standing_eq_leader.mpr accepts.leading
    · rw [← RaftEngine.view_term, view, accepts.ownTerm]
      rfl
  have stillLeads : IsLeader (cluster.system.run later) other entry.term :=
    ⟨again.leading, by rw [sameTerm, again.ownTerm]⟩
  have grown := (leader_log_grows voting below order
    ((List.prefix_append _ _).trans again.isStep) leads stillLeads).2.length_le
  rw [← RaftEngine.view_log, view] at grown
  simp only [List.length_append, List.length_singleton] at grown
  rw [accepts.index_eq, again.index_eq]
  exact Nat.lt_of_succ_le (Nat.succ_le_succ grown)

/-- Two accepted proposals for one index and term are one proposal. -/
theorem Accepts.unique
    (accepts : cluster.Accepts events past node data entry)
    {more : List UInt8}
    (again : cluster.Accepts events later other more entry) :
    past = later ∧ node = other ∧ data = more := by
  have sameMoment : past = later := by
    rcases List.prefix_or_prefix_of_prefix accepts.isStep again.isStep with
      order | order
    · rcases List.prefix_concat_iff.mp order with same | before
      · exact (List.append_inj' same rfl).1
      · exact absurd
          (accepts.index_lt voting below again rfl before) (lt_irrefl _)
    · rcases List.prefix_concat_iff.mp order with same | before
      · exact (List.append_inj' same rfl).1.symm
      · exact absurd
          (again.index_lt voting below accepts rfl before) (lt_irrefl _)
  subst sameMoment
  have sameStep := List.prefix_of_prefix_length_le accepts.isStep again.isStep
    (by simp)
  have stepEq := sameStep.eq_of_length (by simp)
  simp only [List.append_cancel_left_eq, List.cons.injEq, Event.call.injEq,
    Call.propose.injEq, and_true] at stepEq
  exact ⟨rfl, stepEq⟩

end

/-- Behind every entry that occurs is exactly one accepted proposal. -/
theorem one_proposal_per_entry
    (cluster : Cluster)
    (voting : cluster.nodes ⊆ cluster.voters)
    (new : cluster.StartsNew)
    (events : List Event)
    (below : cluster.system.Along cluster.TermsBelowMax events)
    {entry : LogEntry}
    (occurs : cluster.Occurs (cluster.system.run events) entry) :
    ∃! proposal : List Event × NodeId × List UInt8,
      cluster.Accepts events proposal.1 proposal.2.1 proposal.2.2 entry := by
  have originated := cluster.originated events
  have originates : cluster.Originates events entry := by
    rcases occurs with ⟨node, stored⟩ |
      ⟨_, _, _, _, _, _, _, _, sent, inside⟩ | ⟨node, entries, applied, inside⟩
    · exact originated.stored node entry stored
    · exact originated.sent _ _ _ _ _ _ _ _ sent entry inside
    · exact originated.applied node entries applied entry inside
  obtain ⟨past, node, data, accepts⟩ := originates.accepts new
  refine ⟨(past, node, data), accepts, ?_⟩
  rintro ⟨later, other, more⟩ again
  obtain ⟨rfl, rfl, rfl⟩ := again.unique voting below accepts
  rfl

/-- The theorem applies to an entry that a second node stored. -/
theorem one_proposal_per_entry_second :
    ∃! proposal : List Event × NodeId × List UInt8,
      (sample {1, 2, 3} [1, 2, 3]).Accepts secondElection proposal.1
        proposal.2.1 proposal.2.2
        { index := 1, term := 1, entryType := .command [7] } :=
  one_proposal_per_entry _ (by decide) (fun _ => rfl) secondElection
    (by decide +kernel) (.inl ⟨2, by decide +kernel⟩)

end Cluster

end Libp2pRaft
