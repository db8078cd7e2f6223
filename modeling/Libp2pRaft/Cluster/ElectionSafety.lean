import Libp2pRaft.Cluster.Refinement
import Libp2pRaft.Raft.CommitIndex

/-!
# Election safety and quorums

A term has at most one leader in a cluster of voters.  In a cluster that also
has other nodes, quorums consist of voters as long as only voters campaign: the
engine counts its own vote and its own log without asking whether it is a
voter.
-/

namespace Libp2pRaft

open Consensus TransitionSystem

namespace Cluster

variable {cluster : Cluster} {events : List Event}

/-- A node announced its leadership of a term, or was its leader at some
moment. -/
def Leads
    (cluster : Cluster)
    (events : List Event)
    (node : NodeId)
    (term : Nat) : Prop :=
  (node, .becomeLeader term) ∈ (cluster.system.run events).trace ∨
    cluster.system.Sometime
      (fun state => (state.engine node).role = .leader ∧
        (state.engine node).currentTerm = term) events

instance
    (cluster : Cluster)
    (events : List Event)
    (node : NodeId)
    (term : Nat) :
    Decidable (cluster.Leads events node term) :=
  inferInstanceAs (Decidable (_ ∨ _))

theorem Leads.shown
    (sound : Sound cluster events)
    {node : NodeId}
    {term : Nat}
    (leads : cluster.Leads events node term) :
    ∃ view, cluster.Shown events node view ∧
      view.standing = .leader ∧ view.term = term := by
  rcases leads with announced | ⟨past, isPast, leading, sameTerm⟩
  · exact sound.announced node term announced
  · exact ⟨_, ⟨past, isPast, rfl⟩, Role.standing_eq_leader.mpr leading, sameTerm⟩

/-- As long as only voters campaign, a term has at most one leader. -/
theorem Leads.eq
    (voterCampaigns : cluster.system.Along cluster.VoterCampaigns events)
    (below : cluster.system.Along cluster.TermsBelowMax events)
    {first second : NodeId}
    {term : Nat}
    (firstLeads : cluster.Leads events first term)
    (secondLeads : cluster.Leads events second term) :
    first = second := by
  obtain ⟨history, linked⟩ := exists_linked voterCampaigns below
  obtain ⟨firstView, firstShown, firstLeading, firstTerm⟩ :=
    firstLeads.shown (sound voterCampaigns)
  obtain ⟨secondView, secondShown, secondLeading, secondTerm⟩ :=
    secondLeads.shown (sound voterCampaigns)
  exact linked.valid.election_safety cluster.startsFollowing
    (linked.seen _ _ firstShown) (linked.seen _ _ secondShown) firstLeading
    secondLeading (firstTerm.trans secondTerm.symm)

/-- A term has at most one leader in a cluster of voters. -/
theorem one_leader_per_term
    (cluster : Cluster)
    (voting : cluster.nodes ⊆ cluster.voters)
    (events : List Event)
    (below : cluster.system.Along cluster.TermsBelowMax events)
    {first second : NodeId}
    {term : Nat}
    (firstLeads : cluster.Leads events first term)
    (secondLeads : cluster.Leads events second term) :
    first = second :=
  firstLeads.eq (voterCampaigns_of_subset voting events) below secondLeads

/-- The theorem applies to the leader of a first election. -/
theorem one_leader_per_term_first :
    (sample {1, 2, 3} [1, 2, 3]).Leads firstElection 1 1 ∧ (1 : NodeId) = 1 := by
  have leads : (sample {1, 2, 3} [1, 2, 3]).Leads firstElection 1 1 := by
    decide +kernel
  exact ⟨leads, one_leader_per_term (sample {1, 2, 3} [1, 2, 3]) (by decide)
    firstElection (by decide +kernel) leads leads⟩

/-! ## Quorums of voters -/

/-- The voters that hold an index as far as a leader knows, itself included if
it is a voter. -/
def Counted
    (cluster : Cluster)
    (engine : MemoryEngine)
    (node : NodeId)
    (index : Nat) : Finset NodeId :=
  cluster.voters.filter fun voter =>
    voter = node ∨ index ≤ (engine.matchIndex.lookup voter).getD 0

/-- Leaders are elected by a majority of the voters, and commit what a majority
of the voters holds as far as they know. -/
structure QuorumsOfVoters (cluster : Cluster) (events : List Event) : Prop where
  elections : ∀ node term,
    (node, .becomeLeader term) ∈ (cluster.system.run events).trace →
      cluster.Elected events node term
  commits : cluster.system.Along
    (fun before event => ∀ node,
      ((cluster.system.step before event).engine node).role = .leader →
      (before.engine node).commitIndex <
        ((cluster.system.step before event).engine node).commitIndex →
      Majority cluster.voters
        (cluster.Counted ((cluster.system.step before event).engine node) node
          ((cluster.system.step before event).engine node).commitIndex))
    events

/-- A voter counts itself and the other voters that hold an index. -/
theorem Configured.replicationCount
    {state : State}
    (configured : Configured cluster state)
    {node : NodeId}
    (voting : node ∈ cluster.voters)
    (index : Nat) :
    (state.engine node).replicationCount index =
      (cluster.Counted (state.engine node) node index).card := by
  have sameVoters : (state.engine node).membership.voters.toFinset =
      cluster.voters := by
    rw [configured.membership node, ← cluster.voters_eq node]
    ext voter
    rw [List.mem_toFinset, Membership.mem_voters_new, List.mem_toFinset]
  have nodup := (state.engine node).membership.otherVoters_nodup node
  have others : cluster.Counted (state.engine node) node index =
      insert node (((state.engine node).membership.otherVoters node).filter
        fun peer => decide (((state.engine node).matchIndex.lookup
          peer).getD 0 ≥ index)).toFinset := by
    ext voter
    rw [Finset.mem_insert, List.mem_toFinset, List.mem_filter,
      Membership.mem_otherVoters, ← List.mem_toFinset, sameVoters]
    unfold Counted
    rw [Finset.mem_filter, decide_eq_true_eq]
    constructor
    · rintro ⟨inside, rfl | holds⟩
      · exact .inl rfl
      · by_cases self : voter = node
        · exact .inl self
        · exact .inr ⟨⟨inside, self⟩, holds⟩
    · rintro (rfl | ⟨⟨inside, -⟩, holds⟩)
      · exact ⟨voting, .inl rfl⟩
      · exact ⟨inside, .inr holds⟩
  have absent : node ∉ (((state.engine node).membership.otherVoters node).filter
      fun peer => decide (((state.engine node).matchIndex.lookup
        peer).getD 0 ≥ index)).toFinset := by
    simp
  rw [others, Finset.card_insert_of_notMem absent,
    List.toFinset_card_of_nodup (nodup.filter _), ← List.countP_eq_length_filter,
    RaftEngine.replicationCount, RaftEngine.otherVoters, configured.nodeId node,
    Nat.add_comm]

/-- Candidates and leaders are voters when only voters campaign. -/
theorem active_mem_voters
    (voterCampaigns : cluster.system.Along cluster.VoterCampaigns events)
    (node : NodeId)
    (active : ((cluster.system.run events).engine node).role ≠ .follower) :
    node ∈ cluster.voters := by
  have holds := cluster.system.invariant_along
    (motive := fun state => ∀ node,
      (state.engine node).role ≠ .follower → node ∈ cluster.voters)
    (fun node active => absurd rfl active) ?_ voterCampaigns
  · exact holds node active
  · intro state event before voterCampaign other active
    rcases cluster.step_cases state event with
      idle | ⟨node, now, -, -, restarted⟩ | ⟨node, call, rfl, inside, -, called⟩
    · rw [idle] at active
      exact before other active
    · rw [restarted] at active
      by_cases same : other = node
      · subst same
        rw [react_engine_self] at active
        exact absurd rfl active
      · rw [react_engine_of_ne _ _ same] at active
        exact before other active
    · rw [called] at active
      by_cases same : other = node
      · subst same
        rw [react_engine_self] at active
        have outcome := (state.engine other).call_outcome call
        cases role : ((state.engine other).call call).1.role with
        | follower => exact absurd role active
        | candidate =>
            rcases outcome.candidate_cases role with
              ⟨wasCandidate, -⟩ | ⟨now, rfl, waiting, due, -⟩ |
              ⟨sender, now, -, wasCandidate, -⟩
            · exact before other (by simp [wasCandidate])
            · exact voterCampaign inside waiting due
            · exact before other (by simp [wasCandidate])
        | leader =>
            rcases outcome.leader_cases role with
              ⟨led, -⟩ | ⟨sender, now, -, wasCandidate, -⟩
            · exact before other (by simp [led])
            · exact before other (by simp [wasCandidate])
      · rw [react_engine_of_ne _ _ same] at active
        exact before other active

/-- A leader that commits counts a majority of the voters. -/
theorem commits_majority
    (voterCampaigns : cluster.system.Along cluster.VoterCampaigns events)
    {past : List Event}
    {event : Event}
    (isPast : past ++ [event] <+: events)
    (node : NodeId)
    (leading : ((cluster.system.step (cluster.system.run past)
      event).engine node).role = .leader)
    (advanced : ((cluster.system.run past).engine node).commitIndex <
      ((cluster.system.step (cluster.system.run past)
        event).engine node).commitIndex) :
    Majority cluster.voters
      (cluster.Counted ((cluster.system.step (cluster.system.run past)
        event).engine node) node
        ((cluster.system.step (cluster.system.run past)
          event).engine node).commitIndex) := by
  have now := cluster.configured (past ++ [event])
  have voting := active_mem_voters (voterCampaigns.of_isPrefix isPast) node
  rw [System.run_concat] at now voting
  have enough : ((cluster.system.step (cluster.system.run past)
      event).engine node).membership.quorum ≤
        ((cluster.system.step (cluster.system.run past)
          event).engine node).replicationCount
            ((cluster.system.step (cluster.system.run past)
              event).engine node).commitIndex := by
    rcases cluster.step_cases (cluster.system.run past) event with
      idle | ⟨actor, start, -, -, restarted⟩ | ⟨actor, call, -, -, -, called⟩
    · rw [idle] at advanced
      exact absurd advanced (Nat.lt_irrefl _)
    · rw [restarted] at leading advanced
      by_cases same : node = actor
      · subst same
        rw [react_engine_self] at leading
        contradiction
      · rw [react_engine_of_ne _ _ same] at advanced
        exact absurd advanced (Nat.lt_irrefl _)
    · rw [called] at leading advanced ⊢
      by_cases same : node = actor
      · subst same
        rw [react_engine_self] at leading advanced ⊢
        have progress := (((cluster.system.run past).engine
          node).call_outcome call).progress
        generalize ((cluster.system.run past).engine node).call call = result
          at leading advanced progress ⊢
        cases progress with
        | quiet _ _ sameCommit => omega
        | followed _ _ _ _ _ _ _ _ _ _ _ _ following =>
            rw [following] at leading
            contradiction
        | committed sender matchIndex now index entry _ wasLeading
            stillLeading sameStorage newer inside stored ownTerm replicated
            advances =>
            rw [advances.commitIndex, Nat.max_eq_right newer.le]
            exact replicated
      · rw [react_engine_of_ne _ _ same] at advanced
        exact absurd advanced (Nat.lt_irrefl _)
  rw [now.replicationCount (voting (by simp [leading]))] at enough
  exact now.majority (Finset.filter_subset _ _) enough

/-- Quorums consist of voters in every run in which only voters campaign. -/
theorem quorums_of_voters
    (cluster : Cluster)
    (events : List Event)
    (voterCampaigns : cluster.system.Along cluster.VoterCampaigns events) :
    cluster.QuorumsOfVoters events where
  elections := by
    intro node term announced
    have evidence := sound voterCampaigns
    obtain ⟨view, shown, leading, rfl⟩ :=
      evidence.announced node term announced
    exact evidence.elected node view shown leading
  commits := by
    intro past event isPast node leading advanced
    exact commits_majority voterCampaigns isPast node leading advanced

/-- The condition holds of a first election and a first commit next to a node
that is not a voter. -/
theorem quorums_of_voters_first :
    (sample {1, 2, 3, 4} [1, 2, 3]).QuorumsOfVoters
      (firstElection ++
        [.call 1 (.propose [7]),
          .call 2 (.rpc 1 (.appendEntries 1 1 0 0
            [{ index := 1, term := 1, entryType := .command [7] }] 0) 160),
          .call 1 (.rpc 2 (.appendEntriesResp 1 true 1) 170)]) :=
  quorums_of_voters _ _ (by decide +kernel)

/-- A node that is not a voter leads with the vote of one of two voters. -/
theorem non_voter_elected :
    ¬ (sample {1, 2, 3} [2, 3]).QuorumsOfVoters firstElection := by
  intro quorums
  obtain ⟨supporters, majority, votes⟩ :=
    quorums.elections 1 1 (by decide +kernel)
  have whole : supporters = (sample {1, 2, 3} [2, 3]).voters := by
    have large := majority.large
    have small := Finset.card_le_card majority.subset
    have size : (sample {1, 2, 3} [2, 3]).voters.card = 2 := rfl
    exact Finset.eq_of_subset_of_card_le majority.subset (by omega)
  obtain ⟨-, voted, ⟨past, isPast, shown⟩, -, votedFor⟩ :=
    votes 3 (by rw [whole]; decide)
  have never : ¬ (sample {1, 2, 3} [2, 3]).system.Sometime
      (fun state => (state.engine 3).storage.hardState.votedFor = some 1)
      firstElection := by
    decide +kernel
  apply never
  refine ⟨past, isPast, ?_⟩
  rw [← votedFor, ← shown]
  rfl

end Cluster

end Libp2pRaft
