import Libp2pRaft.Network.Refinement

/-!
# Match indices and state machine safety

A leader takes what a success matches from the record of its slot, and not from
the success.  As long as no success it handles reports less than that, a match
index tells what the peer holds, and the applications of all nodes are told one
sequence of entries.  Pipeline depth one is enough for it.
-/

namespace Libp2pRaft

open Consensus TransitionSystem

namespace Network

/-- A peer stored the first entries of a leader's log in the leader's term, and
keeps them as long as it is in that term. -/
structure Replicated
    (network : Network)
    (inputs : List Input)
    (leader peer : NodeId)
    (index : Nat) : Prop where
  inside : index ≤
    ((network.system.run inputs).engine leader).storage.entries.length
  stored : 0 < index → network.system.Sometime
    (fun state => (state.engine peer).currentTerm =
        ((network.system.run inputs).engine leader).currentTerm ∧
      (state.engine peer).storage.entries.take index =
        ((network.system.run inputs).engine leader).storage.entries.take index)
    inputs
  kept : ((network.system.run inputs).engine peer).currentTerm =
      ((network.system.run inputs).engine leader).currentTerm →
    ((network.system.run inputs).engine peer).storage.entries.take index =
      ((network.system.run inputs).engine leader).storage.entries.take index

/-- No leader claims more for another voter than that voter stored. -/
def NoOverclaim (network : Network) (inputs : List Input) : Prop :=
  ∀ past, past <+: inputs → ∀ leader,
    ((network.system.run past).engine leader).role = .leader →
    ∀ peer ∈ network.voters, peer ≠ leader →
    ∀ index ∈ ((network.system.run past).engine leader).matchIndex.lookup peer,
      Replicated network past leader peer index

/-- Entries of one index that any two nodes are told of at any two moments are
one entry. -/
def OneSequence (network : Network) (inputs : List Input) : Prop :=
  ∀ node entries other others,
    (node, .committed entries) ∈ (network.system.run inputs).reports →
    (other, .committed others) ∈ (network.system.run inputs).reports →
    ∀ first ∈ entries, ∀ second ∈ others, first.index = second.index →
      first = second

/-- A match index never claims more than the peer stored. -/
theorem match_index_no_overclaim
    (network : Network)
    (voting : network.nodes ⊆ network.voters)
    (new : network.StartsNew)
    (inputs : List Input)
    (below : network.system.Along TermsBelowMax inputs)
    (reports : network.system.Along (ReportsRecorded network) inputs) :
    NoOverclaim network inputs := by
  intro past isPast leader leading peer _ _ index isMatch
  obtain ⟨events, embeds⟩ :=
    exists_embeds (below.of_isPrefix isPast) (reports.of_isPrefix isPast)
  obtain ⟨history, linked⟩ := Cluster.exists_linked
    (Cluster.voterCampaigns_of_subset voting events) embeds.below
  rw [← embeds.engine] at leading isMatch
  have matched := Cluster.matched voting new embeds.below embeds.reported leading
    peer
  rw [Option.mem_def.mp isMatch, Option.getD_some] at matched
  rcases matched with ⟨inside, rfl | ⟨held, shown, sameTerm, kept⟩⟩
  · exact ⟨Nat.zero_le _, fun positive => absurd positive (Nat.lt_irrefl _),
      fun _ => rfl⟩
  have long : (((network.toCluster.system.run events).engine
      leader).storage.entries.take index).length = index := by
    rw [List.length_take]
    omega
  have takes : ∀ log : List LogEntry,
      ((network.toCluster.system.run events).engine
        leader).storage.entries.take index <+: log →
      log.take index = ((network.toCluster.system.run events).engine
        leader).storage.entries.take index := by
    intro log isPrefix
    have prefixEq := List.prefix_iff_eq_take.mp isPrefix
    rw [long] at prefixEq
    exact prefixEq.symm
  refine ⟨?_, ?_, ?_⟩ <;> rw [← embeds.engine leader]
  · exact inside
  · intro _
    obtain ⟨moment, isMoment, rfl⟩ := embeds.shown peer held shown
    exact ⟨moment, isMoment, sameTerm, takes _ kept⟩
  · rw [← embeds.engine peer]
    intro still
    have led : Led network.startView history held.term
        ((network.toCluster.system.run events).engine leader).storage.entries :=
      ⟨leader, _, linked.seen leader _ .now,
        Role.standing_eq_leader.mpr leading, sameTerm.symm, rfl⟩
    have stable := linked.valid.held_prefix_stable new.startsEmpty
      (linked.seen peer held shown)
      (by rw [linked.shows]; exact still.trans sameTerm.symm) kept led
      (List.take_prefix _ _)
    rw [linked.shows] at stable
    exact takes _ stable

/-- Two leaderships of node `1`: in the second one an entry is committed, and
node `2` learns of it. -/
def secondCommit : List Input :=
  secondLeadership ++
    [.request 2 7 1 3 610,
      .response 1 1 1 615,
      .propose 1 [7] 620,
      .request 2 8 1 4 625,
      .response 1 1 1 630,
      .tick 1 650,
      .request 2 8 1 5 660]

/-- The theorem applies to a run in which the second leadership matches an
entry. -/
theorem match_index_no_overclaim_second :
    ((sample.system.run secondCommit).engine 1).matchIndex.lookup 2 = some 1 ∧
      NoOverclaim sample secondCommit :=
  ⟨by decide +kernel,
    match_index_no_overclaim sample (by decide) (fun _ => rfl) secondCommit
      (by decide +kernel) (by decide +kernel)⟩

/-- After a stale timeout the leader counts a proposal that node `2` never
received. -/
theorem stale_timeout_overclaims : ¬ NoOverclaim sample staleTimeout := by
  intro noOverclaim
  have claimed := noOverclaim staleTimeout (List.prefix_refl _) 1
    (by decide +kernel) 2 (by decide) (by decide) 1 (by decide +kernel)
  have never : ¬ sample.system.Sometime
      (fun state => (state.engine 2).currentTerm =
          ((sample.system.run staleTimeout).engine 1).currentTerm ∧
        (state.engine 2).storage.entries.take 1 =
          ((sample.system.run staleTimeout).engine 1).storage.entries.take 1)
      staleTimeout := by
    decide +kernel
  exact never (claimed.stored Nat.one_pos)

/-- All applications are told one sequence of entries. -/
theorem state_machine_safety
    (network : Network)
    (voting : network.nodes ⊆ network.voters)
    (new : network.StartsNew)
    (inputs : List Input)
    (below : network.system.Along TermsBelowMax inputs)
    (reports : network.system.Along (ReportsRecorded network) inputs) :
    OneSequence network inputs := by
  intro node entries other others told alsoTold first inside second alsoInside
    sameIndex
  obtain ⟨events, embeds⟩ := exists_embeds below reports
  exact Cluster.applied_agree voting new embeds.below embeds.reported
    (embeds.reports node entries told) (embeds.reports other others alsoTold)
    inside alsoInside sameIndex

/-- The theorem applies to a run in which two nodes are told of one entry. -/
theorem state_machine_safety_second :
    (1, .committed [⟨1, 3, .command [7]⟩]) ∈
        (sample.system.run secondCommit).reports ∧
      (2, .committed [⟨1, 3, .command [7]⟩]) ∈
        (sample.system.run secondCommit).reports ∧
      OneSequence sample secondCommit :=
  ⟨by decide +kernel, by decide +kernel,
    state_machine_safety sample (by decide) (fun _ => rfl) secondCommit
      (by decide +kernel) (by decide +kernel)⟩

/-- The proposal is committed on node `1` alone, and node `2` is elected without
it and commits another one. -/
def staleCommit : List Input :=
  staleTimeout ++
    [.tick 2 900,
      .request 3 10 1 1 910,
      .response 2 1 1 915,
      .propose 2 [8] 920,
      .request 3 11 1 2 925,
      .response 2 1 1 930]

/-- After a stale timeout two nodes are told of different entries of one
index. -/
theorem stale_timeout_splits : ¬ OneSequence sample staleCommit := by
  intro oneSequence
  have same := oneSequence 1 [⟨1, 3, .command [7]⟩] 2 [⟨1, 4, .command [8]⟩]
    (by decide +kernel) (by decide +kernel) _ List.mem_cons_self _
    List.mem_cons_self rfl
  exact absurd same (by decide)

/-! ## Pipeline depth one suffices -/

/-- Where no request of an earlier term is resolved on a slot in use, successes
report what is recorded. -/
theorem reportsRecorded_of_spares
    (network : Network)
    {inputs : List Input}
    (below : network.system.Along TermsBelowMax inputs)
    (sparesFailed : network.system.Along SparesFailed inputs)
    (sparesAnswered : network.system.Along (SparesAnswered network) inputs) :
    network.system.Along (ReportsRecorded network) inputs := by
  intro past input isPast leading packet isAnswer reported isSuccess ownTerm
    request pends recorded isRecorded
  have before := (List.prefix_append _ _).trans isPast
  have pipelined := pipelined_run network input.node
    ((below.of_isPrefix before).imp fun _ _ holds _ => holds)
    ((sparesFailed.of_isPrefix before).imp fun _ _ holds _ => holds)
    ((sparesAnswered.of_isPrefix before).imp fun _ _ holds _ => holds)
  obtain ⟨position, found, addressed⟩ := answer_cases isAnswer
  have answered := ((wired network past).settles found addressed pends).2
  obtain ⟨prev, len, offered, lastEq⟩ := answered.success_offer isSuccess
  rw [ownTerm] at offered
  have held := (pipelined.held leading _ _ _ _ ⟨pends, offered⟩).2
  obtain rfl : (prev, len) = recorded :=
    Option.some.inj (held.symm.trans isRecorded)
  exact lastEq.ge

end Network

end Libp2pRaft
