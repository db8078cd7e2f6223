import Libp2pRaft.Cluster.Linearizability
import Libp2pRaft.Network.StateMachineSafety

/-!
# Proposals of the applications

What the applications on a network are told is the sequence of their accepted
proposals, in an order that agrees with real time, and no node that leads later
on lacks any of it.
-/

namespace Libp2pRaft

open Consensus TransitionSystem

namespace Network

/-- Right after a moment of a run, `propose` answers an application with an
index, and this is the entry it stands for. -/
structure Accepts
    (network : Network)
    (inputs past : List Input)
    (node : NodeId)
    (data : List UInt8)
    (now : Nat)
    (entry : LogEntry) : Prop where
  isStep : past ++ [.propose node data now] <+: inputs
  inside : node ∈ network.nodes
  answered : (((network.system.run past).behaviour node).propose data now).2 =
    .ok entry.index
  ownTerm : entry.term = ((network.system.run past).engine node).currentTerm
  command : entry.entryType = .command data

variable {network : Network} {inputs past : List Input}
  {events : List Cluster.Event} {node : NodeId} {data : List UInt8} {now : Nat}
  {entry : LogEntry}

/-- An accepted proposal of an application is one of its engine. -/
theorem Embeds.accepts
    (embeds : Embeds network past events)
    (below : network.system.Along TermsBelowMax inputs)
    (reports : network.system.Along (ReportsRecorded network) inputs)
    (accepts : network.Accepts inputs past node data now entry) :
    ∃ more, Embeds network inputs (events ++ more) ∧
      network.toCluster.Accepts (events ++ more) events node data entry := by
  have ran := network.system.run_concat past (.propose node data now)
  have performed : network.system.step (network.system.run past)
      (.propose node data now) = (network.system.run past).drain node
        (((network.system.run past).behaviour node).propose data now).1 :=
    if_pos accepts.inside
  obtain ⟨first, -, embedsFirst⟩ := embeds.propose accepts.inside
    (((network.system.run past).behaviour node).propose_silent data now)
    (ran.trans performed)
  obtain ⟨more, embedsLater⟩ :=
    embedsFirst.extend accepts.isStep below reports
  rw [List.append_assoc, List.append_assoc] at embedsLater
  refine ⟨_, embedsLater, ?_, accepts.inside, ?_, ?_, accepts.command⟩
  · rw [← List.append_assoc]
    exact List.prefix_append _ _
  · rw [embeds.engine]
    exact (RaftBehaviour.propose_eq_ok _).mp accepts.answered
  · rw [embeds.engine]
    exact accepts.ownTerm

/-- A run of the cluster behind a run of the network, in which nobody but the
applications makes proposals. -/
theorem exists_embeds_proposed
    (below : network.system.Along TermsBelowMax inputs)
    (reports : network.system.Along (ReportsRecorded network) inputs) :
    ∃ events, Embeds network inputs events ∧
      ∀ before node data entry,
        network.toCluster.Accepts events before node data entry →
          ∃ past now, network.Accepts inputs past node data now entry := by
  induction inputs using List.reverseRecOn with
  | nil =>
      refine ⟨[], .nil network, ?_⟩
      intro before node data entry accepts
      simpa using accepts.isStep
  | append_singleton inputs input inductionHypothesis =>
      rw [System.along_concat] at below reports
      obtain ⟨events, embeds, proposed⟩ := inductionHypothesis below.1 reports.1
      have older : ∀ more before node data entry,
          before ++ [.call node (.propose data)] <+: events →
          network.toCluster.Accepts (events ++ more) before node data entry →
          ∃ past now,
            network.Accepts (inputs ++ [input]) past node data now entry := by
        intro more before node data entry isStep accepts
        obtain ⟨past, now, old⟩ :=
          proposed before node data entry { accepts with isStep := isStep }
        exact ⟨past, now,
          { old with isStep := old.isStep.trans (List.prefix_append _ _) }⟩
      obtain ⟨more, unproposed, embedsLater |
        ⟨actor, content, time, rfl, inside, embedsLater⟩⟩ :=
          embeds.step below.2 reports.2
      · refine ⟨_, embedsLater, ?_⟩
        intro before node data entry accepts
        rcases concat_prefix_append accepts.isStep with early | ⟨_, -, isNew⟩
        · exact older more before node data entry early accepts
        · exact absurd (isNew.subset (by simp)) (unproposed node data)
      · refine ⟨_, embedsLater, ?_⟩
        intro before node data entry accepts
        have isStep := accepts.isStep
        rcases concat_prefix_append isStep with early | ⟨_, -, isNew⟩
        · rcases List.prefix_concat_iff.mp early with same | earlier
          · obtain ⟨rfl, isCall⟩ := List.append_inj' same rfl
            obtain ⟨rfl, rfl⟩ : node = actor ∧ data = content := by
              simpa using isCall
            refine ⟨inputs, time, List.prefix_refl _, inside, ?_, ?_,
              accepts.command⟩
            · rw [RaftBehaviour.propose_eq_ok, ← State.engine, ← embeds.engine]
              exact accepts.answered
            · rw [← embeds.engine]
              exact accepts.ownTerm
          · rw [List.append_assoc] at accepts
            exact older _ before node data entry earlier accepts
        · exact absurd (isNew.subset (by simp)) (unproposed node data)

/-- Two proposals of the applications do not share an entry. -/
theorem Accepts.unique
    (voting : network.nodes ⊆ network.voters)
    (below : network.system.Along TermsBelowMax inputs)
    (reports : network.system.Along (ReportsRecorded network) inputs)
    {later : List Input}
    {other : NodeId}
    {more : List UInt8}
    {time : Nat}
    (accepts : network.Accepts inputs past node data now entry)
    (again : network.Accepts inputs later other more time entry) :
    past = later ∧ node = other ∧ data = more ∧ now = time := by
  have apart : ∀ {past later : List Input} {node other : NodeId}
      {data more : List UInt8} {now time : Nat},
      network.Accepts inputs past node data now entry →
      network.Accepts inputs later other more time entry →
      ¬ past ++ [.propose node data now] <+: later := by
    intro past later node other data more now time accepts again order
    have isLater := (List.prefix_append _ _).trans again.isStep
    have isPast := (List.prefix_append _ _).trans order
    obtain ⟨events, embeds⟩ := exists_embeds
      (below.of_isPrefix (isPast.trans isLater))
      (reports.of_isPrefix (isPast.trans isLater))
    obtain ⟨_, embedsLater, first⟩ := embeds.accepts (below.of_isPrefix isLater)
      (reports.of_isPrefix isLater) { accepts with isStep := order }
    obtain ⟨_, embedsAll, second⟩ := embedsLater.accepts below reports again
    exact absurd ((first.extend (List.prefix_append _ _)).index_lt voting
      embedsAll.below second rfl first.isStep) (lt_irrefl _)
  have sameMoment : past = later := by
    rcases List.prefix_or_prefix_of_prefix accepts.isStep again.isStep with
      order | order
    · rcases List.prefix_concat_iff.mp order with same | before
      · exact (List.append_inj' same rfl).1
      · exact absurd before (apart accepts again)
    · rcases List.prefix_concat_iff.mp order with same | before
      · exact (List.append_inj' same rfl).1.symm
      · exact absurd before (apart again accepts)
  subst sameMoment
  have sameStep := (List.prefix_of_prefix_length_le accepts.isStep again.isStep
    (by simp)).eq_of_length (by simp)
  simp only [List.append_cancel_left_eq, List.cons.injEq, Input.propose.injEq,
    and_true] at sameStep
  exact ⟨rfl, sameStep⟩

/-- What the applications are told is their accepted proposals, each of them
once and in an order that agrees with real time. -/
structure Linearizable (network : Network) (inputs : List Input) : Prop where
  proposed : ∀ node entries,
    (node, .committed entries) ∈ (network.system.run inputs).reports →
    ∀ entry ∈ entries,
      ∃! proposal : List Input × NodeId × List UInt8 × Nat,
        network.Accepts inputs proposal.1 proposal.2.1 proposal.2.2.1
          proposal.2.2.2 entry
  ordered : ∀ past later node entries other others proposer data now,
    past <+: later →
    (node, .committed entries) ∈ (network.system.run past).reports →
    (other, .committed others) ∈ (network.system.run inputs).reports →
    ∀ first ∈ entries, ∀ second ∈ others,
      network.Accepts inputs later proposer data now second →
        first.index < second.index

/-- The log is a linearization of the proposals. -/
theorem proposals_linearizable
    (network : Network)
    (voting : network.nodes ⊆ network.voters)
    (new : network.StartsNew)
    (inputs : List Input)
    (below : network.system.Along TermsBelowMax inputs)
    (reports : network.system.Along (ReportsRecorded network) inputs) :
    Linearizable network inputs where
  proposed := by
    intro node entries told entry inside
    obtain ⟨events, embeds, proposed⟩ := exists_embeds_proposed below reports
    obtain ⟨before, proposer, data, wasAccepted⟩ :=
      ((network.toCluster.originated events).applied node entries
        (embeds.reports node entries told) entry inside).accepts new
    obtain ⟨past, now, accepts⟩ :=
      proposed before proposer data entry wasAccepted
    refine ⟨(past, proposer, data, now), accepts, ?_⟩
    rintro ⟨later, other, more, time⟩ again
    obtain ⟨rfl, rfl, rfl, rfl⟩ :=
      again.unique voting below reports accepts
    rfl
  ordered := by
    intro past later node entries other others proposer data now order told
      alsoTold first inside second alsoInside accepts
    have isLater := (List.prefix_append _ _).trans accepts.isStep
    obtain ⟨events, embeds⟩ := exists_embeds
      (below.of_isPrefix (order.trans isLater))
      (reports.of_isPrefix (order.trans isLater))
    obtain ⟨_, embedsLater⟩ := embeds.extend order (below.of_isPrefix isLater)
      (reports.of_isPrefix isLater)
    obtain ⟨_, embedsAll, wasAccepted⟩ :=
      embedsLater.accepts below reports accepts
    exact Cluster.applied_before_proposed voting new embedsAll.below
      embedsAll.reported (embeds.reports node entries told) inside
      (List.prefix_append _ _) wasAccepted (embedsAll.reports other others alsoTold)
      alsoInside

/-- The theorem applies to a run in which two nodes are told of one entry. -/
theorem proposals_linearizable_second : Linearizable sample secondCommit :=
  proposals_linearizable sample (by decide) (fun _ => rfl) secondCommit
    (by decide +kernel) (by decide +kernel)

/-! ## Durability -/

/-- What an engine has committed stays: on its node, against every other node,
and in every leader that comes after it. -/
structure Durable (network : Network) (inputs : List Input) : Prop where
  kept : ∀ past later, past <+: later → later <+: inputs → ∀ node,
    ((network.system.run past).engine node).committedLog <+:
      ((network.system.run later).engine node).storage.entries
  comparable : ∀ past later, past <+: later → later <+: inputs →
    ∀ node other,
      Comparable ((network.system.run past).engine node).committedLog
        ((network.system.run later).engine other).committedLog
  led : ∀ past later, past <+: inputs → later <+: inputs →
    ∀ node leader,
      ((network.system.run later).engine leader).role = .leader →
      ((network.system.run past).engine node).currentTerm <
          ((network.system.run later).engine leader).currentTerm ∨
        (((network.system.run past).engine node).currentTerm =
            ((network.system.run later).engine leader).currentTerm ∧
          past <+: later) →
        ((network.system.run past).engine node).committedLog <+:
          ((network.system.run later).engine leader).storage.entries

/-- Two moments of a run have moments of one run of the cluster behind them. -/
theorem exists_moments
    {later : List Input}
    (below : network.system.Along TermsBelowMax later)
    (reports : network.system.Along (ReportsRecorded network) later)
    (order : past <+: later) :
    ∃ events more, Embeds network past events ∧
      Embeds network later (events ++ more) := by
  obtain ⟨events, embeds⟩ :=
    exists_embeds (below.of_isPrefix order) (reports.of_isPrefix order)
  obtain ⟨more, embedsLater⟩ := embeds.extend order below reports
  exact ⟨events, more, embeds, embedsLater⟩

/-- Commitment is for good. -/
theorem committed_durable
    (network : Network)
    (voting : network.nodes ⊆ network.voters)
    (new : network.StartsNew)
    (inputs : List Input)
    (below : network.system.Along TermsBelowMax inputs)
    (reports : network.system.Along (ReportsRecorded network) inputs) :
    Durable network inputs where
  kept := by
    intro past later order isLater node
    obtain ⟨events, more, embeds, embedsLater⟩ := exists_moments
      (below.of_isPrefix isLater) (reports.of_isPrefix isLater) order
    rw [← embeds.engine, ← embedsLater.engine]
    exact Cluster.committedLog_kept voting new embedsLater.below
      embedsLater.reported (List.prefix_append _ _) node
  comparable := by
    intro past later order isLater node other
    obtain ⟨events, more, embeds, embedsLater⟩ := exists_moments
      (below.of_isPrefix isLater) (reports.of_isPrefix isLater) order
    rw [← embeds.engine, ← embedsLater.engine]
    exact Cluster.committedLog_comparable voting new embedsLater.below
      embedsLater.reported (List.prefix_append _ _) (List.prefix_refl _) node
      other
  led := by
    intro past later isPast isLater node leader leading terms
    by_cases order : past <+: later
    · obtain ⟨events, more, embeds, embedsLater⟩ := exists_moments
        (below.of_isPrefix isLater) (reports.of_isPrefix isLater) order
      rw [← embeds.engine, ← embedsLater.engine] at terms
      rw [← embedsLater.engine] at leading
      rw [← embeds.engine, ← embedsLater.engine]
      rcases terms with earlier | ⟨sameTerm, -⟩
      · exact Cluster.committedLog_in_later_leader voting new embedsLater.below
          embedsLater.reported (List.prefix_append _ _) (List.prefix_refl _)
          ⟨leading, rfl⟩ earlier
      · exact Cluster.committedLog_in_leader voting new embedsLater.below
          embedsLater.reported (List.prefix_append _ _) ⟨leading, rfl⟩ sameTerm
    · have reverse := (List.prefix_or_prefix_of_prefix isPast isLater).resolve_left
        order
      obtain ⟨events, more, embeds, embedsLater⟩ := exists_moments
        (below.of_isPrefix isPast) (reports.of_isPrefix isPast) reverse
      rw [← embeds.engine, ← embedsLater.engine] at terms
      rw [← embeds.engine] at leading
      rw [← embeds.engine, ← embedsLater.engine]
      exact Cluster.committedLog_in_later_leader voting new embedsLater.below
        embedsLater.reported (List.prefix_refl _) (List.prefix_append _ _)
        ⟨leading, rfl⟩ (terms.resolve_right fun sameTerm => order sameTerm.2)

/-- The theorem applies to a run in which two nodes commit an entry. -/
theorem committed_durable_second : Durable sample secondCommit :=
  committed_durable sample (by decide) (fun _ => rfl) secondCommit
    (by decide +kernel) (by decide +kernel)

end Network

end Libp2pRaft
