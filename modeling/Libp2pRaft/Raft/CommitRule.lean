import Libp2pRaft.Raft.ProgressTable
import Mathlib.Order.Bounds.Basic

/-!
# The commit rule

An index is committed by counting when it holds an entry of the current term on
a quorum.  A leader is always done: its commit index is the greatest such index,
or the one it had when it was elected.
-/

namespace Libp2pRaft

open Consensus TransitionSystem

/-- Scanning a range downwards finds the greatest number with a property. -/
theorem find?_reverse_range'
    {property : Nat → Bool}
    {first count found : Nat}
    (scanned : (List.range' first count).reverse.find? property = some found)
    {later : Nat}
    (behind : found < later)
    (inside : later < first + count) :
    property later = false := by
  obtain ⟨-, position, bounded, isFound, others⟩ :=
    List.find?_eq_some_iff_getElem.mp scanned
  rw [List.length_reverse, List.length_range'] at bounded
  rw [List.getElem_reverse, List.getElem_range', List.length_range'] at isFound
  have earlier := others (first + count - 1 - later) (by omega)
  rw [List.getElem_reverse, List.getElem_range', List.length_range'] at earlier
  have same : first + 1 * (count - 1 - (first + count - 1 - later)) = later := by
    omega
  rw [same] at earlier
  simpa using earlier

namespace RaftEngine

/-- An index holds an entry of the current term on a quorum: the engine itself
and the other voters whose match index reaches it are more than half. -/
def HeldOnQuorum
    (voters : Finset NodeId)
    (engine : MemoryEngine)
    (index : Nat) : Prop :=
  ∃ entry, Storage.entry engine.storage index = some entry ∧
    entry.term = engine.currentTerm ∧
    voters.card / 2 + 1 ≤
      1 + ((voters.erase engine.config.nodeId).filter fun peer =>
        index ≤ (engine.matchIndex.lookup peer).getD 0).card

/-- Nothing behind the commit index is committable. -/
def Settled (engine : MemoryEngine) : Prop :=
  ∀ index, engine.commitIndex < index → engine.committable index = false

section

variable {self : MemoryEngine} {call : Call}
  {result : MemoryEngine × List Action}

/-- The engine counts the voters it is configured with. -/
theorem committable_iff_heldOnQuorum
    {voters : List NodeId}
    (sameMembership : self.membership = Membership.new voters)
    {index : Nat} :
    self.committable index = true ↔
      HeldOnQuorum voters.toFinset self index := by
  have others : (voters.toFinset.erase self.config.nodeId).filter
      (fun peer => index ≤ (self.matchIndex.lookup peer).getD 0) =
        (self.otherVoters.filter fun peer =>
          decide ((self.matchIndex.lookup peer).getD 0 ≥ index)).toFinset := by
    ext peer
    simp only [Finset.mem_filter, Finset.mem_erase, List.mem_toFinset,
      List.mem_filter, otherVoters, Membership.mem_otherVoters, sameMembership,
      Membership.mem_voters_new, decide_eq_true_eq, ge_iff_le]
    tauto
  have nodup : self.otherVoters.Nodup :=
    self.membership.otherVoters_nodup self.config.nodeId
  have counted : self.replicationCount index =
      1 + ((voters.toFinset.erase self.config.nodeId).filter
        fun peer => index ≤ (self.matchIndex.lookup peer).getD 0).card := by
    rw [others, List.toFinset_card_of_nodup (nodup.filter _),
      ← List.countP_eq_length_filter]
    rfl
  have quorum : self.membership.quorum = voters.toFinset.card / 2 + 1 := by
    rw [sameMembership, List.card_toFinset]
    rfl
  unfold HeldOnQuorum committable
  rw [← counted, ← quorum]
  cases stored : Storage.entry self.storage index with
  | none => simp
  | some entry => simp

/-- A leader that has no match at an index counts only itself. -/
theorem committable_of_unmatched
    (self : MemoryEngine)
    (several : 1 < self.membership.quorum)
    {index : Nat}
    (unmatched : ∀ peer, (self.matchIndex.lookup peer).getD 0 < index) :
    self.committable index = false := by
  have alone : self.replicationCount index = 1 := by
    unfold replicationCount
    rw [List.countP_eq_zero.mpr]
    intro peer _
    simp [unmatched peer]
  rw [← Bool.not_eq_true, committable_iff, alone]
  omega

/-- No index behind the log is committable. -/
theorem committable_le
    {index : Nat}
    (committable : self.committable index = true) :
    index ≤ self.storage.entries.length := by
  obtain ⟨positive, entry, stored, -⟩ := self.committable_iff.mp committable
  have inside := (List.getElem?_eq_some_iff.mp stored).1
  rw [MemoryStorage.storage_log] at inside
  omega

/-- After the scan nothing is left to commit. -/
theorem maybeCommit_settled
    (self : MemoryEngine)
    {index : Nat}
    (behind : self.maybeCommit.1.commitIndex < index) :
    self.committable index = false := by
  by_contra committable
  rw [Bool.not_eq_false] at committable
  have bounded := committable_le committable
  rw [maybeCommit_eq] at behind
  cases found : (List.range' (self.commitIndex + 1)
      (self.storage.entries.length - self.commitIndex)).reverse.find?
        self.committable with
  | none =>
      simp only [MemoryStorage.storage_log, found] at behind
      have nowhere := List.find?_eq_none.mp found index
      rw [List.mem_reverse, List.mem_range'_1] at nowhere
      exact nowhere (by omega) committable
  | some greatest =>
      simp only [MemoryStorage.storage_log, found, advanceCommitAndApply_eq,
        Nat.min_self] at behind
      have passed : self.committable index = false :=
        find?_reverse_range' found (by omega) (by omega)
      rw [passed] at committable
      contradiction

/-- A raised commit index is committable. -/
theorem maybeCommit_raised
    (self : MemoryEngine)
    (raised : self.commitIndex < self.maybeCommit.1.commitIndex) :
    self.committable self.maybeCommit.1.commitIndex = true := by
  rcases self.maybeCommit_cases with
    idle | ⟨index, entry, newer, inside, stored, ownTerm, replicated, moved⟩
  · rw [idle] at raised
    exact absurd raised (Nat.lt_irrefl _)
  · have isIndex : self.maybeCommit.1.commitIndex = index := by
      rw [moved, advanceCommitAndApply_eq]
      simp only [Nat.min_self]
      exact Nat.max_eq_right newer.le
    rw [isIndex, committable_iff]
    exact ⟨Nat.zero_lt_of_lt newer, entry, stored, ownTerm, replicated⟩

/-! ## What a leader commits by -/

/-- What a call of a leader changes of what it commits by. -/
inductive CommitStep (before : MemoryEngine) : MemoryEngine → Prop
  | kept (after : MemoryEngine)
      (sameCommit : after.commitIndex = before.commitIndex)
      (sameStorage : after.storage = before.storage)
      (sameMatch : after.matchIndex = before.matchIndex) :
      CommitStep before after
  | appended (data : List UInt8) (after : MemoryEngine)
      (sameCommit : after.commitIndex = before.commitIndex)
      (sameStorage : after.storage = (before.appendCommand data).storage)
      (sameMatch : after.matchIndex = before.matchIndex) :
      CommitStep before after
  | counted (aeInflight : Finset NodeId) (sender : NodeId) (matched : Nat)
      (recorded after : MemoryEngine)
      (isRecorded : recorded =
        { before with aeInflight := aeInflight }.recordMatch sender matched)
      (sameCommit : after.commitIndex = recorded.maybeCommit.1.commitIndex)
      (sameStorage : after.storage = recorded.storage)
      (sameMatch : after.matchIndex = recorded.matchIndex) :
      CommitStep before after

theorem Outcome.commitStep
    (outcome : Outcome self call result)
    (led : self.role = .leader)
    (leading : result.1.role = .leader) :
    CommitStep self result.1 := by
  cases outcome.leaderCall led leading with
  | idle => exact .kept _ rfl rfl rfl
  | heartbeat now =>
      obtain ⟨_, _, frame⟩ := self.replicateActions_frame
      rw [frame]
      exact .kept _ rfl rfl rfl
  | proposed data =>
      obtain ⟨_, _, frame⟩ :=
        (self.appendCommand data).replicateActions_frame
      rw [frame]
      exact .appended data _ rfl rfl rfl
  | failed => exact .kept _ rfl rfl rfl
  | matched sender matchIndex now reqPrev reqLen recorded =>
      obtain ⟨_, _, committed⟩ := (recordMatch
        { self with aeInflight := self.aeInflight.erase sender } sender
        (reqPrev + reqLen)).maybeCommit_frame
      rcases handleAppendSuccess_cases
        { self with aeInflight := self.aeInflight.erase sender } sender reqPrev
        reqLen with done | sent
      · rw [done]
        exact .counted _ _ _ _ _ rfl rfl (by rw [committed]) (by rw [committed])
      · obtain ⟨_, _, frame⟩ := ((recordMatch
          { self with aeInflight := self.aeInflight.erase sender } sender
          (reqPrev + reqLen)).maybeCommit.1).sendAppendEntriesTo_frame sender
        rw [sent, frame]
        exact .counted _ _ _ _ _ rfl rfl (by rw [committed]) (by rw [committed])
  | unmatched sender matchIndex now reqPrev reqLen recorded =>
      obtain ⟨_, _, _, frame⟩ := handleAppendReject_frame
        { self with aeInflight := self.aeInflight.erase sender } sender reqPrev
      rw [frame]
      exact .kept _ rfl rfl rfl

/-- What is committable depends on the log, the term, the match indices and the
voters. -/
theorem committable_congr
    {before after : MemoryEngine}
    (sameStorage : after.storage = before.storage)
    (sameMatch : after.matchIndex = before.matchIndex)
    (sameConfig : after.config = before.config)
    (sameMembership : after.membership = before.membership)
    (index : Nat) :
    after.committable index = before.committable index := by
  unfold committable replicationCount otherVoters currentTerm
  rw [sameStorage, sameMatch, sameConfig, sameMembership]

/-- A leader's log only grows. -/
theorem CommitStep.log_isPrefix
    {before after : MemoryEngine}
    (step : CommitStep before after) :
    before.storage.entries <+: after.storage.entries := by
  cases step with
  | kept after sameCommit sameStorage =>
      rw [sameStorage]
  | appended data after sameCommit sameStorage =>
      have appended := congrArg View.log (before.view_appendCommand data)
      simp only [view_log] at appended
      rw [sameStorage, appended]
      exact List.prefix_append _ _
  | counted aeInflight sender matched recorded after isRecorded sameCommit
      sameStorage =>
      rw [sameStorage, isRecorded]
      exact List.prefix_refl _

/-- What a leader can commit stays so while it leads: the entry stays, and the
matches only grow. -/
theorem Outcome.committable_mono
    (outcome : Outcome self call result)
    (led : self.role = .leader)
    (leading : result.1.role = .leader)
    (tabled : self.Tabled)
    {index : Nat}
    (committable : self.committable index = true) :
    result.1.committable index = true := by
  obtain ⟨sameConfig, sameMembership⟩ := outcome.config_eq
  have grown := (outcome.commitStep led leading).log_isPrefix
  have sameTerm : result.1.currentTerm = self.currentTerm := by
    rcases outcome.leader_cases leading with ⟨-, same⟩ | ⟨_, _, -, waiting, -⟩
    · exact same
    · simp [led] at waiting
  obtain ⟨positive, entry, stored, ownTerm, replicated⟩ :=
    self.committable_iff.mp committable
  rw [committable_iff, sameTerm, sameMembership]
  refine ⟨positive, entry, getElem?_of_isPrefix grown stored, ownTerm,
    replicated.trans ?_⟩
  unfold replicationCount otherVoters
  rw [sameConfig, sameMembership]
  apply Nat.add_le_add_left
  apply List.countP_mono_left
  intro peer _ reaches
  rw [decide_eq_true_eq] at reaches ⊢
  exact le_trans reaches (outcome.matchIndex_le led leading tabled peer)

/-- A leader that raises its commit index raises it to a committable one. -/
theorem Outcome.raised_committable
    (outcome : Outcome self call result)
    (led : self.role = .leader)
    (leading : result.1.role = .leader)
    (raised : self.commitIndex < result.1.commitIndex) :
    result.1.committable result.1.commitIndex = true := by
  obtain ⟨sameConfig, sameMembership⟩ := outcome.config_eq
  cases outcome.commitStep led leading with
  | kept after sameCommit => omega
  | appended data after sameCommit => omega
  | counted aeInflight sender matched recorded after isRecorded sameCommit
      sameStorage sameMatch =>
      subst isRecorded
      rw [committable_congr sameStorage sameMatch sameConfig sameMembership,
        sameCommit]
      apply maybeCommit_raised
      rw [← sameCommit]
      exact raised

/-- A command nobody has matched yet cannot be committed. -/
theorem appendCommand_settled
    (several : 1 < self.membership.quorum)
    (tabled : self.Tabled)
    (settled : self.Settled)
    (data : List UInt8) :
    (self.appendCommand data).Settled := by
  intro index behind
  have appended := congrArg View.log (self.view_appendCommand data)
  have sameTerm := congrArg View.term (self.view_appendCommand data)
  simp only [view_log, view_term] at appended sameTerm
  by_cases stored : index ≤ self.storage.entries.length
  · have before := settled index behind
    rw [← Bool.not_eq_true, committable_iff] at before ⊢
    rintro ⟨positive, entry, entryAt, ownTerm, replicated⟩
    apply before
    refine ⟨positive, entry, ?_, ownTerm.trans sameTerm, replicated⟩
    rw [MemoryStorage.storage_log, appended,
      List.getElem?_append_left (by omega)] at entryAt
    exact entryAt
  · apply committable_of_unmatched (self.appendCommand data) several
    intro peer
    exact (tabled.matchIndex_le peer).trans_lt (Nat.lt_of_not_le stored)

/-- A leader stays settled. -/
theorem Outcome.settled
    (outcome : Outcome self call result)
    (led : self.role = .leader)
    (leading : result.1.role = .leader)
    (several : 1 < self.membership.quorum)
    (tabled : self.Tabled)
    (settled : self.Settled) :
    result.1.Settled := by
  obtain ⟨sameConfig, sameMembership⟩ := outcome.config_eq
  intro index behind
  cases outcome.commitStep led leading with
  | kept after sameCommit sameStorage sameMatch =>
      rw [committable_congr sameStorage sameMatch sameConfig sameMembership]
      exact settled index (sameCommit ▸ behind)
  | appended data after sameCommit sameStorage sameMatch =>
      have before := appendCommand_settled several tabled settled data
      rw [committable_congr sameStorage sameMatch sameConfig sameMembership]
      exact before index (sameCommit ▸ behind)
  | counted aeInflight sender matched recorded after isRecorded sameCommit
      sameStorage sameMatch =>
      subst isRecorded
      rw [committable_congr sameStorage sameMatch sameConfig sameMembership]
      exact maybeCommit_settled _ (sameCommit ▸ behind)

/-- A new leader has nothing to commit. -/
theorem becomeLeader_settled
    (several : 1 < self.membership.quorum)
    (term now : Nat) :
    (self.becomeLeader term now).1.Settled := by
  intro index behind
  apply committable_of_unmatched (self.becomeLeader term now).1 several
  intro peer
  rw [matchIndex_becomeLeader]
  exact Nat.zero_lt_of_lt behind

end

/-! ## Runs -/

section

variable (config : RaftConfig) (storage : MemoryStorage) (start : Nat)

theorem lifetime_settled
    (several : 1 < (Membership.new config.voters).quorum)
    (calls : List Call) :
    ((lifetime config storage start).run calls).role = .leader →
      ((lifetime config storage start).run calls).Settled := by
  induction calls using List.reverseRecOn with
  | nil =>
      intro leading
      contradiction
  | append_singleton calls call inductionHypothesis =>
      have voters := (lifetime_config config storage start calls).2
      rw [← voters] at several
      intro leading
      rw [System.run_concat] at leading ⊢
      by_cases led : ((lifetime config storage start).run calls).role = .leader
      · exact (call_outcome _ call).settled led leading several
          (lifetime_tabled config storage start calls led)
          (inductionHypothesis led)
      · obtain ⟨sender, now, -, -, -, elected⟩ :=
          (call_outcome _ call).elected_of led leading
        change (RaftEngine.call _ call).1.Settled
        rw [elected]
        exact becomeLeader_settled several _ _

/-- Since its election a leader's commit index is the one it was elected with,
or a committable one. -/
theorem commitIndex_of_leadership
    {past calls : List Call}
    (isPast : past <+: calls)
    (leads : ∀ between, past <+: between → between <+: calls →
      ((lifetime config storage start).run between).role = .leader) :
    ((lifetime config storage start).run past).commitIndex ≤
        ((lifetime config storage start).run calls).commitIndex ∧
      (((lifetime config storage start).run calls).commitIndex =
          ((lifetime config storage start).run past).commitIndex ∨
        ((lifetime config storage start).run calls).committable
          ((lifetime config storage start).run calls).commitIndex = true) := by
  obtain ⟨rest, rfl⟩ := isPast
  induction rest using List.reverseRecOn with
  | nil =>
      rw [List.append_nil]
      exact ⟨le_rfl, .inl rfl⟩
  | append_singleton rest call inductionHypothesis =>
      rw [← List.append_assoc] at leads ⊢
      have led := leads (past ++ rest) (List.prefix_append _ _)
        (List.prefix_append _ _)
      have leading := leads (past ++ rest ++ [call])
        ((List.prefix_append _ _).trans (List.prefix_append _ _))
        (List.prefix_refl _)
      obtain ⟨grown, origin⟩ := inductionHypothesis fun between follows isEarlier =>
        leads between follows (isEarlier.trans (List.prefix_append _ _))
      have tabled := lifetime_tabled config storage start _ led
      rw [System.run_concat] at leading ⊢
      have outcome := call_outcome
        ((lifetime config storage start).run (past ++ rest)) call
      refine ⟨grown.trans outcome.commitIndex_le, ?_⟩
      rcases Nat.lt_or_eq_of_le outcome.commitIndex_le with raised | same
      · exact .inr (outcome.raised_committable led leading raised)
      · change (RaftEngine.call _ call).1.commitIndex = _ ∨
          (RaftEngine.call _ call).1.committable
            (RaftEngine.call _ call).1.commitIndex = true
        rw [← same]
        exact origin.imp id (outcome.committable_mono led leading tabled)

/-- The commit rule is applied exactly: a leader commits only what is
committable, leaves nothing committable behind, and so its commit index is the
greatest of the one it was elected with and the committable ones. -/
theorem commit_rule_exact
    (several : 2 ≤ config.voters.toFinset.card)
    (calls : List Call)
    (leading : ((lifetime config storage start).run calls).role = .leader) :
    (∀ call,
      ((lifetime config storage start).run (calls ++ [call])).role = .leader →
      ((lifetime config storage start).run calls).commitIndex <
        ((lifetime config storage start).run (calls ++ [call])).commitIndex →
      HeldOnQuorum config.voters.toFinset
        ((lifetime config storage start).run (calls ++ [call]))
        ((lifetime config storage start).run (calls ++ [call])).commitIndex) ∧
    (∀ index, ((lifetime config storage start).run calls).commitIndex < index →
      ¬ HeldOnQuorum config.voters.toFinset
        ((lifetime config storage start).run calls) index) ∧
    ∀ earlier election, earlier ++ [election] <+: calls →
      ((lifetime config storage start).run earlier).role ≠ .leader →
      (∀ between, earlier ++ [election] <+: between → between <+: calls →
        ((lifetime config storage start).run between).role = .leader) →
      IsGreatest
        (insert
          ((lifetime config storage start).run
            (earlier ++ [election])).commitIndex
          {index | HeldOnQuorum config.voters.toFinset
            ((lifetime config storage start).run calls) index})
        ((lifetime config storage start).run calls).commitIndex := by
  have quorum : 1 < (Membership.new config.voters).quorum := by
    have sameCard : (Membership.new config.voters).voters.length =
        config.voters.toFinset.card := (List.card_toFinset _).symm
    unfold Membership.quorum
    omega
  have counted : ∀ (calls : List Call) (index : Nat),
      ((lifetime config storage start).run calls).committable index = true ↔
        HeldOnQuorum config.voters.toFinset
          ((lifetime config storage start).run calls) index :=
    fun calls _ => committable_iff_heldOnQuorum
      (lifetime_config config storage start calls).2
  have settled := lifetime_settled config storage start quorum calls leading
  refine ⟨?_, ?_, ?_⟩
  · intro call stillLeading raised
    rw [← counted]
    rw [System.run_concat] at stillLeading raised ⊢
    exact (call_outcome _ call).raised_committable leading stillLeading raised
  · intro index behind
    rw [← counted, settled index behind]
    exact Bool.false_ne_true
  · intro earlier election isPast _ leads
    obtain ⟨grown, origin⟩ :=
      commitIndex_of_leadership config storage start isPast leads
    refine ⟨origin.imp id (counted _ _).mp, ?_⟩
    rintro index (rfl | committable)
    · exact grown
    · by_contra behind
      change HeldOnQuorum _ _ index at committable
      rw [← counted, settled index (Nat.lt_of_not_le behind)] at committable
      contradiction

end

/-- One of three voters wins an election and gets a command. -/
def firstCommand : List Call :=
  [.tick 150, .rpc 2 (.requestVoteResp 1 true) 160, .propose [7]]

/-- It commits the command with the first success. -/
theorem commit_rule_exact_first_command :
    HeldOnQuorum (RaftConfig.cfg 1 [1, 2, 3]).voters.toFinset
      ((lifetime (.cfg 1 [1, 2, 3]) MemoryStorage.new 0).run
        (firstCommand ++ [.rpc 2 (.appendEntriesResp 1 true 1) 170]))
      ((lifetime (.cfg 1 [1, 2, 3]) MemoryStorage.new 0).run
        (firstCommand ++
          [.rpc 2 (.appendEntriesResp 1 true 1) 170])).commitIndex :=
  (commit_rule_exact (.cfg 1 [1, 2, 3]) MemoryStorage.new 0 (by decide)
    firstCommand (by decide +kernel)).1 (.rpc 2 (.appendEntriesResp 1 true 1) 170)
    (by decide +kernel) (by decide +kernel)

end RaftEngine

end Libp2pRaft
