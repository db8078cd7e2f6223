import Libp2pRaft.Raft.AppendReference
import Libp2pRaft.Raft.Deadlines

/-!
# Acknowledged prefixes

The logs of the leader of one term grow, and every AppendEntries it builds is a
stretch of one of them.  Once a follower has acknowledged such a stretch, what it
holds of the leader's log stays: neither an older or shorter stretch, nor a
message of an earlier term, a vote or a restart takes anything of it away.
-/

namespace Libp2pRaft

open Consensus TransitionSystem

/-- What happens to a process: a call, or a restart over what it has stored. -/
inductive Incident
  | call (call : Call)
  | restart (config : RaftConfig) (now : Nat)

namespace RaftEngine

/-- The further life of an engine. -/
def aftermath (engine : MemoryEngine) : System MemoryEngine Incident where
  init := engine
  step := fun engine incident =>
    match incident with
    | .call call => (engine.call call).1
    | .restart config now => new config engine.storage now

/-- The message is an AppendEntries of the term, built from one of the logs of
its leader. -/
def BuiltFrom
    (term : Nat)
    (history : Nat → List LogEntry)
    (msg : RaftMessage) : Prop :=
  ∃ (leader : MemoryEngine) (time : Nat) (target : NodeId) (prev len : Nat),
    leader.currentTerm = term ∧ leader.storage.entries = history time ∧
      leader.buildAppendEntries target = some (msg, prev, len)

/-- Nothing of a later term happens, every AppendEntries of the term was built
by its leader, and no tick starts an election. -/
def WithinTerm
    (term : Nat)
    (history : Nat → List LogEntry)
    (engine : MemoryEngine) : Incident → Prop
  | .call (.tick now) => ¬ engine.Campaigns (.tick now)
  | .call (.rpc _ msg _) =>
      msg.term ≤ term ∧
        ∀ leaderId prevLogIndex prevLogTerm entries leaderCommit,
          msg = .appendEntries term leaderId prevLogIndex prevLogTerm entries
            leaderCommit →
          BuiltFrom term history msg
  | .call (.propose _) | .call (.rpcFailure ..) | .restart .. => True

/-- A follower of the term whose log matches every log of the leader, and holds
the first entries of one of them. -/
structure Retains
    (term : Nat)
    (history : Nat → List LogEntry)
    (time count : Nat)
    (engine : MemoryEngine) : Prop where
  following : engine.role = .follower
  sameTerm : engine.currentTerm = term
  matching : ∀ time, Matching engine.storage.entries (history time)
  held : engine.storage.entries.take count = (history time).take count

variable {self : MemoryEngine} {call : Call}
  {result : MemoryEngine × List Action}

/-- Every log of a growing one is comparable with every other. -/
theorem comparable_of_growing
    {history : Nat → List LogEntry}
    (grows : ∀ time, history time <+: history (time + 1))
    (first second : Nat) :
    Comparable (history first) (history second) := by
  have later : ∀ {first second}, first ≤ second →
      history first <+: history second := by
    intro first second order
    induction order with
    | refl => exact List.prefix_refl _
    | step _ inductionHypothesis => exact inductionHypothesis.trans (grows _)
  rcases Nat.le_total first second with order | order
  · exact .inl (later order)
  · exact .inr (later order)

/-- A follower that neither campaigns nor hears of a later term stays a follower
of its term, and only an AppendEntries of the term changes its log. -/
theorem Outcome.log_of_follower
    (outcome : Outcome self call result)
    (following : self.role = .follower)
    (waits : ¬ self.Campaigns call)
    (bounded : ∀ sender msg now, call = .rpc sender msg now →
      msg.term ≤ self.currentTerm)
    (unasked : ∀ sender leaderId prevLogIndex prevLogTerm entries leaderCommit
      now, call ≠ .rpc sender (.appendEntries self.currentTerm leaderId
        prevLogIndex prevLogTerm entries leaderCommit) now) :
    result.1.role = .follower ∧ result.1.currentTerm = self.currentTerm ∧
      result.1.storage.entries = self.storage.entries := by
  cases outcome with
  | ignored => exact ⟨following, rfl, rfl⟩
  | campaigned now waiting due => exact absurd ⟨waiting, due⟩ waits
  | heartbeat now leading => simp [following] at leading
  | proposed data leading => simp [following] at leading
  | failed => exact ⟨following, rfl, rfl⟩
  | voteStale => exact ⟨following, rfl, rfl⟩
  | voteRefused sender term candidateId lastLogIndex lastLogTerm now =>
      have entered : self.enterTerm term = (self, []) :=
        if_neg (Nat.not_lt.mpr (bounded _ _ _ rfl))
      rw [entered]
      exact ⟨following, rfl, rfl⟩
  | voteGranted sender term candidateId lastLogIndex lastLogTerm now recent =>
      have sameTerm : term = self.currentTerm :=
        Nat.le_antisymm (bounded _ _ _ rfl) recent
      have entered : self.enterTerm term = (self, []) :=
        if_neg (Nat.not_lt.mpr sameTerm.le)
      rw [entered]
      refine ⟨rfl, ?_, rfl⟩
      rw [← view_term, view_recordVote]
      exact Nat.max_eq_right sameTerm.le
  | deposed sender msg now term reply newer =>
      have older := bounded _ _ _ rfl
      rcases reply with ⟨granted, rfl⟩ | ⟨success, matchIndex, rfl⟩
      · exact absurd newer (Nat.not_lt.mpr older)
      · exact absurd newer (Nat.not_lt.mpr older)
  | counted sender now campaigning => simp [following] at campaigning
  | elected sender now campaigning => simp [following] at campaigning
  | appendStale => exact ⟨following, rfl, rfl⟩
  | appendRefused sender term leaderId prevLogIndex prevLogTerm entries
      leaderCommit now recent =>
      obtain rfl : term = self.currentTerm :=
        Nat.le_antisymm (bounded _ _ _ rfl) recent
      exact absurd rfl (unasked sender leaderId prevLogIndex prevLogTerm entries
        leaderCommit now)
  | appendAccepted sender term leaderId prevLogIndex prevLogTerm entries
      leaderCommit now recent =>
      obtain rfl : term = self.currentTerm :=
        Nat.le_antisymm (bounded _ _ _ rfl) recent
      exact absurd rfl (unasked sender leaderId prevLogIndex prevLogTerm entries
        leaderCommit now)
  | matched sender matchIndex now reqPrev reqLen leading =>
      simp [following] at leading
  | unmatched sender matchIndex now reqPrev reqLen leading =>
      simp [following] at leading

/-- A log that matches every log of a leader still does after an
AppendEntries of the leader. -/
theorem Answered.matching
    {history : Nat → List LogEntry}
    (grows : ∀ time, history time <+: history (time + 1))
    {follower leader : MemoryEngine}
    {sender : NodeId}
    {prev sent : Nat}
    (answered : Answered follower leader sender prev result)
    (isLog : leader.storage.entries = history sent)
    (matching : ∀ time, Matching follower.storage.entries (history time))
    (time : Nat) :
    Matching result.1.storage.entries (history time) := by
  cases answered with
  | refused positive sameLog =>
      rw [sameLog]
      exact matching time
  | accepted agree inside spliced =>
      rw [isLog] at agree inside spliced
      rw [spliced]
      rcases splice_cases (matching sent) inside agree with
        ⟨-, kept⟩ | ⟨-, replaced⟩
      · rw [kept]
        exact matching time
      · rw [replaced]
        exact (comparable_of_growing grows sent time).matching

/-- It also keeps what it holds of another log of the leader. -/
theorem Answered.held
    {history : Nat → List LogEntry}
    (grows : ∀ time, history time <+: history (time + 1))
    {follower leader : MemoryEngine}
    {sender : NodeId}
    {prev sent time count : Nat}
    (answered : Answered follower leader sender prev result)
    (isLog : leader.storage.entries = history sent)
    (reached : count ≤ (history time).length)
    (matching : ∀ time, Matching follower.storage.entries (history time))
    (held : follower.storage.entries.take count = (history time).take count) :
    result.1.storage.entries.take count = (history time).take count := by
  cases answered with
  | refused positive sameLog =>
      rw [sameLog]
      exact held
  | accepted agree inside spliced =>
      rw [isLog] at agree inside spliced
      rw [spliced]
      exact take_splice_of_comparable (matching sent)
        (comparable_of_growing grows sent time) inside agree reached held

variable {term : Nat} {history : Nat → List LogEntry} {time count : Nat}

/-- What a follower holds of its leader's log stays. -/
theorem Retains.step
    (grows : ∀ time, history time <+: history (time + 1))
    (reached : count ≤ (history time).length)
    {first engine : MemoryEngine}
    {incident : Incident}
    (retains : Retains term history time count engine)
    (within : WithinTerm term history engine incident) :
    Retains term history time count ((aftermath first).step engine incident) := by
  have kept : ∀ after : MemoryEngine, after.role = .follower →
      after.currentTerm = engine.currentTerm →
      after.storage.entries = engine.storage.entries →
      Retains term history time count after := by
    intro after following sameTerm sameLog
    refine ⟨following, sameTerm.trans retains.sameTerm, ?_, ?_⟩
    · rw [sameLog]
      exact retains.matching
    · rw [sameLog]
      exact retains.held
  cases incident with
  | restart config now => exact kept _ rfl rfl rfl
  | call call =>
      have waits : ¬ engine.Campaigns call := by
        cases call with
        | tick now => exact within
        | propose => exact id
        | rpc => exact id
        | rpcFailure => exact id
      have bounded : ∀ sender msg now, call = .rpc sender msg now →
          msg.term ≤ engine.currentTerm := by
        rintro sender msg now rfl
        rw [retains.sameTerm]
        exact within.1
      by_cases asked : ∃ sender leaderId prevLogIndex prevLogTerm entries
          leaderCommit now, call = .rpc sender (.appendEntries engine.currentTerm
            leaderId prevLogIndex prevLogTerm entries leaderCommit) now
      · obtain ⟨sender, leaderId, prevLogIndex, prevLogTerm, entries,
          leaderCommit, now, rfl⟩ := asked
        have isTerm := retains.sameTerm
        obtain ⟨leader, sent, target, prev, len, leads, isLog, built⟩ :=
          within.2 _ _ _ _ _ (by rw [isTerm])
        obtain ⟨following, sameTerm, answered⟩ := handleRpc_of_built built
          (isTerm.trans leads.symm).le sender now
        refine ⟨following, sameTerm.trans leads,
          answered.matching grows isLog retains.matching, ?_⟩
        exact answered.held grows isLog reached retains.matching retains.held
      · simp only [not_exists] at asked
        obtain ⟨following, sameTerm, sameLog⟩ :=
          (engine.call_outcome call).log_of_follower retains.following waits
            bounded asked
        exact kept _ following sameTerm sameLog

/-- An acknowledged prefix is stable for the term. -/
theorem acknowledged_prefix_stable
    (term : Nat)
    (history : Nat → List LogEntry)
    (grows : ∀ time, history time <+: history (time + 1))
    (follower : MemoryEngine)
    (matching : ∀ time, Matching follower.storage.entries (history time))
    (leader : MemoryEngine)
    (leads : leader.currentTerm = term)
    (time : Nat)
    (isLog : leader.storage.entries = history time)
    (target sender : NodeId)
    (msg : RaftMessage)
    (prev len now matched : Nat)
    (built : leader.buildAppendEntries target = some (msg, prev, len))
    (acknowledged : .send sender (.appendEntriesResp term true matched) ∈
      (follower.handleRpc sender msg now).2)
    (incidents : List Incident)
    (within : (aftermath (follower.handleRpc sender msg now).1).Along
      (WithinTerm term history) incidents) :
    matched ≤ leader.storage.entries.length ∧
      ((aftermath (follower.handleRpc sender msg now).1).run
          incidents).storage.entries.take matched =
        leader.storage.entries.take matched := by
  have recent : follower.currentTerm ≤ leader.currentTerm := by
    by_contra stale
    obtain ⟨prevTerm, -, -, -, rfl⟩ := leader.buildAppendEntries_some built
    simp [handleRpc, handleAppendEntries, Nat.lt_of_not_le stale] at acknowledged
  obtain ⟨following, sameTerm, answered⟩ :=
    handleRpc_of_built built recent sender now
  have replied : (sender, .appendEntriesResp term true matched) ∈
      outgoing [] (follower.handleRpc sender msg now).2 :=
    mem_outgoing.mpr (.inl acknowledged)
  have stillMatching := answered.matching grows isLog matching
  cases answered with
  | refused positive sameLog sameCommit reply =>
      rw [reply []] at replied
      simp at replied
  | accepted agree inside spliced reply =>
      rw [reply []] at replied
      obtain rfl : matched = leader.storage.entries.length := by
        simpa [leads] using replied
      refine ⟨le_rfl, ?_⟩
      have held : (follower.handleRpc sender msg
          now).1.storage.entries.take leader.storage.entries.length =
            (history time).take leader.storage.entries.length := by
        rw [isLog] at agree inside spliced ⊢
        have isPart := prefix_splice (matching time) inside agree
        rw [List.take_length, spliced, ← List.prefix_iff_eq_take.mp isPart]
      have retained := (aftermath (follower.handleRpc sender msg
        now).1).invariant_along
          (motive := Retains term history time leader.storage.entries.length)
          ⟨following, sameTerm.trans leads, stillMatching, held⟩
          (fun _ _ retains allowed =>
            retains.step grows (by rw [isLog]) allowed) within
      rw [retained.held, isLog]

/-- Three nodes, of which the first is elected in term 1 and gets a command. -/
def electedLeader : MemoryEngine :=
  (lifetime (.cfg 1 [1, 2, 3]) MemoryStorage.new 0).run
    [.tick 150, .rpc 2 (.requestVoteResp 1 true) 160]

/-- The only command of the leader. -/
def onlyCommand : LogEntry :=
  ⟨1, 1, .command [7]⟩

/-- A heartbeat from before the command, a restart and a vote take nothing
away. -/
theorem acknowledged_prefix_stable_heartbeat :
    ((aftermath ((new (.cfg 2 [1, 2, 3]) MemoryStorage.new 0).handleRpc 1
        (.appendEntries 1 1 0 0 [onlyCommand] 0) 200).1).run
      [.call (.rpc 1 (.appendEntries 1 1 0 0 [] 0) 210),
        .restart (.cfg 2 [1, 2, 3]) 220,
        .call (.rpc 3 (.requestVote 1 3 9 1) 230)]).storage.entries.take 1 =
      [onlyCommand] := by
  have grows : ∀ time, (if time = 0 then [] else [onlyCommand]) <+:
      if time + 1 = 0 then [] else [onlyCommand] := by
    intro time
    cases time with
    | zero => exact List.nil_prefix
    | succ time => exact List.prefix_refl _
  have within : (aftermath ((new (.cfg 2 [1, 2, 3]) MemoryStorage.new
      0).handleRpc 1 (.appendEntries 1 1 0 0 [onlyCommand] 0) 200).1).Along
        (WithinTerm 1 fun time => if time = 0 then [] else [onlyCommand])
        ((([] ++ [.call (.rpc 1 (.appendEntries 1 1 0 0 [] 0) 210)]) ++
          [.restart (.cfg 2 [1, 2, 3]) 220]) ++
          [.call (.rpc 3 (.requestVote 1 3 9 1) 230)]) := by
    simp only [System.along_concat]
    refine ⟨⟨⟨System.along_nil _, le_rfl, ?_⟩, trivial⟩, le_rfl, ?_⟩
    · intro _ _ _ _ _ _
      exact ⟨electedLeader, 0, 2, 0, 0, by decide +kernel, by decide +kernel,
        by decide +kernel⟩
    · intro _ _ _ _ _ isAppend
      contradiction
  have matching : ∀ time, Matching
      (new (.cfg 2 [1, 2, 3]) MemoryStorage.new 0).storage.entries
      (if time = 0 then [] else [onlyCommand]) := by
    intro time position stored sent isStored
    contradiction
  exact (acknowledged_prefix_stable 1 _ grows _ matching
    (electedLeader.call (.propose [7])).1 (by decide +kernel) 1
    (by decide +kernel) 2 1 _ 0 1 200 1 (by decide +kernel) (by decide +kernel)
    _ within).2

end RaftEngine

end Libp2pRaft
