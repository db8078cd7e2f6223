import Libp2pRaft.Raft.Effects

/-!
# What the engine emits

Every action a call asks for describes the engine as the call leaves it, or the
request the call answers.
-/

namespace Libp2pRaft

open Consensus

namespace RaftEngine

variable {S : Type} [Storage S] [LawfulStorage S]

open LawfulStorage (log)

/-- What an action of a call says about the engine before and after. -/
inductive Emits (before after : RaftEngine S) (call : Call) : Action → Prop
  | follower (term : Nat) (leader : Option NodeId) :
      Emits before after call (.becomeFollower term leader)
  | candidate (now : Nat)
      (asked : call = .tick now)
      (waiting : before.role ≠ .leader)
      (due : before.electionDeadline ≤ now)
      (campaigned : after = (before.startElection now).1) :
      Emits before after call
        (.becomeCandidate (wrappingSucc before.currentTerm))
  | voteRequest (now : Nat)
      (asked : call = .tick now)
      (waiting : before.role ≠ .leader)
      (due : before.electionDeadline ≤ now)
      (campaigned : after = (before.startElection now).1) :
      Emits before after call
        (.broadcast
          (.requestVote (wrappingSucc before.currentTerm) before.config.nodeId
            (log after.storage).length (lastTerm (log after.storage))))
  | leader
      (campaigning : before.role = .candidate)
      (won : after.role = .leader)
      (sameStorage : after.storage = before.storage) :
      Emits before after call (.becomeLeader before.currentTerm)
  | apply (entries : List LogEntry)
      (applied : ∀ entry ∈ entries, ∃ position,
        (log after.storage)[position]? = some entry ∧
          before.lastApplied ≤ position ∧ position < after.commitIndex) :
      Emits before after call (.apply entries)
  | appendRequest (target : NodeId) (msg : RaftMessage) (prev len : Nat)
      (leading : after.role = .leader)
      (built : after.buildAppendEntries target = some (msg, prev, len)) :
      Emits before after call (.send target msg)
  | voteReply (sender : NodeId) (term : Nat) (candidateId : NodeId)
      (lastLogIndex lastLogTerm now : Nat) (granted : Bool)
      (asked : call = .rpc sender
        (.requestVote term candidateId lastLogIndex lastLogTerm) now)
      (recorded : granted = true →
        before.currentTerm ≤ term ∧
          before.Grants term candidateId lastLogIndex lastLogTerm ∧
          after = (before.enterTerm term).1.recordVote term candidateId now) :
      Emits before after call
        (.send sender (.requestVoteResp after.currentTerm granted))
  | appendReply (sender : NodeId) (term : Nat) (leaderId : NodeId)
      (prevLogIndex prevLogTerm : Nat) (entries : List LogEntry)
      (leaderCommit now : Nat) (success : Bool) (matchIndex : Nat)
      (asked : call = .rpc sender
        (.appendEntries term leaderId prevLogIndex prevLogTerm entries
          leaderCommit) now)
      (accepted : success = true →
        before.currentTerm ≤ term ∧
          (before.follow term leaderId now).1.prevOk prevLogIndex
            prevLogTerm = true ∧
          matchIndex = prevLogIndex + entries.length ∧
          after.storage = ((before.follow term leaderId now).1.storeEntries
            prevLogIndex entries).storage) :
      Emits before after call
        (.send sender
          (.appendEntriesResp after.currentTerm success matchIndex))

variable {self : RaftEngine S}

omit [LawfulStorage S] in
theorem enterTerm_actions
    {term : Nat}
    {action : Action}
    (emitted : action ∈ (self.enterTerm term).2) :
    action = .becomeFollower term none := by
  unfold enterTerm at emitted
  split_ifs at emitted
  · exact List.mem_singleton.mp emitted
  · contradiction

omit [LawfulStorage S] in
theorem follow_actions
    {term : Nat}
    {leaderId : NodeId}
    {now : Nat}
    {action : Action}
    (emitted : action ∈ (self.follow term leaderId now).2) :
    action = .becomeFollower term (some leaderId) := by
  unfold follow at emitted
  split_ifs at emitted
  · exact List.mem_singleton.mp emitted
  · exact List.mem_singleton.mp emitted
  · contradiction

/-- Applied entries lie between what was applied before and the new commit
index. -/
theorem advanceCommitAndApply_actions
    {leaderCommit lastNew : Nat}
    {action : Action}
    (emitted : action ∈ (self.advanceCommitAndApply leaderCommit lastNew).2) :
    ∃ entries, action = .apply entries ∧ ∀ entry ∈ entries, ∃ position,
      (log self.storage)[position]? = some entry ∧
        self.lastApplied ≤ position ∧
        position <
          (self.advanceCommitAndApply leaderCommit lastNew).1.commitIndex := by
  rw [advanceCommitAndApply_eq] at emitted ⊢
  simp only at emitted ⊢
  split_ifs at emitted with none
  · contradiction
  · refine ⟨_, List.mem_singleton.mp emitted, fun entry inside => ?_⟩
    obtain ⟨offset, atOffset⟩ := List.getElem?_of_mem inside
    rw [List.getElem?_take, List.getElem?_drop] at atOffset
    split_ifs at atOffset with short
    exact ⟨_, atOffset, Nat.le_add_right _ _, by omega⟩

theorem maybeCommit_actions
    {action : Action}
    (emitted : action ∈ self.maybeCommit.2) :
    ∃ entries, action = .apply entries ∧ ∀ entry ∈ entries, ∃ position,
      (log self.storage)[position]? = some entry ∧
        self.lastApplied ≤ position ∧
        position < self.maybeCommit.1.commitIndex := by
  rcases self.maybeCommit_cases with idle | ⟨index, entry, -, -, -, -, -, moved⟩
  · rw [idle] at emitted
    contradiction
  · rw [moved] at emitted ⊢
    exact advanceCommitAndApply_actions emitted

omit [LawfulStorage S] in
/-- Sending to all peers emits requests that fit the state afterwards. -/
theorem replicateActions_actions
    {action : Action}
    (emitted : action ∈ self.replicateActions.2) :
    ∃ target msg prev len, action = .send target msg ∧
      self.replicateActions.1.buildAppendEntries target =
        some (msg, prev, len) := by
  obtain ⟨target, -, msg, prev, len, built, rfl⟩ :=
    self.sendAppendEntriesToAll_built emitted
  obtain ⟨_, _, frame⟩ := self.replicateActions_frame
  refine ⟨target, msg, prev, len, rfl, ?_⟩
  rw [frame]
  exact built

omit [LawfulStorage S] in
theorem sendAppendEntriesTo_actions
    {peer : NodeId}
    {action : Action}
    (emitted : action ∈ (self.sendAppendEntriesTo peer).2.toList) :
    ∃ msg prev len, action = .send peer msg ∧
      (self.sendAppendEntriesTo peer).1.buildAppendEntries peer =
        some (msg, prev, len) := by
  obtain ⟨msg, prev, len, built, rfl⟩ := self.sendAppendEntriesTo_built emitted
  obtain ⟨_, _, frame⟩ := self.sendAppendEntriesTo_frame peer
  refine ⟨msg, prev, len, rfl, ?_⟩
  rw [frame]
  exact built

/-- A campaign announces itself and asks every voter. -/
theorem startElection_actions
    {now : Nat}
    {action : Action}
    (emitted : action ∈ (self.startElection now).2) :
    action = .becomeCandidate (wrappingSucc self.currentTerm) ∨
      action = .broadcast
        (.requestVote (wrappingSucc self.currentTerm) self.config.nodeId
          (log (self.startElection now).1.storage).length
          (lastTerm (log (self.startElection now).1.storage))) := by
  have shape : (self.startElection now).2 =
      [.becomeCandidate (wrappingSucc self.currentTerm),
        .broadcast (.requestVote (wrappingSucc self.currentTerm)
          self.config.nodeId
          (Storage.lastIndexTerm (self.startElection now).1.storage).1
          (Storage.lastIndexTerm (self.startElection now).1.storage).2)] :=
    rfl
  simpa only [shape, LawfulStorage.lastIndexTerm_eq, List.mem_cons,
    List.not_mem_nil, or_false] using emitted

/-- A success applies what it commits and sends the next batch. -/
theorem handleAppendSuccess_actions
    {sender : NodeId}
    {reqPrev reqLen : Nat}
    {action : Action}
    (emitted : action ∈ (self.handleAppendSuccess sender reqPrev reqLen).2) :
    (∃ entries, action = .apply entries ∧ ∀ entry ∈ entries, ∃ position,
      (log (self.handleAppendSuccess sender reqPrev
          reqLen).1.storage)[position]? = some entry ∧
        self.lastApplied ≤ position ∧
        position <
          (self.handleAppendSuccess sender reqPrev reqLen).1.commitIndex) ∨
      ∃ msg prev len, action = .send sender msg ∧
        (self.handleAppendSuccess sender reqPrev
          reqLen).1.buildAppendEntries sender = some (msg, prev, len) := by
  have handled := self.handleAppendSuccess_cases sender reqPrev reqLen
  obtain ⟨_, _, committed⟩ :=
    (self.recordMatch sender (reqPrev + reqLen)).maybeCommit_frame
  rcases handled with done | sent
  · rw [done] at emitted ⊢
    obtain ⟨entries, rfl, fits⟩ := maybeCommit_actions emitted
    refine .inl ⟨entries, rfl, ?_⟩
    rw [committed] at fits ⊢
    exact fits
  · rw [sent] at emitted ⊢
    rcases List.mem_append.mp emitted with applying | sending
    · obtain ⟨_, _, frame⟩ := (self.recordMatch sender
        (reqPrev + reqLen)).maybeCommit.1.sendAppendEntriesTo_frame sender
      obtain ⟨entries, rfl, fits⟩ := maybeCommit_actions applying
      refine .inl ⟨entries, rfl, ?_⟩
      rw [frame]
      rw [committed] at fits ⊢
      exact fits
    · exact .inr (sendAppendEntriesTo_actions sending)

omit [LawfulStorage S] in
/-- A reject sends the request again from further back. -/
theorem handleAppendReject_actions
    {sender : NodeId}
    {reqPrev : Nat}
    {action : Action}
    (emitted : action ∈ (self.handleAppendReject sender reqPrev).2) :
    ∃ msg prev len, action = .send sender msg ∧
      (self.handleAppendReject sender reqPrev).1.buildAppendEntries sender =
        some (msg, prev, len) := by
  rcases self.handleAppendReject_cases sender reqPrev with
    ignored | ⟨next, sent⟩
  · rw [ignored] at emitted
    contradiction
  · rw [sent] at emitted ⊢
    exact sendAppendEntriesTo_actions emitted

/-- Everything an accepted AppendEntries emits. -/
theorem Emits.accepted
    {sender : NodeId}
    {term : Nat}
    {leaderId : NodeId}
    {prevLogIndex prevLogTerm : Nat}
    {entries : List LogEntry}
    {leaderCommit now : Nat}
    (recent : self.currentTerm ≤ term)
    (agreed :
      (self.follow term leaderId now).1.prevOk prevLogIndex prevLogTerm = true)
    {stored : RaftEngine S}
    (storedEq : stored =
      (self.follow term leaderId now).1.storeEntries prevLogIndex entries)
    {action : Action}
    (emitted : action ∈ (self.follow term leaderId now).2 ++
      (stored.advanceCommitAndApply leaderCommit
        (prevLogIndex + entries.length)).2 ++
      [.send sender
        (.appendEntriesResp
          (stored.advanceCommitAndApply leaderCommit
            (prevLogIndex + entries.length)).1.currentTerm true
          (prevLogIndex + entries.length))]) :
    Emits self
      (stored.advanceCommitAndApply leaderCommit
        (prevLogIndex + entries.length)).1
      (.rpc sender
        (.appendEntries term leaderId prevLogIndex prevLogTerm entries
          leaderCommit) now) action := by
  have sameStorage : (stored.advanceCommitAndApply leaderCommit
      (prevLogIndex + entries.length)).1.storage = stored.storage := by
    rw [advanceCommitAndApply_eq]
  have sameApplied : stored.lastApplied = self.lastApplied := by
    rw [storedEq, storeEntries_eq]
    exact (self.follow_progress term leaderId now).lastApplied
  rcases List.mem_append.mp emitted with earlier | replying
  · rcases List.mem_append.mp earlier with following | applying
    · rw [follow_actions following]
      exact .follower _ _
    · obtain ⟨applied, rfl, fits⟩ := advanceCommitAndApply_actions applying
      refine .apply applied ?_
      rw [sameStorage, ← sameApplied]
      exact fits
  · rw [List.mem_singleton.mp replying]
    refine .appendReply _ _ _ _ _ _ _ _ _ _ rfl fun _ =>
      ⟨recent, agreed, rfl, ?_⟩
    rw [sameStorage, storedEq]

/-- Everything a call emits is accounted for. -/
theorem Outcome.emits
    {call : Call}
    {result : RaftEngine S × List Action}
    (outcome : Outcome self call result)
    {action : Action}
    (emitted : action ∈ result.2) :
    Emits self result.1 call action := by
  cases outcome with
  | ignored => contradiction
  | failed => contradiction
  | counted => contradiction
  | campaigned now waiting due =>
      rcases startElection_actions emitted with rfl | rfl
      · exact .candidate now rfl waiting due rfl
      · exact .voteRequest now rfl waiting due rfl
  | heartbeat now leading =>
      obtain ⟨target, msg, prev, len, rfl, built⟩ :=
        replicateActions_actions emitted
      obtain ⟨_, _, frame⟩ := self.replicateActions_frame
      refine .appendRequest target msg prev len ?_ built
      show self.replicateActions.1.role = .leader
      rw [frame]
      exact leading
  | proposed data leading =>
      obtain ⟨target, msg, prev, len, rfl, built⟩ :=
        replicateActions_actions emitted
      obtain ⟨_, _, frame⟩ := (self.appendCommand data).replicateActions_frame
      refine .appendRequest target msg prev len ?_ built
      rw [frame]
      exact leading
  | voteStale sender term candidateId lastLogIndex lastLogTerm now stale =>
      rw [List.mem_singleton.mp emitted]
      exact .voteReply _ _ _ _ _ _ _ rfl (by simp)
  | voteRefused sender term candidateId lastLogIndex lastLogTerm now recent =>
      rcases List.mem_append.mp emitted with entering | replying
      · rw [enterTerm_actions entering]
        exact .follower _ _
      · rw [List.mem_singleton.mp replying]
        exact .voteReply _ _ _ _ _ _ _ rfl (by simp)
  | voteGranted sender term candidateId lastLogIndex lastLogTerm now recent
      grants =>
      rcases List.mem_append.mp emitted with entering | replying
      · rw [enterTerm_actions entering]
        exact .follower _ _
      · rw [List.mem_singleton.mp replying]
        exact .voteReply _ _ _ _ _ _ _ rfl fun _ => ⟨recent, grants, rfl⟩
  | deposed =>
      rw [List.mem_singleton.mp emitted]
      exact .follower _ _
  | elected sender now campaigning enough =>
      rw [List.mem_singleton.mp emitted]
      exact .leader campaigning rfl rfl
  | appendStale =>
      rw [List.mem_singleton.mp emitted]
      exact .appendReply _ _ _ _ _ _ _ _ _ _ rfl (by simp)
  | appendRefused =>
      rcases List.mem_append.mp emitted with following | replying
      · rw [follow_actions following]
        exact .follower _ _
      · rw [List.mem_singleton.mp replying]
        exact .appendReply _ _ _ _ _ _ _ _ _ _ rfl (by simp)
  | appendAccepted sender term leaderId prevLogIndex prevLogTerm entries
      leaderCommit now recent agreed stored storedEq =>
      exact .accepted recent agreed storedEq emitted
  | matched sender matchIndex now reqPrev reqLen leading recorded =>
      obtain ⟨_, _, _, _, _, _, frame⟩ := handleAppendSuccess_frame
        { self with aeInflight := self.aeInflight.erase sender } sender
        reqPrev reqLen
      rcases handleAppendSuccess_actions emitted with
        ⟨entries, rfl, fits⟩ | ⟨msg, prev, len, rfl, built⟩
      · exact .apply entries fits
      · exact .appendRequest sender msg prev len (by rw [frame]; exact leading)
          built
  | unmatched sender matchIndex now reqPrev reqLen leading recorded =>
      obtain ⟨_, _, _, frame⟩ := handleAppendReject_frame
        { self with aeInflight := self.aeInflight.erase sender } sender reqPrev
      obtain ⟨msg, prev, len, rfl, built⟩ := handleAppendReject_actions emitted
      exact .appendRequest sender msg prev len (by rw [frame]; exact leading)
        built

end RaftEngine

end Libp2pRaft
