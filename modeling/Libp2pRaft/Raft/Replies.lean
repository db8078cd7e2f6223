import Libp2pRaft.Raft.Emissions
import Libp2pRaft.Raft.View

/-!
# Requests and replies

Which messages an engine has for other nodes.  Handling a request of another
node emits exactly one reply to it, as the last action; everything else an
engine sends is a request of its own.
-/

namespace Libp2pRaft

/-- The messages an action has for other nodes. -/
def Action.messages (others : List NodeId) : Action → List (NodeId × RaftMessage)
  | .send target msg => [(target, msg)]
  | .broadcast msg => others.map fun voter => (voter, msg)
  | _ => []

/-- The messages a list of actions has for other nodes. -/
def outgoing
    (others : List NodeId)
    (actions : List Action) : List (NodeId × RaftMessage) :=
  actions.flatMap (Action.messages others)

theorem outgoing_append
    (others : List NodeId)
    (first second : List Action) :
    outgoing others (first ++ second) =
      outgoing others first ++ outgoing others second := by
  simp [outgoing]

theorem outgoing_eq_nil
    {others : List NodeId}
    {actions : List Action}
    (silent : ∀ action ∈ actions, action.messages others = []) :
    outgoing others actions = [] := by
  unfold outgoing
  rw [List.flatMap_eq_nil_iff]
  exact silent

theorem mem_outgoing
    {others : List NodeId}
    {actions : List Action}
    {target : NodeId}
    {msg : RaftMessage} :
    (target, msg) ∈ outgoing others actions ↔
      .send target msg ∈ actions ∨ (.broadcast msg ∈ actions ∧ target ∈ others) := by
  unfold outgoing
  rw [List.mem_flatMap]
  constructor
  · rintro ⟨action, inside, has⟩
    cases action with
    | send other sent =>
        obtain ⟨rfl, rfl⟩ := Prod.mk.inj (List.mem_singleton.mp has)
        exact .inl inside
    | broadcast sent =>
        obtain ⟨voter, isOther, same⟩ := List.mem_map.mp has
        obtain ⟨rfl, rfl⟩ := Prod.mk.inj same
        exact .inr ⟨inside, isOther⟩
    | apply => exact absurd has List.not_mem_nil
    | becomeLeader => exact absurd has List.not_mem_nil
    | becomeFollower => exact absurd has List.not_mem_nil
    | becomeCandidate => exact absurd has List.not_mem_nil
    | snapshotInstallComplete => exact absurd has List.not_mem_nil
  · rintro (sent | ⟨asked, isOther⟩)
    · exact ⟨_, sent, List.mem_singleton_self _⟩
    · exact ⟨_, asked, List.mem_map_of_mem isOther⟩

/-- A message that another node is to answer. -/
def RaftMessage.IsRequest : RaftMessage → Prop
  | .requestVote .. | .appendEntries .. => True
  | _ => False

/-- A reply fits the request it answers.  A success comes from a node of the
request's term, and reports the last index of the batch. -/
def RaftMessage.AnsweredBy : RaftMessage → RaftMessage → Prop
  | .requestVote .., .requestVoteResp .. => True
  | .appendEntries term _ prevLogIndex _ entries _,
      .appendEntriesResp replyTerm success matchIndex =>
      success = true →
        replyTerm = term ∧ matchIndex = prevLogIndex + entries.length
  | _, _ => False

/-- A reply is of the kind its request asks for, and of no earlier term. -/
def RaftMessage.RepliedBy : RaftMessage → RaftMessage → Prop
  | .requestVote term .., .requestVoteResp replyTerm _ => term ≤ replyTerm
  | .appendEntries term .., .appendEntriesResp replyTerm .. => term ≤ replyTerm
  | _, _ => False

instance (msg : RaftMessage) : Decidable msg.IsRequest := by
  unfold RaftMessage.IsRequest
  split
  · infer_instance
  · infer_instance
  · infer_instance

instance (request reply : RaftMessage) : Decidable (request.RepliedBy reply) := by
  unfold RaftMessage.RepliedBy
  split
  · infer_instance
  · infer_instance
  · infer_instance

/-- The term of a reply. -/
def RaftMessage.replyTerm : RaftMessage → Option Nat
  | .requestVoteResp term _ | .appendEntriesResp term .. => some term
  | _ => none

/-- An action that sends nothing. -/
def Action.Local : Action → Prop
  | .send .. | .broadcast _ => False
  | _ => True

/-- Term and reported index of a success. -/
def RaftMessage.success : RaftMessage → Option (Nat × Nat)
  | .appendEntriesResp term true matchIndex => some (term, matchIndex)
  | _ => none

open Consensus

theorem RaftMessage.AnsweredBy.not_isRequest
    {request reply : RaftMessage}
    (answered : request.AnsweredBy reply) :
    ¬ reply.IsRequest := by
  cases reply with
  | requestVote => cases request <;> exact absurd answered id
  | appendEntries => cases request <;> exact absurd answered id
  | requestVoteResp => exact id
  | appendEntriesResp => exact id
  | installSnapshot => exact id
  | installSnapshotResp => exact id

theorem RaftMessage.RepliedBy.not_isRequest
    {request reply : RaftMessage}
    (replied : request.RepliedBy reply) :
    ¬ reply.IsRequest := by
  cases reply with
  | requestVote => cases request <;> exact absurd replied id
  | appendEntries => cases request <;> exact absurd replied id
  | requestVoteResp => exact id
  | appendEntriesResp => exact id
  | installSnapshot => exact id
  | installSnapshotResp => exact id

namespace RaftEngine

variable (self : MemoryEngine)

theorem enterTerm_outgoing
    (others : List NodeId)
    (term : Nat) :
    outgoing others (self.enterTerm term).2 = [] ∧
      ∀ msg, .broadcast msg ∉ (self.enterTerm term).2 := by
  constructor
  · apply outgoing_eq_nil
    intro action emitted
    rw [enterTerm_actions emitted]
    rfl
  · intro msg emitted
    exact Action.noConfusion (enterTerm_actions emitted)

theorem follow_outgoing
    (others : List NodeId)
    (term : Nat)
    (leaderId : NodeId)
    (now : Nat) :
    outgoing others (self.follow term leaderId now).2 = [] ∧
      ∀ msg, .broadcast msg ∉ (self.follow term leaderId now).2 := by
  constructor
  · apply outgoing_eq_nil
    intro action emitted
    rw [follow_actions emitted]
    rfl
  · intro msg emitted
    exact Action.noConfusion (follow_actions emitted)

theorem advanceCommitAndApply_outgoing
    (others : List NodeId)
    (leaderCommit lastNew : Nat) :
    outgoing others (self.advanceCommitAndApply leaderCommit lastNew).2 = [] ∧
      ∀ msg,
        .broadcast msg ∉ (self.advanceCommitAndApply leaderCommit lastNew).2 := by
  constructor
  · apply outgoing_eq_nil
    intro action emitted
    obtain ⟨entries, rfl, -⟩ := advanceCommitAndApply_actions emitted
    rfl
  · intro msg emitted
    obtain ⟨entries, same, -⟩ := advanceCommitAndApply_actions emitted
    exact Action.noConfusion same

/-- The term of a request is entered. -/
theorem currentTerm_follow
    {term : Nat}
    (recent : self.currentTerm ≤ term)
    (leaderId : NodeId)
    (now : Nat) :
    (self.follow term leaderId now).1.currentTerm = term := by
  rw [← view_term, view_follow]
  split_ifs with newer
  · rfl
  · exact Nat.le_antisymm recent (Nat.not_lt.mp newer)

/-- Storing a batch keeps term and vote, whatever the batch. -/
theorem hardState_storeEntries
    (prevLogIndex : Nat)
    (entries : List LogEntry) :
    (self.storeEntries prevLogIndex entries).storage.hardState =
      self.storage.hardState := by
  have kept := self.hardState_cutConflict prevLogIndex entries
  simp only [MemoryStorage.storage_hardState] at kept
  rw [storeEntries_eq, ← kept]
  simp only
  split_ifs
  · rfl
  · rfl

theorem currentTerm_storeEntries
    (prevLogIndex : Nat)
    (entries : List LogEntry) :
    (self.storeEntries prevLogIndex entries).currentTerm = self.currentTerm :=
  congrArg HardState.currentTerm
    (self.hardState_storeEntries prevLogIndex entries)

theorem request_emits
    (sender : NodeId)
    {msg : RaftMessage}
    (isRequest : msg.IsRequest)
    (now : Nat) :
    (self.call (.rpc sender msg now)).2 ≠ [] := by
  cases msg with
  | requestVote =>
      simp only [call, handleRpc, handleRequestVote]
      split_ifs <;> simp
  | appendEntries =>
      simp only [call, handleRpc, handleAppendEntries]
      split
      · simp
      · rw [apply_ite Prod.snd]
        intro silent
        rcases ite_eq_iff.mp silent with ⟨-, silent⟩ | ⟨-, silent⟩
        · simp at silent
        · simp at silent
  | requestVoteResp => contradiction
  | appendEntriesResp => contradiction
  | installSnapshot => contradiction
  | installSnapshotResp => contradiction

/-- A request is answered once, by the last action, and nothing else is sent. -/
theorem request_reply
    (others : List NodeId)
    (sender : NodeId)
    {msg : RaftMessage}
    (isRequest : msg.IsRequest)
    (now : Nat) :
    ∃ actions reply,
      (self.call (.rpc sender msg now)).2 = actions ++ [.send sender reply] ∧
      msg.AnsweredBy reply ∧ outgoing others actions = [] ∧
      ∀ msg, .broadcast msg ∉ actions := by
  have emits := self.request_emits sender isRequest now
  have outcome := self.call_outcome (.rpc sender msg now)
  generalize self.call (.rpc sender msg now) = result at emits outcome ⊢
  cases outcome with
  | ignored => exact absurd rfl emits
  | voteStale => exact ⟨[], _, rfl, trivial, rfl, fun _ => List.not_mem_nil⟩
  | voteRefused _ term =>
      exact ⟨_, _, rfl, trivial, self.enterTerm_outgoing others term⟩
  | voteGranted _ term =>
      exact ⟨_, _, rfl, trivial, self.enterTerm_outgoing others term⟩
  | appendStale =>
      exact ⟨[], _, rfl, Bool.noConfusion, rfl, fun _ => List.not_mem_nil⟩
  | appendRefused _ term leaderId =>
      exact ⟨_, _, rfl, Bool.noConfusion,
        self.follow_outgoing others term leaderId now⟩
  | appendAccepted _ term leaderId prevLogIndex prevLogTerm entries leaderCommit
      _ recent agreed stored storedEq =>
      have followed := self.follow_outgoing others term leaderId now
      have advanced := stored.advanceCommitAndApply_outgoing others leaderCommit
        (prevLogIndex + entries.length)
      have sameTerm := congrArg View.term (stored.view_advanceCommitAndApply
        leaderCommit (prevLogIndex + entries.length))
      simp only [view_term] at sameTerm
      refine ⟨_, _, rfl, ?_, ?_, ?_⟩
      · intro _
        rw [sameTerm, storedEq, currentTerm_storeEntries]
        exact ⟨self.currentTerm_follow recent leaderId now, rfl⟩
      · rw [outgoing_append, followed.1, advanced.1]
        rfl
      · intro msg inside
        rcases List.mem_append.mp inside with early | late
        · exact followed.2 msg early
        · exact advanced.2 msg late
  | deposed _ _ _ _ reply =>
      rcases reply with ⟨_, rfl⟩ | ⟨_, _, rfl⟩
      · contradiction
      · contradiction
  | counted => contradiction
  | elected => contradiction
  | matched => contradiction
  | unmatched => contradiction

theorem enterTerm_local (term : Nat) :
    ∀ action ∈ (self.enterTerm term).2, action.Local := by
  intro action emitted
  rw [enterTerm_actions emitted]
  trivial

theorem follow_local
    (term : Nat)
    (leaderId : NodeId)
    (now : Nat) :
    ∀ action ∈ (self.follow term leaderId now).2, action.Local := by
  intro action emitted
  rw [follow_actions emitted]
  trivial

theorem advanceCommitAndApply_local (leaderCommit lastNew : Nat) :
    ∀ action ∈ (self.advanceCommitAndApply leaderCommit lastNew).2,
      action.Local := by
  intro action emitted
  obtain ⟨entries, rfl, -⟩ := advanceCommitAndApply_actions emitted
  trivial

theorem le_currentTerm_enterTerm (term : Nat) :
    term ≤ (self.enterTerm term).1.currentTerm := by
  rw [← view_term, view_enterTerm]
  split_ifs with newer
  · exact le_rfl
  · exact Nat.not_lt.mp newer

/-- A request is answered once, by the last action, with the term the engine is
left in, and no other action sends anything. -/
theorem request_answered
    (sender : NodeId)
    {msg : RaftMessage}
    (isRequest : msg.IsRequest)
    (now : Nat) :
    ∃ actions reply,
      (self.call (.rpc sender msg now)).2 = actions ++ [.send sender reply] ∧
      (∀ action ∈ actions, action.Local) ∧
      msg.RepliedBy reply ∧
      reply.replyTerm =
        some (self.call (.rpc sender msg now)).1.currentTerm := by
  have emits := self.request_emits sender isRequest now
  have outcome := self.call_outcome (.rpc sender msg now)
  generalize self.call (.rpc sender msg now) = result at emits outcome ⊢
  cases outcome with
  | ignored => exact absurd rfl emits
  | voteStale _ _ _ _ _ _ stale =>
      exact ⟨[], _, rfl, fun _ inside => absurd inside List.not_mem_nil,
        stale.le, rfl⟩
  | voteRefused _ term =>
      exact ⟨_, _, rfl, self.enterTerm_local term,
        self.le_currentTerm_enterTerm term, rfl⟩
  | voteGranted _ term =>
      exact ⟨_, _, rfl, self.enterTerm_local term, Nat.le_max_left _ _, rfl⟩
  | appendStale _ _ _ _ _ _ _ _ stale =>
      exact ⟨[], _, rfl, fun _ inside => absurd inside List.not_mem_nil,
        stale.le, rfl⟩
  | appendRefused _ term leaderId _ _ _ _ _ recent =>
      exact ⟨_, _, rfl, self.follow_local term leaderId now,
        (self.currentTerm_follow recent leaderId now).ge, rfl⟩
  | appendAccepted _ term leaderId prevLogIndex prevLogTerm entries leaderCommit
      _ recent agreed stored storedEq =>
      have sameTerm := congrArg View.term (stored.view_advanceCommitAndApply
        leaderCommit (prevLogIndex + entries.length))
      simp only [view_term] at sameTerm
      refine ⟨_, _, rfl, ?_, ?_, rfl⟩
      · intro action inside
        rcases List.mem_append.mp inside with early | late
        · exact self.follow_local term leaderId now action early
        · exact stored.advanceCommitAndApply_local _ _ action late
      · show term ≤ RaftEngine.currentTerm _
        rw [sameTerm, storedEq, currentTerm_storeEntries,
          self.currentTerm_follow recent leaderId now]
  | deposed _ _ _ _ reply =>
      rcases reply with ⟨_, rfl⟩ | ⟨_, _, rfl⟩
      · contradiction
      · contradiction
  | counted => contradiction
  | elected => contradiction
  | matched => contradiction
  | unmatched => contradiction

/-- What an engine sends without being asked is a request of its own.  An
AppendEntries carries the term the engine is left in. -/
theorem Outcome.requests
    {self : MemoryEngine}
    {call : Call}
    {result : MemoryEngine × List Action}
    (outcome : Outcome self call result)
    (unasked : ∀ sender msg now, call = .rpc sender msg now → ¬ msg.IsRequest)
    {others : List NodeId}
    {target : NodeId}
    {msg : RaftMessage}
    (sent : (target, msg) ∈ outgoing others result.2) :
    (∃ term candidateId lastLogIndex lastLogTerm,
        msg = .requestVote term candidateId lastLogIndex lastLogTerm) ∨
      ∃ leaderId prevLogIndex prevLogTerm entries leaderCommit,
        msg = .appendEntries result.1.currentTerm leaderId prevLogIndex
          prevLogTerm entries leaderCommit := by
  rcases mem_outgoing.mp sent with direct | ⟨asked, -⟩
  · cases outcome.emits direct with
    | appendRequest _ _ prev len leading built =>
        obtain ⟨prevTerm, -, -, -, rfl⟩ := buildAppendEntries_some _ built
        exact .inr ⟨_, _, _, _, _, rfl⟩
    | voteReply _ _ _ _ _ _ _ isCall => exact absurd trivial (unasked _ _ _ isCall)
    | appendReply _ _ _ _ _ _ _ _ _ _ isCall =>
        exact absurd trivial (unasked _ _ _ isCall)
  · cases outcome.emits asked with
    | voteRequest => exact .inl ⟨_, _, _, _, rfl⟩

theorem Outcome.isRequest
    {self : MemoryEngine}
    {call : Call}
    {result : MemoryEngine × List Action}
    (outcome : Outcome self call result)
    (unasked : ∀ sender msg now, call = .rpc sender msg now → ¬ msg.IsRequest)
    {others : List NodeId}
    {target : NodeId}
    {msg : RaftMessage}
    (sent : (target, msg) ∈ outgoing others result.2) :
    msg.IsRequest := by
  rcases outcome.requests unasked sent with
    ⟨_, _, _, _, rfl⟩ | ⟨_, _, _, _, _, rfl⟩
  · trivial
  · trivial

end RaftEngine

end Libp2pRaft
