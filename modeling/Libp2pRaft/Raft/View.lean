import Libp2pRaft.Library.History
import Libp2pRaft.Raft.Effects
import Libp2pRaft.Storage.Memory

/-!
# What an engine shows

Over the in-memory storage an engine shows a term, a vote, a standing and a
log.  Every operation is described by what it makes of that view.
-/

namespace Libp2pRaft

open Consensus

/-- Standing of a role in the abstract protocol. -/
def Role.standing : Role → Standing
  | .follower => .follower
  | .candidate => .candidate
  | .leader => .leader

@[simp] theorem Role.standing_eq_leader {role : Role} :
    role.standing = .leader ↔ role = .leader := by
  cases role <;> simp [standing]

@[simp] theorem Role.standing_eq_candidate {role : Role} :
    role.standing = .candidate ↔ role = .candidate := by
  cases role <;> simp [standing]

@[simp] theorem Role.standing_eq_follower {role : Role} :
    role.standing = .follower ↔ role = .follower := by
  cases role <;> simp [standing]

/-- An engine over the in-memory storage. -/
abbrev MemoryEngine := RaftEngine MemoryStorage

namespace RaftEngine

variable (self : MemoryEngine)

/-- The view of the abstract protocol an engine shows. -/
def view : View NodeId LogEntry where
  term := self.currentTerm
  vote := self.storage.hardState.votedFor
  standing := self.role.standing
  log := self.storage.entries

@[simp] theorem view_term : self.view.term = self.currentTerm := rfl

@[simp] theorem view_vote :
    self.view.vote = self.storage.hardState.votedFor := rfl

@[simp] theorem view_standing : self.view.standing = self.role.standing := rfl

@[simp] theorem view_log : self.view.log = self.storage.entries := rfl

theorem view_becomeFollower
    (term : Nat)
    (leader : Option NodeId) :
    (self.becomeFollower term leader).1.view =
      if self.currentTerm < term then
        { self.view with term := term, vote := none, standing := .follower }
      else
        { self.view with standing := .follower } := by
  unfold becomeFollower
  split_ifs with newer
  · rfl
  · rfl

theorem view_enterTerm (term : Nat) :
    (self.enterTerm term).1.view =
      if self.currentTerm < term then
        { self.view with term := term, vote := none, standing := .follower }
      else
        self.view := by
  unfold enterTerm
  split_ifs with newer
  · rw [view_becomeFollower, if_pos newer]
  · rfl

theorem view_follow
    (term : Nat)
    (leaderId : NodeId)
    (now : Nat) :
    (self.follow term leaderId now).1.view =
      if self.currentTerm < term then
        { self.view with term := term, vote := none, standing := .follower }
      else
        { self.view with standing := .follower } := by
  unfold follow
  by_cases newer : term > self.currentTerm
  · simp only [newer, if_true]
    show (self.becomeFollower term (some leaderId)).1.view = _
    rw [view_becomeFollower, if_pos newer]
  · simp only [newer, if_false]
    split_ifs with active
    · show (self.becomeFollower term (some leaderId)).1.view = _
      rw [view_becomeFollower, if_neg newer]
    · simp only [ne_eq, not_not] at active
      show self.view = _
      simp [view, active, Role.standing]

theorem view_recordVote
    (term : Nat)
    (candidateId : NodeId)
    (now : Nat) :
    (self.recordVote term candidateId now).view =
      { self.view with
        term := max term self.currentTerm
        vote := some candidateId
        standing := .follower } := rfl

theorem view_startElection (now : Nat) :
    (self.startElection now).1.view =
      { self.view with
        term := wrappingSucc self.currentTerm
        vote := some self.config.nodeId
        standing := .candidate } := rfl

theorem view_becomeLeader (term now : Nat) :
    (self.becomeLeader term now).1.view =
      { self.view with standing := .leader } := rfl

theorem view_sendAppendEntriesTo (target : NodeId) :
    (self.sendAppendEntriesTo target).1.view = self.view := by
  obtain ⟨_, _, frame⟩ := self.sendAppendEntriesTo_frame target
  rw [frame]
  rfl

theorem view_replicateActions :
    self.replicateActions.1.view = self.view := by
  obtain ⟨_, _, frame⟩ := self.replicateActions_frame
  rw [frame]
  rfl

theorem view_advanceCommitAndApply (leaderCommit lastNew : Nat) :
    (self.advanceCommitAndApply leaderCommit lastNew).1.view = self.view := by
  rw [advanceCommitAndApply_eq]
  rfl

theorem view_handleAppendSuccess
    (sender : NodeId)
    (reqPrev reqLen : Nat) :
    (self.handleAppendSuccess sender reqPrev reqLen).1.view = self.view := by
  obtain ⟨_, _, _, _, _, _, frame⟩ :=
    self.handleAppendSuccess_frame sender reqPrev reqLen
  rw [frame]
  rfl

theorem view_handleAppendReject
    (sender : NodeId)
    (reqPrev : Nat) :
    (self.handleAppendReject sender reqPrev).1.view = self.view := by
  obtain ⟨_, _, _, frame⟩ := self.handleAppendReject_frame sender reqPrev
  rw [frame]
  rfl

/-- The entry a leader writes for a proposed command. -/
def commandEntry (data : List UInt8) : LogEntry where
  index := self.storage.entries.length + 1
  term := self.currentTerm
  entryType := .command data

/-- A proposed command ends up behind the log. -/
theorem view_appendCommand (data : List UInt8) :
    (self.appendCommand data).view =
      { self.view with
        log := self.view.log ++ [self.commandEntry data] } := by
  have next : Consecutive (self.storage.entries.length + 1)
      [self.commandEntry data] := rfl
  have written := self.storage.persist_consecutive none next (Nat.succ_pos _)
    le_rfl
  have lastIndex : (Storage.lastIndexTerm self.storage).1 =
      self.storage.entries.length := lastIndexTerm_fst self.storage
  unfold appendCommand view
  rw [lastIndex]
  simp only [persist, Nat.add_sub_cancel, List.take_length] at written ⊢
  exact View.ext (congrArg HardState.currentTerm written.2.1)
    (congrArg HardState.votedFor written.2.1) rfl written.2.2

/-- A consecutive batch behind a known position is spliced into the log. -/
theorem view_storeEntries
    {prevLogIndex : Nat}
    {entries : List LogEntry}
    (inside : prevLogIndex ≤ self.storage.entries.length)
    (consecutive : Consecutive (prevLogIndex + 1) entries) :
    (self.storeEntries prevLogIndex entries).view =
      { self.view with
        log := splice self.view.log prevLogIndex entries } := by
  have cut := self.log_cutConflict prevLogIndex entries
  have reaches := matchLength_le_left
    (self.storage.entries.drop prevLogIndex) entries
  rw [List.length_drop] at reaches
  obtain ⟨sameHard, stored⟩ := self.storeEntries_log inside consecutive (by
    intro remains
    rw [if_pos remains] at cut
    apply (MemoryStorage.persist_consecutive _ none
      (consecutive.drop (self.skipped prevLogIndex entries)) (by omega) _).1
    show _ ≤ (LawfulStorage.log (self.cutConflict prevLogIndex entries)).length + 1
    rw [cut, List.length_take]
    show _ ≤ min (prevLogIndex + matchLength (self.storage.entries.drop
      prevLogIndex) entries) self.storage.entries.length + 1
    unfold skipped
    simp only [MemoryStorage.storage_log]
    omega)
  have sameRole : (self.storeEntries prevLogIndex entries).role = self.role := by
    rw [storeEntries_eq]
  exact View.ext (congrArg HardState.currentTerm sameHard)
    (congrArg HardState.votedFor sameHard) (congrArg Role.standing sameRole)
    stored

end RaftEngine

end Libp2pRaft
