import Libp2pRaft.Raft.Replies

/-!
# When there is a message for the sender

Requests are answered.  A leader that gets the response to an AppendEntries goes
on with another one as long as there is something to send.  Nothing else makes an
engine send a message to the node it heard from.
-/

namespace Libp2pRaft

namespace RaftEngine

/-- An engine has a message for the node that sent it one. -/
def Replies
    {S : Type}
    [Storage S]
    (self : RaftEngine S)
    (sender : NodeId) : RaftMessage → Prop
  | .requestVote .. | .appendEntries .. => True
  | .appendEntriesResp term success _ =>
      self.role = .leader ∧ term = self.currentTerm ∧
        ∃ sent ∈ self.lastAe.lookup sender,
          if success then
            sent.1 + sent.2 < (Storage.lastIndexTerm self.storage).1
          else
            (self.nextIndex.lookup sender).getD 1 = sent.1 + 1 ∧
              max (sent.1 - 1) ((self.matchIndex.lookup sender).getD 0) ≤
                (Storage.lastIndexTerm self.storage).1
  | .requestVoteResp .. | .installSnapshot .. | .installSnapshotResp .. => False

instance
    {S : Type}
    [Storage S]
    (self : RaftEngine S)
    (sender : NodeId)
    (msg : RaftMessage) :
    Decidable (self.Replies sender msg) :=
  match msg with
  | .requestVote .. | .appendEntries .. => .isTrue trivial
  | .appendEntriesResp .. => inferInstanceAs (Decidable (_ ∧ _ ∧ _))
  | .requestVoteResp .. | .installSnapshot .. | .installSnapshotResp .. =>
      .isFalse not_false

section

variable {S : Type} [Storage S] [LawfulStorage S] (self : RaftEngine S)

open LawfulStorage (log)

/-- The AppendEntries behind a position can be built if the position is in the
log. -/
theorem buildAppendEntries_isSome
    {target : NodeId}
    {prev : Nat}
    (known : self.nextIndex.lookup target = some (prev + 1))
    (inside : prev ≤ (log self.storage).length) :
    ∃ request, self.buildAppendEntries target = some request := by
  have entries := mapM_entry self.storage inside
  rw [← Nat.add_sub_add_right _ 1] at entries
  unfold buildAppendEntries
  simp only [known, Option.bind_eq_bind, Option.bind_some, Nat.add_sub_cancel,
    lastIndexTerm_fst, entries]
  cases prev with
  | zero =>
      exact ⟨_, rfl⟩
  | succ position =>
      rw [if_neg (Nat.succ_ne_zero _), entry_succ, List.getElem?_eq_getElem inside]
      exact ⟨_, rfl⟩

/-- A free slot is taken exactly if the position is in the log. -/
theorem sendAppendEntriesTo_sends
    {target : NodeId}
    {prev : Nat}
    (free : target ∉ self.aeInflight)
    (known : self.nextIndex.lookup target = some (prev + 1)) :
    (∃ msg, .send target msg ∈ (self.sendAppendEntriesTo target).2.toList) ↔
      prev ≤ (log self.storage).length := by
  constructor
  · rintro ⟨msg, sent⟩
    obtain ⟨_, other, _, built, -⟩ := self.sendAppendEntriesTo_built sent
    obtain ⟨prevTerm, isKnown, nextEq, -, -⟩ := self.buildAppendEntries_some built
    rw [known, Option.some.injEq, Nat.succ_inj] at nextEq
    rw [nextEq]
    exact isKnown.le_length
  · intro inside
    obtain ⟨⟨msg, sent⟩, built⟩ := self.buildAppendEntries_isSome known inside
    refine ⟨msg, ?_⟩
    unfold sendAppendEntriesTo
    rw [if_neg free, built]
    exact List.mem_singleton_self _

/-- Taking a success goes on with another request if entries are left. -/
theorem handleAppendSuccess_sends
    {sender : NodeId}
    (free : sender ∉ self.aeInflight)
    (reqPrev reqLen : Nat) :
    (∃ msg, .send sender msg ∈
        (self.handleAppendSuccess sender reqPrev reqLen).2) ↔
      reqPrev + reqLen < (log self.storage).length := by
  set recorded := self.recordMatch sender (reqPrev + reqLen) with isRecorded
  obtain ⟨_, _, committed⟩ := recorded.maybeCommit_frame
  have known : recorded.maybeCommit.1.nextIndex.lookup sender =
      some (reqPrev + reqLen + 1) := by
    rw [committed]
    exact AList.lookup_insert _
  have sends := recorded.maybeCommit.1.sendAppendEntriesTo_sends
    (by rw [committed]; exact free) known
  have silent : ∀ msg, .send sender msg ∉ recorded.maybeCommit.2 := by
    intro msg inside
    obtain ⟨_, isApply, -⟩ := maybeCommit_actions inside
    contradiction
  have sameStorage : recorded.maybeCommit.1.storage = self.storage := by
    rw [committed]
    rfl
  have handled : self.handleAppendSuccess sender reqPrev reqLen =
      if (recorded.maybeCommit.1.nextIndex.lookup sender).getD 1 ≤
          (Storage.lastIndexTerm recorded.maybeCommit.1.storage).1 then
        ((recorded.maybeCommit.1.sendAppendEntriesTo sender).1,
          recorded.maybeCommit.2 ++
            (recorded.maybeCommit.1.sendAppendEntriesTo sender).2.toList)
      else
        recorded.maybeCommit := rfl
  rw [handled, known, sameStorage, lastIndexTerm_fst, Option.getD_some]
  split_ifs with more
  · simp only [List.mem_append, silent, false_or]
    rw [sends, sameStorage]
    omega
  · simp only [silent, exists_false, false_iff]
    exact more

/-- Taking a reject steps back and tries again, if it is not stale and the
position stepped back to is in the log. -/
theorem handleAppendReject_sends
    {sender : NodeId}
    (free : sender ∉ self.aeInflight)
    (reqPrev : Nat) :
    (∃ msg, .send sender msg ∈ (self.handleAppendReject sender reqPrev).2) ↔
      (self.nextIndex.lookup sender).getD 1 = reqPrev + 1 ∧
        max (reqPrev - 1) ((self.matchIndex.lookup sender).getD 0) ≤
          (log self.storage).length := by
  rw [handleAppendReject_eq]
  split_ifs with latest
  · have sends := (self.stepBack sender reqPrev).sendAppendEntriesTo_sends free
      (AList.lookup_insert _)
    simp only [sends, latest, true_and]
    rfl
  · simp [latest]

theorem handleAppendEntriesResp_sends
    (sender : NodeId)
    (term : Nat)
    (success : Bool)
    (matchIndex now : Nat) :
    (∃ msg, .send sender msg ∈ (self.handleAppendEntriesResp sender term success
        matchIndex now).2) ↔
      self.Replies sender (.appendEntriesResp term success matchIndex) := by
  simp only [handleAppendEntriesResp, Replies]
  by_cases newer : term > self.currentTerm
  · rw [if_pos newer]
    refine iff_of_false ?_ fun replies => newer.ne' replies.2.1
    rintro ⟨msg, sent⟩
    simp [becomeFollower] at sent
  by_cases other : self.role ≠ .leader ∨ term ≠ self.currentTerm
  · rw [if_neg newer, if_pos other]
    refine iff_of_false (by simp) ?_
    rintro ⟨leading, same, -⟩
    exact other.elim (fun not => not leading) fun not => not same
  rw [if_neg newer, if_neg other]
  obtain ⟨leading, same⟩ := not_or.mp other
  rw [not_not] at leading same
  have free : sender ∉ self.aeInflight.erase sender :=
    Finset.notMem_erase sender _
  cases recorded : self.lastAe.lookup sender with
  | none => simp
  | some sent =>
      obtain ⟨reqPrev, reqLen⟩ := sent
      cases success with
      | true =>
          refine (handleAppendSuccess_sends
            { self with aeInflight := self.aeInflight.erase sender } free reqPrev
              reqLen).trans ?_
          simp [leading, same, lastIndexTerm_fst]
      | false =>
          refine (handleAppendReject_sends
            { self with aeInflight := self.aeInflight.erase sender } free
              reqPrev).trans ?_
          simp [leading, same, lastIndexTerm_fst]

end

/-- An engine sends a message to the node it heard from exactly if it replies. -/
theorem handleRpc_sends
    (self : MemoryEngine)
    (sender : NodeId)
    (msg : RaftMessage)
    (now : Nat) :
    (∃ reply, .send sender reply ∈ (self.handleRpc sender msg now).2) ↔
      self.Replies sender msg := by
  have asked : ∀ {msg : RaftMessage}, msg.IsRequest →
      ∃ reply, .send sender reply ∈ (self.handleRpc sender msg now).2 := by
    intro msg isRequest
    obtain ⟨actions, reply, emitted, -⟩ :=
      self.request_answered sender isRequest now
    have sameActions : (self.handleRpc sender msg now).2 =
        actions ++ [.send sender reply] := emitted
    refine ⟨reply, ?_⟩
    rw [sameActions]
    exact List.mem_append_right _ (List.mem_singleton_self _)
  cases msg with
  | requestVote => exact iff_of_true (asked trivial) trivial
  | appendEntries => exact iff_of_true (asked trivial) trivial
  | requestVoteResp term voteGranted =>
      refine iff_of_false ?_ not_false
      rintro ⟨reply, sent⟩
      simp only [handleRpc, handleRequestVoteResp, becomeFollower, becomeLeader]
        at sent
      split_ifs at sent <;> simp at sent
  | appendEntriesResp term success matchIndex =>
      exact self.handleAppendEntriesResp_sends sender term success matchIndex now
  | installSnapshot => exact iff_of_false (by simp [handleRpc]) not_false
  | installSnapshotResp => exact iff_of_false (by simp [handleRpc]) not_false

end RaftEngine

end Libp2pRaft
