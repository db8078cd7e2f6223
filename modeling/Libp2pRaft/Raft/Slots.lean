import Libp2pRaft.Raft.Replies
import Libp2pRaft.Raft.Roles

/-!
# Outstanding AppendEntries of a leader

A leader has one slot per peer: `ae_inflight` says whether it is taken and
`last_ae` what it was taken for.  Every call leaves the slots alone, gives up
the leadership, starts one with free slots, or takes free slots for the
AppendEntries it emits.
-/

namespace Libp2pRaft

/-- Term, previous index and batch length of an AppendEntries. -/
def RaftMessage.offer : RaftMessage → Option (Nat × Nat × Nat)
  | .appendEntries term _ prevLogIndex _ entries _ =>
      some (term, prevLogIndex, entries.length)
  | _ => none

/-- No AppendEntries is among the messages of a list of actions. -/
def NoOffers (others : List NodeId) (actions : List Action) : Prop :=
  ∀ target msg, (target, msg) ∈ outgoing others actions → msg.offer = none

theorem NoOffers.nil {others : List NodeId} : NoOffers others [] :=
  fun _ _ inside => absurd inside List.not_mem_nil

theorem NoOffers.send
    {others : List NodeId}
    {target : NodeId}
    {msg : RaftMessage}
    (noOffer : msg.offer = none) :
    NoOffers others [.send target msg] := by
  rintro _ _ inside
  obtain ⟨rfl, rfl⟩ := Prod.mk.inj (List.mem_singleton.mp inside)
  exact noOffer

namespace RaftEngine

open Consensus

/-- Free slots were taken for the AppendEntries that go out. -/
structure Takes
    {S : Type} [Storage S]
    (before after : RaftEngine S)
    (messages : List (NodeId × RaftMessage)) : Prop where
  taken : ∀ target msg, (target, msg) ∈ messages → ∃ prev len,
    msg.offer = some (before.currentTerm, prev, len) ∧
      target ∉ before.aeInflight ∧ target ∈ after.aeInflight ∧
      after.lastAe.lookup target = some (prev, len)
  distinct : (messages.map Prod.fst).Nodup
  others : ∀ target, target ∉ messages.map Prod.fst →
    after.lastAe.lookup target = before.lastAe.lookup target ∧
      (target ∈ after.aeInflight ↔ target ∈ before.aeInflight)

section

variable {S : Type} [Storage S] [LawfulStorage S]

omit [LawfulStorage S] in
theorem Takes.nil (self : RaftEngine S) : Takes self self [] :=
  ⟨fun _ _ inside => absurd inside List.not_mem_nil, List.nodup_nil,
    fun _ _ => ⟨rfl, Iff.rfl⟩⟩

/-- What is sent to a list of peers takes free slots. -/
theorem sendAppendEntriesToAll_takes
    (self : RaftEngine S)
    (others peers : List NodeId) :
    Takes self (self.sendAppendEntriesToAll peers).1
      (outgoing others (self.sendAppendEntriesToAll peers).2) := by
  induction peers generalizing self with
  | nil => exact .nil self
  | cons peer peers inductionHypothesis =>
      simp only [sendAppendEntriesToAll]
      rcases self.sendAppendEntriesTo_cases peer with
        idle | ⟨msg, prev, len, free, built, sent⟩
      · rw [idle]
        exact inductionHypothesis self
      · obtain ⟨prevTerm, -, -, lenEq, msgEq⟩ := self.buildAppendEntries_some built
        rw [sent]
        have rest := inductionHypothesis
          { self with
            lastAe := self.lastAe.insert peer (prev, len)
            aeInflight := insert peer self.aeInflight }
        have absent : peer ∉ (outgoing others
            ({ self with
              lastAe := self.lastAe.insert peer (prev, len)
              aeInflight := insert peer self.aeInflight }.sendAppendEntriesToAll
                peers).2).map Prod.fst := by
          intro inside
          obtain ⟨⟨target, other⟩, inRest, rfl⟩ := List.mem_map.mp inside
          obtain ⟨_, _, -, free, -⟩ := rest.taken target other inRest
          exact free (Finset.mem_insert_self _ _)
        have kept := rest.others peer absent
        refine ⟨?_, List.nodup_cons.mpr ⟨absent, rest.distinct⟩, ?_⟩
        · intro target other inside
          rcases List.mem_cons.mp inside with same | later
          · obtain ⟨rfl, rfl⟩ := Prod.mk.inj same
            refine ⟨prev, len, ?_, free, ?_, ?_⟩
            · rw [msgEq, lenEq]
              rfl
            · exact kept.2.mpr (Finset.mem_insert_self _ _)
            · rw [kept.1]
              exact AList.lookup_insert _
          · obtain ⟨nextPrev, nextLen, offered, nextFree, held⟩ :=
              rest.taken target other later
            exact ⟨nextPrev, nextLen, offered,
              fun inFlight => nextFree (Finset.mem_insert_of_mem inFlight), held⟩
        · intro target outside
          obtain ⟨different, later⟩ := not_or.mp (mt List.mem_cons.mpr outside)
          have unchanged := rest.others target later
          constructor
          · rw [unchanged.1]
            exact AList.lookup_insert_ne different
          · rw [unchanged.2]
            exact Finset.mem_insert.trans (or_iff_right different)

theorem sendAppendEntriesTo_takes
    (self : RaftEngine S)
    (others : List NodeId)
    (peer : NodeId) :
    Takes self (self.sendAppendEntriesTo peer).1
      (outgoing others (self.sendAppendEntriesTo peer).2.toList) := by
  have all := self.sendAppendEntriesToAll_takes others [peer]
  simpa [sendAppendEntriesToAll] using all

end

/-- What a call does to the slots of an engine. -/
inductive SlotChange
    (before : MemoryEngine)
    (others : List NodeId) : Call → MemoryEngine × List Action → Prop
  | kept (call : Call) (result : MemoryEngine × List Action)
      (sameRole : result.1.role = before.role)
      (sameTerm : result.1.currentTerm = before.currentTerm)
      (sameLast : result.1.lastAe = before.lastAe)
      (sameInflight : result.1.aeInflight = before.aeInflight)
      (noOffers : NoOffers others result.2) :
      SlotChange before others call result
  | retired (call : Call) (result : MemoryEngine × List Action)
      (following : result.1.role = .follower)
      (grown : before.currentTerm ≤ result.1.currentTerm)
      (noOffers : NoOffers others result.2) :
      SlotChange before others call result
  | campaigned (now : Nat) (result : MemoryEngine × List Action)
      (waiting : before.role ≠ .leader)
      (due : before.electionDeadline ≤ now)
      (campaigning : result.1.role = .candidate)
      (nextTerm : result.1.currentTerm = wrappingSucc before.currentTerm)
      (noOffers : NoOffers others result.2) :
      SlotChange before others (.tick now) result
  | elected (sender : NodeId) (now : Nat)
      (result : MemoryEngine × List Action)
      (campaigning : before.role = .candidate)
      (sameTerm : result.1.currentTerm = before.currentTerm)
      (noOffers : NoOffers others result.2) :
      SlotChange before others
        (.rpc sender (.requestVoteResp before.currentTerm true) now) result
  | offered (call : Call) (base : MemoryEngine)
      (result : MemoryEngine × List Action)
      (unasked : ∀ sender msg now, call = .rpc sender msg now → ¬ msg.IsRequest)
      (leading : before.role = .leader)
      (stillLeading : result.1.role = .leader)
      (sameTerm : result.1.currentTerm = before.currentTerm)
      (baseTerm : base.currentTerm = before.currentTerm)
      (sameLast : base.lastAe = before.lastAe)
      (freed : base.aeInflight = before.aeInflight ∨
        ∃ sender success matchIndex now prev len,
          call = .rpc sender (.appendEntriesResp before.currentTerm success
            matchIndex) now ∧
          before.lastAe.lookup sender = some (prev, len) ∧
          base.aeInflight = before.aeInflight.erase sender)
      (takes : Takes base result.1 (outgoing others result.2)) :
      SlotChange before others call result
  | failed (target : NodeId) :
      SlotChange before others (.rpcFailure target .appendEntries)
        ({ before with aeInflight := before.aeInflight.erase target }, [])

variable {self : MemoryEngine} {call : Call}
  {result : MemoryEngine × List Action}

theorem currentTerm_le_follow
    (self : MemoryEngine)
    (term : Nat)
    (leaderId : NodeId)
    (now : Nat) :
    self.currentTerm ≤ (self.follow term leaderId now).1.currentTerm := by
  rw [← view_term, ← view_term, view_follow]
  split_ifs with newer
  · exact newer.le
  · exact le_rfl

/-- Only a leader emits AppendEntries. -/
theorem Outcome.noOffers
    (outcome : Outcome self call result)
    (others : List NodeId)
    (notLeading : result.1.role ≠ .leader) :
    NoOffers others result.2 := by
  intro target msg inside
  rcases mem_outgoing.mp inside with sent | ⟨asked, -⟩
  · cases outcome.emits sent with
    | appendRequest _ _ _ _ leading => exact absurd leading notLeading
    | voteReply => rfl
    | appendReply => rfl
  · cases outcome.emits asked with
    | voteRequest => rfl

/-- A success frees a slot, and may take it again. -/
theorem handleAppendSuccess_takes
    (self : MemoryEngine)
    (others : List NodeId)
    (sender : NodeId)
    (reqPrev reqLen : Nat) :
    ∃ base : MemoryEngine, base.currentTerm = self.currentTerm ∧
      base.lastAe = self.lastAe ∧ base.aeInflight = self.aeInflight ∧
      Takes base (self.handleAppendSuccess sender reqPrev reqLen).1
        (outgoing others (self.handleAppendSuccess sender reqPrev reqLen).2) := by
  obtain ⟨_, _, committed⟩ :=
    (self.recordMatch sender (reqPrev + reqLen)).maybeCommit_frame
  have silent : outgoing others
      (self.recordMatch sender (reqPrev + reqLen)).maybeCommit.2 = [] := by
    apply outgoing_eq_nil
    intro action emitted
    obtain ⟨entries, rfl, -⟩ := maybeCommit_actions emitted
    rfl
  refine ⟨(self.recordMatch sender (reqPrev + reqLen)).maybeCommit.1, ?_, ?_, ?_,
    ?_⟩
  · rw [committed]
    rfl
  · rw [committed]
    rfl
  · rw [committed]
    rfl
  · rcases self.handleAppendSuccess_cases sender reqPrev reqLen with done | sent
    · rw [done, silent]
      exact .nil _
    · rw [sent, outgoing_append, silent, List.nil_append]
      exact sendAppendEntriesTo_takes _ others sender

/-- A reject leaves the slots alone, or takes a free one. -/
theorem handleAppendReject_takes
    (self : MemoryEngine)
    (others : List NodeId)
    (sender : NodeId)
    (reqPrev : Nat) :
    ∃ base : MemoryEngine, base.currentTerm = self.currentTerm ∧
      base.lastAe = self.lastAe ∧ base.aeInflight = self.aeInflight ∧
      Takes base (self.handleAppendReject sender reqPrev).1
        (outgoing others (self.handleAppendReject sender reqPrev).2) := by
  rcases self.handleAppendReject_cases sender reqPrev with ignored | ⟨next, sent⟩
  · rw [ignored]
    exact ⟨self, rfl, rfl, rfl, .nil self⟩
  · rw [sent]
    exact ⟨{ self with nextIndex := self.nextIndex.insert sender next }, rfl,
      rfl, rfl, sendAppendEntriesTo_takes _ others sender⟩

/-- The reply to a recorded AppendEntries frees the slot of its sender, and may
take it again. -/
theorem reply_takes
    (self : MemoryEngine)
    (others : List NodeId)
    (leading : self.role = .leader)
    {sender : NodeId}
    {prev len : Nat}
    (recorded : self.lastAe.lookup sender = some (prev, len))
    (success : Bool)
    (matchIndex now : Nat) :
    (self.call (.rpc sender (.appendEntriesResp self.currentTerm success
      matchIndex) now)).1.currentTerm = self.currentTerm ∧
    ∃ base : MemoryEngine, base.currentTerm = self.currentTerm ∧
      base.lastAe = self.lastAe ∧
      base.aeInflight = self.aeInflight.erase sender ∧
      Takes base
        (self.call (.rpc sender
          (.appendEntriesResp self.currentTerm success matchIndex) now)).1
        (outgoing others (self.call (.rpc sender
          (.appendEntriesResp self.currentTerm success matchIndex) now)).2) := by
  cases success with
  | true =>
      rw [self.call_of_success leading recorded]
      refine ⟨congrArg View.term (view_handleAppendSuccess _ sender prev len),
        ?_⟩
      exact handleAppendSuccess_takes
        { self with aeInflight := self.aeInflight.erase sender } others sender
        prev len
  | false =>
      rw [self.call_of_reject leading recorded]
      refine ⟨congrArg View.term (view_handleAppendReject _ sender prev), ?_⟩
      exact handleAppendReject_takes
        { self with aeInflight := self.aeInflight.erase sender } others sender
        prev

/-- A new leader starts with free slots. -/
theorem Outcome.slots_free
    (outcome : Outcome self call result)
    (waiting : self.role ≠ .leader)
    (leading : result.1.role = .leader) :
    result.1.aeInflight = ∅ := by
  obtain ⟨sender, now, -, -, -, elected⟩ := outcome.elected_of waiting leading
  rw [elected]
  rfl

/-- A node that follows after a call sends no AppendEntries. -/
theorem Outcome.retired
    (outcome : Outcome self call result)
    (others : List NodeId)
    (following : result.1.role = .follower)
    (grown : self.currentTerm ≤ result.1.currentTerm) :
    SlotChange self others call result := by
  refine .retired _ _ following grown (outcome.noOffers others ?_)
  rw [following]
  exact Role.noConfusion

/-- Every call has one of the effects on the slots. -/
theorem Outcome.slotChange
    (outcome : Outcome self call result)
    (others : List NodeId) :
    SlotChange self others call result := by
  have silent := outcome.noOffers others
  have retired := outcome.retired others
  have isReply : ∀ {peer success matchIndex time} (sender : NodeId)
      (msg : RaftMessage) (now : Nat),
      Call.rpc peer (.appendEntriesResp self.currentTerm success matchIndex)
        time = .rpc sender msg now → ¬ msg.IsRequest := by
    rintro _ _ _ _ _ _ _ ⟨⟩
    exact id
  cases outcome with
  | ignored => exact .kept _ _ rfl rfl rfl rfl .nil
  | campaigned now waiting due =>
      exact .campaigned now _ waiting due rfl rfl (silent Role.noConfusion)
  | heartbeat now leading =>
      have takes := self.sendAppendEntriesToAll_takes others self.otherVoters
      obtain ⟨_, _, frame⟩ := self.replicateActions_frame
      refine .offered _ self _ (fun _ _ _ same => Call.noConfusion same) leading ?_ ?_ rfl rfl
        (.inl rfl) ⟨takes.taken, takes.distinct, takes.others⟩
      · simp only [frame]
        exact leading
      · simp only [frame]
        rfl
  | proposed data leading =>
      have takes := (self.appendCommand data).sendAppendEntriesToAll_takes others
        (self.appendCommand data).otherVoters
      obtain ⟨_, _, frame⟩ := (self.appendCommand data).replicateActions_frame
      have sameTerm : (self.appendCommand data).currentTerm = self.currentTerm :=
        congrArg View.term (self.view_appendCommand data)
      refine .offered _ (self.appendCommand data) _
        (fun _ _ _ same => Call.noConfusion same) leading ?_ ?_ sameTerm rfl
        (.inl rfl) takes
      · rw [frame]
        exact leading
      · rw [frame]
        exact sameTerm
  | failed target => exact .failed target
  | voteStale => exact .kept _ _ rfl rfl rfl rfl (.send rfl)
  | voteRefused sender term =>
      by_cases newer : term > self.currentTerm
      · have entered : self.enterTerm term = self.becomeFollower term none :=
          if_pos newer
        refine retired ?_ ?_
        · show (self.enterTerm term).1.role = .follower
          rw [entered, becomeFollower_eq]
        · rw [← view_term, ← view_term, view_enterTerm, if_pos newer]
          exact newer.le
      · have entered : self.enterTerm term = (self, []) := if_neg newer
        rw [entered]
        exact .kept _ _ rfl rfl rfl rfl (.send rfl)
  | voteGranted sender term candidateId lastLogIndex lastLogTerm now recent =>
      exact retired rfl (recent.trans (Nat.le_max_left _ _))
  | deposed sender msg now term reply newer =>
      refine retired (by rw [becomeFollower_eq]) ?_
      rw [← view_term, ← view_term, view_becomeFollower, if_pos newer]
      exact newer.le
  | counted => exact .kept _ _ rfl rfl rfl rfl .nil
  | elected sender now campaigning enough =>
      refine .elected sender now _ campaigning rfl ?_
      rintro target msg inside
      exact absurd inside List.not_mem_nil
  | appendStale => exact .kept _ _ rfl rfl rfl rfl (.send rfl)
  | appendRefused sender term leaderId prevLogIndex prevLogTerm entries
      leaderCommit now =>
      exact retired (self.follow_role term leaderId now)
        (currentTerm_le_follow ..)
  | appendAccepted sender term leaderId prevLogIndex prevLogTerm entries
      leaderCommit now recent agreed stored storedEq =>
      refine retired ?_ ?_
      · rw [advanceCommitAndApply_eq, storedEq, storeEntries_eq]
        exact self.follow_role term leaderId now
      · have sameTerm := congrArg View.term (stored.view_advanceCommitAndApply
          leaderCommit (prevLogIndex + entries.length))
        simp only [view_term] at sameTerm
        rw [sameTerm, storedEq, currentTerm_storeEntries]
        exact currentTerm_le_follow ..
  | matched sender matchIndex now reqPrev reqLen leading recorded =>
      obtain ⟨base, baseTerm, sameLast, sameInflight, takes⟩ :=
        handleAppendSuccess_takes
          { self with aeInflight := self.aeInflight.erase sender } others sender
          reqPrev reqLen
      refine .offered _ base _ isReply leading ?_ ?_ baseTerm sameLast
        (.inr ⟨_, _, _, _, _, _, rfl, recorded, sameInflight⟩) takes
      · rw [(handleAppendSuccess_config _ sender reqPrev reqLen).2.2]
        exact leading
      · exact congrArg View.term (view_handleAppendSuccess _ sender reqPrev reqLen)
  | unmatched sender matchIndex now reqPrev reqLen leading recorded =>
      obtain ⟨base, baseTerm, sameLast, sameInflight, takes⟩ :=
        handleAppendReject_takes
          { self with aeInflight := self.aeInflight.erase sender } others sender
          reqPrev
      refine .offered _ base _ isReply leading ?_ ?_ baseTerm sameLast
        (.inr ⟨_, _, _, _, _, _, rfl, recorded, sameInflight⟩) takes
      · rw [(handleAppendReject_config _ sender reqPrev).2.2]
        exact leading
      · exact congrArg View.term (view_handleAppendReject _ sender reqPrev)

end RaftEngine

end Libp2pRaft
