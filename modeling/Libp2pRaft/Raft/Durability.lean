import Libp2pRaft.Raft.Emissions
import Libp2pRaft.Storage.Memory

/-!
# Durable before acknowledged

What an engine announces, against what its storage holds, over any storage
whose writes are atomic and may fail.  The engine drops the result of every
write, so an announcement is backed by the storage when the writes of the call
are taken.
-/

namespace Libp2pRaft

open Consensus TransitionSystem

namespace RaftEngine

variable {S : Type} [Storage S] [LawfulStorage S]

open LawfulStorage (log)

/-- What a call announces is on the storage. -/
structure Durable
    (before : RaftEngine S)
    (call : Call)
    (after : RaftEngine S)
    (actions : List Action) : Prop where
  /-- A granted vote is recorded for the candidate that asked. -/
  vote : ∀ target term,
    .send target (.requestVoteResp term true) ∈ actions →
      ∃ asked candidateId lastLogIndex lastLogTerm now,
        call = .rpc target
          (.requestVote asked candidateId lastLogIndex lastLogTerm) now ∧
        Storage.hardState after.storage =
          { currentTerm := term, votedFor := some candidateId }
  /-- An acknowledged batch is stored up to the acknowledged index. -/
  append : ∀ target term matchIndex,
    .send target (.appendEntriesResp term true matchIndex) ∈ actions →
      ∃ asked leaderId prevLogIndex prevLogTerm entries leaderCommit now,
        call = .rpc target
          (.appendEntries asked leaderId prevLogIndex prevLogTerm entries
            leaderCommit) now ∧
        matchIndex = prevLogIndex + entries.length ∧
        ∀ position entry, entries[position]? = some entry →
          Storage.entry after.storage (prevLogIndex + 1 + position) = some entry
  /-- A campaign has its term and self-vote recorded. -/
  candidate : ∀ term,
    .becomeCandidate term ∈ actions →
      Storage.hardState after.storage =
        { currentTerm := term, votedFor := some after.config.nodeId }
  /-- A proposal that returned an index is stored there in the current term. -/
  proposal : ∀ data, call = .propose data →
    ∀ index sent, (before.propose data).2 = .ok (index, sent) →
      ∃ entry, Storage.entry after.storage index = some entry ∧
        entry.term = after.currentTerm ∧ entry.entryType = .command data

/-- The writes a call announces are taken by the storage (a refused vote writes
nothing), and an acknowledged batch is well indexed and agrees with what is
already stored. -/
def WritesTaken (self : RaftEngine S) : Call → Prop
  | .tick now =>
      self.role ≠ .leader → self.electionDeadline ≤ now →
      (Storage.persist self.storage
        (some
          { currentTerm := wrappingSucc self.currentTerm
            votedFor := some self.config.nodeId }) []).1 = .ok ()
  | .propose data =>
      self.role = .leader →
      (Storage.persist self.storage none
        [{ index := (Storage.lastIndexTerm self.storage).1 + 1
           term := self.currentTerm
           entryType := .command data }]).1 = .ok ()
  | .rpc _ (.requestVote term candidateId lastLogIndex lastLogTerm) _ =>
      self.currentTerm ≤ term →
      self.Grants term candidateId lastLogIndex lastLogTerm →
      (Storage.hardState (self.enterTerm term).1.storage).votedFor =
          some candidateId ∨
        (Storage.persist (self.enterTerm term).1.storage
          (some
            { currentTerm := max term (self.enterTerm term).1.currentTerm
              votedFor := some candidateId }) []).1 = .ok ()
  | .rpc _ (.appendEntries term leaderId prevLogIndex prevLogTerm entries _)
      now =>
      self.currentTerm ≤ term →
      PrevTerm (log self.storage) prevLogIndex prevLogTerm →
        Consecutive (prevLogIndex + 1) entries ∧
        (∀ position stored sent,
          (log self.storage)[prevLogIndex + position]? = some stored →
          entries[position]? = some sent → stored.term = sent.term →
            stored = sent) ∧
        (self.skipped prevLogIndex entries < entries.length →
          (Storage.persist
            ((self.follow term leaderId now).1.cutConflict prevLogIndex entries)
            none
            (entries.drop (self.skipped prevLogIndex entries))).1 = .ok ())
  | _ => True

variable (self : RaftEngine S)

/-- Writing only a hard state leaves the log, taken or not. -/
theorem log_persist_nil
    [AtomicStorage S]
    (storage : S)
    (hardState : Option HardState) :
    log (Storage.persist storage hardState []).2 = log storage := by
  cases outcome : Storage.persist storage hardState [] with
  | mk taken written =>
      cases taken with
      | error error =>
          exact (AtomicStorage.persist_error _ _ _ _ _ outcome).2
      | ok done =>
          have kept := (LawfulStorage.persist_ok _ _ 1 [] _ outcome
            Consecutive.nil Nat.one_pos (by omega)).2
          simpa using kept

theorem log_follow
    [AtomicStorage S]
    (term : Nat)
    (leaderId : NodeId)
    (now : Nat) :
    log (self.follow term leaderId now).1.storage = log self.storage := by
  have stepped : log (self.becomeFollower term (some leaderId)).1.storage =
      log self.storage := by
    rw [becomeFollower_eq]
    simp only
    split_ifs
    · exact log_persist_nil _ _
    · rfl
  unfold follow
  split_ifs
  · exact stepped
  · exact stepped
  · rfl

/-- A taken hard state is the stored one. -/
theorem hardState_persist
    {storage : S}
    {hardState : HardState}
    (taken : (Storage.persist storage (some hardState) []).1 = .ok ()) :
    Storage.hardState (Storage.persist storage (some hardState) []).2 =
      hardState :=
  (LawfulStorage.persist_ok _ _ 1 [] _ (Prod.ext taken rfl) Consecutive.nil
    Nat.one_pos (by omega)).1

/-- A recorded vote is stored, unless it was there before. -/
theorem recordVote_hardState
    [AtomicStorage S]
    {term : Nat}
    {candidateId : NodeId}
    (now : Nat)
    (taken : (Storage.hardState self.storage).votedFor = some candidateId ∨
      (Storage.persist self.storage
        (some
          { currentTerm := max term self.currentTerm
            votedFor := some candidateId }) []).1 = .ok ()) :
    Storage.hardState (self.recordVote term candidateId now).storage =
      { currentTerm := (self.recordVote term candidateId now).currentTerm
        votedFor := some candidateId } := by
  have voted : (Storage.hardState
      (self.recordVote term candidateId now).storage).votedFor =
        some candidateId := by
    show (Storage.hardState (Storage.persist self.storage
      (some { currentTerm := max term self.currentTerm
              votedFor := some candidateId }) []).2).votedFor = _
    cases outcome : Storage.persist self.storage
        (some { currentTerm := max term self.currentTerm
                votedFor := some candidateId }) [] with
    | mk answer written =>
        cases answer with
        | error error =>
            rw [outcome] at taken
            rw [(AtomicStorage.persist_error _ _ _ _ _ outcome).1]
            exact taken.resolve_right (by simp)
        | ok done =>
            have stored := hardState_persist (S := S) (congrArg Prod.fst outcome)
            rw [outcome] at stored
            rw [stored]
  rw [← voted]
  rfl

/-- An accepted batch is stored when its write is taken. -/
theorem entries_stored
    [AtomicStorage S]
    {term leaderId prevLogIndex prevLogTerm now : Nat}
    {entries : List LogEntry}
    (agreed : (self.follow term leaderId now).1.prevOk prevLogIndex
      prevLogTerm = true)
    (consecutive : Consecutive (prevLogIndex + 1) entries)
    (same : ∀ position stored sent,
      (log self.storage)[prevLogIndex + position]? = some stored →
      entries[position]? = some sent → stored.term = sent.term →
        stored = sent)
    (taken : self.skipped prevLogIndex entries < entries.length →
      (Storage.persist
        ((self.follow term leaderId now).1.cutConflict prevLogIndex entries)
        none
        (entries.drop (self.skipped prevLogIndex entries))).1 = .ok ())
    {position : Nat}
    {entry : LogEntry}
    (sent : entries[position]? = some entry) :
    Storage.entry ((self.follow term leaderId now).1.storeEntries
      prevLogIndex entries).storage (prevLogIndex + 1 + position) =
        some entry := by
  have sameLog := self.log_follow term leaderId now
  have sameSkip : (self.follow term leaderId now).1.skipped prevLogIndex
      entries = self.skipped prevLogIndex entries := by
    unfold skipped
    rw [sameLog]
  have inside := ((prevOk_iff _).mp agreed).le_length
  obtain ⟨-, stored⟩ := (self.follow term leaderId now).1.storeEntries_log
    inside consecutive (by rw [sameSkip]; exact taken)
  rw [Nat.add_right_comm, entry_succ, stored, sameLog]
  rw [sameLog] at inside
  exact getElem?_splice inside same sent

/-- A call whose writes are taken announces only what is stored. -/
theorem durable_call
    [AtomicStorage S]
    {call : Call}
    (taken : self.WritesTaken call) :
    Durable self call (self.call call).1 (self.call call).2 where
  vote := by
    intro target term emitted
    cases (self.call_outcome call).emits emitted with
    | appendRequest _ _ prev len leading built =>
        obtain ⟨_, -, -, -, isAppend⟩ := buildAppendEntries_some _ built
        simp at isAppend
    | voteReply _ asked candidateId lastLogIndex lastLogTerm now _ isCall
        recorded =>
        subst isCall
        obtain ⟨recent, grants, afterEq⟩ := recorded rfl
        refine ⟨asked, candidateId, lastLogIndex, lastLogTerm, now, rfl, ?_⟩
        rw [afterEq]
        exact recordVote_hardState _ now (taken recent grants)
  append := by
    intro target term matchIndex emitted
    cases (self.call_outcome call).emits emitted with
    | appendRequest _ _ prev len leading built =>
        obtain ⟨_, -, -, -, isAppend⟩ := buildAppendEntries_some _ built
        simp at isAppend
    | appendReply _ asked leaderId prevLogIndex prevLogTerm entries
        leaderCommit now _ _ isCall accepted =>
        subst isCall
        obtain ⟨recent, agreed, atEnd, sameStorage⟩ := accepted rfl
        refine ⟨asked, leaderId, prevLogIndex, prevLogTerm, entries,
          leaderCommit, now, rfl, atEnd, ?_⟩
        intro position entry sent
        have known := (prevOk_iff _).mp agreed
        rw [log_follow] at known
        obtain ⟨consecutive, same, written⟩ := taken recent known
        rw [sameStorage]
        exact self.entries_stored agreed consecutive same written sent
  candidate := by
    intro term emitted
    generalize resultEq : self.call call = result at emitted ⊢
    have outcome := resultEq ▸ self.call_outcome call
    cases outcome.emits emitted with
    | candidate now asked waiting due campaigned =>
        subst asked
        rw [campaigned]
        exact hardState_persist (taken waiting due)
  proposal := by
    intro data isCall index sent done
    subst isCall
    have leading : self.role = .leader := by
      by_contra other
      simp [propose, other] at done
    have applied : self.call (.propose data) =
        (self.appendCommand data).replicateActions := by
      simp [call, propose, leading, appendCommand]
    have indexEq : index = (log self.storage).length + 1 := by
      rw [← lastIndexTerm_fst]
      simp only [propose, leading, ne_eq, not_true_eq_false, if_false,
        Except.ok.injEq, Prod.mk.injEq] at done
      exact done.1.symm
    obtain ⟨_, _, frame⟩ := (self.appendCommand data).replicateActions_frame
    have written := taken leading
    rw [lastIndexTerm_fst] at written
    obtain ⟨sameHard, stored⟩ := LawfulStorage.persist_ok _ none
      ((log self.storage).length + 1) _ _ (Prod.ext written rfl) rfl
      (Nat.succ_pos _) le_rfl
    refine ⟨{ index := (log self.storage).length + 1
              term := self.currentTerm
              entryType := .command data }, ?_, ?_, rfl⟩
    · rw [applied, frame, indexEq, entry_succ]
      show (log (Storage.persist self.storage none _).2)[_]? = _
      rw [lastIndexTerm_fst, stored]
      simp
    · rw [applied, frame]
      show _ = (Storage.hardState (Storage.persist self.storage none
        _).2).currentTerm
      rw [lastIndexTerm_fst, sameHard]
      rfl

/-- Along every run whose writes are taken, what the engine announces is on the
storage. -/
theorem acknowledged_is_stored
    [AtomicStorage S]
    (config : RaftConfig)
    (storage : S)
    (start : Nat)
    (calls : List Call)
    (taken : (lifetime config storage start).Along WritesTaken calls) :
    (lifetime config storage start).Along
      (fun before call => Durable before call (before.call call).1
        (before.call call).2) calls := by
  refine taken.imp ?_
  intro before call written
  exact before.durable_call written

end RaftEngine

/-- An in-memory storage whose writes fail on a schedule, without effect. -/
structure FaultyStorage where
  inner : MemoryStorage
  /-- Whether each of the next writes fails. -/
  failures : List Bool

namespace FaultyStorage

/-- One atomic write. -/
def persist
    (self : FaultyStorage)
    (hardState : Option HardState)
    (entries : List LogEntry) : Except StorageError Unit × FaultyStorage :=
  if self.failures.head? = some true then
    (.error (.msg "write failed"), { self with failures := self.failures.tail })
  else
    match self.inner.persist hardState entries with
    | (.ok (), written) =>
        (.ok (), { inner := written, failures := self.failures.tail })
    | (.error error, _) =>
        (.error error, { self with failures := self.failures.tail })

instance : Storage FaultyStorage where
  hardState self := self.inner.hardState
  entry self := self.inner.entry
  lastIndexTerm self := self.inner.lastIndexTerm
  truncateFrom self index :=
    { self with inner := self.inner.truncateFrom index }
  persist := persist

/-- A write that is taken is the write of the inner storage. -/
theorem persist_ok
    {self written : FaultyStorage}
    {hardState : Option HardState}
    {entries : List LogEntry}
    (done : self.persist hardState entries = (.ok (), written)) :
    self.inner.persist hardState entries = (.ok (), written.inner) := by
  unfold persist at done
  split_ifs at done with scheduled
  · simp at done
  · cases outcome : self.inner.persist hardState entries with
    | mk answer stored =>
        cases answer with
        | error error => simp [outcome] at done
        | ok taken =>
            simp only [outcome, Prod.mk.injEq, true_and] at done
            rw [← done]

/-- A write that fails leaves the inner storage. -/
theorem persist_error
    {self written : FaultyStorage}
    {hardState : Option HardState}
    {entries : List LogEntry}
    {error : StorageError}
    (failed : self.persist hardState entries = (.error error, written)) :
    written.inner = self.inner := by
  unfold persist at failed
  split_ifs at failed with scheduled
  · simp only [Prod.mk.injEq] at failed
    rw [← failed.2]
  · cases outcome : self.inner.persist hardState entries with
    | mk answer stored =>
        cases answer with
        | error error =>
            simp only [outcome, Prod.mk.injEq] at failed
            rw [← failed.2]
        | ok taken => simp [outcome] at failed

instance : LawfulStorage FaultyStorage where
  log self := self.inner.entries
  contiguous self := self.inner.contiguous
  entry_eq self := LawfulStorage.entry_eq self.inner
  lastIndexTerm_eq self := LawfulStorage.lastIndexTerm_eq self.inner
  log_truncateFrom self := LawfulStorage.log_truncateFrom self.inner
  hardState_truncateFrom self :=
    LawfulStorage.hardState_truncateFrom self.inner
  persist_ok self hardState first batch written done :=
    LawfulStorage.persist_ok self.inner hardState first batch written.inner
      (persist_ok done)

instance : AtomicStorage FaultyStorage where
  persist_error self hardState batch error written failed := by
    have kept := persist_error failed
    exact ⟨congrArg MemoryStorage.hardState kept,
      congrArg MemoryStorage.entries kept⟩

end FaultyStorage

namespace RaftEngine

/-- A vote request of a candidate of term `1`. -/
def firstVoteRequest : Call :=
  .rpc 2 (.requestVote 1 2 0 0) 0

/-- The condition holds of a vote that is granted on a storage that fails only
later. -/
theorem acknowledged_is_stored_vote :
    (lifetime (.cfg 1 [1, 2, 3])
        (FaultyStorage.mk MemoryStorage.new [false, false, true]) 0).Along
      (fun before call => Durable before call (before.call call).1
        (before.call call).2) [firstVoteRequest] := by
  apply acknowledged_is_stored
  rw [show [firstVoteRequest] = [] ++ [firstVoteRequest] from rfl,
    System.along_concat]
  refine ⟨System.along_nil _, fun _ _ => .inr ?_⟩
  rfl

/-- The second write of the call fails, and the vote is granted all the same. -/
theorem granted_vote_not_stored :
    ¬ (lifetime (.cfg 1 [1, 2, 3])
        (FaultyStorage.mk MemoryStorage.new [false, true]) 0).Along
      (fun before call => Durable before call (before.call call).1
        (before.call call).2) [firstVoteRequest] := by
  intro durable
  obtain ⟨asked, candidateId, lastLogIndex, lastLogTerm, now, -, stored⟩ :=
    (durable [] firstVoteRequest (List.prefix_refl _)).vote 2 1 (by decide)
  have voted : none = some candidateId := congrArg HardState.votedFor stored
  contradiction

end RaftEngine

end Libp2pRaft
