import Libp2pRaft.Raft.Calls

/-!
# What the operations of the engine do

One description for each operation, over any lawful storage.  The proofs about
runs cite these and never unfold the operations.
-/

namespace Libp2pRaft

open Consensus

/-- `term` is the term of the entry right before position `prev`, and `0`
before the first one. -/
def PrevTerm (log : List LogEntry) (prev term : Nat) : Prop :=
  (prev = 0 ∧ term = 0) ∨
    ∃ entry, 0 < prev ∧ log[prev - 1]? = some entry ∧ entry.term = term

theorem PrevTerm.le_length
    {log : List LogEntry}
    {prev term : Nat}
    (known : PrevTerm log prev term) :
    prev ≤ log.length := by
  rcases known with ⟨rfl, -⟩ | ⟨entry, positive, stored, -⟩
  · exact Nat.zero_le _
  · have inside := (List.getElem?_eq_some_iff.mp stored).1
    omega

theorem PrevTerm.agreeBefore
    {log other : List LogEntry}
    {prev term : Nat}
    (known : PrevTerm log prev term)
    (alsoKnown : PrevTerm other prev term) :
    AgreeBefore prev log other := by
  rcases known with ⟨zero, -⟩ | ⟨stored, positive, storedAt, rfl⟩
  · exact .inl zero
  · rcases alsoKnown with ⟨zero, -⟩ | ⟨sent, -, sentAt, same⟩
    · exact .inl zero
    · exact .inr ⟨stored, sent, storedAt, sentAt, same.symm⟩

section

variable {S : Type} [Storage S] [LawfulStorage S]

open LawfulStorage (log)

theorem entry_succ
    (storage : S)
    (position : Nat) :
    Storage.entry storage (position + 1) = (log storage)[position]? := by
  rw [LawfulStorage.entry_eq]
  simp

theorem lastIndexTerm_fst (storage : S) :
    (Storage.lastIndexTerm storage).1 = (log storage).length := by
  rw [LawfulStorage.lastIndexTerm_eq]

theorem logIsUpToDate_iff
    {storage : S}
    {candidate : List LogEntry} :
    logIsUpToDate storage candidate.length (lastTerm candidate) = true ↔
      UpToDate candidate (log storage) := by
  unfold logIsUpToDate UpToDate
  rw [LawfulStorage.lastIndexTerm_eq]
  simp

/-- Reading the indices after `first` one by one yields the rest of the log. -/
theorem mapM_entry
    (storage : S)
    {first : Nat}
    (inside : first ≤ (log storage).length) :
    (List.range' (first + 1) ((log storage).length - first)).mapM
        (Storage.entry storage) = some ((log storage).drop first) := by
  obtain ⟨count, total⟩ : ∃ count, (log storage).length = first + count :=
    ⟨_, (Nat.add_sub_cancel' inside).symm⟩
  have remaining : (log storage).length - first = count := by omega
  rw [remaining]
  clear inside remaining
  induction count generalizing first with
  | zero =>
      have whole : (log storage).drop first = [] := by
        rw [List.drop_eq_nil_iff]
        omega
      rw [whole]
      rfl
  | succ count inductionHypothesis =>
      have present : first < (log storage).length := by omega
      have rest := @inductionHypothesis (first + 1) (by omega)
      rw [List.range'_succ, List.mapM_cons, entry_succ,
        List.getElem?_eq_getElem present, rest,
        List.drop_eq_getElem_cons present]
      rfl

/-- Reading a stretch of the log yields that stretch. -/
theorem filterMap_entry
    (storage : S)
    (first count : Nat) :
    (List.range' (first + 1) count).filterMap (Storage.entry storage) =
      ((log storage).drop first).take count := by
  induction count generalizing first with
  | zero => simp
  | succ count inductionHypothesis =>
      rw [List.range'_succ, List.filterMap_cons, entry_succ,
        inductionHypothesis (first + 1)]
      cases stored : (log storage)[first]? with
      | none =>
          have past := List.getElem?_eq_none_iff.mp stored
          rw [List.drop_eq_nil_of_le past, List.drop_eq_nil_of_le (by omega)]
          simp
      | some entry =>
          obtain ⟨inside, rfl⟩ := List.getElem?_eq_some_iff.mp stored
          rw [List.drop_eq_getElem_cons inside, List.take_succ_cons]

/-- Where the loop over a batch stops, and whether it cuts the log there. -/
theorem skipMatching_eq
    (storage : S)
    (prevLogIndex start appendFrom : Nat)
    (batch : List LogEntry)
    (nonempty : batch ≠ []) :
    RaftEngine.skipMatching storage prevLogIndex start appendFrom batch =
      (if matchLength ((log storage).drop (prevLogIndex + start)) batch <
            batch.length ∧
          prevLogIndex + start + matchLength
            ((log storage).drop (prevLogIndex + start)) batch <
              (log storage).length then
        Storage.truncateFrom storage (prevLogIndex + start + 1 + matchLength
          ((log storage).drop (prevLogIndex + start)) batch)
      else
        storage,
      start + matchLength ((log storage).drop (prevLogIndex + start)) batch) := by
  induction batch generalizing start appendFrom with
  | nil => contradiction
  | cons sent rest inductionHypothesis =>
      have position : prevLogIndex + 1 + start = prevLogIndex + start + 1 := by
        omega
      unfold RaftEngine.skipMatching
      simp only [position, entry_succ]
      cases stored : (log storage)[prevLogIndex + start]? with
      | none =>
          have past := List.getElem?_eq_none_iff.mp stored
          rw [List.drop_eq_nil_of_le past]
          simp [matchLength, Nat.not_lt.mpr past]
      | some existing =>
          obtain ⟨inside, atPosition⟩ := List.getElem?_eq_some_iff.mp stored
          rw [List.drop_eq_getElem_cons inside, atPosition]
          by_cases same : existing.term = sent.term
          · have skipped : matchLength (existing ::
                (log storage).drop (prevLogIndex + start + 1)) (sent :: rest) =
                matchLength ((log storage).drop (prevLogIndex + start + 1))
                  rest + 1 := if_pos same
            simp only [same, if_true, skipped]
            cases rest with
            | nil => simp [RaftEngine.skipMatching, matchLength]
            | cons next rest =>
                rw [inductionHypothesis (start + 1) (start + 1) (by simp)]
                simp only [← Nat.add_assoc, List.length_cons,
                  Nat.add_lt_add_iff_right]
                congr 1
                · simp only [Nat.add_right_comm _ 1]
                · omega
          · have skipped : matchLength (existing ::
                (log storage).drop (prevLogIndex + start + 1)) (sent :: rest) =
                0 := if_neg same
            simp [same, skipped, inside]

namespace RaftEngine

variable (self : RaftEngine S)

omit [LawfulStorage S] in
/-- Stepping down forgets everything about the own leadership, and enters a
later term without a vote. -/
theorem becomeFollower_eq
    (term : Nat)
    (leader : Option NodeId) :
    self.becomeFollower term leader =
      ({ self with
          storage :=
            if term > self.currentTerm then
              (Storage.persist self.storage
                (some { currentTerm := term, votedFor := none }) []).2
            else
              self.storage
          role := .follower
          leader := leader
          votes := ∅
          nextIndex := ∅
          matchIndex := ∅
          lastAe := ∅
          aeInflight := ∅ },
        [.becomeFollower term leader]) := by
  unfold becomeFollower
  split_ifs <;> rfl

/-- Two engines of one configuration that have committed and applied as far. -/
structure SameProgress (before after : RaftEngine S) : Prop where
  config : after.config = before.config
  membership : after.membership = before.membership
  commitIndex : after.commitIndex = before.commitIndex
  lastApplied : after.lastApplied = before.lastApplied

omit [LawfulStorage S] in
theorem becomeFollower_progress
    (term : Nat)
    (leader : Option NodeId) :
    SameProgress self (self.becomeFollower term leader).1 := by
  rw [becomeFollower_eq]
  exact ⟨rfl, rfl, rfl, rfl⟩

omit [LawfulStorage S] in
theorem enterTerm_progress (term : Nat) :
    SameProgress self (self.enterTerm term).1 := by
  unfold enterTerm
  split_ifs
  · exact self.becomeFollower_progress term none
  · exact ⟨rfl, rfl, rfl, rfl⟩

omit [LawfulStorage S] in
theorem follow_progress
    (term : Nat)
    (leaderId : NodeId)
    (now : Nat) :
    SameProgress self (self.follow term leaderId now).1 := by
  have stepped := self.becomeFollower_progress term (some leaderId)
  unfold follow
  split_ifs
  · exact ⟨stepped.config, stepped.membership, stepped.commitIndex,
      stepped.lastApplied⟩
  · exact ⟨stepped.config, stepped.membership, stepped.commitIndex,
      stepped.lastApplied⟩
  · exact ⟨rfl, rfl, rfl, rfl⟩

theorem prevOk_iff
    {prevLogIndex prevLogTerm : Nat} :
    self.prevOk prevLogIndex prevLogTerm = true ↔
      PrevTerm (log self.storage) prevLogIndex prevLogTerm := by
  unfold prevOk PrevTerm
  cases prevLogIndex with
  | zero => simp
  | succ position =>
      simp only [entry_succ, Nat.succ_ne_zero, if_false, false_and, false_or,
        Nat.add_sub_cancel, Nat.succ_pos, true_and]
      cases stored : (log self.storage)[position]? with
      | none => simp
      | some entry => simp

/-- How many entries of a batch are skipped. -/
def skipped (prevLogIndex : Nat) (entries : List LogEntry) : Nat :=
  matchLength ((log self.storage).drop prevLogIndex) entries

/-- The storage after the loop over a batch. -/
def cutConflict (prevLogIndex : Nat) (entries : List LogEntry) : S :=
  (skipMatching self.storage prevLogIndex 0 0 entries).1

theorem skipped_le
    (prevLogIndex : Nat)
    (entries : List LogEntry) :
    self.skipped prevLogIndex entries ≤ entries.length :=
  matchLength_le _ _

/-- A batch of which something is left to write cuts the log behind what was
skipped. -/
theorem log_cutConflict
    (prevLogIndex : Nat)
    (entries : List LogEntry) :
    log (self.cutConflict prevLogIndex entries) =
      if self.skipped prevLogIndex entries < entries.length then
        (log self.storage).take (prevLogIndex + self.skipped prevLogIndex entries)
      else
        log self.storage := by
  unfold cutConflict
  cases entries with
  | nil => simp [skipMatching]
  | cons sent rest =>
      rw [skipMatching_eq _ _ _ _ _ (by simp)]
      simp only [Nat.add_zero]
      by_cases remains : self.skipped prevLogIndex (sent :: rest) <
          (sent :: rest).length
      · rw [if_pos remains]
        by_cases inside : prevLogIndex +
            self.skipped prevLogIndex (sent :: rest) < (log self.storage).length
        · rw [if_pos ⟨remains, inside⟩, LawfulStorage.log_truncateFrom]
          congr 1
          unfold skipped
          omega
        · rw [if_neg fun both => inside both.2, List.take_of_length_le]
          omega
      · rw [if_neg remains, if_neg fun both => remains both.1]

theorem hardState_cutConflict
    (prevLogIndex : Nat)
    (entries : List LogEntry) :
    Storage.hardState (self.cutConflict prevLogIndex entries) =
      Storage.hardState self.storage := by
  unfold cutConflict
  cases entries with
  | nil => rfl
  | cons sent rest =>
      rw [skipMatching_eq _ _ _ _ _ (by simp)]
      simp only
      split_ifs
      · rw [LawfulStorage.hardState_truncateFrom]
      · rfl

/-- Storing a batch writes the entries that were not skipped. -/
theorem storeEntries_eq
    (prevLogIndex : Nat)
    (entries : List LogEntry) :
    self.storeEntries prevLogIndex entries =
      { self with
        storage :=
          if self.skipped prevLogIndex entries < entries.length then
            (Storage.persist (self.cutConflict prevLogIndex entries) none
              (entries.drop (self.skipped prevLogIndex entries))).2
          else
            self.cutConflict prevLogIndex entries } := by
  unfold storeEntries cutConflict
  cases entries with
  | nil => simp [skipMatching]
  | cons sent rest =>
      have stops : (skipMatching self.storage prevLogIndex 0 0
          (sent :: rest)).2 = self.skipped prevLogIndex (sent :: rest) := by
        rw [skipMatching_eq _ _ _ _ _ (by simp)]
        simp [skipped]
      simp only [stops]
      split_ifs
      · rfl
      · rfl

/-- A consecutive batch behind a known position is spliced into the log, as
long as the storage takes it. -/
theorem storeEntries_log
    {prevLogIndex : Nat}
    {entries : List LogEntry}
    (inside : prevLogIndex ≤ (log self.storage).length)
    (consecutive : Consecutive (prevLogIndex + 1) entries)
    (taken : self.skipped prevLogIndex entries < entries.length →
      (Storage.persist (self.cutConflict prevLogIndex entries) none
        (entries.drop (self.skipped prevLogIndex entries))).1 = .ok ()) :
    Storage.hardState (self.storeEntries prevLogIndex entries).storage =
        Storage.hardState self.storage ∧
      log (self.storeEntries prevLogIndex entries).storage =
        splice (log self.storage) prevLogIndex entries := by
  have bounded := self.skipped_le prevLogIndex entries
  have cut := self.log_cutConflict prevLogIndex entries
  have kept := self.hardState_cutConflict prevLogIndex entries
  rw [storeEntries_eq]
  unfold splice
  rw [show matchLength ((log self.storage).drop prevLogIndex) entries =
    self.skipped prevLogIndex entries from rfl]
  by_cases remains : self.skipped prevLogIndex entries < entries.length
  · have reaches : self.skipped prevLogIndex entries ≤
        (log self.storage).length - prevLogIndex := by
      have stored := matchLength_le_left
        ((log self.storage).drop prevLogIndex) entries
      rwa [List.length_drop] at stored
    rw [if_pos remains] at cut
    simp only [if_pos remains]
    have tail := consecutive.drop (self.skipped prevLogIndex entries)
    have cutLength : (log (self.cutConflict prevLogIndex entries)).length =
        prevLogIndex + self.skipped prevLogIndex entries := by
      rw [cut, List.length_take]
      omega
    obtain ⟨sameHard, written⟩ := LawfulStorage.persist_ok _ none _ _ _
      (Prod.ext (taken remains) rfl) tail (by omega) (by omega)
    refine ⟨by rw [sameHard, kept]; rfl, ?_⟩
    rw [written, if_neg, if_neg (Nat.ne_of_lt remains), cut]
    · congr 1
      rw [List.take_take]
      congr 1
      omega
    · rw [List.drop_eq_nil_iff]
      omega
  · rw [if_neg remains] at cut
    simp only [if_neg remains]
    exact ⟨kept, by rw [cut, if_pos (by omega)]⟩

/-- The AppendEntries for a peer carries the whole log behind its previous
index. -/
theorem buildAppendEntries_some
    {target : NodeId}
    {msg : RaftMessage}
    {prev len : Nat}
    (built : self.buildAppendEntries target = some (msg, prev, len)) :
    ∃ prevTerm, PrevTerm (log self.storage) prev prevTerm ∧
      self.nextIndex.lookup target = some (prev + 1) ∧
      len = ((log self.storage).drop prev).length ∧
      msg = .appendEntries self.currentTerm self.config.nodeId prev prevTerm
        ((log self.storage).drop prev) self.commitIndex := by
  unfold buildAppendEntries at built
  simp only [Option.bind_eq_bind, Option.bind_eq_some_iff] at built
  obtain ⟨next, nextEq, built⟩ := built
  have read : ∃ prevTerm, (next - 1 = 0 ∧ prevTerm = 0 ∨ 0 < next - 1 ∧
        (Storage.entry self.storage (next - 1)).map LogEntry.term =
          some prevTerm) ∧
      ∃ entries, (List.range' next ((log self.storage).length + 1 - next)).mapM
          (Storage.entry self.storage) = some entries ∧
        .appendEntries self.currentTerm self.config.nodeId (next - 1) prevTerm
          entries self.commitIndex = msg ∧
        next - 1 = prev ∧ entries.length = len := by
    rw [← lastIndexTerm_fst]
    split_ifs at built with first
    · simp only [Option.bind_some, Option.bind_eq_some_iff, Option.some.injEq,
        Prod.mk.injEq] at built
      exact ⟨0, .inl ⟨first, rfl⟩, built⟩
    · simp only [Option.bind_eq_some_iff, Option.some.injEq,
        Prod.mk.injEq] at built
      obtain ⟨prevTerm, prevTermEq, rest⟩ := built
      exact ⟨prevTerm, .inr ⟨by omega, prevTermEq⟩, rest⟩
  obtain ⟨prevTerm, prevTermEq, entries, entriesEq, rfl, rfl, rfl⟩ := read
  cases next with
  | zero =>
      rw [Nat.sub_zero, List.range'_succ, List.mapM_cons,
        LawfulStorage.entry_eq] at entriesEq
      simp at entriesEq
  | succ position =>
      rw [Nat.add_sub_cancel] at prevTermEq ⊢
      have known : PrevTerm (log self.storage) position prevTerm := by
        refine prevTermEq.imp id ?_
        rintro ⟨positive, termEq⟩
        rw [LawfulStorage.entry_eq, if_neg (by omega),
          Option.map_eq_some_iff] at termEq
        obtain ⟨entry, stored, same⟩ := termEq
        exact ⟨entry, positive, stored, same⟩
      rw [Nat.add_sub_add_right, mapM_entry _ known.le_length,
        Option.some.injEq] at entriesEq
      subst entriesEq
      exact ⟨prevTerm, known, nextEq, rfl, rfl⟩

omit [LawfulStorage S] in
/-- Either nothing happens, or one AppendEntries goes out and takes the slot of
the peer. -/
theorem sendAppendEntriesTo_cases (target : NodeId) :
    self.sendAppendEntriesTo target = (self, none) ∨
      ∃ msg prev len, target ∉ self.aeInflight ∧
        self.buildAppendEntries target = some (msg, prev, len) ∧
        self.sendAppendEntriesTo target =
          ({ self with
              lastAe := self.lastAe.insert target (prev, len)
              aeInflight := insert target self.aeInflight },
            some (.send target msg)) := by
  unfold sendAppendEntriesTo
  split_ifs with taken
  · exact .inl rfl
  · cases built : self.buildAppendEntries target with
    | none => exact .inl rfl
    | some request =>
        exact .inr ⟨request.1, request.2.1, request.2.2, taken, rfl, rfl⟩

omit [LawfulStorage S] in
/-- Sending touches only the records of what is outstanding. -/
theorem sendAppendEntriesTo_frame (target : NodeId) :
    ∃ lastAe aeInflight, (self.sendAppendEntriesTo target).1 =
      { self with lastAe := lastAe, aeInflight := aeInflight } := by
  rcases self.sendAppendEntriesTo_cases target with
    idle | ⟨msg, prev, len, -, -, sent⟩
  · exact ⟨self.lastAe, self.aeInflight, by rw [idle]⟩
  · exact ⟨_, _, by rw [sent]⟩

omit [LawfulStorage S] in
theorem sendAppendEntriesToAll_frame (peers : List NodeId) :
    ∃ lastAe aeInflight, (self.sendAppendEntriesToAll peers).1 =
      { self with lastAe := lastAe, aeInflight := aeInflight } := by
  induction peers generalizing self with
  | nil => exact ⟨self.lastAe, self.aeInflight, rfl⟩
  | cons peer peers inductionHypothesis =>
      obtain ⟨_, _, first⟩ := self.sendAppendEntriesTo_frame peer
      obtain ⟨lastAe, aeInflight, rest⟩ :=
        inductionHypothesis (self.sendAppendEntriesTo peer).1
      refine ⟨lastAe, aeInflight, ?_⟩
      simp only [sendAppendEntriesToAll, rest]
      rw [first]

omit [LawfulStorage S] in
/-- Replicating touches only the records of what is outstanding. -/
theorem replicateActions_frame :
    ∃ lastAe aeInflight, self.replicateActions.1 =
      { self with lastAe := lastAe, aeInflight := aeInflight } :=
  self.sendAppendEntriesToAll_frame self.otherVoters

omit [LawfulStorage S] in
theorem sendAppendEntriesTo_built
    {target : NodeId}
    {action : Action}
    (sent : action ∈ (self.sendAppendEntriesTo target).2.toList) :
    ∃ msg prev len,
      self.buildAppendEntries target = some (msg, prev, len) ∧
      action = .send target msg := by
  rcases self.sendAppendEntriesTo_cases target with
    idle | ⟨msg, prev, len, -, built, applied⟩
  · simp [idle] at sent
  · rw [applied] at sent
    exact ⟨msg, prev, len, built, by simpa using sent⟩

omit [LawfulStorage S] in
/-- Everything sent was built from the state before. -/
theorem sendAppendEntriesToAll_built
    {peers : List NodeId}
    {action : Action}
    (sent : action ∈ (self.sendAppendEntriesToAll peers).2) :
    ∃ target ∈ peers, ∃ msg prev len,
      self.buildAppendEntries target = some (msg, prev, len) ∧
      action = .send target msg := by
  induction peers generalizing self with
  | nil => simp [sendAppendEntriesToAll] at sent
  | cons peer peers inductionHypothesis =>
      simp only [sendAppendEntriesToAll, List.mem_append] at sent
      rcases sent with here | later
      · exact ⟨peer, List.mem_cons_self, self.sendAppendEntriesTo_built here⟩
      · obtain ⟨target, inside, msg, prev, len, built, rfl⟩ :=
          inductionHypothesis _ later
        obtain ⟨lastAe, aeInflight, frame⟩ := self.sendAppendEntriesTo_frame peer
        refine ⟨target, List.mem_cons_of_mem _ inside, msg, prev, len, ?_, rfl⟩
        rw [frame] at built
        exact built

/-- The commit index moves up to what both bounds allow, and the entries behind
`last_applied` are handed over. -/
theorem advanceCommitAndApply_eq (leaderCommit lastNew : Nat) :
    self.advanceCommitAndApply leaderCommit lastNew =
      ({ self with
          commitIndex := max self.commitIndex (min leaderCommit lastNew)
          lastApplied := max self.lastApplied
            (max self.commitIndex (min leaderCommit lastNew)) },
        if ((log self.storage).drop self.lastApplied).take
            (max self.commitIndex (min leaderCommit lastNew) -
              self.lastApplied) = [] then
          []
        else
          [.apply (((log self.storage).drop self.lastApplied).take
            (max self.commitIndex (min leaderCommit lastNew) -
              self.lastApplied))]) := by
  have moved : (if min leaderCommit lastNew > self.commitIndex then
        { self with commitIndex := min leaderCommit lastNew }
      else self) =
      { self with
        commitIndex := max self.commitIndex (min leaderCommit lastNew) } := by
    split_ifs with larger
    · rw [Nat.max_eq_right (Nat.le_of_lt larger)]
    · rw [Nat.max_eq_left (Nat.not_lt.mp larger)]
  unfold advanceCommitAndApply
  simp only [moved, filterMap_entry, List.isEmpty_iff]
  split_ifs with applied empty empty
  · simp [Nat.max_eq_left applied]
  · simp [Nat.sub_eq_zero_of_le applied] at empty
  · rw [Nat.max_eq_right (Nat.le_of_not_le applied)]
  · rw [Nat.max_eq_right (Nat.le_of_not_le applied)]

/-- Scanning down from the last index finds the greatest committable one. -/
theorem maybeCommit_eq :
    self.maybeCommit =
      match (List.range' (self.commitIndex + 1)
          ((log self.storage).length - self.commitIndex)).reverse.find?
            self.committable with
      | none => (self, [])
      | some index => self.advanceCommitAndApply index index := by
  unfold maybeCommit
  simp only [lastIndexTerm_fst, Nat.add_sub_add_right]
  cases found : (List.range' (self.commitIndex + 1)
      ((log self.storage).length - self.commitIndex)).reverse.find?
        self.committable with
  | none => simp
  | some index =>
      have inRange := List.mem_of_find?_eq_some found
      rw [List.mem_reverse, List.mem_range'_1] at inRange
      rw [Option.getD_some, if_neg (by omega), if_pos (by omega)]

/-- An index is committable if it holds an entry of the current term on a
quorum. -/
theorem committable_iff {index : Nat} :
    self.committable index = true ↔
      0 < index ∧ ∃ entry, (log self.storage)[index - 1]? = some entry ∧
        entry.term = self.currentTerm ∧
        self.membership.quorum ≤ self.replicationCount index := by
  unfold committable
  rw [LawfulStorage.entry_eq]
  cases index with
  | zero => simp
  | succ position =>
      cases stored : (log self.storage)[position]? with
      | none => simp [stored]
      | some entry => simp [stored]

/-- The leader commits nothing, or an index that holds an entry of its term on
a quorum. -/
theorem maybeCommit_cases :
    self.maybeCommit = (self, []) ∨
      ∃ index entry, self.commitIndex < index ∧
        index ≤ (log self.storage).length ∧
        (log self.storage)[index - 1]? = some entry ∧
        entry.term = self.currentTerm ∧
        self.membership.quorum ≤ self.replicationCount index ∧
        self.maybeCommit = self.advanceCommitAndApply index index := by
  rw [maybeCommit_eq]
  cases found : (List.range' (self.commitIndex + 1)
      ((log self.storage).length - self.commitIndex)).reverse.find?
        self.committable with
  | none => exact .inl rfl
  | some index =>
      have inRange := List.mem_of_find?_eq_some found
      rw [List.mem_reverse, List.mem_range'_1] at inRange
      obtain ⟨-, entry, stored, ownTerm, replicated⟩ :=
        self.committable_iff.mp (List.find?_some found)
      exact .inr ⟨index, entry, by omega, by omega, stored, ownTerm, replicated,
        rfl⟩

theorem maybeCommit_frame :
    ∃ commitIndex lastApplied, self.maybeCommit.1 =
      { self with commitIndex := commitIndex, lastApplied := lastApplied } := by
  rcases self.maybeCommit_cases with idle | ⟨index, entry, -, -, -, -, -, moved⟩
  · exact ⟨self.commitIndex, self.lastApplied, by rw [idle]⟩
  · exact ⟨_, _, by rw [moved, advanceCommitAndApply_eq]⟩

/-- The progress tables after a success. -/
def recordMatch (sender : NodeId) (matched : Nat) : RaftEngine S :=
  { self with
    matchIndex := self.matchIndex.insert sender
      (max ((self.matchIndex.lookup sender).getD 0) matched)
    nextIndex := self.nextIndex.insert sender (matched + 1) }

omit [LawfulStorage S] in
/-- A success is recorded, then the leader commits, then it sends on if there is
anything left. -/
theorem handleAppendSuccess_eq
    (sender : NodeId)
    (reqPrev reqLen : Nat) :
    self.handleAppendSuccess sender reqPrev reqLen =
      if ((self.recordMatch sender
            (reqPrev + reqLen)).maybeCommit.1.nextIndex.lookup sender).getD 1 ≤
          (Storage.lastIndexTerm (self.recordMatch sender
            (reqPrev + reqLen)).maybeCommit.1.storage).1 then
        (((self.recordMatch sender
            (reqPrev + reqLen)).maybeCommit.1.sendAppendEntriesTo sender).1,
          (self.recordMatch sender (reqPrev + reqLen)).maybeCommit.2 ++
          ((self.recordMatch sender
            (reqPrev + reqLen)).maybeCommit.1.sendAppendEntriesTo
              sender).2.toList)
      else
        (self.recordMatch sender (reqPrev + reqLen)).maybeCommit := rfl

omit [LawfulStorage S] in
theorem handleAppendSuccess_cases
    (sender : NodeId)
    (reqPrev reqLen : Nat) :
    self.handleAppendSuccess sender reqPrev reqLen =
        (self.recordMatch sender (reqPrev + reqLen)).maybeCommit ∨
      self.handleAppendSuccess sender reqPrev reqLen =
        (((self.recordMatch sender
            (reqPrev + reqLen)).maybeCommit.1.sendAppendEntriesTo sender).1,
          (self.recordMatch sender (reqPrev + reqLen)).maybeCommit.2 ++
          ((self.recordMatch sender
            (reqPrev + reqLen)).maybeCommit.1.sendAppendEntriesTo
              sender).2.toList) := by
  rw [handleAppendSuccess_eq]
  split_ifs
  · exact .inr rfl
  · exact .inl rfl

/-- The progress tables after a reject of the latest request. -/
def stepBack (sender : NodeId) (reqPrev : Nat) : RaftEngine S :=
  { self with
    nextIndex := self.nextIndex.insert sender
      (max (reqPrev - 1) ((self.matchIndex.lookup sender).getD 0) + 1) }

omit [LawfulStorage S] in
/-- A reject steps back and tries again, unless it is stale. -/
theorem handleAppendReject_eq
    (sender : NodeId)
    (reqPrev : Nat) :
    self.handleAppendReject sender reqPrev =
      if (self.nextIndex.lookup sender).getD 1 = reqPrev + 1 then
        (((self.stepBack sender reqPrev).sendAppendEntriesTo sender).1,
          ((self.stepBack sender reqPrev).sendAppendEntriesTo sender).2.toList)
      else
        (self, []) := by
  unfold handleAppendReject
  simp only [ne_eq, ite_not]
  split_ifs with latest
  · have back : max (max ((self.nextIndex.lookup sender).getD 1 - 1)
        ((self.matchIndex.lookup sender).getD 0 + 1)) 1 =
          max (reqPrev - 1) ((self.matchIndex.lookup sender).getD 0) + 1 := by
      omega
    rw [back]
    rfl
  · rfl

omit [LawfulStorage S] in
/-- A reject is ignored, or the next index steps back and a new request may go
out. -/
theorem handleAppendReject_cases
    (sender : NodeId)
    (reqPrev : Nat) :
    self.handleAppendReject sender reqPrev = (self, []) ∨
      ∃ next, self.handleAppendReject sender reqPrev =
        (({ self with
            nextIndex := self.nextIndex.insert sender
              next }.sendAppendEntriesTo sender).1,
          ({ self with
            nextIndex := self.nextIndex.insert sender
              next }.sendAppendEntriesTo sender).2.toList) := by
  rw [handleAppendReject_eq]
  split_ifs
  · exact .inr ⟨_, rfl⟩
  · exact .inl rfl

/-- A success touches only the progress of the leader. -/
theorem handleAppendSuccess_frame
    (sender : NodeId)
    (reqPrev reqLen : Nat) :
    ∃ matchIndex nextIndex lastAe aeInflight commitIndex lastApplied,
      (self.handleAppendSuccess sender reqPrev reqLen).1 =
        { self with
          matchIndex := matchIndex
          nextIndex := nextIndex
          lastAe := lastAe
          aeInflight := aeInflight
          commitIndex := commitIndex
          lastApplied := lastApplied } := by
  obtain ⟨_, _, committed⟩ :=
    (self.recordMatch sender (reqPrev + reqLen)).maybeCommit_frame
  rcases self.handleAppendSuccess_cases sender reqPrev reqLen with done | sent
  · rw [done, committed]
    exact ⟨_, _, _, _, _, _, rfl⟩
  · obtain ⟨_, _, frame⟩ := ((self.recordMatch sender
      (reqPrev + reqLen)).maybeCommit.1).sendAppendEntriesTo_frame sender
    rw [sent, frame, committed]
    exact ⟨_, _, _, _, _, _, rfl⟩

/-- A success puts the tables behind the recorded request. -/
theorem handleAppendSuccess_tables
    (sender : NodeId)
    (reqPrev reqLen : Nat) :
    (self.handleAppendSuccess sender reqPrev reqLen).1.nextIndex =
        self.nextIndex.insert sender (reqPrev + reqLen + 1) ∧
      (self.handleAppendSuccess sender reqPrev reqLen).1.matchIndex =
        self.matchIndex.insert sender
          (max ((self.matchIndex.lookup sender).getD 0) (reqPrev + reqLen)) := by
  obtain ⟨_, _, committed⟩ :=
    (self.recordMatch sender (reqPrev + reqLen)).maybeCommit_frame
  rcases self.handleAppendSuccess_cases sender reqPrev reqLen with done | sent
  · rw [done, committed]
    exact ⟨rfl, rfl⟩
  · obtain ⟨_, _, frame⟩ := ((self.recordMatch sender
      (reqPrev + reqLen)).maybeCommit.1).sendAppendEntriesTo_frame sender
    rw [sent, frame, committed]
    exact ⟨rfl, rfl⟩

omit [LawfulStorage S] in
/-- A reject touches only the next indices and what is outstanding. -/
theorem handleAppendReject_frame
    (sender : NodeId)
    (reqPrev : Nat) :
    ∃ nextIndex lastAe aeInflight,
      (self.handleAppendReject sender reqPrev).1 =
        { self with
          nextIndex := nextIndex
          lastAe := lastAe
          aeInflight := aeInflight } := by
  rcases self.handleAppendReject_cases sender reqPrev with ignored | ⟨next, sent⟩
  · rw [ignored]
    exact ⟨_, _, _, rfl⟩
  · obtain ⟨_, _, frame⟩ := sendAppendEntriesTo_frame
      { self with nextIndex := self.nextIndex.insert sender next } sender
    rw [sent, frame]
    exact ⟨_, _, _, rfl⟩

end RaftEngine

end

end Libp2pRaft
