import Libp2pRaft.Library.SendWindow
import Libp2pRaft.Raft.CommitIndex
import Libp2pRaft.Raft.Feedback

/-!
# The progress tables of a leader

A leader keeps a send window on every other voter, spread over `next_index`,
`match_index` and `last_ae`.  Whatever is called, the windows of a leader fit
its log, so it can always build the AppendEntries for a voter.
-/

namespace Libp2pRaft

open Consensus TransitionSystem

namespace RaftEngine

section

variable {S : Type} [Storage S]

/-- The tables hold a window on a peer. -/
structure Tracks
    (engine : RaftEngine S)
    (peer : NodeId)
    (window : Window) : Prop where
  next : engine.nextIndex.lookup peer = some window.next
  matched : engine.matchIndex.lookup peer = some window.matched
  batch : engine.lastAe.lookup peer = window.batch

/-- The tables hold nothing about a peer. -/
structure Untracked
    (engine : RaftEngine S)
    (peer : NodeId) : Prop where
  next : engine.nextIndex.lookup peer = none
  matched : engine.matchIndex.lookup peer = none
  batch : engine.lastAe.lookup peer = none

/-- The tables hold a window on every other voter, which fits the log, and
nothing about anyone else. -/
structure Tabled [LawfulStorage S] (engine : RaftEngine S) : Prop where
  tracked : ∀ peer ∈ engine.otherVoters, ∃ window, engine.Tracks peer window ∧
    window.Fits (LawfulStorage.log engine.storage).length
  untracked : ∀ peer, peer ∉ engine.otherVoters → engine.Untracked peer

variable [LawfulStorage S]

open LawfulStorage (log)

/-- Nothing happens to an engine but moves of its windows. -/
structure Carries (before after : RaftEngine S) : Prop where
  sameStorage : after.storage = before.storage
  sameOthers : after.otherVoters = before.otherVoters
  moved : ∀ peer window, before.Tracks peer window → ∃ later,
    after.Tracks peer later ∧ Moves (log before.storage).length window later
  untouched : ∀ peer, before.Untracked peer → after.Untracked peer

/-- An engine with the same tables and the same log. -/
theorem Carries.of_tables
    {before after : RaftEngine S}
    (sameStorage : after.storage = before.storage)
    (sameOthers : after.otherVoters = before.otherVoters)
    (sameNext : after.nextIndex = before.nextIndex)
    (sameMatch : after.matchIndex = before.matchIndex)
    (sameLast : after.lastAe = before.lastAe) :
    Carries before after where
  sameStorage := sameStorage
  sameOthers := sameOthers
  moved := by
    intro peer window tracks
    refine ⟨window, ⟨?_, ?_, ?_⟩, .refl⟩
    · rw [sameNext, tracks.next]
    · rw [sameMatch, tracks.matched]
    · rw [sameLast, tracks.batch]
  untouched := by
    intro peer untracked
    refine ⟨?_, ?_, ?_⟩
    · rw [sameNext, untracked.next]
    · rw [sameMatch, untracked.matched]
    · rw [sameLast, untracked.batch]

theorem Carries.refl (self : RaftEngine S) : Carries self self :=
  .of_tables rfl rfl rfl rfl rfl

theorem Carries.trans
    {first second third : RaftEngine S}
    (earlier : Carries first second)
    (later : Carries second third) :
    Carries first third where
  sameStorage := later.sameStorage.trans earlier.sameStorage
  sameOthers := later.sameOthers.trans earlier.sameOthers
  moved := by
    intro peer window tracks
    obtain ⟨between, tracked, moved⟩ := earlier.moved peer window tracks
    obtain ⟨last, isLast, further⟩ := later.moved peer between tracked
    rw [earlier.sameStorage] at further
    exact ⟨last, isLast, moved.trans further⟩
  untouched := by
    intro peer untracked
    exact later.untouched peer (earlier.untouched peer untracked)

/-- Windows that moved still fit. -/
theorem Carries.tabled
    {before after : RaftEngine S}
    (carries : Carries before after)
    (tabled : before.Tabled) :
    after.Tabled where
  tracked := by
    intro peer inside
    rw [carries.sameOthers] at inside
    obtain ⟨window, tracks, fits⟩ := tabled.tracked peer inside
    obtain ⟨later, tracked, moves⟩ := carries.moved peer window tracks
    refine ⟨later, tracked, ?_⟩
    rw [carries.sameStorage]
    exact moves.fits fits
  untracked := by
    intro peer outside
    rw [carries.sameOthers] at outside
    exact carries.untouched peer (tabled.untracked peer outside)

variable (self : RaftEngine S)

/-! ## What the operations do to the windows -/

/-- Sending records the rest of the log behind the next index. -/
theorem sendAppendEntriesTo_carries (target : NodeId) :
    Carries self (self.sendAppendEntriesTo target).1 := by
  rcases self.sendAppendEntriesTo_cases target with
    idle | ⟨msg, prev, len, -, built, sent⟩
  · rw [idle]
    exact .refl self
  · obtain ⟨prevTerm, -, nextEq, lenEq, -⟩ := self.buildAppendEntries_some built
    rw [sent]
    refine ⟨rfl, rfl, ?_, ?_⟩
    · intro peer window tracks
      by_cases same : peer = target
      · subst same
        have next : window.next = prev + 1 := by
          rw [← Option.some.injEq, ← tracks.next, nextEq]
        refine ⟨_, ?_, .single .send⟩
        refine ⟨tracks.next, tracks.matched, ?_⟩
        rw [AList.lookup_insert, next, lenEq, List.length_drop,
          Nat.add_sub_cancel]
      · refine ⟨window, ⟨tracks.next, tracks.matched, ?_⟩, .refl⟩
        rw [AList.lookup_insert_ne same]
        exact tracks.batch
    · intro peer untracked
      have different : peer ≠ target := by
        rintro rfl
        rw [untracked.next] at nextEq
        contradiction
      refine ⟨untracked.next, untracked.matched, ?_⟩
      rw [AList.lookup_insert_ne different]
      exact untracked.batch

theorem sendAppendEntriesToAll_carries (peers : List NodeId) :
    Carries self (self.sendAppendEntriesToAll peers).1 := by
  induction peers generalizing self with
  | nil => exact .refl self
  | cons peer peers inductionHypothesis =>
      exact (self.sendAppendEntriesTo_carries peer).trans
        (inductionHypothesis (self.sendAppendEntriesTo peer).1)

/-- A success moves the window of its sender behind the recorded request. -/
theorem recordMatch_carries
    {sender : NodeId}
    {prev len : Nat}
    (recorded : self.lastAe.lookup sender = some (prev, len)) :
    Carries self (self.recordMatch sender (prev + len)) := by
  refine ⟨rfl, rfl, ?_, ?_⟩
  · intro peer window tracks
    by_cases same : peer = sender
    · subst same
      have sent := tracks.batch.symm.trans recorded
      refine ⟨_, ?_, .single (.acknowledge prev len sent)⟩
      refine ⟨AList.lookup_insert _, ?_, tracks.batch⟩
      simp [recordMatch, tracks.matched]
    · refine ⟨window, ⟨?_, ?_, tracks.batch⟩, .refl⟩
      · exact (AList.lookup_insert_ne same).trans tracks.next
      · exact (AList.lookup_insert_ne same).trans tracks.matched
  · intro peer untracked
    have different : peer ≠ sender := by
      rintro rfl
      rw [untracked.batch] at recorded
      contradiction
    refine ⟨?_, ?_, untracked.batch⟩
    · exact (AList.lookup_insert_ne different).trans untracked.next
    · exact (AList.lookup_insert_ne different).trans untracked.matched

theorem maybeCommit_carries : Carries self self.maybeCommit.1 := by
  obtain ⟨_, _, frame⟩ := self.maybeCommit_frame
  rw [frame]
  exact .of_tables rfl rfl rfl rfl rfl

theorem handleAppendSuccess_carries
    {sender : NodeId}
    {prev len : Nat}
    (recorded : self.lastAe.lookup sender = some (prev, len)) :
    Carries self (self.handleAppendSuccess sender prev len).1 := by
  have committed := (self.recordMatch_carries recorded).trans
    (self.recordMatch sender (prev + len)).maybeCommit_carries
  rcases self.handleAppendSuccess_cases sender prev len with done | sent
  · rw [done]
    exact committed
  · rw [sent]
    exact committed.trans (sendAppendEntriesTo_carries _ sender)

/-- A reject moves the window of its sender back, unless it is stale. -/
theorem handleAppendReject_carries
    {sender : NodeId}
    {prev len : Nat}
    (recorded : self.lastAe.lookup sender = some (prev, len)) :
    Carries self (self.handleAppendReject sender prev).1 := by
  rw [handleAppendReject_eq]
  split_ifs with latest
  · apply Carries.trans _
      ((self.stepBack sender prev).sendAppendEntriesTo_carries sender)
    refine ⟨rfl, rfl, ?_, ?_⟩
    · intro peer window tracks
      by_cases same : peer = sender
      · subst same
        have next : window.next = prev + 1 := by
          rw [← latest, tracks.next]
          rfl
        have sent := tracks.batch.symm.trans recorded
        refine ⟨_, ?_, .single (.refuse prev len sent next)⟩
        refine ⟨?_, tracks.matched, tracks.batch⟩
        simp [stepBack, tracks.matched]
      · refine ⟨window, ⟨?_, tracks.matched, tracks.batch⟩, .refl⟩
        exact (AList.lookup_insert_ne same).trans tracks.next
    · intro peer untracked
      have different : peer ≠ sender := by
        rintro rfl
        rw [untracked.batch] at recorded
        contradiction
      refine ⟨?_, untracked.matched, untracked.batch⟩
      exact (AList.lookup_insert_ne different).trans untracked.next
  · exact .refl self

end

/-! ## Every call of a leader -/

section

variable {self : MemoryEngine} {call : Call}
  {result : MemoryEngine × List Action}

/-- A proposed command leaves the windows as they are. -/
theorem appendCommand_tabled
    (self : MemoryEngine)
    (data : List UInt8)
    (tabled : self.Tabled) :
    (self.appendCommand data).Tabled := by
  have grown : self.storage.entries.length ≤
      (self.appendCommand data).storage.entries.length := by
    have appended := congrArg View.log (self.view_appendCommand data)
    simp only [view_log] at appended
    rw [appended, List.length_append]
    exact Nat.le_add_right _ _
  refine ⟨?_, ?_⟩
  · intro peer inside
    obtain ⟨window, tracks, fits⟩ := tabled.tracked peer inside
    exact ⟨window, ⟨tracks.next, tracks.matched, tracks.batch⟩,
      fits.grow grown⟩
  · intro peer outside
    have untracked := tabled.untracked peer outside
    exact ⟨untracked.next, untracked.matched, untracked.batch⟩

/-- A new leader knows nothing about its peers. -/
theorem becomeLeader_tracks
    (self : MemoryEngine)
    (term now : Nat)
    {peer : NodeId}
    (inside : peer ∈ self.otherVoters) :
    (self.becomeLeader term now).1.Tracks peer
      (Window.opened self.storage.entries.length) := by
  have next := lookup_fill self.otherVoters
    ((Storage.lastIndexTerm self.storage).1 + 1) ∅ peer
  have matched := lookup_fill self.otherVoters 0 ∅ peer
  rw [if_pos inside] at next matched
  refine ⟨next.trans ?_, matched, rfl⟩
  rw [lastIndexTerm_fst]
  rfl

/-- A new leader keeps no window on anyone else. -/
theorem becomeLeader_tabled
    (self : MemoryEngine)
    (term now : Nat) :
    (self.becomeLeader term now).1.Tabled := by
  refine ⟨?_, ?_⟩
  · intro peer inside
    exact ⟨_, self.becomeLeader_tracks term now inside, Window.opened_fits _⟩
  · intro peer outside
    have filled : ∀ value, (self.otherVoters.foldl
        (fun map voter => map.insert voter value)
          (∅ : HashMap NodeId Nat)).lookup peer = none := by
      intro value
      rw [lookup_fill]
      exact if_neg outside
    exact ⟨filled _, filled 0, rfl⟩

/-- The windows of a leader that stays leader only move, behind a command it may
have appended. -/
theorem Outcome.carries
    (outcome : Outcome self call result)
    (led : self.role = .leader)
    (leading : result.1.role = .leader) :
    Carries self result.1 ∨
      ∃ data, call = .propose data ∧
        Carries (self.appendCommand data) result.1 := by
  cases outcome.leaderCall led leading with
  | idle => exact .inl (.refl self)
  | heartbeat now =>
      have replicated := self.sendAppendEntriesToAll_carries self.otherVoters
      exact .inl (replicated.trans (.of_tables rfl rfl rfl rfl rfl))
  | proposed data =>
      exact .inr ⟨data, rfl, sendAppendEntriesToAll_carries _ _⟩
  | failed => exact .inl (.of_tables rfl rfl rfl rfl rfl)
  | matched sender matchIndex now reqPrev reqLen recorded =>
      have freed : Carries self
          { self with aeInflight := self.aeInflight.erase sender } :=
        .of_tables rfl rfl rfl rfl rfl
      exact .inl (freed.trans (handleAppendSuccess_carries _ recorded))
  | unmatched sender matchIndex now reqPrev reqLen recorded =>
      have freed : Carries self
          { self with aeInflight := self.aeInflight.erase sender } :=
        .of_tables rfl rfl rfl rfl rfl
      exact .inl (freed.trans (handleAppendReject_carries _ recorded))

/-- The tables of every leader hold a window on every other voter. -/
theorem Outcome.tabled
    (outcome : Outcome self call result)
    (before : self.role = .leader → self.Tabled)
    (leading : result.1.role = .leader) :
    result.1.Tabled := by
  by_cases led : self.role = .leader
  · rcases outcome.carries led leading with moved | ⟨data, -, moved⟩
    · exact moved.tabled (before led)
    · exact moved.tabled (self.appendCommand_tabled data (before led))
  · obtain ⟨sender, now, -, -, -, elected⟩ := outcome.elected_of led leading
    rw [elected]
    exact becomeLeader_tabled _ _ _

/-- A leader that stays leader never learns less about a peer. -/
theorem Outcome.matchIndex_le
    (outcome : Outcome self call result)
    (led : self.role = .leader)
    (leading : result.1.role = .leader)
    (tabled : self.Tabled)
    (peer : NodeId) :
    (self.matchIndex.lookup peer).getD 0 ≤
      (result.1.matchIndex.lookup peer).getD 0 := by
  have carried : ∀ base : MemoryEngine, base.matchIndex = self.matchIndex →
      base.Tabled → Carries base result.1 →
      (self.matchIndex.lookup peer).getD 0 ≤
        (result.1.matchIndex.lookup peer).getD 0 := by
    intro base sameMatch tabled carries
    rw [← sameMatch]
    by_cases inside : peer ∈ base.otherVoters
    · obtain ⟨window, tracks, -⟩ := tabled.tracked peer inside
      obtain ⟨later, tracked, moves⟩ := carries.moved peer window tracks
      rw [tracks.matched, tracked.matched]
      exact moves.matched_le
    · rw [(tabled.untracked peer inside).matched]
      exact Nat.zero_le _
  rcases outcome.carries led leading with moved | ⟨data, -, moved⟩
  · exact carried self rfl tabled moved
  · exact carried (self.appendCommand data) rfl (self.appendCommand_tabled data tabled) moved

/-- No match is behind the end of the log. -/
theorem Tabled.matchIndex_le
    (tabled : self.Tabled)
    (peer : NodeId) :
    (self.matchIndex.lookup peer).getD 0 ≤ self.storage.entries.length := by
  by_cases inside : peer ∈ self.otherVoters
  · obtain ⟨window, tracks, fits⟩ := tabled.tracked peer inside
    rw [tracks.matched]
    exact fits.matched_le
  · rw [(tabled.untracked peer inside).matched]
    exact Nat.zero_le _

/-- After a success the next index is right behind the match index. -/
theorem success_closes
    (tabled : self.Tabled)
    (leading : self.role = .leader)
    {sender : NodeId}
    {request : Nat × Nat}
    (recorded : self.lastAe.lookup sender = some request)
    (matchIndex now : Nat) :
    ∃ matched,
      (self.call (.rpc sender (.appendEntriesResp self.currentTerm true
        matchIndex) now)).1.matchIndex.lookup sender = some matched ∧
      (self.call (.rpc sender (.appendEntriesResp self.currentTerm true
        matchIndex) now)).1.nextIndex.lookup sender = some (matched + 1) := by
  have inside : sender ∈ self.otherVoters := by
    by_contra outside
    rw [(tabled.untracked sender outside).batch] at recorded
    contradiction
  obtain ⟨window, tracks, fits⟩ := tabled.tracked sender inside
  have covered := fits.matched_acknowledged (tracks.batch.symm.trans recorded)
  have tables := handleAppendSuccess_tables
    { self with aeInflight := self.aeInflight.erase sender } sender request.1
      request.2
  rw [self.call_of_success leading recorded, tables.1, tables.2]
  refine ⟨request.1 + request.2, ?_, AList.lookup_insert _⟩
  rw [AList.lookup_insert, tracks.matched, Option.getD_some, covered]

end

/-! ## Runs -/

/-- What the tables of a leader are to say about the other voters. -/
structure ProgressSound
    (others : List NodeId)
    (engine : MemoryEngine) : Prop where
  nextKeys : ∀ peer, peer ∈ engine.nextIndex ↔ peer ∈ others
  matchKeys : ∀ peer, peer ∈ engine.matchIndex ↔ peer ∈ others
  bounds : ∀ peer next matched,
    engine.nextIndex.lookup peer = some next →
    engine.matchIndex.lookup peer = some matched →
    matched < next ∧ next ≤ (Storage.lastIndexTerm engine.storage).1 + 1
  builds : ∀ peer next, engine.nextIndex.lookup peer = some next →
    ∃ prevTerm, PrevTerm engine.storage.entries (next - 1) prevTerm ∧
      engine.buildAppendEntries peer = some
        (.appendEntries engine.currentTerm engine.config.nodeId (next - 1)
          prevTerm (engine.storage.entries.drop (next - 1)) engine.commitIndex,
        next - 1, (engine.storage.entries.drop (next - 1)).length)

theorem Tabled.progressSound
    {engine : MemoryEngine}
    (tabled : engine.Tabled) :
    ProgressSound engine.otherVoters engine := by
  have fits : ∀ peer next, engine.nextIndex.lookup peer = some next →
      ∃ window, engine.Tracks peer window ∧ window.next = next ∧
        window.Fits engine.storage.entries.length := by
    intro peer next known
    by_cases inside : peer ∈ engine.otherVoters
    · obtain ⟨window, tracks, fits⟩ := tabled.tracked peer inside
      refine ⟨window, tracks, ?_, fits⟩
      rw [← Option.some.injEq, ← tracks.next, known]
    · rw [(tabled.untracked peer inside).next] at known
      contradiction
  refine ⟨?_, ?_, ?_, ?_⟩
  · intro peer
    rw [← AList.lookup_isSome]
    by_cases inside : peer ∈ engine.otherVoters
    · obtain ⟨window, tracks, -⟩ := tabled.tracked peer inside
      simp [tracks.next, inside]
    · simp [(tabled.untracked peer inside).next, inside]
  · intro peer
    rw [← AList.lookup_isSome]
    by_cases inside : peer ∈ engine.otherVoters
    · obtain ⟨window, tracks, -⟩ := tabled.tracked peer inside
      simp [tracks.matched, inside]
    · simp [(tabled.untracked peer inside).matched, inside]
  · intro peer next matched known alsoKnown
    obtain ⟨window, tracks, rfl, fits⟩ := fits peer next known
    rw [tracks.matched, Option.some.injEq] at alsoKnown
    rw [← alsoKnown, lastIndexTerm_fst]
    exact ⟨fits.matched_lt, fits.next_le⟩
  · intro peer next known
    obtain ⟨window, tracks, rfl, fits⟩ := fits peer next known
    obtain ⟨prev, nextEq⟩ := Nat.exists_eq_add_one.mpr
      (Nat.zero_lt_of_lt fits.matched_lt)
    have inside : prev ≤ engine.storage.entries.length := by
      have bounded := fits.next_le
      omega
    rw [nextEq] at known ⊢
    obtain ⟨⟨msg, sentPrev, len⟩, built⟩ :=
      engine.buildAppendEntries_isSome known inside
    obtain ⟨prevTerm, prevKnown, nextIs, rfl, rfl⟩ :=
      engine.buildAppendEntries_some built
    obtain rfl : prev = sentPrev := by
      rw [known] at nextIs
      simpa using nextIs
    exact ⟨prevTerm, prevKnown, built⟩

variable (config : RaftConfig) (storage : MemoryStorage) (start : Nat)

theorem lifetime_tabled (calls : List Call) :
    ((lifetime config storage start).run calls).role = .leader →
      ((lifetime config storage start).run calls).Tabled := by
  induction calls using List.reverseRecOn with
  | nil =>
      intro leading
      contradiction
  | append_singleton calls call inductionHypothesis =>
      rw [System.run_concat]
      exact (call_outcome _ call).tabled inductionHypothesis

/-- The progress tables of a leader hold exactly the other voters, fit its log,
never forget a match, and let it build every AppendEntries. -/
theorem progress_tables_sound (calls : List Call) :
    (((lifetime config storage start).run calls).role = .leader →
      ProgressSound ((Membership.new config.voters).otherVoters config.nodeId)
        ((lifetime config storage start).run calls)) ∧
    (∀ earlier, earlier <+: calls →
      (∀ between, earlier <+: between → between <+: calls →
        ((lifetime config storage start).run between).role = .leader) →
      ∀ peer,
        (((lifetime config storage start).run earlier).matchIndex.lookup
            peer).getD 0 ≤
          (((lifetime config storage start).run calls).matchIndex.lookup
            peer).getD 0) ∧
    ∀ sender matchIndex now,
      ((lifetime config storage start).run calls).role = .leader →
      sender ∈ ((lifetime config storage start).run calls).lastAe →
      ∃ matched,
        ((lifetime config storage start).run (calls ++
          [.rpc sender (.appendEntriesResp
            ((lifetime config storage start).run calls).currentTerm true
              matchIndex) now])).matchIndex.lookup sender = some matched ∧
        ((lifetime config storage start).run (calls ++
          [.rpc sender (.appendEntriesResp
            ((lifetime config storage start).run calls).currentTerm true
              matchIndex) now])).nextIndex.lookup sender =
            some (matched + 1) := by
  refine ⟨?_, ?_, ?_⟩
  · intro leading
    have sound := (lifetime_tabled config storage start calls leading).progressSound
    obtain ⟨sameConfig, sameMembership⟩ :=
      lifetime_config config storage start calls
    rwa [otherVoters, sameConfig, sameMembership] at sound
  · rintro earlier ⟨rest, rfl⟩ leads peer
    induction rest using List.reverseRecOn with
    | nil =>
        rw [List.append_nil]
    | append_singleton rest call inductionHypothesis =>
        rw [← List.append_assoc] at leads ⊢
        have led := leads (earlier ++ rest) (List.prefix_append _ _)
          (List.prefix_append _ _)
        have leading := leads (earlier ++ rest ++ [call])
          ((List.prefix_append _ _).trans (List.prefix_append _ _))
          (List.prefix_refl _)
        have before := inductionHypothesis fun between follows isEarlier =>
          leads between follows (isEarlier.trans (List.prefix_append _ _))
        rw [System.run_concat] at leading ⊢
        exact before.trans ((call_outcome _ call).matchIndex_le led leading
          (lifetime_tabled config storage start _ led) peer)
  · intro sender matchIndex now leading recorded
    have tabled := lifetime_tabled config storage start calls leading
    obtain ⟨request, lookup⟩ := Option.isSome_iff_exists.mp
      (AList.lookup_isSome.mpr recorded)
    rw [System.run_concat]
    exact success_closes tabled leading lookup matchIndex now

end RaftEngine

end Libp2pRaft
