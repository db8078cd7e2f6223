import Libp2pRaft.Cluster.Engines

/-!
# What messages and votes are evidence of

Every message that was sent describes a view its sender showed, and every vote
a candidate counts was recorded by a voter.  Only steps in which a node that is
not a voter starts a campaign are excluded.
-/

namespace Libp2pRaft

open Consensus TransitionSystem

namespace Cluster

/-- A voter recorded a vote for a node in a term. -/
def Voted
    (cluster : Cluster)
    (events : List Event)
    (node : NodeId)
    (term : Nat)
    (voter : NodeId) : Prop :=
  voter ∈ cluster.voters ∧ ∃ voted, cluster.Shown events voter voted ∧
    voted.term = term ∧ voted.vote = some node

/-- A majority of the voters recorded a vote for a node in a term. -/
def Elected
    (cluster : Cluster)
    (events : List Event)
    (node : NodeId)
    (term : Nat) : Prop :=
  ∃ supporters, Majority cluster.voters supporters ∧
    ∀ voter ∈ supporters, cluster.Voted events node term voter

/-- What a message says about its sender. -/
def Vouched
    (cluster : Cluster)
    (events : List Event)
    (source target : NodeId) : RaftMessage → Prop
  | .requestVote term candidateId lastLogIndex lastLogTerm =>
      candidateId = source ∧ target ∈ cluster.voters ∧
      ∃ asked, cluster.Shown events source asked ∧
        asked.standing = .candidate ∧ asked.term = term ∧
        lastLogIndex = asked.log.length ∧ lastLogTerm = lastTerm asked.log
  | .requestVoteResp term voteGranted =>
      voteGranted = true → cluster.Voted events target term source
  | .appendEntries term _ prevLogIndex prevLogTerm entries _ =>
      ∃ sent, cluster.Shown events source sent ∧
        sent.standing = .leader ∧ sent.term = term ∧
        PrevTerm sent.log prevLogIndex prevLogTerm ∧
        entries = sent.log.drop prevLogIndex
  | _ => True

variable {cluster : Cluster} {events : List Event} {event : Event}

theorem Voted.concat
    {node voter : NodeId}
    {term : Nat}
    (voted : cluster.Voted events node term voter) :
    cluster.Voted (events ++ [event]) node term voter := by
  obtain ⟨inside, view, shown, rest⟩ := voted
  exact ⟨inside, view, shown.concat, rest⟩

theorem Elected.concat
    {node : NodeId}
    {term : Nat}
    (elected : cluster.Elected events node term) :
    cluster.Elected (events ++ [event]) node term := by
  obtain ⟨supporters, majority, votes⟩ := elected
  exact ⟨supporters, majority, fun voter inside => (votes voter inside).concat⟩

theorem Vouched.concat
    {source target : NodeId}
    {msg : RaftMessage}
    (vouched : cluster.Vouched events source target msg) :
    cluster.Vouched (events ++ [event]) source target msg := by
  cases msg with
  | requestVote term candidateId lastLogIndex lastLogTerm =>
      obtain ⟨same, inside, asked, shown, rest⟩ := vouched
      exact ⟨same, inside, asked, shown.concat, rest⟩
  | requestVoteResp term voteGranted =>
      exact fun granted => (vouched granted).concat
  | appendEntries term leaderId prevLogIndex prevLogTerm entries leaderCommit =>
      obtain ⟨sent, shown, rest⟩ := vouched
      exact ⟨sent, shown.concat, rest⟩
  | appendEntriesResp => trivial
  | installSnapshot => trivial
  | installSnapshotResp => trivial

/-- The evidence behind a run so far. -/
structure Sound (cluster : Cluster) (events : List Event) : Prop where
  /-- Sent messages are vouched for. -/
  vouched : ∀ source target msg,
    cluster.Sent (cluster.system.run events) source target msg →
      cluster.Vouched events source target msg
  /-- The votes of a candidate were recorded in its term. -/
  counted : ∀ node,
    ((cluster.system.run events).engine node).role = .candidate →
      ∀ voter ∈ ((cluster.system.run events).engine node).votes,
        cluster.Voted events node
          ((cluster.system.run events).engine node).currentTerm voter
  /-- Every leader was elected. -/
  elected : ∀ node view, cluster.Shown events node view →
    view.standing = .leader → cluster.Elected events node view.term
  /-- An announced leadership was shown. -/
  announced : ∀ node term,
    (node, .becomeLeader term) ∈ (cluster.system.run events).trace →
      ∃ view, cluster.Shown events node view ∧
        view.standing = .leader ∧ view.term = term

theorem Sound.nil : Sound cluster [] where
  vouched := by
    intro source target msg sent
    simp [Sent, system] at sent
  counted := by
    intro node campaigning
    simp [system, RaftEngine.new] at campaigning
  elected := by
    intro node view shown leading
    obtain rfl : _ = view := cluster.system.sometime_nil.mp shown
    simp [system, RaftEngine.new] at leading
  announced := by
    intro node term announced
    simp [system] at announced

/-- A step that leaves engines and trace as they are adds no obligation. -/
theorem Sound.idle
    (sound : Sound cluster events)
    (idle : cluster.system.run (events ++ [event]) =
      cluster.system.run events) :
    Sound cluster (events ++ [event]) where
  vouched := by
    rw [idle]
    exact fun source target msg sent =>
      (sound.vouched source target msg sent).concat
  counted := by
    rw [idle]
    exact fun node campaigning voter inside =>
      (sound.counted node campaigning voter inside).concat
  elected := by
    intro node view shown leading
    rw [shown_concat, idle] at shown
    rcases shown with old | rfl
    · exact (sound.elected node view old leading).concat
    · exact (sound.elected node _ .now leading).concat
  announced := by
    rw [idle]
    intro node term announced
    obtain ⟨view, shown, rest⟩ := sound.announced node term announced
    exact ⟨view, shown.concat, rest⟩

section

variable {node : NodeId} {result : MemoryEngine × List Action}

/-- A step of one node keeps the evidence when what the node becomes and emits
is backed. -/
theorem Sound.react
    (sound : Sound cluster events)
    (stepped : cluster.system.run (events ++ [event]) =
      Cluster.react (cluster.system.run events) node result)
    (vouched : ∀ source target msg,
      cluster.Sent (cluster.system.run (events ++ [event])) source target msg →
      ¬ cluster.Sent (cluster.system.run events) source target msg →
        cluster.Vouched (events ++ [event]) source target msg)
    (counted : result.1.role = .candidate → ∀ voter ∈ result.1.votes,
      cluster.Voted (events ++ [event]) node result.1.currentTerm voter)
    (elected : result.1.role = .leader →
      cluster.Elected (events ++ [event]) node result.1.currentTerm)
    (announced : ∀ term, .becomeLeader term ∈ result.2 →
      result.1.role = .leader ∧ result.1.currentTerm = term) :
    Sound cluster (events ++ [event]) where
  vouched := by
    intro source target msg sent
    by_cases old : cluster.Sent (cluster.system.run events) source target msg
    · exact (sound.vouched source target msg old).concat
    · exact vouched source target msg sent old
  counted := by
    intro other
    by_cases same : other = node
    · subst same
      rw [stepped, react_engine_self]
      exact counted
    · rw [stepped, react_engine_of_ne _ _ same]
      exact fun campaigning voter inside =>
        (sound.counted other campaigning voter inside).concat
  elected := by
    intro other view shown leading
    rw [shown_concat] at shown
    rcases shown with old | rfl
    · exact (sound.elected other view old leading).concat
    · by_cases same : other = node
      · subst same
        rw [stepped, react_engine_self] at leading ⊢
        exact elected (Role.standing_eq_leader.mp leading)
      · rw [stepped, react_engine_of_ne _ _ same] at leading ⊢
        exact (sound.elected other _ .now leading).concat
  announced := by
    intro source term present
    rw [stepped, mem_react_trace] at present
    rcases present with old | ⟨rfl, inside⟩
    · obtain ⟨view, shown, rest⟩ := sound.announced source term old
      exact ⟨view, shown.concat, rest⟩
    · obtain ⟨leading, sameTerm⟩ := announced term inside
      refine ⟨_, .now, ?_⟩
      rw [stepped, react_engine_self]
      exact ⟨Role.standing_eq_leader.mpr leading, sameTerm⟩

end

section

variable {node : NodeId} {call : Call}

/-- The view a node shows after its call. -/
theorem shown_after
    (stepped : cluster.system.run (events ++ [event]) =
      react (cluster.system.run events) node
        (((cluster.system.run events).engine node).call call)) :
    cluster.Shown (events ++ [event]) node
      (((cluster.system.run events).engine node).call call).1.view := by
  have now : cluster.Shown (events ++ [event]) node _ := .now
  rwa [stepped, react_engine_self] at now

/-- A message a call emits is vouched for by the view it leaves. -/
theorem vouched_call
    (sound : Sound cluster events)
    (stepped : cluster.system.run (events ++ [event]) =
      react (cluster.system.run events) node
        (((cluster.system.run events).engine node).call call))
    (asked : ∀ sender msg now, call = .rpc sender msg now →
      cluster.Sent (cluster.system.run events) sender node msg)
    {target : NodeId}
    {msg : RaftMessage}
    (emitted : .send target msg ∈
        (((cluster.system.run events).engine node).call call).2 ∨
      (.broadcast msg ∈
        (((cluster.system.run events).engine node).call call).2 ∧
        target ∈ cluster.voters)) :
    cluster.Vouched (events ++ [event]) node target msg := by
  have shown := shown_after stepped
  have known := (cluster.configured events).nodeId node
  have outcome := ((cluster.system.run events).engine node).call_outcome call
  generalize ((cluster.system.run events).engine node).call call = result
    at shown emitted outcome
  generalize (cluster.system.run events).engine node = before at known outcome
  rcases emitted with sent | ⟨broadcast, inside⟩
  · cases outcome.emits sent with
    | appendRequest _ _ prev len leading built =>
        obtain ⟨prevTerm, agreed, -, -, rfl⟩ :=
          RaftEngine.buildAppendEntries_some _ built
        exact ⟨_, shown, Role.standing_eq_leader.mpr leading, rfl, agreed, rfl⟩
    | voteReply _ term candidateId lastLogIndex lastLogTerm now granted isCall
        recorded =>
        intro isGranted
        obtain ⟨rfl, inside, -⟩ :=
          sound.vouched _ _ _ (asked _ _ _ isCall)
        refine ⟨inside, _, shown, rfl, ?_⟩
        rw [(recorded isGranted).2.2]
        rfl
    | appendReply => trivial
  · cases outcome.emits broadcast with
    | voteRequest now isCall waiting due campaigned =>
        refine ⟨known, inside, _, shown, ?_, ?_, rfl, rfl⟩
        · rw [campaigned]
          rfl
        · rw [campaigned]
          rfl

/-- The votes of a candidate after a call were recorded in its term. -/
theorem counted_call
    (sound : Sound cluster events)
    (stepped : cluster.system.run (events ++ [event]) =
      react (cluster.system.run events) node
        (((cluster.system.run events).engine node).call call))
    (asked : ∀ sender msg now, call = .rpc sender msg now →
      cluster.Sent (cluster.system.run events) sender node msg)
    (voterCampaigns : ∀ now, call = .tick now →
      ((cluster.system.run events).engine node).role ≠ .leader →
      ((cluster.system.run events).engine node).electionDeadline ≤ now →
        node ∈ cluster.voters)
    (campaigning : (((cluster.system.run events).engine node).call
      call).1.role = .candidate) :
    ∀ voter ∈ (((cluster.system.run events).engine node).call call).1.votes,
      cluster.Voted (events ++ [event]) node
        (((cluster.system.run events).engine node).call call).1.currentTerm
        voter := by
  have shown := shown_after stepped
  have known := (cluster.configured events).nodeId node
  have outcome := ((cluster.system.run events).engine node).call_outcome call
  have votesBefore := sound.counted node
  generalize ((cluster.system.run events).engine node).call call = result
    at shown outcome campaigning ⊢
  generalize (cluster.system.run events).engine node = before
    at known outcome votesBefore voterCampaigns
  rcases outcome.candidate_cases campaigning with
    ⟨wasCandidate, sameVotes, sameStorage⟩ |
    ⟨now, isCall, waiting, due, campaigned⟩ |
    ⟨sender, now, isCall, wasCandidate, counted⟩
  · intro voter inside
    rw [sameVotes] at inside
    have sameTerm : result.1.currentTerm = before.currentTerm :=
      congrArg (fun storage => storage.hardState.currentTerm) sameStorage
    rw [sameTerm]
    exact (votesBefore wasCandidate voter inside).concat
  · intro voter inside
    have isSelf : voter = node := by
      rw [campaigned] at inside
      exact (Finset.mem_singleton.mp inside).trans known
    subst isSelf
    refine ⟨voterCampaigns now isCall waiting due, _, shown, rfl, ?_⟩
    rw [campaigned]
    exact congrArg some known
  · intro voter inside
    rw [counted] at inside ⊢
    rcases Finset.mem_insert.mp inside with rfl | old
    · exact (sound.vouched _ _ _ (asked _ _ _ isCall) rfl).concat
    · exact (votesBefore wasCandidate voter old).concat

/-- A leader after a call was elected before it. -/
theorem elected_before
    (sound : Sound cluster events)
    (asked : ∀ sender msg now, call = .rpc sender msg now →
      cluster.Sent (cluster.system.run events) sender node msg)
    (leading : (((cluster.system.run events).engine node).call
      call).1.role = .leader) :
    cluster.Elected events node
      (((cluster.system.run events).engine node).call call).1.currentTerm := by
  have outcome := ((cluster.system.run events).engine node).call_outcome call
  rcases outcome.leader_cases leading with
    ⟨led, sameTerm⟩ | ⟨sender, now, isCall, wasCandidate, enough, viewEq⟩
  · rw [sameTerm]
    exact sound.elected node _ .now (Role.standing_eq_leader.mpr led)
  · have sameTerm := congrArg View.term viewEq
    simp only [RaftEngine.view_term] at sameTerm
    rw [sameTerm]
    have votes : ∀ voter ∈ insert sender
        ((cluster.system.run events).engine node).votes,
        cluster.Voted events node
          ((cluster.system.run events).engine node).currentTerm voter := by
      intro voter inside
      rcases Finset.mem_insert.mp inside with rfl | old
      · exact sound.vouched _ _ _ (asked _ _ _ isCall) rfl
      · exact sound.counted node wasCandidate voter old
    exact ⟨insert sender ((cluster.system.run events).engine node).votes,
      (cluster.configured events).majority (fun voter inside => (votes voter inside).1)
        enough, votes⟩

end

/-- The evidence behind every run in which only voters campaign. -/
theorem sound
    (voterCampaigns : cluster.system.Along cluster.VoterCampaigns events) :
    Sound cluster events := by
  induction events using List.reverseRecOn with
  | nil => exact Sound.nil
  | append_singleton events event inductionHypothesis =>
      rw [System.along_concat] at voterCampaigns
      have before := inductionHypothesis voterCampaigns.1
      have ran := cluster.system.run_concat events event
      rcases cluster.step_cases (cluster.system.run events) event
        with idle | ⟨node, now, -, inside, restarted⟩ |
          ⟨node, call, rfl, inside, asked, called⟩
      · exact before.idle (ran.trans idle)
      · have stepped := ran.trans restarted
        refine before.react stepped ?_ ?_ ?_ ?_
        · intro source target msg sent absent
          exfalso
          apply absent
          rw [stepped] at sent
          simpa [Sent, mem_react_trace] using sent
        · intro campaigning
          contradiction
        · intro leading
          contradiction
        · intro term announced
          contradiction
      · have stepped := ran.trans called
        refine before.react stepped ?_ ?_ ?_ ?_
        · intro source target msg sent absent
          rw [stepped] at sent
          simp only [Sent, mem_react_trace] at sent absent
          rcases sent with (old | ⟨rfl, new⟩) | ⟨old | ⟨rfl, new⟩, rest⟩
          · exact absurd (.inl old) absent
          · exact vouched_call before stepped asked (.inl new)
          · exact absurd (.inr ⟨old, rest⟩) absent
          · exact vouched_call before stepped asked (.inr ⟨new, rest.1⟩)
        · refine counted_call before stepped asked ?_
          rintro now rfl waiting due
          exact voterCampaigns.2 inside waiting due
        · exact fun leading => (elected_before before asked leading).concat
        · intro term announced
          have outcome :=
            ((cluster.system.run events).engine node).call_outcome call
          generalize ((cluster.system.run events).engine node).call call =
            result at announced outcome ⊢
          cases outcome.emits announced with
          | leader campaigning won sameStorage =>
              exact ⟨won, congrArg
                (fun storage => storage.hardState.currentTerm) sameStorage⟩

end Cluster

end Libp2pRaft
