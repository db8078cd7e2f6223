import Libp2pRaft.Library.Commitment
import Libp2pRaft.Cluster.Evidence

/-!
# The cluster refines the abstract protocol

Every run of a cluster has a history of the abstract protocol behind it: each
call of an engine is a few permitted steps of its node, and what messages carry
are views of the history.
-/

namespace Libp2pRaft

open Consensus TransitionSystem

namespace Cluster

/-- What a node shows before the first event. -/
def startView (cluster : Cluster) (node : NodeId) : View NodeId LogEntry :=
  (cluster.system.init.engine node).view

theorem startsFollowing (cluster : Cluster) :
    StartsFollowing cluster.startView :=
  fun _ => rfl

/-- Every node starts with a new storage. -/
def StartsNew (cluster : Cluster) : Prop :=
  ∀ node, cluster.storage node = MemoryStorage.new

theorem StartsNew.startsEmpty
    {cluster : Cluster}
    (new : cluster.StartsNew) :
    StartsEmpty cluster.startView where
  following := cluster.startsFollowing
  unvoted node := by
    show (cluster.storage node).hardState.votedFor = none
    rw [new node]
    rfl
  empty node := by
    show (cluster.storage node).entries = []
    rw [new node]
    rfl

/-- A history that stands behind a run. -/
structure Linked
    (cluster : Cluster)
    (events : List Event)
    (history : History NodeId LogEntry) : Prop where
  valid : Valid cluster.voters cluster.startView history
  shows : ∀ node, current cluster.startView history node =
    ((cluster.system.run events).engine node).view
  seen : ∀ node view, cluster.Shown events node view →
    Seen cluster.startView history node view

theorem Linked.nil (cluster : Cluster) : Linked cluster [] [] where
  valid := .nil
  shows _ := rfl
  seen := by
    intro node view shown
    exact .inl (cluster.system.sometime_nil.mp shown).symm

/-- A node can come to show a view by steps of its own. -/
def Reaches
    (cluster : Cluster)
    (history : History NodeId LogEntry)
    (node : NodeId)
    (view : View NodeId LogEntry) : Prop :=
  ∃ later, Continues cluster.voters cluster.startView node history later ∧
    current cluster.startView later node = view

variable {cluster : Cluster} {events : List Event} {event : Event}
  {history : History NodeId LogEntry} {node : NodeId}
  {view next : View NodeId LogEntry}

theorem Reaches.refl
    (shown : current cluster.startView history node = view) :
    cluster.Reaches history node view :=
  ⟨history, .refl, shown⟩

theorem Reaches.of_step
    (step : Step cluster.voters cluster.startView history node next)
    (same : next = view) :
    cluster.Reaches history node view :=
  ⟨_, .single (same ▸ step), current_cons_self⟩

/-- A later view is reached through an earlier one. -/
theorem Reaches.trans
    (reaches : cluster.Reaches history node view)
    (onward : ∀ later,
      Continues cluster.voters cluster.startView node history later →
      current cluster.startView later node = view →
        cluster.Reaches later node next) :
    cluster.Reaches history node next := by
  obtain ⟨middle, first, shown⟩ := reaches
  obtain ⟨later, second, final⟩ := onward middle first shown
  exact ⟨later, first.trans second, final⟩

section

variable {engine : MemoryEngine} {term : Nat}
  (shown : current cluster.startView history node = engine.view)

include shown

theorem reaches_adopt
    (newer : engine.currentTerm < term) :
    cluster.Reaches history node
      { engine.view with term := term, vote := none, standing := .follower } := by
  refine .of_step (.adopt term ?_) (by rw [shown])
  rw [shown]
  exact newer

theorem reaches_settle :
    cluster.Reaches history node
      { engine.view with standing := .follower } :=
  .of_step .settle (by rw [shown])

theorem reaches_enterTerm (term : Nat) :
    cluster.Reaches history node (engine.enterTerm term).1.view := by
  rw [RaftEngine.view_enterTerm]
  split_ifs with newer
  · exact reaches_adopt shown newer
  · exact .refl shown

theorem reaches_follow
    (term : Nat)
    (leaderId : NodeId)
    (now : Nat) :
    cluster.Reaches history node (engine.follow term leaderId now).1.view := by
  rw [RaftEngine.view_follow]
  split_ifs with newer
  · exact reaches_adopt shown newer
  · exact reaches_settle shown

/-- Granting a vote is entering the term, then voting. -/
theorem reaches_recordVote
    {candidateId : NodeId}
    {asked : View NodeId LogEntry}
    {now : Nat}
    (seen : Seen cluster.startView history candidateId asked)
    (campaigning : asked.standing = .candidate)
    (askedTerm : asked.term = term)
    (recent : engine.currentTerm ≤ term)
    (free : (engine.enterTerm term).1.storage.hardState.votedFor = none ∨
      (engine.enterTerm term).1.storage.hardState.votedFor = some candidateId)
    (upToDate : logIsUpToDate (engine.enterTerm term).1.storage
      asked.log.length (lastTerm asked.log) = true) :
    cluster.Reaches history node
      ((engine.enterTerm term).1.recordVote term candidateId now).view := by
  have enteredTerm : (engine.enterTerm term).1.currentTerm = term := by
    rw [← RaftEngine.view_term, RaftEngine.view_enterTerm]
    split_ifs with newer
    · rfl
    · exact Nat.le_antisymm recent (Nat.not_lt.mp newer)
  apply (reaches_enterTerm shown term).trans
  intro later continued entered
  refine .of_step (.grant candidateId asked (continued.seen seen) campaigning
    ?_ ?_ ?_) ?_
  · rw [entered]
    exact askedTerm.trans enteredTerm.symm
  · rw [entered]
    exact free
  · rw [entered]
    exact logIsUpToDate_iff.mp upToDate
  · rw [entered, RaftEngine.view_recordVote, enteredTerm, Nat.max_self]
    exact View.ext enteredTerm rfl rfl rfl

/-- Storing a leader's batch is following it, then splicing its log. -/
theorem reaches_storeEntries
    {sender leaderId : NodeId}
    {sent : View NodeId LogEntry}
    {prevLogIndex prevLogTerm now : Nat}
    (seen : Seen cluster.startView history sender sent)
    (leading : sent.standing = .leader)
    (sentTerm : sent.term = term)
    (contiguous : Contiguous sent.log)
    (sentPrev : PrevTerm sent.log prevLogIndex prevLogTerm)
    (recent : engine.currentTerm ≤ term)
    (agreed : (engine.follow term leaderId now).1.prevOk prevLogIndex
      prevLogTerm = true) :
    cluster.Reaches history node
      ((engine.follow term leaderId now).1.storeEntries prevLogIndex
        (sent.log.drop prevLogIndex)).view := by
  have followedTerm : (engine.follow term leaderId now).1.currentTerm =
      term := by
    rw [← RaftEngine.view_term, RaftEngine.view_follow]
    split_ifs with newer
    · rfl
    · exact Nat.le_antisymm recent (Nat.not_lt.mp newer)
  have storedPrev := (RaftEngine.prevOk_iff _).mp agreed
  have consecutive := contiguous.drop prevLogIndex
  rw [Nat.add_comm] at consecutive
  apply (reaches_follow shown term leaderId now).trans
  intro later continued followed
  refine .of_step (.accept sender sent prevLogIndex (continued.seen seen)
    leading ?_ ?_ sentPrev.le_length ?_) ?_
  · rw [followed]
    exact sentTerm.trans followedTerm.symm
  · rw [followed, RaftEngine.view_standing, RaftEngine.follow_role]
    rfl
  · rw [followed]
    exact storedPrev.agreeBefore sentPrev
  · rw [followed, RaftEngine.view_storeEntries _ storedPrev.le_length
      consecutive]

end

/-- Every call is a few steps of its node. -/
theorem Linked.reaches_call
    (linked : Linked cluster events history)
    (sound : Sound cluster events)
    {call : Call}
    (asked : ∀ sender msg now, call = .rpc sender msg now →
      cluster.Sent (cluster.system.run events) sender node msg)
    (below : ∀ now, call = .tick now →
      ((cluster.system.run events).engine node).role ≠ .leader →
      ((cluster.system.run events).engine node).electionDeadline ≤ now →
        ((cluster.system.run events).engine node).currentTerm < u64Max)
    (elected : (((cluster.system.run events).engine node).call
      call).1.role = .leader →
        cluster.Elected events node
          (((cluster.system.run events).engine node).call call).1.currentTerm) :
    cluster.Reaches history node
      (((cluster.system.run events).engine node).call call).1.view := by
  have shown := linked.shows node
  have known := (cluster.configured events).nodeId node
  have outcome := ((cluster.system.run events).engine node).call_outcome call
  generalize ((cluster.system.run events).engine node).call call = result
    at outcome elected ⊢
  generalize (cluster.system.run events).engine node = engine
    at shown known below outcome
  cases outcome with
  | ignored => exact .refl shown
  | campaigned now waiting due =>
      refine .of_step (.campaign (engine.currentTerm + 1) ?_) ?_
      · rw [shown]
        exact Nat.lt_succ_self _
      · rw [shown, RaftEngine.view_startElection,
          wrappingSucc_of_lt (below now rfl waiting due), known]
  | heartbeat now leading =>
      apply Reaches.refl
      rw [shown]
      exact engine.view_replicateActions.symm
  | proposed data leading =>
      refine .of_step (.append (engine.commandEntry data) ?_ ?_) ?_
      · rw [shown]
        exact Role.standing_eq_leader.mpr leading
      · rw [shown]
        rfl
      · rw [shown, RaftEngine.view_replicateActions,
          RaftEngine.view_appendCommand]
  | failed => exact .refl shown
  | voteStale => exact .refl shown
  | voteRefused sender term => exact reaches_enterTerm shown term
  | voteGranted sender term candidateId lastLogIndex lastLogTerm now recent
      grants =>
      obtain ⟨rfl, -, view, viewShown, campaigning, viewTerm, rfl, rfl⟩ :=
        sound.vouched _ _ _ (asked _ _ _ rfl)
      exact reaches_recordVote shown (linked.seen _ _ viewShown) campaigning
        viewTerm recent grants.1 grants.2
  | deposed sender msg now term reply newer =>
      rw [RaftEngine.view_becomeFollower, if_pos newer]
      exact reaches_adopt shown newer
  | counted => exact .refl shown
  | elected sender now campaigning enough =>
      obtain ⟨supporters, majority, votes⟩ := elected rfl
      refine .of_step (.elect supporters majority ?_ ?_) ?_
      · rw [shown]
        exact Role.standing_eq_candidate.mpr campaigning
      · intro voter inside
        obtain ⟨-, voted, votedShown, votedTerm, votedFor⟩ := votes voter inside
        refine ⟨voted, linked.seen _ _ votedShown, ?_, votedFor⟩
        rw [shown]
        exact votedTerm
      · rw [shown, RaftEngine.view_becomeLeader]
        rfl
  | appendStale => exact .refl shown
  | appendRefused sender term leaderId prevLogIndex prevLogTerm entries
      leaderCommit now =>
      exact reaches_follow shown term leaderId now
  | appendAccepted sender term leaderId prevLogIndex prevLogTerm entries
      leaderCommit now recent agreed stored storedEq =>
      obtain ⟨sent, sentShown, leading, sentTerm, sentPrev, rfl⟩ :=
        sound.vouched _ _ _ (asked _ _ _ rfl)
      rw [RaftEngine.view_advanceCommitAndApply, storedEq]
      exact reaches_storeEntries shown (linked.seen _ _ sentShown) leading
        sentTerm sentShown.contiguous sentPrev recent agreed
  | matched sender matchIndex now reqPrev reqLen =>
      apply Reaches.refl
      rw [shown, RaftEngine.view_handleAppendSuccess]
      rfl
  | unmatched sender matchIndex now reqPrev =>
      apply Reaches.refl
      rw [shown, RaftEngine.view_handleAppendReject]
      rfl

/-- A step of one node continues the history. -/
theorem Linked.react
    (linked : Linked cluster events history)
    {result : MemoryEngine × List Action}
    (stepped : cluster.system.run (events ++ [event]) =
      Cluster.react (cluster.system.run events) node result)
    (reaches : cluster.Reaches history node result.1.view) :
    ∃ later, Continues cluster.voters cluster.startView node history later ∧
      Linked cluster (events ++ [event]) later := by
  obtain ⟨later, continued, shown⟩ := reaches
  have currentEq : ∀ other, current cluster.startView later other =
      ((cluster.system.run (events ++ [event])).engine other).view := by
    intro other
    rw [stepped]
    by_cases same : other = node
    · subst same
      rw [react_engine_self, shown]
    · rw [react_engine_of_ne _ _ same, continued.current_of_ne same,
        linked.shows other]
  refine ⟨later, continued, continued.valid linked.valid, currentEq, ?_⟩
  intro other view seen
  rw [shown_concat] at seen
  rcases seen with old | rfl
  · exact continued.seen (linked.seen other view old)
  · rw [← currentEq]
    exact seen_current later other

/-- Every event continues the history by steps of one node. -/
theorem Linked.step
    (linked : Linked cluster events history)
    (voterCampaigns : cluster.system.Along cluster.VoterCampaigns
      (events ++ [event]))
    (below : cluster.TermsBelowMax (cluster.system.run events) event) :
    ∃ node later,
      Continues cluster.voters cluster.startView node history later ∧
      Linked cluster (events ++ [event]) later := by
  have evidence := sound (System.along_concat _ |>.mp voterCampaigns).1
  have evidenceAfter := sound voterCampaigns
  have ran := cluster.system.run_concat events event
  rcases cluster.step_cases (cluster.system.run events) event
    with idle | ⟨node, now, -, inside, restarted⟩ |
      ⟨node, call, rfl, inside, asked, called⟩
  · have unchanged := ran.trans idle
    refine ⟨0, history, .refl, linked.valid, ?_, ?_⟩
    · rw [unchanged]
      exact linked.shows
    · intro other view seen
      rw [shown_concat, unchanged] at seen
      rcases seen with old | rfl
      · exact linked.seen other view old
      · exact linked.seen other _ .now
  · have settled := reaches_settle (linked.shows node)
    obtain ⟨later, continued, linkedAfter⟩ :=
      linked.react (ran.trans restarted) settled
    exact ⟨node, later, continued, linkedAfter⟩
  · have elected : (((cluster.system.run events).engine node).call
        call).1.role = .leader → cluster.Elected events node
          (((cluster.system.run events).engine node).call
            call).1.currentTerm := by
      exact elected_before evidence asked
    obtain ⟨later, continued, linkedAfter⟩ := linked.react (ran.trans called)
      (linked.reaches_call evidence asked (by
        rintro now rfl
        exact below inside) elected)
    exact ⟨node, later, continued, linkedAfter⟩

/-- Behind every run in which only voters campaign stands a history. -/
theorem exists_linked
    (voterCampaigns : cluster.system.Along cluster.VoterCampaigns events)
    (below : cluster.system.Along cluster.TermsBelowMax events) :
    ∃ history, Linked cluster events history := by
  induction events using List.reverseRecOn with
  | nil => exact ⟨[], .nil cluster⟩
  | append_singleton events event inductionHypothesis =>
      rw [System.along_concat] at below
      obtain ⟨history, linked⟩ := inductionHypothesis
        (System.along_concat _ |>.mp voterCampaigns).1 below.1
      obtain ⟨node, later, -, linkedAfter⟩ := linked.step voterCampaigns below.2
      exact ⟨later, linkedAfter⟩

end Cluster

end Libp2pRaft
