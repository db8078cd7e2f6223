import Libp2pRaft.Cluster.ElectionSafety
import Libp2pRaft.Raft.Replies

/-!
# Replication and commitment

A success says that its sender held everything the leader had at the time.  As
long as every success a leader handles reports at least what the slot of its
sender records, match indices are backed by what peers held, commit indices are
settled, and all nodes hand over entries of one log.
-/

namespace Libp2pRaft

open Consensus TransitionSystem

namespace Cluster

/-- A success of the leader's term reports no less than the leader records for
the AppendEntries in the sender's slot. -/
def ReportsRecorded (state : State) : Event → Prop
  | .call node (.rpc sender (.appendEntriesResp term true matchIndex) _) =>
      (state.engine node).role = .leader →
      term = (state.engine node).currentTerm →
      ∀ recorded ∈ (state.engine node).lastAe.lookup sender,
        recorded.1 + recorded.2 ≤ matchIndex
  | _ => True

instance (state : State) :
    (event : Event) → Decidable (ReportsRecorded state event)
  | .call _ (.rpc _ (.appendEntriesResp _ true _) _) =>
      inferInstanceAs (Decidable (_ → _ → ∀ recorded ∈ _, _ ≤ _))
  | .call _ (.rpc _ (.appendEntriesResp _ false _) _)
  | .call _ (.rpc _ (.requestVote ..) _)
  | .call _ (.rpc _ (.requestVoteResp ..) _)
  | .call _ (.rpc _ (.appendEntries ..) _)
  | .call _ (.rpc _ (.installSnapshot ..) _)
  | .call _ (.rpc _ (.installSnapshotResp _) _)
  | .call _ (.tick _)
  | .call _ (.propose _)
  | .call _ (.rpcFailure ..)
  | .restart .. => .isTrue trivial

theorem reportsRecorded_call
    {state : State}
    {node : NodeId}
    {call : Call}
    (reports : ∀ sender term matchIndex now,
      call = .rpc sender (.appendEntriesResp term true matchIndex) now →
      (state.engine node).role = .leader →
      term = (state.engine node).currentTerm →
      ∀ recorded ∈ (state.engine node).lastAe.lookup sender,
        recorded.1 + recorded.2 ≤ matchIndex) :
    ReportsRecorded state (.call node call) := by
  unfold ReportsRecorded
  split
  · next isCall =>
      injection isCall with sameNode sameCall
      subst sameNode
      exact reports _ _ _ _ sameCall
  · trivial

/-- What a success tells the leader it is for. -/
def Acknowledges
    (cluster : Cluster)
    (events : List Event)
    (source target : NodeId)
    (term matchIndex : Nat) : Prop :=
  ∃ sent held, cluster.Shown events target sent ∧
    sent.standing = .leader ∧ sent.term = term ∧
    sent.log.length = matchIndex ∧
    cluster.Shown events source held ∧ held.term = term ∧
    sent.log <+: held.log

/-- A peer held the first entries of a node's log in the node's term. -/
def Matched
    (cluster : Cluster)
    (events : List Event)
    (node peer : NodeId)
    (count : Nat) : Prop :=
  count ≤ ((cluster.system.run events).engine node).storage.entries.length ∧
    (count = 0 ∨ ∃ held, cluster.Shown events peer held ∧
      held.term = ((cluster.system.run events).engine node).currentTerm ∧
      ((cluster.system.run events).engine node).storage.entries.take count <+:
        held.log)

variable {cluster : Cluster} {events : List Event} {event : Event}
  {history : History NodeId LogEntry} {node peer : NodeId}

/-! ## What a success acknowledges -/

theorem Acknowledges.concat
    {source target : NodeId}
    {term matchIndex : Nat}
    (acknowledges : cluster.Acknowledges events source target term matchIndex) :
    cluster.Acknowledges (events ++ [event]) source target term matchIndex := by
  obtain ⟨sent, held, sentShown, leading, sentTerm, long, heldShown, rest⟩ :=
    acknowledges
  exact ⟨sent, held, sentShown.concat, leading, sentTerm, long, heldShown.concat,
    rest⟩

section

variable (new : cluster.StartsNew)

include new

/-- A batch that is accepted brings the follower's log up to the sender's. -/
theorem Linked.prefix_of_accepted
    (linked : Linked cluster events history)
    {sender leaderId : NodeId}
    {sent : View NodeId LogEntry}
    {term prevLogIndex prevLogTerm now : Nat}
    (shown : cluster.Shown events sender sent)
    (sentPrev : PrevTerm sent.log prevLogIndex prevLogTerm)
    (agreed : (((cluster.system.run events).engine node).follow term leaderId
      now).1.prevOk prevLogIndex prevLogTerm = true) :
    sent.log <+: ((((cluster.system.run events).engine node).follow term leaderId
      now).1.storeEntries prevLogIndex
        (sent.log.drop prevLogIndex)).storage.entries := by
  have sameLog : (((cluster.system.run events).engine node).follow term leaderId
      now).1.storage.entries =
        ((cluster.system.run events).engine node).storage.entries := by
    have viewEq := congrArg View.log
      (((cluster.system.run events).engine node).view_follow term leaderId now)
    rw [RaftEngine.view_log] at viewEq
    rw [viewEq]
    split_ifs <;> rfl
  have matching := linked.valid.log_matching new.startsEmpty
    (linked.seen node _ .now) (linked.seen sender sent shown)
  rw [RaftEngine.view_log, ← sameLog] at matching
  have storedPrev := (RaftEngine.prevOk_iff _).mp agreed
  have consecutive := shown.contiguous.drop prevLogIndex
  rw [Nat.add_comm] at consecutive
  have spliced := congrArg View.log
    (RaftEngine.view_storeEntries _ storedPrev.le_length consecutive)
  rw [RaftEngine.view_log] at spliced
  rw [spliced]
  exact prefix_splice matching sentPrev.le_length
    (storedPrev.agreeBefore sentPrev)

/-- Every success was sent by a node that held the leader's log. -/
theorem acknowledged
    (voting : cluster.nodes ⊆ cluster.voters)
    (below : cluster.system.Along cluster.TermsBelowMax events)
    {source target : NodeId}
    {term matchIndex : Nat}
    (sent : cluster.Sent (cluster.system.run events) source target
      (.appendEntriesResp term true matchIndex)) :
    cluster.Acknowledges events source target term matchIndex := by
  induction events using List.reverseRecOn with
  | nil => simp [Sent, system] at sent
  | append_singleton events event inductionHypothesis =>
      rw [System.along_concat] at below
      have voterCampaigns := voterCampaigns_of_subset voting events
      obtain ⟨history, linked⟩ := exists_linked voterCampaigns below.1
      have before := inductionHypothesis below.1
      have ran := cluster.system.run_concat events event
      rw [ran] at sent
      rcases sent with direct | ⟨broadcast, rest⟩
      · rcases emitted_cases direct with
          old | ⟨call, rfl, asked, called, emitted⟩
        · exact (before (.inl old)).concat
        have held := shown_after (ran.trans called)
        have outcome :=
          ((cluster.system.run events).engine source).call_outcome call
        generalize ((cluster.system.run events).engine source).call call = result
          at held emitted outcome
        have emits := outcome.emits emitted
        generalize isReply : RaftMessage.appendEntriesResp term true matchIndex =
          reply at emits
        cases emits with
        | appendRequest _ _ prev len leading built =>
            obtain ⟨_, -, -, -, rfl⟩ := RaftEngine.buildAppendEntries_some _ built
            contradiction
        | voteReply => contradiction
        | appendReply _ requestTerm leaderId prevLogIndex prevLogTerm entries
            leaderCommit now success lastNew isCall accepted =>
            injection isReply with sameTerm isSuccess sameIndex
            obtain ⟨recent, agreed, lastEq, storedEq⟩ := accepted isSuccess.symm
            obtain ⟨sent, shown, leading, sentTerm, sentPrev, rfl⟩ :=
              (sound voterCampaigns).vouched _ _ _ (asked _ _ _ isCall)
            have resultTerm : result.1.currentTerm = requestTerm := by
              have stored := congrArg
                (fun storage => storage.hardState.currentTerm) storedEq
              exact stored.trans ((RaftEngine.currentTerm_storeEntries _ _ _).trans
                (RaftEngine.currentTerm_follow _ recent leaderId now))
            refine ⟨sent, _, shown.concat, leading, ?_, ?_, held, sameTerm.symm,
              ?_⟩
            · rw [sentTerm, sameTerm, resultTerm]
            · have inside := sentPrev.le_length
              rw [sameIndex, lastEq, List.length_drop]
              omega
            · rw [RaftEngine.view_log, storedEq]
              exact linked.prefix_of_accepted new shown sentPrev agreed
      · rcases emitted_cases broadcast with
          old | ⟨call, rfl, asked, called, emitted⟩
        · exact (before (.inr ⟨old, rest⟩)).concat
        · have outcome :=
            ((cluster.system.run events).engine source).call_outcome call
          cases outcome.emits emitted

end

/-! ## What a match index is backed by -/

namespace Matched

variable {count smaller : Nat}

theorem zero : cluster.Matched events node peer 0 :=
  ⟨Nat.zero_le _, .inl rfl⟩

theorem shorten
    (matched : cluster.Matched events node peer count)
    (order : smaller ≤ count) :
    cluster.Matched events node peer smaller := by
  refine ⟨order.trans matched.1, ?_⟩
  rcases matched.2 with none | ⟨held, shown, sameTerm, kept⟩
  · exact .inl (by omega)
  · exact .inr ⟨held, shown, sameTerm,
      (List.take_prefix_take_left order).trans kept⟩

/-- What is matched stays matched while the term lasts and the log grows. -/
theorem grow
    (matched : cluster.Matched events node peer count)
    (sameTerm : ((cluster.system.run (events ++ [event])).engine
      node).currentTerm = ((cluster.system.run events).engine node).currentTerm)
    (grown : ((cluster.system.run events).engine node).storage.entries <+:
      ((cluster.system.run (events ++ [event])).engine node).storage.entries) :
    cluster.Matched (events ++ [event]) node peer count := by
  have inside := matched.1
  have same : ((cluster.system.run (events ++ [event])).engine
      node).storage.entries.take count =
        ((cluster.system.run events).engine node).storage.entries.take count := by
    obtain ⟨rest, extended⟩ := grown
    rw [← extended, List.take_append_of_le_length inside]
  refine ⟨inside.trans grown.length_le, matched.2.imp id ?_⟩
  rintro ⟨held, shown, heldTerm, kept⟩
  refine ⟨held, shown.concat, heldTerm.trans sameTerm.symm, ?_⟩
  rw [same]
  exact kept

/-- A leader's log extends what a success of its term acknowledges. -/
theorem of_acknowledges
    (linked : Linked cluster events history)
    (leading : ((cluster.system.run events).engine node).role = .leader)
    (acknowledges : cluster.Acknowledges events peer node
      ((cluster.system.run events).engine node).currentTerm count) :
    cluster.Matched events node peer count := by
  obtain ⟨sent, held, sentShown, sentLeading, sentTerm, rfl, heldShown, heldTerm,
    kept⟩ := acknowledges
  have extended : sent.log <+:
      ((cluster.system.run events).engine node).storage.entries := by
    have grown := linked.valid.prefix_of_leader cluster.startsFollowing
      (by rw [linked.shows]; exact Role.standing_eq_leader.mpr leading)
      (linked.seen _ _ sentShown) (by simp [sentLeading])
      (by rw [linked.shows]; exact sentTerm)
    rwa [linked.shows] at grown
  refine ⟨extended.length_le, .inr ⟨held, heldShown, heldTerm, ?_⟩⟩
  rw [← List.prefix_iff_eq_take.mp extended]
  exact kept

end Matched

/-- The match indices of every leader are backed by what its peers held. -/
theorem matched
    (voting : cluster.nodes ⊆ cluster.voters)
    (new : cluster.StartsNew)
    (below : cluster.system.Along cluster.TermsBelowMax events)
    (reports : cluster.system.Along ReportsRecorded events)
    (leading : ((cluster.system.run events).engine node).role = .leader)
    (peer : NodeId) :
    cluster.Matched events node peer
      ((((cluster.system.run events).engine node).matchIndex.lookup
        peer).getD 0) := by
  induction events using List.reverseRecOn generalizing peer with
  | nil => contradiction
  | append_singleton events event inductionHypothesis =>
      rw [System.along_concat] at below reports
      have before := inductionHypothesis below.1 reports.1
      have ran := cluster.system.run_concat events event
      have unchanged : (cluster.system.run (events ++ [event])).engine node =
          (cluster.system.run events).engine node →
          cluster.Matched (events ++ [event]) node peer
            ((((cluster.system.run (events ++ [event])).engine
              node).matchIndex.lookup peer).getD 0) := by
        intro same
        rw [same] at leading ⊢
        exact (before leading peer).grow (by rw [same]) (by rw [same])
      rcases cluster.step_cases (cluster.system.run events) event with
        idle | ⟨actor, now, -, -, restarted⟩ | ⟨actor, call, rfl, -, asked, called⟩
      · exact unchanged (by rw [ran, idle])
      · by_cases same : node = actor
        · subst same
          rw [ran, restarted, react_engine_self] at leading
          contradiction
        · exact unchanged (by rw [ran, restarted, react_engine_of_ne _ _ same])
      · by_cases same : node = actor
        · subst same
          have after := ran.trans called
          have engineEq : (cluster.system.run (events ++ [.call node call])).engine
              node = (((cluster.system.run events).engine node).call call).1 := by
            rw [after, react_engine_self]
          rw [engineEq] at leading ⊢
          have change := (((cluster.system.run events).engine
            node).call_outcome call).matchChange leading
          generalize (((cluster.system.run events).engine node).call
            call).1 = result at engineEq change ⊢
          cases change with
          | kept _ _ led sameTerm grown sameMatch =>
              rw [sameMatch]
              exact (before led peer).grow (by rw [engineEq, sameTerm])
                (by rw [engineEq]; exact grown)
          | acknowledged sender matchIndex now prev len _ led recorded
              sameStorage counted =>
              have sameTerm : result.currentTerm =
                  ((cluster.system.run events).engine node).currentTerm :=
                congrArg (fun storage => storage.hardState.currentTerm)
                  sameStorage
              suffices earlier : cluster.Matched events node peer
                  ((result.matchIndex.lookup peer).getD 0) from
                earlier.grow (by rw [engineEq, sameTerm])
                  (by rw [engineEq, sameStorage])
              rw [counted]
              by_cases isSender : peer = sender
              · subst isSender
                obtain ⟨history, linked⟩ := exists_linked
                  (voterCampaigns_of_subset voting events) below.1
                have acknowledges := acknowledged new voting below.1
                  (asked _ _ _ rfl)
                have reported : prev + len ≤ matchIndex :=
                  reports.2 led rfl (prev, len) recorded
                have stored :=
                  (Matched.of_acknowledges linked led acknowledges).shorten
                    reported
                rw [AList.lookup_insert, Option.getD_some]
                rcases max_choice ((((cluster.system.run events).engine
                  node).matchIndex.lookup peer).getD 0) (prev + len) with
                  old | grown
                · rw [old]
                  exact before led peer
                · rw [grown]
                  exact stored
              · rw [AList.lookup_insert_ne isSender]
                exact before led peer
          | elected _ _ reset =>
              rw [reset]
              exact .zero
        · exact unchanged (by rw [ran, called, react_engine_of_ne _ _ same])

/-! ## What is committed -/

/-- Commit indices, those that are sent included, are settled in the history
behind a run, and so is everything that was handed over. -/
structure Committed
    (cluster : Cluster)
    (events : List Event)
    (history : History NodeId LogEntry) : Prop where
  settled : ∀ node, Settled cluster.voters cluster.startView history
    ((cluster.system.run events).engine node).currentTerm
    ((cluster.system.run events).engine node).commitIndex
    ((cluster.system.run events).engine node).storage.entries
  offered : ∀ source target term leaderId prevLogIndex prevLogTerm entries
    leaderCommit,
    cluster.Sent (cluster.system.run events) source target
      (.appendEntries term leaderId prevLogIndex prevLogTerm entries
        leaderCommit) →
      ∃ sent, cluster.Shown events source sent ∧
        PrevTerm sent.log prevLogIndex prevLogTerm ∧
        entries = sent.log.drop prevLogIndex ∧
        Settled cluster.voters cluster.startView history term leaderCommit
          sent.log
  applied : ∀ node entries,
    (node, .apply entries) ∈ (cluster.system.run events).trace →
      ∀ entry ∈ entries, ∃ term commit log,
        Settled cluster.voters cluster.startView history term commit log ∧
        ∃ position < commit, log[position]? = some entry ∧
          entry.index = position + 1

theorem Committed.nil (cluster : Cluster) : Committed cluster [] [] where
  settled _ := .zero
  offered := by
    intro source target term leaderId prevLogIndex prevLogTerm entries
      leaderCommit sent
    simp [Sent, system] at sent
  applied := by
    intro node entries applied
    simp [system] at applied

/-- What a leader counts for an index is a majority that held it. -/
theorem Linked.chosen
    (linked : Linked cluster events history)
    (voting : cluster.nodes ⊆ cluster.voters)
    (leading : ((cluster.system.run events).engine node).role = .leader)
    (backed : ∀ peer, cluster.Matched events node peer
      ((((cluster.system.run events).engine node).matchIndex.lookup
        peer).getD 0))
    {index : Nat}
    {entry : LogEntry}
    (positive : 0 < index)
    (stored : ((cluster.system.run events).engine
      node).storage.entries[index - 1]? = some entry)
    (ownTerm : entry.term =
      ((cluster.system.run events).engine node).currentTerm)
    (replicated :
      ((cluster.system.run events).engine node).membership.quorum ≤
        ((cluster.system.run events).engine node).replicationCount index) :
    Settled cluster.voters cluster.startView history
      ((cluster.system.run events).engine node).currentTerm index
      ((cluster.system.run events).engine node).storage.entries := by
  have configured := cluster.configured events
  have isVoter := active_mem_voters (voterCampaigns_of_subset voting events) node
    (by simp [leading])
  have inside : index ≤
      ((cluster.system.run events).engine node).storage.entries.length := by
    have short := (List.getElem?_eq_some_iff.mp stored).1
    omega
  have long : (((cluster.system.run events).engine
      node).storage.entries.take index).length = index := by
    rw [List.length_take]
    omega
  refine .of_chosen ⟨⟨entry, ?_, ownTerm⟩, ?_, ?_⟩ inside
  · rw [long, List.getElem?_take, if_pos (by omega)]
    exact stored
  · exact ⟨_, ⟨node, _, linked.seen node _ .now,
      Role.standing_eq_leader.mpr leading, rfl, rfl⟩, List.take_prefix _ _⟩
  · rw [configured.replicationCount isVoter] at replicated
    refine ⟨_, configured.majority (Finset.filter_subset _ _) replicated, ?_⟩
    intro holder counted
    rcases (Finset.mem_filter.mp counted).2 with rfl | reached
    · exact ⟨_, linked.seen holder _ .now, rfl, List.take_prefix _ _⟩
    · rcases ((backed holder).shorten reached).2 with none |
        ⟨held, shown, sameTerm, kept⟩
      · omega
      · exact ⟨held, linked.seen holder held shown, sameTerm, kept⟩

section

variable {later : History NodeId LogEntry} {actor : NodeId}

/-- A commit index stays settled whatever an event does. -/
theorem Committed.kept
    (committed : Committed cluster events history)
    (new : cluster.StartsNew)
    (linked : Linked cluster events history)
    (linkedAfter : Linked cluster (events ++ [event]) later)
    (continues : Continues cluster.voters cluster.startView actor history later)
    (node : NodeId) :
    Settled cluster.voters cluster.startView later
      ((cluster.system.run (events ++ [event])).engine node).currentTerm
      ((cluster.system.run events).engine node).commitIndex
      ((cluster.system.run (events ++ [event])).engine node).storage.entries := by
  have before := committed.settled node
  rw [← RaftEngine.view_term, ← RaftEngine.view_log, ← linked.shows] at before
  have after := linked.valid.settled_continues new.startsEmpty continues before
  rw [linkedAfter.shows] at after
  exact after

/-- The commit index a call leaves is settled. -/
theorem Committed.settled_call
    (committed : Committed cluster events history)
    (voting : cluster.nodes ⊆ cluster.voters)
    (new : cluster.StartsNew)
    (linked : Linked cluster events history)
    (linkedAfter : Linked cluster (events ++ [event]) later)
    (continues : Continues cluster.voters cluster.startView actor history later)
    {call : Call}
    (asked : ∀ sender msg now, call = .rpc sender msg now →
      cluster.Sent (cluster.system.run events) sender node msg)
    (called : (cluster.system.run (events ++ [event])).engine node =
      (((cluster.system.run events).engine node).call call).1)
    (backed : ((cluster.system.run (events ++ [event])).engine
        node).role = .leader →
      ∀ peer, cluster.Matched (events ++ [event]) node peer
        ((((cluster.system.run (events ++ [event])).engine
          node).matchIndex.lookup peer).getD 0)) :
    Settled cluster.voters cluster.startView later
      ((cluster.system.run (events ++ [event])).engine node).currentTerm
      ((cluster.system.run (events ++ [event])).engine node).commitIndex
      ((cluster.system.run (events ++ [event])).engine node).storage.entries := by
  have kept := committed.kept new linked linkedAfter continues node
  have progress :=
    (((cluster.system.run events).engine node).call_outcome call).progress
  generalize ((cluster.system.run events).engine node).call call = result
    at called progress
  cases progress with
  | quiet _ _ sameCommit =>
      rw [← called] at sameCommit
      rw [sameCommit]
      exact kept
  | followed sender term leaderId prevLogIndex prevLogTerm entries leaderCommit
      now _ recent agreed stored following advances =>
      obtain ⟨sent, shown, sentPrev, rfl, sentSettled⟩ :=
        committed.offered _ _ _ _ _ _ _ _ (asked _ _ _ rfl)
      have grown := linked.prefix_of_accepted new shown sentPrev agreed
      have sameTerm : result.1.currentTerm = term := by
        have termEq := congrArg
          (fun storage => storage.hardState.currentTerm) stored
        exact termEq.trans ((RaftEngine.currentTerm_storeEntries _ _ _).trans
          (RaftEngine.currentTerm_follow _ recent leaderId now))
      have commitEq := advances.commitIndex
      rw [← stored] at grown
      rw [← called] at grown sameTerm commitEq
      rw [commitEq]
      rcases max_choice ((cluster.system.run events).engine node).commitIndex
        (min leaderCommit
          (prevLogIndex + (sent.log.drop prevLogIndex).length)) with old | moved
      · rw [old]
        exact kept
      · rw [moved, sameTerm]
        exact ((sentSettled.continued continues).shorten
          (Nat.min_le_left _ _)).extend grown
  | committed sender matchIndex now index entry _ wasLeading stillLeading
      sameStorage newer inside storedAt ownTerm replicated advances =>
      have commitEq : result.1.commitIndex = index := by
        rw [advances.commitIndex, Nat.max_eq_right newer.le]
      have sameTerm : result.1.currentTerm =
          ((cluster.system.run events).engine node).currentTerm :=
        congrArg (fun storage => storage.hardState.currentTerm) sameStorage
      rw [← called] at stillLeading replicated sameStorage sameTerm commitEq
      rw [commitEq]
      refine linkedAfter.chosen voting stillLeading (backed stillLeading)
        (Nat.zero_lt_of_lt newer) ?_ (ownTerm.trans sameTerm.symm) replicated
      rw [sameStorage]
      exact storedAt

/-- The commit index every event leaves is settled. -/
theorem Committed.settled_step
    (committed : Committed cluster events history)
    (voting : cluster.nodes ⊆ cluster.voters)
    (new : cluster.StartsNew)
    (linked : Linked cluster events history)
    (linkedAfter : Linked cluster (events ++ [event]) later)
    (continues : Continues cluster.voters cluster.startView actor history later)
    (below : cluster.system.Along cluster.TermsBelowMax (events ++ [event]))
    (reports : cluster.system.Along ReportsRecorded (events ++ [event]))
    (node : NodeId) :
    Settled cluster.voters cluster.startView later
      ((cluster.system.run (events ++ [event])).engine node).currentTerm
      ((cluster.system.run (events ++ [event])).engine node).commitIndex
      ((cluster.system.run (events ++ [event])).engine node).storage.entries := by
  have ran := cluster.system.run_concat events event
  have kept := committed.kept new linked linkedAfter continues node
  have unchanged : (cluster.system.run (events ++ [event])).engine node =
      (cluster.system.run events).engine node →
      Settled cluster.voters cluster.startView later
        ((cluster.system.run (events ++ [event])).engine node).currentTerm
        ((cluster.system.run (events ++ [event])).engine node).commitIndex
        ((cluster.system.run (events ++ [event])).engine
          node).storage.entries := by
    intro same
    rw [same] at kept ⊢
    exact kept
  rcases cluster.step_cases (cluster.system.run events) event with
    idle | ⟨other, now, -, -, restarted⟩ | ⟨other, call, -, -, asked, called⟩
  · exact unchanged (by rw [ran, idle])
  · by_cases same : node = other
    · subst same
      rw [ran, restarted, react_engine_self]
      exact .zero
    · exact unchanged (by rw [ran, restarted, react_engine_of_ne _ _ same])
  · by_cases same : node = other
    · subst same
      exact committed.settled_call voting new linked linkedAfter continues asked
        (by rw [ran, called, react_engine_self])
        (fun leading => matched voting new below reports leading)
    · exact unchanged (by rw [ran, called, react_engine_of_ne _ _ same])

/-- What is sent stays settled, and so is what a call sends. -/
theorem Committed.offered_step
    (committed : Committed cluster events history)
    (continues : Continues cluster.voters cluster.startView actor history later)
    (settled : ∀ node, Settled cluster.voters cluster.startView later
      ((cluster.system.run (events ++ [event])).engine node).currentTerm
      ((cluster.system.run (events ++ [event])).engine node).commitIndex
      ((cluster.system.run (events ++ [event])).engine node).storage.entries)
    {source target : NodeId}
    {term : Nat}
    {leaderId : NodeId}
    {prevLogIndex prevLogTerm : Nat}
    {entries : List LogEntry}
    {leaderCommit : Nat}
    (sent : cluster.Sent (cluster.system.run (events ++ [event])) source target
      (.appendEntries term leaderId prevLogIndex prevLogTerm entries
        leaderCommit)) :
    ∃ sent, cluster.Shown (events ++ [event]) source sent ∧
      PrevTerm sent.log prevLogIndex prevLogTerm ∧
      entries = sent.log.drop prevLogIndex ∧
      Settled cluster.voters cluster.startView later term leaderCommit
        sent.log := by
  have ran := cluster.system.run_concat events event
  have older : cluster.Sent (cluster.system.run events) source target
      (.appendEntries term leaderId prevLogIndex prevLogTerm entries
        leaderCommit) →
      ∃ sent, cluster.Shown (events ++ [event]) source sent ∧
        PrevTerm sent.log prevLogIndex prevLogTerm ∧
        entries = sent.log.drop prevLogIndex ∧
        Settled cluster.voters cluster.startView later term leaderCommit
          sent.log := by
    intro old
    obtain ⟨view, shown, sentPrev, isDrop, before⟩ :=
      committed.offered _ _ _ _ _ _ _ _ old
    exact ⟨view, shown.concat, sentPrev, isDrop, before.continued continues⟩
  rw [ran] at sent
  rcases sent with direct | ⟨broadcast, rest⟩
  · rcases emitted_cases direct with old | ⟨call, -, -, called, emitted⟩
    · exact older (.inl old)
    have now : cluster.Shown (events ++ [event]) source _ := .now
    have after := settled source
    have emits := (((cluster.system.run events).engine source).call_outcome
      call).emits emitted
    rw [ran, called, react_engine_self] at now after
    generalize ((cluster.system.run events).engine source).call call = result
      at now after emits
    generalize isRequest : RaftMessage.appendEntries term leaderId prevLogIndex
      prevLogTerm entries leaderCommit = request at emits
    cases emits with
    | appendRequest _ _ prev len leading built =>
        obtain ⟨_, agreed, -, -, rfl⟩ := RaftEngine.buildAppendEntries_some _ built
        injection isRequest with sameTerm _ samePrev sameAgreed sameEntries
          sameCommit
        subst sameTerm samePrev sameAgreed sameEntries sameCommit
        exact ⟨_, now, agreed, rfl, after⟩
    | voteReply => contradiction
    | appendReply => contradiction
  · rcases emitted_cases broadcast with old | ⟨call, -, -, -, emitted⟩
    · exact older (.inr ⟨old, rest⟩)
    · cases (((cluster.system.run events).engine source).call_outcome
        call).emits emitted

/-- What was handed over stays settled, and so is what a call hands over. -/
theorem Committed.applied_step
    (committed : Committed cluster events history)
    (continues : Continues cluster.voters cluster.startView actor history later)
    (settled : ∀ node, Settled cluster.voters cluster.startView later
      ((cluster.system.run (events ++ [event])).engine node).currentTerm
      ((cluster.system.run (events ++ [event])).engine node).commitIndex
      ((cluster.system.run (events ++ [event])).engine node).storage.entries)
    {entries : List LogEntry}
    (applied : (node, .apply entries) ∈
      (cluster.system.run (events ++ [event])).trace)
    {entry : LogEntry}
    (inside : entry ∈ entries) :
    ∃ term commit log,
      Settled cluster.voters cluster.startView later term commit log ∧
      ∃ position < commit, log[position]? = some entry ∧
        entry.index = position + 1 := by
  have ran := cluster.system.run_concat events event
  rw [ran] at applied
  rcases emitted_cases applied with old | ⟨call, -, -, called, emitted⟩
  · obtain ⟨term, commit, log, before, rest⟩ :=
      committed.applied node entries old entry inside
    exact ⟨term, commit, log, before.continued continues, rest⟩
  · have after := settled node
    have emits := (((cluster.system.run events).engine node).call_outcome
      call).emits emitted
    rw [ran, called, react_engine_self] at after
    generalize ((cluster.system.run events).engine node).call call = result
      at after emits
    cases emits with
    | apply _ handedOver =>
        obtain ⟨position, storedAt, -, below⟩ := handedOver entry inside
        have counted := result.1.storage.contiguous.index_eq storedAt
        exact ⟨_, _, _, after, position, below, storedAt, by omega⟩

end

section

variable (voting : cluster.nodes ⊆ cluster.voters) (new : cluster.StartsNew)

include voting new

/-- Every event keeps what is committed. -/
theorem Committed.step
    (committed : Committed cluster events history)
    (linked : Linked cluster events history)
    (below : cluster.system.Along cluster.TermsBelowMax (events ++ [event]))
    (reports : cluster.system.Along ReportsRecorded (events ++ [event])) :
    ∃ actor later,
      Continues cluster.voters cluster.startView actor history later ∧
      Linked cluster (events ++ [event]) later ∧
      Committed cluster (events ++ [event]) later := by
  obtain ⟨actor, later, continues, linkedAfter⟩ := linked.step
    (voterCampaigns_of_subset voting _) (System.along_concat _ |>.mp below).2
  have settled := committed.settled_step voting new linked linkedAfter continues
    below reports
  exact ⟨actor, later, continues, linkedAfter, settled,
    fun _ _ _ _ _ _ _ _ sent => committed.offered_step continues settled sent,
    fun _ _ applied _ inside =>
      committed.applied_step continues settled applied inside⟩

/-- Behind every run whose successes report what is recorded stands a history in
which everything committed is settled. -/
theorem exists_committed
    (below : cluster.system.Along cluster.TermsBelowMax events)
    (reports : cluster.system.Along ReportsRecorded events) :
    ∃ history, Linked cluster events history ∧
      Committed cluster events history := by
  induction events using List.reverseRecOn with
  | nil => exact ⟨[], .nil cluster, .nil cluster⟩
  | append_singleton events event inductionHypothesis =>
      obtain ⟨history, linked, committed⟩ := inductionHypothesis
        (System.along_concat _ |>.mp below).1
        (System.along_concat _ |>.mp reports).1
      obtain ⟨_, later, -, rest⟩ :=
        committed.step voting new linked below reports
      exact ⟨later, rest⟩

/-- Entries that are handed over anywhere with one index are one entry. -/
theorem applied_agree
    (below : cluster.system.Along cluster.TermsBelowMax events)
    (reports : cluster.system.Along ReportsRecorded events)
    {other : NodeId}
    {entries others : List LogEntry}
    (applied : (node, .apply entries) ∈ (cluster.system.run events).trace)
    (alsoApplied : (other, .apply others) ∈ (cluster.system.run events).trace)
    {first second : LogEntry}
    (inside : first ∈ entries)
    (alsoInside : second ∈ others)
    (sameIndex : first.index = second.index) :
    first = second := by
  obtain ⟨history, linked, committed⟩ :=
    exists_committed voting new below reports
  obtain ⟨_, _, log, settled, position, below, storedAt, indexEq⟩ :=
    committed.applied _ _ applied first inside
  obtain ⟨_, _, otherLog, alsoSettled, position', alsoBelow, alsoStored,
    alsoIndexEq⟩ := committed.applied _ _ alsoApplied second alsoInside
  obtain rfl : position = position' := by omega
  have agreed := linked.valid.settled_agree new.startsEmpty settled alsoSettled
    below alsoBelow
  rw [storedAt, alsoStored] at agreed
  exact Option.some.inj agreed

end

end Cluster

end Libp2pRaft
