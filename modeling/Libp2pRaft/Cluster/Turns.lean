import Libp2pRaft.Cluster.Replication
import Libp2pRaft.Library.Continuation
import Libp2pRaft.Raft.Duties

/-!
# Turns of a cluster

Short continuations of a run, without restarts: a node campaigns until it
outruns a term, a leader sends to a peer and is deposed by its answer, a voter
votes, a candidate counts, and a leader and a peer exchange one request and its
answer.  Each says what becomes of the node that acts, and that nothing else
changes.
-/

namespace Libp2pRaft

open Consensus TransitionSystem

namespace Cluster

/-- The clock reading of an event. -/
def Event.time : Event → Option Nat
  | .call _ (.tick now) => some now
  | .call _ (.rpc _ _ now) => some now
  | .call _ (.propose _) => none
  | .call _ (.rpcFailure _ _) => none
  | .restart _ now => some now

/-- A call that a node may make, which leaves terms below the largest `u64` and
handles no success that reports less than what is recorded. -/
structure Orderly (cluster : Cluster) (state : State) (event : Event) : Prop where
  enabled : cluster.Enabled state event
  isCall : ∀ node now, event ≠ .restart node now
  below : cluster.TermsBelowMax state event
  reports : ReportsRecorded state event

/-- A moment of a run. -/
abbrev Moment := System.Moment Event

/-- Some orderly continuation meets a goal. -/
abbrev Can (cluster : Cluster) (goal : Moment → Prop) (moment : Moment) : Prop :=
  System.CanReach cluster.system cluster.Orderly Event.time goal moment

/-- The engine of a node after a run. -/
abbrev engineAt
    (cluster : Cluster)
    (events : List Event)
    (node : NodeId) : MemoryEngine :=
  (cluster.system.run events).engine node

/-- Between two moments nobody but one node acts. -/
structure Acts
    (cluster : Cluster)
    (node : NodeId)
    (before after : Moment) : Prop where
  follows : before.events <+: after.events
  forward : before.now ≤ after.now
  others : ∀ other, other ≠ node →
    cluster.engineAt after.events other = cluster.engineAt before.events other
  sent : ∀ source target msg,
    cluster.Sent (cluster.system.run before.events) source target msg →
      cluster.Sent (cluster.system.run after.events) source target msg

variable {cluster : Cluster} {node peer : NodeId} {before middle after : Moment}
  {goal : Moment → Prop}

theorem Acts.refl : cluster.Acts node before before where
  follows := List.prefix_refl _
  forward := le_rfl
  others _ _ := rfl
  sent _ _ _ := id

theorem Acts.trans
    (first : cluster.Acts node before middle)
    (second : cluster.Acts node middle after) :
    cluster.Acts node before after where
  follows := first.follows.trans second.follows
  forward := first.forward.trans second.forward
  others other different :=
    (second.others other different).trans (first.others other different)
  sent source target msg sent :=
    second.sent source target msg (first.sent source target msg sent)

/-- A node made a call and has an engine and emitted some actions. -/
structure Called
    (cluster : Cluster)
    (node : NodeId)
    (call : Call)
    (before after : Moment) : Prop extends cluster.Acts node before after where
  isStep : after.events = before.events ++ [.call node call]
  engine : cluster.engineAt after.events node =
    ((cluster.engineAt before.events node).call call).1
  emitted : ∀ action ∈ ((cluster.engineAt before.events node).call call).2,
    (node, action) ∈ (cluster.system.run after.events).trace

/-- A node can make a call. -/
theorem can_call
    (inside : node ∈ cluster.nodes)
    (call : Call)
    (later : Nat)
    (forward : before.now ≤ later)
    (read : ∀ time ∈ (Event.call node call).time,
      before.now ≤ time ∧ time ≤ later)
    (asked : ∀ sender msg now, call = .rpc sender msg now →
      cluster.Sent (cluster.system.run before.events) sender node msg)
    (below : cluster.TermsBelowMax (cluster.system.run before.events)
      (.call node call))
    (reports : ReportsRecorded (cluster.system.run before.events)
      (.call node call)) :
    cluster.Can (cluster.Called node call before) before := by
  have enabled : cluster.Enabled (cluster.system.run before.events)
      (.call node call) := by
    cases call with
    | rpc sender msg now => exact ⟨inside, asked sender msg now rfl⟩
    | tick => exact inside
    | propose => exact inside
    | rpcFailure => exact inside
  have ran : cluster.system.run (before.events ++ [.call node call]) =
      react (cluster.system.run before.events) node
        ((cluster.engineAt before.events node).call call) := by
    rw [System.run_concat]
    exact if_pos enabled
  refine .step (.call node call) later
    ⟨enabled, fun _ _ same => Event.noConfusion same, below, reports⟩ forward read
    (.now ⟨⟨List.prefix_append _ _, forward, ?_, ?_⟩, rfl, ?_, ?_⟩)
  · intro other different
    show (cluster.system.run (before.events ++ [_])).engine other = _
    rw [ran, react_engine_of_ne _ _ different]
  · intro source target msg sent
    show cluster.Sent (cluster.system.run (before.events ++ [_])) source target msg
    unfold Sent at sent ⊢
    rw [ran, mem_react_trace, mem_react_trace]
    exact sent.imp .inl (.imp_left .inl)
  · show (cluster.system.run (before.events ++ [_])).engine node = _
    rw [ran, react_engine_self]
  · intro action isEmitted
    show (node, action) ∈ (cluster.system.run (before.events ++ [_])).trace
    rw [ran, mem_react_trace]
    exact .inr ⟨rfl, isEmitted⟩

/-- A node can be woken at a deadline. -/
theorem can_tick
    (inside : node ∈ cluster.nodes)
    (deadline : Nat)
    (room : (cluster.engineAt before.events node).role ≠ .leader →
      (cluster.engineAt before.events node).currentTerm < u64Max) :
    cluster.Can
      (cluster.Called node (.tick (max before.now deadline)) before) before := by
  refine can_call inside _ (max before.now deadline) (le_max_left _ _) ?_
    (fun _ _ _ same => Call.noConfusion same)
    (fun _ waiting _ => room waiting) trivial
  rintro time ⟨⟩
  exact ⟨le_max_left _ _, le_rfl⟩

/-- A node can handle what was sent to it. -/
theorem can_handle
    (inside : node ∈ cluster.nodes)
    {msg : RaftMessage}
    (sent : cluster.Sent (cluster.system.run before.events) peer node msg)
    (reports : ReportsRecorded (cluster.system.run before.events)
      (.call node (.rpc peer msg before.now))) :
    cluster.Can (cluster.Called node (.rpc peer msg before.now) before)
      before := by
  refine can_call inside _ before.now le_rfl ?_ ?_ trivial reports
  · rintro time ⟨⟩
    exact ⟨le_rfl, le_rfl⟩
  · rintro sender other now ⟨⟩
    exact sent

/-- An application can propose. -/
theorem can_propose
    (inside : node ∈ cluster.nodes)
    (data : List UInt8) :
    cluster.Can (cluster.Called node (.propose data) before) before :=
  can_call inside _ before.now le_rfl (fun _ none => nomatch none)
    (fun _ _ _ same => Call.noConfusion same) trivial trivial

/-- A request can fail. -/
theorem can_fail
    (inside : node ∈ cluster.nodes)
    (peer : NodeId) :
    cluster.Can
      (cluster.Called node (.rpcFailure peer .appendEntries) before) before :=
  can_call inside _ before.now le_rfl (fun _ none => nomatch none)
    (fun _ _ _ same => Call.noConfusion same) trivial trivial

/-! ## Campaigns -/

/-- A node has come to campaign in a term and has asked all other voters. -/
structure Campaigns
    (cluster : Cluster)
    (node : NodeId)
    (term : Nat)
    (before after : Moment) : Prop extends cluster.Acts node before after where
  role : (cluster.engineAt after.events node).role = .candidate
  ownTerm : (cluster.engineAt after.events node).currentTerm = term
  sameLog : (cluster.engineAt after.events node).storage.entries =
    (cluster.engineAt before.events node).storage.entries
  votes : (cluster.engineAt after.events node).votes = {node}
  asked : ∀ peer ∈ cluster.voters, peer ≠ node →
    cluster.Sent (cluster.system.run after.events) node peer
      (.requestVote term node
        (cluster.engineAt after.events node).storage.entries.length
        (lastTerm (cluster.engineAt after.events node).storage.entries))

/-- A node that does not lead can campaign. -/
theorem can_campaign
    (inside : node ∈ cluster.nodes)
    (waiting : (cluster.engineAt before.events node).role ≠ .leader)
    (room : (cluster.engineAt before.events node).currentTerm < u64Max) :
    cluster.Can
      (cluster.Campaigns node
        ((cluster.engineAt before.events node).currentTerm + 1) before)
      before := by
  set engine := cluster.engineAt before.events node
  have known := (cluster.configured before.events).nodeId node
  have called := engine.call_of_timeout waiting
    (le_max_right before.now engine.electionDeadline)
  refine (can_tick inside engine.electionDeadline fun _ => room).imp ?_
  intro after turn
  have acted := turn.engine
  have emitted := turn.emitted
  rw [called] at acted emitted
  have view := congrArg RaftEngine.view acted
  rw [RaftEngine.view_startElection, wrappingSucc_of_lt room] at view
  have sameLog : (cluster.engineAt after.events node).storage.entries =
      engine.storage.entries := congrArg View.log view
  refine ⟨turn.toActs, ?_, congrArg View.term view, sameLog, ?_, ?_⟩
  · rw [acted]
    rfl
  · rw [acted]
    show ({engine.config.nodeId} : Finset NodeId) = {node}
    rw [known]
  · intro peer isVoter different
    rw [sameLog]
    have broadcast := emitted _ (engine.startElection_asks _)
    rw [wrappingSucc_of_lt room, known] at broadcast
    exact .inr ⟨broadcast, isVoter, different⟩

/-- A node that does not lead can campaign until it outruns a term. -/
theorem can_outrun
    (inside : node ∈ cluster.nodes)
    (waiting : (cluster.engineAt before.events node).role ≠ .leader)
    {term : Nat}
    (below : (cluster.engineAt before.events node).currentTerm ≤ term)
    (room : term < u64Max) :
    cluster.Can (cluster.Campaigns node (term + 1) before) before := by
  refine System.CanReach.descend
    (fun count moment => cluster.Acts node before moment ∧
      (cluster.engineAt moment.events node).role ≠ .leader ∧
      (cluster.engineAt moment.events node).storage.entries =
        (cluster.engineAt before.events node).storage.entries ∧
      (cluster.engineAt moment.events node).currentTerm + count = term)
    ?_ (term - (cluster.engineAt before.events node).currentTerm)
    ⟨.refl, waiting, rfl, by omega⟩
  rintro count moment ⟨acts, stillWaiting, sameLog, reached⟩
  refine (can_campaign inside stillWaiting (by omega)).imp ?_
  intro after campaigns
  cases count with
  | zero =>
      left
      rw [← reached]
      exact { campaigns with
        toActs := acts.trans campaigns.toActs
        sameLog := campaigns.sameLog.trans sameLog }
  | succ fewer =>
      right
      refine ⟨fewer, Nat.lt_succ_self _, acts.trans campaigns.toActs, ?_,
        campaigns.sameLog.trans sameLog, ?_⟩
      · rw [campaigns.role]
        exact Role.noConfusion
      · rw [campaigns.ownTerm]
        omega

/-! ## Requests of a leader -/

/-- A node has entered a term as a follower. -/
structure Follows
    (cluster : Cluster)
    (node : NodeId)
    (term : Nat)
    (before after : Moment) : Prop extends cluster.Acts node before after where
  role : (cluster.engineAt after.events node).role = .follower
  ownTerm : (cluster.engineAt after.events node).currentTerm = term
  sameLog : (cluster.engineAt after.events node).storage.entries =
    (cluster.engineAt before.events node).storage.entries

/-- A leader has come to send a peer what is behind a position. -/
structure Offers
    (cluster : Cluster)
    (node peer : NodeId)
    (prev : Nat)
    (request : RaftMessage)
    (before after : Moment) : Prop extends cluster.Acts node before after where
  frame : ∃ lastAe aeInflight heartbeatDeadline,
    cluster.engineAt after.events node =
      { cluster.engineAt before.events node with
        lastAe := lastAe
        aeInflight := aeInflight
        heartbeatDeadline := heartbeatDeadline }
  built : (cluster.engineAt after.events node).buildAppendEntries peer =
    some (request, prev,
      (cluster.engineAt after.events node).storage.entries.length - prev)
  recorded : (cluster.engineAt after.events node).lastAe.lookup peer =
    some (prev,
      (cluster.engineAt after.events node).storage.entries.length - prev)
  offered : cluster.Sent (cluster.system.run after.events) node peer request

/-- A leader can give up on what is outstanding and send anew. -/
theorem can_offer
    (inside : node ∈ cluster.nodes)
    (leading : (cluster.engineAt before.events node).role = .leader)
    (isPeer : peer ∈ (cluster.engineAt before.events node).otherVoters)
    {prev : Nat}
    (next : (cluster.engineAt before.events node).nextIndex.lookup peer =
      some (prev + 1))
    (fits : prev ≤
      (cluster.engineAt before.events node).storage.entries.length) :
    cluster.Can
      (fun after => ∃ request, cluster.Offers node peer prev request before after)
      before := by
  refine (can_fail inside peer).bind ?_
  intro middle failed
  have freed : cluster.engineAt middle.events node =
      { cluster.engineAt before.events node with
        aeInflight :=
          (cluster.engineAt before.events node).aeInflight.erase peer } :=
    failed.engine
  refine (can_tick inside (cluster.engineAt middle.events node).heartbeatDeadline
    ?_).imp ?_
  · rw [freed]
    exact fun waiting => absurd leading waiting
  intro after turn
  have called := RaftEngine.call_of_heartbeat (cluster.engineAt middle.events node)
    (by rw [freed]; exact leading)
    (le_max_right middle.now
      (cluster.engineAt middle.events node).heartbeatDeadline)
  have acted := turn.engine
  have emitted := turn.emitted
  rw [called] at acted emitted
  obtain ⟨lastAe, aeInflight, frame⟩ :=
    (cluster.engineAt middle.events node).replicateActions_frame
  have stillPeer : peer ∈
      (cluster.engineAt middle.events node).otherVoters := by
    rw [freed]
    exact isPeer
  obtain ⟨request, built, isSent, recorded⟩ :=
    RaftEngine.sendAppendEntriesToAll_sends (cluster.engineAt middle.events node)
      stillPeer (Membership.otherVoters_nodup _ _)
      (by rw [freed]; exact Finset.notMem_erase _ _)
      (by rw [freed]; exact next) (by rw [freed]; exact fits)
  have sameLog : (cluster.engineAt after.events node).storage =
      (cluster.engineAt middle.events node).storage := by
    rw [acted, frame]
  refine ⟨request, failed.toActs.trans turn.toActs, ?_, ?_, ?_, ?_⟩
  · refine ⟨lastAe, aeInflight,
      (cluster.engineAt after.events node).heartbeatDeadline, ?_⟩
    rw [acted, frame, freed]
  · rw [RaftEngine.buildAppendEntries_congr (cluster.engineAt middle.events node)
      sameLog (by rw [acted, frame]) (by rw [acted, frame])
      (by rw [acted, frame]), built, sameLog]
  · rw [sameLog, ← recorded, acted]
    rfl
  · exact .inl (emitted _ isSent)

/-- A leader of an earlier term can be deposed by a peer. -/
theorem can_depose
    (inside : node ∈ cluster.nodes)
    (peerInside : peer ∈ cluster.nodes)
    (leading : (cluster.engineAt before.events node).role = .leader)
    (isPeer : peer ∈ (cluster.engineAt before.events node).otherVoters)
    (newer : (cluster.engineAt before.events node).currentTerm <
      (cluster.engineAt before.events peer).currentTerm) :
    cluster.Can
      (cluster.Follows node (cluster.engineAt before.events peer).currentTerm
        before)
      before := by
  have different : peer ≠ node := by
    rintro rfl
    exact lt_irrefl _ newer
  obtain ⟨storage, start, calls, lived⟩ :=
    cluster.exists_lifetime before.events node
  have tabled : (cluster.engineAt before.events node).Tabled := by
    have held := RaftEngine.lifetime_tabled (cluster.config node) storage start
      calls
    rw [← lived] at held
    exact held leading
  obtain ⟨window, tracks, fits⟩ := tabled.tracked peer isPeer
  obtain ⟨prev, isNext⟩ : ∃ prev, window.next = prev + 1 :=
    ⟨window.next - 1, by have := fits.matched_lt; omega⟩
  have next := tracks.next
  rw [isNext] at next
  have bounded : prev ≤
      (cluster.engineAt before.events node).storage.entries.length := by
    have above := fits.next_le
    rw [isNext] at above
    exact Nat.le_of_succ_le_succ above
  refine (can_offer inside leading isPeer next bounded).bind ?_
  rintro offering ⟨request, offers⟩
  obtain ⟨lastAe, aeInflight, heartbeatDeadline, frame⟩ := offers.frame
  obtain ⟨prevTerm, -, -, -, rfl⟩ :=
    RaftEngine.buildAppendEntries_some _ offers.built
  refine (can_handle peerInside offers.offered trivial).bind ?_
  intro answering refused
  have samePeer := offers.others peer different
  have sameTerm : (cluster.engineAt offering.events node).currentTerm =
      (cluster.engineAt before.events node).currentTerm := by
    rw [frame]
    rfl
  have stale : (cluster.engineAt offering.events node).currentTerm <
      (cluster.engineAt offering.events peer).currentTerm := by
    rw [sameTerm, samePeer]
    exact newer
  have acted := refused.engine
  have emitted := refused.emitted
  rw [RaftEngine.call_of_stale_append _ stale] at acted emitted
  have answered := emitted _ (List.mem_singleton_self _)
  rw [samePeer] at answered
  refine (can_handle inside (.inl answered) trivial).imp ?_
  intro after deposed
  have sameNode := refused.others node different.symm
  have latest := deposed.engine
  rw [RaftEngine.call_of_newer_reply _ (by rw [sameNode, sameTerm]; exact newer)]
    at latest
  have view := congrArg RaftEngine.view latest
  rw [RaftEngine.view_becomeFollower,
    if_pos (by rw [sameNode, sameTerm]; exact newer), sameNode, frame] at view
  refine ⟨⟨?_, ?_, ?_, ?_⟩, Role.standing_eq_follower.mp
    (congrArg View.standing view), congrArg View.term view,
    congrArg View.log view⟩
  · exact (offers.follows.trans refused.follows).trans deposed.follows
  · exact (offers.forward.trans refused.forward).trans deposed.forward
  · intro other isOther
    rw [deposed.others other isOther]
    by_cases isPeer : other = peer
    · subst isPeer
      exact acted.trans samePeer
    · rw [refused.others other isPeer, offers.others other isOther]
  · intro source target msg sent
    exact deposed.sent _ _ _ (refused.sent _ _ _ (offers.toActs.sent _ _ _ sent))

/-! ## Votes -/

/-- A node of an earlier term can vote for a candidate that is as up to date. -/
theorem can_vote
    (inside : node ∈ cluster.nodes)
    {term : Nat}
    {log : List LogEntry}
    (asked : cluster.Sent (cluster.system.run before.events) peer node
      (.requestVote term peer log.length (lastTerm log)))
    (newer : (cluster.engineAt before.events node).currentTerm < term)
    (upToDate : UpToDate log
      (cluster.engineAt before.events node).storage.entries) :
    cluster.Can
      (fun after => cluster.Follows node term before after ∧
        cluster.Sent (cluster.system.run after.events) node peer
          (.requestVoteResp term true))
      before := by
  refine (can_handle inside asked trivial).imp ?_
  intro after voted
  have acted := voted.engine
  have emitted := voted.emitted
  have entered := (cluster.engineAt before.events node).view_enterTerm term
  rw [if_pos newer] at entered
  have sameLog : ((cluster.engineAt before.events node).enterTerm
      term).1.storage.entries =
        (cluster.engineAt before.events node).storage.entries :=
    congrArg View.log entered
  have grants : (cluster.engineAt before.events node).Grants term peer log.length
      (lastTerm log) := by
    refine ⟨.inl (congrArg View.vote entered), logIsUpToDate_iff.mpr ?_⟩
    rw [MemoryStorage.storage_log, sameLog]
    exact upToDate
  rw [RaftEngine.call_of_grants _ _ _ newer.le grants] at acted emitted
  dsimp only at acted emitted
  have view := congrArg RaftEngine.view acted
  rw [RaftEngine.view_recordVote, entered] at view
  have enteredTerm : ((cluster.engineAt before.events node).enterTerm
      term).1.currentTerm = term := congrArg View.term entered
  have ownTerm : (cluster.engineAt after.events node).currentTerm = term := by
    have viewTerm := congrArg View.term view
    rw [enteredTerm, Nat.max_self] at viewTerm
    exact viewTerm
  have reply := emitted _ (List.mem_append_right _ (List.mem_singleton_self _))
  rw [← acted, ownTerm] at reply
  exact ⟨⟨voted.toActs,
    Role.standing_eq_follower.mp (congrArg View.standing view), ownTerm,
    congrArg View.log view⟩, .inl reply⟩

/-- A node has won its election and knows nothing of its peers yet. -/
structure Wins
    (cluster : Cluster)
    (node : NodeId)
    (before after : Moment) : Prop extends cluster.Acts node before after where
  role : (cluster.engineAt after.events node).role = .leader
  sameStorage : (cluster.engineAt after.events node).storage =
    (cluster.engineAt before.events node).storage
  tracks : ∀ peer ∈ (cluster.engineAt after.events node).otherVoters,
    (cluster.engineAt after.events node).Tracks peer
      (.opened (cluster.engineAt after.events node).storage.entries.length)

/-- A candidate has counted one more vote, and it is not enough. -/
structure Counts
    (cluster : Cluster)
    (node peer : NodeId)
    (before after : Moment) : Prop extends cluster.Acts node before after where
  role : (cluster.engineAt after.events node).role = .candidate
  sameStorage : (cluster.engineAt after.events node).storage =
    (cluster.engineAt before.events node).storage
  votes : (cluster.engineAt after.events node).votes =
    insert peer (cluster.engineAt before.events node).votes
  few : (cluster.engineAt after.events node).votes.card <
    (cluster.engineAt after.events node).membership.quorum

/-- A candidate can count a vote. -/
theorem can_count
    (inside : node ∈ cluster.nodes)
    (campaigning : (cluster.engineAt before.events node).role = .candidate)
    (granted : cluster.Sent (cluster.system.run before.events) peer node
      (.requestVoteResp (cluster.engineAt before.events node).currentTerm
        true)) :
    cluster.Can
      (fun after => cluster.Counts node peer before after ∨
        cluster.Wins node before after)
      before := by
  refine (can_handle inside granted trivial).imp ?_
  intro after counted
  have acted := counted.engine
  rw [RaftEngine.call_of_vote _ campaigning] at acted
  split_ifs at acted with enough
  · right
    refine ⟨counted.toActs, by rw [acted]; rfl, by rw [acted]; rfl, ?_⟩
    intro other isPeer
    rw [acted] at isPeer ⊢
    exact RaftEngine.becomeLeader_tracks _ _ _ isPeer
  · left
    refine ⟨counted.toActs, by rw [acted]; exact campaigning, by rw [acted],
      by rw [acted], ?_⟩
    rw [acted]
    exact Nat.lt_of_not_le enough

/-! ## Proposals and replication -/

/-- A leader has written a command. -/
structure Proposes
    (cluster : Cluster)
    (node : NodeId)
    (data : List UInt8)
    (before after : Moment) : Prop extends cluster.Acts node before after where
  isStep : after.events = before.events ++ [.call node (.propose data)]
  role : (cluster.engineAt after.events node).role = .leader
  ownTerm : (cluster.engineAt after.events node).currentTerm =
    (cluster.engineAt before.events node).currentTerm
  log : (cluster.engineAt after.events node).storage.entries =
    (cluster.engineAt before.events node).storage.entries ++
      [(cluster.engineAt before.events node).commandEntry data]
  next : (cluster.engineAt after.events node).nextIndex =
    (cluster.engineAt before.events node).nextIndex
  matched : (cluster.engineAt after.events node).matchIndex =
    (cluster.engineAt before.events node).matchIndex

theorem can_command
    (inside : node ∈ cluster.nodes)
    (leading : (cluster.engineAt before.events node).role = .leader)
    (data : List UInt8) :
    cluster.Can (cluster.Proposes node data before) before := by
  refine (can_propose inside data).imp ?_
  intro after proposed
  have acted := proposed.engine
  rw [RaftEngine.call_of_propose _ leading] at acted
  have view := congrArg RaftEngine.view acted
  rw [RaftEngine.view_replicateActions, RaftEngine.view_appendCommand] at view
  obtain ⟨_, _, frame⟩ := ((cluster.engineAt before.events node).appendCommand
    data).replicateActions_frame
  rw [frame] at acted
  exact ⟨proposed.toActs, proposed.isStep, by rw [acted]; exact leading,
    congrArg View.term view, congrArg View.log view, by rw [acted]; rfl,
    by rw [acted]; rfl⟩

/-- A request of a leader is on its way to a peer that may refuse it. -/
def Asks
    (cluster : Cluster)
    (node peer : NodeId)
    (log : List LogEntry)
    (prev : Nat)
    (moment : Moment) : Prop :=
  ∃ request,
    Repair.Asking log peer prev
      { leader := cluster.engineAt moment.events node
        follower := cluster.engineAt moment.events peer
        request := some request
        outcomes := List.replicate (log.length - prev) false } ∧
    cluster.Sent (cluster.system.run moment.events) node peer request

/-- A leader and a peer have dealt with each other, and with nobody else. -/
structure Deals
    (cluster : Cluster)
    (node peer : NodeId)
    (before after : Moment) : Prop where
  follows : before.events <+: after.events
  forward : before.now ≤ after.now
  others : ∀ other, other ≠ node → other ≠ peer →
    cluster.engineAt after.events other = cluster.engineAt before.events other
  leader : RaftEngine.KeepsOthers (cluster.engineAt before.events node)
    (cluster.engineAt after.events node) peer

/-- What a node says to another one is sent. -/
theorem Called.says
    {call : Call}
    (called : cluster.Called node call before after)
    (target : NodeId)
    (msg : RaftMessage)
    (said : messageTo target
      ((cluster.engineAt before.events node).call call).2 = some msg) :
    cluster.Sent (cluster.system.run after.events) node target msg := by
  obtain ⟨first, rest, spoken, -⟩ := List.lookup_eq_some_iff.mp said
  have inside : (target, msg) ∈ outgoing []
      ((cluster.engineAt before.events node).call call).2 := by
    rw [spoken]
    simp
  rcases mem_outgoing.mp inside with direct | ⟨-, none⟩
  · exact .inl (called.emitted _ direct)
  · contradiction

/-- After a refusal the request behind the position before is on its way. -/
theorem Asks.refused
    {log : List LogEntry}
    {prev : Nat}
    {request : RaftMessage}
    {matchIndex now : Nat}
    (asking : Repair.Asking log peer prev
      { leader := cluster.engineAt before.events node
        follower := cluster.engineAt before.events peer
        request := some request
        outcomes := List.replicate (log.length - prev) false })
    (positive : 0 < prev)
    (sameLeader : cluster.engineAt middle.events node =
      cluster.engineAt before.events node)
    (called : cluster.Called node
      (.rpc peer (.appendEntriesResp
        (cluster.engineAt before.events node).currentTerm false matchIndex) now)
      middle after)
    (older : (cluster.engineAt after.events peer).currentTerm ≤
      (cluster.engineAt before.events node).currentTerm)
    (sameLog : (cluster.engineAt after.events peer).storage.entries =
      (cluster.engineAt before.events peer).storage.entries) :
    cluster.Asks node peer log (prev - 1) after := by
  have next := asking.refused positive older sameLog matchIndex now
  obtain ⟨later, isLater, built⟩ := next.built
  have acted := called.engine
  have said := called.says peer later
  rw [sameLeader] at acted said
  refine ⟨later, ?_, said isLater⟩
  have outcomes := next.outcomes
  dsimp only at isLater outcomes
  rw [isLater, outcomes] at next
  rw [acted]
  exact next

/-- The only message of a call is sent. -/
theorem Called.says_only
    {call : Call}
    (called : cluster.Called node call before after)
    {target : NodeId}
    {msg : RaftMessage}
    (only : ∀ others, outgoing others
      ((cluster.engineAt before.events node).call call).2 = [(target, msg)]) :
    cluster.Sent (cluster.system.run after.events) node target msg := by
  apply called.says
  show List.lookup target (outgoing []
    ((cluster.engineAt before.events node).call call).2) = _
  rw [only]
  simp

/-- A request that a peer handled, and its answer, concern only the two. -/
theorem Deals.of_answer
    {request : RaftMessage}
    {time prev len : Nat}
    {success : Bool}
    {matchIndex now : Nat}
    (different : peer ≠ node)
    (leading : (cluster.engineAt before.events node).role = .leader)
    (recorded : (cluster.engineAt before.events node).lastAe.lookup peer =
      some (prev, len))
    (asked : cluster.Called peer (.rpc node request time) before middle)
    (told : cluster.Called node
      (.rpc peer (.appendEntriesResp
        (cluster.engineAt before.events node).currentTerm success matchIndex)
        now) middle after) :
    cluster.Deals node peer before after := by
  refine ⟨asked.follows.trans told.follows, asked.forward.trans told.forward,
    ?_, ?_⟩
  · intro other notNode notPeer
    rw [told.others other notNode, asked.others other notPeer]
  · rw [told.engine, asked.others node different.symm]
    exact RaftEngine.call_of_response _ leading recorded _ _ _

/-- The success of a peer that holds the log of the leader reports what the
leader recorded. -/
theorem reportsRecorded_of_asking
    {log : List LogEntry}
    {prev now : Nat}
    {request : Option RaftMessage}
    {outcomes : List Bool}
    (asking : Repair.Asking log peer prev
      { leader := cluster.engineAt before.events node
        follower := cluster.engineAt before.events peer
        request := request
        outcomes := outcomes })
    (sameLeader : cluster.engineAt middle.events node =
      cluster.engineAt before.events node) :
    ReportsRecorded (cluster.system.run middle.events)
      (.call node (.rpc peer (.appendEntriesResp
        (cluster.engineAt before.events node).currentTerm true
        (cluster.engineAt before.events node).storage.entries.length) now)) := by
  apply reportsRecorded_call
  rintro _ _ _ _ ⟨⟩ - - recorded isRecorded
  have batch := asking.tracks.batch
  rw [show (cluster.system.run middle.events).engine node = _ from sameLeader,
    batch] at isRecorded
  cases isRecorded
  rw [asking.sameLog, Nat.add_sub_cancel' asking.inside]

/-- After a success the leader knows that the peer holds its log. -/
theorem Asks.accepted
    {log : List LogEntry}
    {prev : Nat}
    {request : RaftMessage}
    {matchIndex now : Nat}
    (asking : Repair.Asking log peer prev
      { leader := cluster.engineAt before.events node
        follower := cluster.engineAt before.events peer
        request := some request
        outcomes := List.replicate (log.length - prev) false })
    (sameLeader : cluster.engineAt middle.events node =
      cluster.engineAt before.events node)
    (told : cluster.Called node
      (.rpc peer (.appendEntriesResp
        (cluster.engineAt before.events node).currentTerm true matchIndex) now)
      middle after)
    (holds : log <+: (cluster.engineAt after.events peer).storage.entries) :
    (cluster.engineAt after.events node).nextIndex.lookup peer =
        some (log.length + 1) ∧
      (cluster.engineAt after.events node).matchIndex.lookup peer =
        some log.length := by
  have converged := asking.accepted holds matchIndex now
  have acted := told.engine
  rw [sameLeader] at acted
  rw [acted]
  exact ⟨converged.next, converged.matched⟩

/-- A request and its answer: it is refused and the request behind the position
before is on its way, or everything is replicated. -/
theorem can_exchange
    (inside : node ∈ cluster.nodes)
    (peerInside : peer ∈ cluster.nodes)
    (different : peer ≠ node)
    {log : List LogEntry}
    {prev : Nat}
    (asks : cluster.Asks node peer log prev before) :
    cluster.Can
      (fun after => cluster.Deals node peer before after ∧
        (cluster.engineAt after.events peer).currentTerm =
          (cluster.engineAt before.events node).currentTerm ∧
        ((0 < prev ∧ cluster.Asks node peer log (prev - 1) after) ∨
          (log <+: (cluster.engineAt after.events peer).storage.entries ∧
            (cluster.engineAt after.events node).nextIndex.lookup peer =
              some (log.length + 1) ∧
            (cluster.engineAt after.events node).matchIndex.lookup peer =
              some log.length)))
      before := by
  obtain ⟨request, asking, sent⟩ := asks
  obtain ⟨_, ⟨⟩, isBuilt⟩ := asking.built
  have built : (cluster.engineAt before.events node).buildAppendEntries peer =
      some (request, prev, log.length - prev) := isBuilt
  have isAppend : ∀ now, ReportsRecorded (cluster.system.run before.events)
      (.call peer (.rpc node request now)) := by
    obtain ⟨_, -, -, -, rfl⟩ := RaftEngine.buildAppendEntries_some _ built
    exact fun _ => trivial
  refine (can_handle peerInside sent (isAppend _)).bind ?_
  intro middle asked
  obtain ⟨-, sameTerm, answered⟩ := RaftEngine.handleRpc_of_built built
    asking.older node before.now
  have sameLeader := asked.others node different.symm
  have peerEngine : cluster.engineAt middle.events peer =
      ((cluster.engineAt before.events peer).handleRpc node request
        before.now).1 := asked.engine
  cases answered with
  | refused positive sameLog sameCommit reply =>
      refine (can_handle inside (asked.says_only reply) trivial).imp ?_
      intro after told
      have peerAfter : cluster.engineAt after.events peer =
          ((cluster.engineAt before.events peer).handleRpc node request
            before.now).1 := (told.others peer different).trans peerEngine
      refine ⟨.of_answer different asking.leading asking.tracks.batch asked told,
        by rw [peerAfter]; exact sameTerm, .inl ⟨positive, ?_⟩⟩
      exact Asks.refused asking positive sameLeader told
        (by rw [peerAfter]; exact sameTerm.le) (by rw [peerAfter]; exact sameLog)
  | accepted agree bounded spliced reply =>
      refine (can_handle inside (asked.says_only reply)
        (reportsRecorded_of_asking asking sameLeader)).imp ?_
      intro after told
      have peerAfter : cluster.engineAt after.events peer =
          ((cluster.engineAt before.events peer).handleRpc node request
            before.now).1 := (told.others peer different).trans peerEngine
      rw [asking.sameLog] at agree bounded spliced
      have holds : log <+:
          (cluster.engineAt after.events peer).storage.entries := by
        rw [peerAfter, spliced]
        exact prefix_splice asking.matching bounded agree
      exact ⟨.of_answer different asking.leading asking.tracks.batch asked told,
        by rw [peerAfter]; exact sameTerm,
        .inr ⟨holds, Asks.accepted asking sameLeader told holds⟩⟩

/-- A leader can tell a peer that holds its log how far it is committed. -/
theorem can_notify
    (inside : node ∈ cluster.nodes)
    (peerInside : peer ∈ cluster.nodes)
    (different : peer ≠ node)
    (leading : (cluster.engineAt before.events node).role = .leader)
    (isPeer : peer ∈ (cluster.engineAt before.events node).otherVoters)
    (next : (cluster.engineAt before.events node).nextIndex.lookup peer =
      some ((cluster.engineAt before.events node).storage.entries.length + 1))
    (older : (cluster.engineAt before.events peer).currentTerm ≤
      (cluster.engineAt before.events node).currentTerm)
    (holds : (cluster.engineAt before.events node).storage.entries <+:
      (cluster.engineAt before.events peer).storage.entries) :
    cluster.Can
      (fun after => before.events <+: after.events ∧
        (∀ other, other ≠ node → other ≠ peer →
          cluster.engineAt after.events other =
            cluster.engineAt before.events other) ∧
        (∃ lastAe aeInflight heartbeatDeadline,
          cluster.engineAt after.events node =
            { cluster.engineAt before.events node with
              lastAe := lastAe
              aeInflight := aeInflight
              heartbeatDeadline := heartbeatDeadline }) ∧
        (cluster.engineAt after.events peer).currentTerm =
          (cluster.engineAt before.events node).currentTerm ∧
        (cluster.engineAt after.events peer).storage.entries =
          (cluster.engineAt before.events peer).storage.entries ∧
        min (cluster.engineAt before.events node).commitIndex
            (cluster.engineAt before.events node).storage.entries.length ≤
          (cluster.engineAt after.events peer).commitIndex)
      before := by
  refine (can_offer inside leading isPeer next le_rfl).bind ?_
  rintro middle ⟨request, offers⟩
  obtain ⟨lastAe, aeInflight, heartbeatDeadline, frame⟩ := offers.frame
  have samePeer := offers.others peer different
  have sameStorage : (cluster.engineAt middle.events node).storage =
      (cluster.engineAt before.events node).storage := by rw [frame]
  have sameTerm : (cluster.engineAt middle.events node).currentTerm =
      (cluster.engineAt before.events node).currentTerm := by rw [frame]; rfl
  have sameCommit : (cluster.engineAt middle.events node).commitIndex =
      (cluster.engineAt before.events node).commitIndex := by rw [frame]
  have built := offers.built
  rw [← sameStorage] at built
  have isAppend : ReportsRecorded (cluster.system.run middle.events)
      (.call peer (.rpc node request middle.now)) := by
    obtain ⟨_, -, -, -, rfl⟩ := RaftEngine.buildAppendEntries_some _ built
    trivial
  refine (can_handle peerInside offers.offered isAppend).imp ?_
  intro after told
  have peerEngine : cluster.engineAt after.events peer =
      ((cluster.engineAt middle.events peer).handleRpc node request
        middle.now).1 := told.engine
  obtain ⟨ownTerm, sameLog, learnt⟩ := RaftEngine.handleRpc_of_empty
    (cluster.engineAt middle.events peer) built
    (by rw [samePeer, sameTerm]; exact older)
    (by rw [samePeer, sameStorage]; exact holds) node middle.now
  rw [← peerEngine] at ownTerm sameLog learnt
  refine ⟨offers.follows.trans told.follows, ?_, ?_, ownTerm.trans sameTerm,
    sameLog.trans (by rw [samePeer]), ?_⟩
  · intro other notNode notPeer
    rw [told.others other notPeer, offers.others other notNode]
  · rw [told.others node different.symm]
    exact ⟨lastAe, aeInflight, heartbeatDeadline, frame⟩
  · rw [← sameCommit, ← sameStorage]
    exact learnt

end Cluster

end Libp2pRaft
