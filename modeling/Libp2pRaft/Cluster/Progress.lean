import Mathlib.Data.Finset.Max
import Mathlib.Data.Prod.Lex
import Libp2pRaft.Cluster.Linearizability
import Libp2pRaft.Cluster.Turns

/-!
# Progress is always possible

Whatever has become of a cluster of voters, it can go on without restarts until
a new command is handed over everywhere: a node whose log is as up to date as
all others outruns their terms, is voted for, writes the command, repairs every
other log and says how far it is committed.
-/

namespace Libp2pRaft

open Consensus TransitionSystem

namespace Cluster

variable {cluster : Cluster} {node peer : NodeId} {before middle after : Moment}

/-- The others of a node are the other voters. -/
theorem mem_otherVoters_engineAt
    (cluster : Cluster)
    (events : List Event)
    (node peer : NodeId) :
    peer ∈ (cluster.engineAt events node).otherVoters ↔
      peer ∈ cluster.voters ∧ peer ≠ node := by
  have configured := cluster.configured events
  rw [RaftEngine.otherVoters, configured.nodeId node,
    Membership.mem_otherVoters, configured.membership node,
    Membership.mem_voters_new, ← cluster.voters_eq node, List.mem_toFinset]

/-- Some log is as up to date as all others. -/
theorem exists_best_log
    (cluster : Cluster)
    (events : List Event)
    (populated : cluster.nodes.Nonempty) :
    ∃ node ∈ cluster.nodes, ∀ other ∈ cluster.nodes,
      UpToDate (cluster.engineAt events node).storage.entries
        (cluster.engineAt events other).storage.entries := by
  obtain ⟨node, inside, best⟩ := Finset.exists_max_image cluster.nodes
    (fun node => toLex
      (lastTerm (cluster.engineAt events node).storage.entries,
        (cluster.engineAt events node).storage.entries.length)) populated
  refine ⟨node, inside, ?_⟩
  intro other otherInside
  exact Prod.Lex.le_iff.mp (best other otherInside) |>.imp id
    fun same => ⟨same.1.symm, same.2⟩

/-! ## Leaving office -/

/-- Nothing was written since a moment, and terms stay below a bound. -/
structure Unwritten
    (cluster : Cluster)
    (bound : Nat)
    (before after : Moment) : Prop where
  follows : before.events <+: after.events
  sameLog : ∀ node, (cluster.engineAt after.events node).storage.entries =
    (cluster.engineAt before.events node).storage.entries
  below : ∀ node ∈ cluster.nodes,
    (cluster.engineAt after.events node).currentTerm ≤ bound

theorem Unwritten.trans
    {bound later : Nat}
    (first : cluster.Unwritten bound before middle)
    (second : cluster.Unwritten later middle after) :
    cluster.Unwritten later before after where
  follows := first.follows.trans second.follows
  sameLog node := (second.sameLog node).trans (first.sameLog node)
  below := second.below

/-- One node acts, writes nothing and stays below the bound. -/
theorem Acts.unwritten
    {bound : Nat}
    (acts : cluster.Acts node before after)
    (sameLog : (cluster.engineAt after.events node).storage.entries =
      (cluster.engineAt before.events node).storage.entries)
    (reached : (cluster.engineAt after.events node).currentTerm ≤ bound)
    (below : ∀ other ∈ cluster.nodes,
      (cluster.engineAt before.events other).currentTerm ≤ bound) :
    cluster.Unwritten bound before after := by
  refine ⟨acts.follows, ?_, ?_⟩
  · intro other
    by_cases isNode : other = node
    · subst isNode
      exact sameLog
    · rw [acts.others other isNode]
  · intro other otherInside
    by_cases isNode : other = node
    · subst isNode
      exact reached
    · rw [acts.others other isNode]
      exact below other otherInside

section

variable (voting : cluster.nodes ⊆ cluster.voters)
  (inside : node ∈ cluster.nodes) (peerInside : peer ∈ cluster.nodes)
  {bound : Nat}
  (below : ∀ other ∈ cluster.nodes,
    (cluster.engineAt before.events other).currentTerm ≤ bound)

include voting inside peerInside below

/-- A leader can be deposed by a peer of a later term, and nothing is written. -/
theorem can_unseat
    (leading : (cluster.engineAt before.events node).role = .leader)
    (newer : (cluster.engineAt before.events node).currentTerm <
      (cluster.engineAt before.events peer).currentTerm) :
    cluster.Can
      (fun after => cluster.Unwritten bound before after ∧
        cluster.Follows node (cluster.engineAt before.events peer).currentTerm
          before after)
      before := by
  have different : peer ≠ node := by
    rintro rfl
    exact lt_irrefl _ newer
  have isPeer := (mem_otherVoters_engineAt cluster before.events node peer).mpr
    ⟨voting peerInside, different⟩
  refine (can_depose inside peerInside leading isPeer newer).imp ?_
  intro after follows
  refine ⟨follows.toActs.unwritten follows.sameLog ?_ below, follows⟩
  rw [follows.ownTerm]
  exact below peer peerInside

/-- A leader can be made to follow by a peer that does not lead. -/
theorem can_overtake
    (different : peer ≠ node)
    (room : bound < u64Max)
    (leading : (cluster.engineAt before.events node).role = .leader)
    (waiting : (cluster.engineAt before.events peer).role ≠ .leader) :
    cluster.Can
      (fun after => cluster.Unwritten (bound + 1) before after ∧
        (cluster.engineAt after.events node).role ≠ .leader)
      before := by
  refine (can_outrun peerInside waiting (below peer peerInside) room).bind ?_
  intro middle campaigns
  have outrun := campaigns.toActs.unwritten campaigns.sameLog
    campaigns.ownTerm.le
    fun other otherInside => (below other otherInside).trans (Nat.le_succ _)
  have sameNode := campaigns.others node different.symm
  have newer : (cluster.engineAt middle.events node).currentTerm <
      (cluster.engineAt middle.events peer).currentTerm := by
    rw [sameNode, campaigns.ownTerm]
    exact Nat.lt_succ_of_le (below node inside)
  refine (can_unseat voting inside peerInside outrun.below
    (by rw [sameNode]; exact leading) newer).imp ?_
  rintro after ⟨unwritten, follows⟩
  refine ⟨outrun.trans unwritten, ?_⟩
  rw [follows.role]
  exact Role.noConfusion

/-- A node can be made not to lead. -/
theorem can_leave_office
    (terms : cluster.system.Along cluster.TermsBelowMax before.events)
    (different : peer ≠ node)
    (room : bound < u64Max) :
    cluster.Can
      (fun after => cluster.Unwritten (bound + 1) before after ∧
        (cluster.engineAt after.events node).role ≠ .leader)
      before := by
  have belowNext : ∀ other ∈ cluster.nodes,
      (cluster.engineAt before.events other).currentTerm ≤ bound + 1 :=
    fun other otherInside => (below other otherInside).trans (Nat.le_succ _)
  by_cases waiting : (cluster.engineAt before.events node).role ≠ .leader
  · exact .now ⟨⟨List.prefix_refl _, fun _ => rfl, belowNext⟩, waiting⟩
  have leading := not_not.mp waiting
  by_cases idle : (cluster.engineAt before.events peer).role ≠ .leader
  · exact can_overtake voting inside peerInside below different room leading idle
  have rival := not_not.mp idle
  rcases Nat.lt_trichotomy (cluster.engineAt before.events node).currentTerm
    (cluster.engineAt before.events peer).currentTerm with older | same | newer
  · refine (can_unseat voting inside peerInside belowNext leading older).imp ?_
    rintro after ⟨unwritten, follows⟩
    refine ⟨unwritten, ?_⟩
    rw [follows.role]
    exact Role.noConfusion
  · -- No term has two leaders.
    obtain ⟨history, linked⟩ := exists_linked
      (voterCampaigns_of_subset voting before.events) terms
    have shows := linked.seen_past (List.prefix_refl _)
    exact absurd (linked.valid.election_safety cluster.startsFollowing
      (shows peer) (shows node) (Role.standing_eq_leader.mpr rival)
      (Role.standing_eq_leader.mpr leading) same.symm) different
  · -- The later leader deposes the earlier one, and is overtaken by it.
    refine (can_unseat voting peerInside inside below rival newer).bind ?_
    rintro middle ⟨unwritten, follows⟩
    have sameNode := follows.others node different.symm
    refine (can_overtake voting inside peerInside unwritten.below different room
      (by rw [sameNode]; exact leading) ?_).imp ?_
    · rw [follows.role]
      exact Role.noConfusion
    · rintro after ⟨later, left⟩
      exact ⟨unwritten.trans later, left⟩

end

/-! ## Election -/

/-- Between two moments only some nodes act. -/
structure Spares
    (cluster : Cluster)
    (actors : List NodeId)
    (before after : Moment) : Prop where
  follows : before.events <+: after.events
  others : ∀ other ∉ actors,
    cluster.engineAt after.events other = cluster.engineAt before.events other
  sent : ∀ source target msg,
    cluster.Sent (cluster.system.run before.events) source target msg →
      cluster.Sent (cluster.system.run after.events) source target msg

theorem Spares.refl (actors : List NodeId) :
    cluster.Spares actors before before :=
  ⟨List.prefix_refl _, fun _ _ => rfl, fun _ _ _ => id⟩

theorem Spares.concat
    {actors : List NodeId}
    (spares : cluster.Spares actors before middle)
    (acts : cluster.Acts node middle after) :
    cluster.Spares (actors ++ [node]) before after where
  follows := spares.follows.trans acts.follows
  others other idle := by
    rw [List.mem_append, List.mem_singleton, not_or] at idle
    rw [acts.others other idle.2, spares.others other idle.1]
  sent source target msg sent :=
    acts.sent source target msg (spares.sent source target msg sent)

/-- A node campaigns in a term that nobody else has reached. -/
structure Ahead
    (cluster : Cluster)
    (node : NodeId)
    (term : Nat)
    (moment : Moment) : Prop where
  role : (cluster.engineAt moment.events node).role = .candidate
  ownTerm : (cluster.engineAt moment.events node).currentTerm = term
  votes : (cluster.engineAt moment.events node).votes = {node}
  older : ∀ other ∈ cluster.nodes, other ≠ node →
    (cluster.engineAt moment.events other).currentTerm < term
  asked : ∀ peer ∈ cluster.voters, peer ≠ node →
    cluster.Sent (cluster.system.run moment.events) node peer
      (.requestVote term node
        (cluster.engineAt moment.events node).storage.entries.length
        (lastTerm (cluster.engineAt moment.events node).storage.entries))

/-- A node can come to campaign ahead of everyone else, with nothing written. -/
theorem can_get_ahead
    (voting : cluster.nodes ⊆ cluster.voters)
    (inside : node ∈ cluster.nodes)
    (peerInside : peer ∈ cluster.nodes)
    (different : peer ≠ node)
    {bound : Nat}
    (below : ∀ other ∈ cluster.nodes,
      (cluster.engineAt before.events other).currentTerm ≤ bound)
    (terms : cluster.system.Along cluster.TermsBelowMax before.events)
    (room : bound + 1 < u64Max) :
    cluster.Can
      (fun after => cluster.Unwritten (bound + 2) before after ∧
        cluster.Ahead node (bound + 2) after)
      before := by
  refine (can_leave_office voting inside peerInside below terms different
    (Nat.lt_of_succ_lt room)).bind ?_
  rintro middle ⟨unwritten, waiting⟩
  refine (can_outrun inside waiting (unwritten.below node inside) room).imp ?_
  intro after campaigns
  have outrun := campaigns.toActs.unwritten campaigns.sameLog
    campaigns.ownTerm.le
    fun other otherInside =>
      (unwritten.below other otherInside).trans (Nat.le_succ _)
  refine ⟨unwritten.trans outrun, campaigns.role, campaigns.ownTerm,
    campaigns.votes, ?_, campaigns.asked⟩
  intro other otherInside isOther
  rw [campaigns.others other isOther]
  exact Nat.lt_succ_of_le (unwritten.below other otherInside)

/-- A node has entered a term, kept its log and voted for a candidate. -/
structure Supports
    (cluster : Cluster)
    (node candidate : NodeId)
    (term : Nat)
    (before after : Moment) : Prop where
  ownTerm : (cluster.engineAt after.events node).currentTerm = term
  sameLog : (cluster.engineAt after.events node).storage.entries =
    (cluster.engineAt before.events node).storage.entries
  granted : cluster.Sent (cluster.system.run after.events) node candidate
    (.requestVoteResp term true)

/-- All others can vote for a candidate that is ahead of them and as up to
date. -/
theorem can_be_supported
    (voting : cluster.nodes ⊆ cluster.voters)
    {term : Nat}
    (ahead : cluster.Ahead node term before)
    (best : ∀ other ∈ cluster.nodes,
      UpToDate (cluster.engineAt before.events node).storage.entries
        (cluster.engineAt before.events other).storage.entries)
    {others : List NodeId}
    (nodup : others.Nodup)
    (subset : ∀ other ∈ others, other ∈ cluster.nodes ∧ other ≠ node) :
    cluster.Can
      (fun after => cluster.Spares others before after ∧
        ∀ other ∈ others, cluster.Supports other node term before after)
      before := by
  refine System.CanReach.over_list
    (fun done after => cluster.Spares done before after ∧
      ∀ other ∈ done, cluster.Supports other node term before after)
    others ?_ ⟨.refl [], fun _ absent => absurd absent List.not_mem_nil⟩
  rintro done voter rest rfl middle ⟨spares, supports⟩
  have fresh : voter ∉ done :=
    fun again => List.disjoint_of_nodup_append nodup again List.mem_cons_self
  obtain ⟨inside, different⟩ := subset voter (by simp)
  have sameVoter := spares.others voter fresh
  have asked := spares.sent _ _ _
    (ahead.asked voter (voting inside) different)
  refine (can_vote inside asked (by rw [sameVoter]; exact ahead.older voter inside different)
    (by rw [sameVoter]; exact best voter inside)).imp ?_
  rintro after ⟨follows, granted⟩
  refine ⟨spares.concat follows.toActs, ?_⟩
  intro other isDone
  rcases List.mem_append.mp isDone with earlier | last
  · have isOther : other ≠ voter := by
      rintro rfl
      exact fresh earlier
    have held := supports other earlier
    have sameOther := follows.others other isOther
    exact ⟨by rw [sameOther]; exact held.ownTerm,
      by rw [sameOther]; exact held.sameLog, follows.sent _ _ _ held.granted⟩
  · obtain rfl := List.mem_singleton.mp last
    exact ⟨follows.ownTerm, by rw [follows.sameLog, sameVoter], granted⟩

/-- All voters together are a quorum. -/
theorem quorum_le_voters
    (cluster : Cluster)
    (events : List Event)
    (node : NodeId)
    (populated : cluster.voters.Nonempty) :
    (cluster.engineAt events node).membership.quorum ≤ cluster.voters.card := by
  have size : (cluster.engineAt events node).membership.voters.length =
      cluster.voters.card := by
    rw [(cluster.configured events).membership node, ← cluster.voters_eq node,
      Membership.new, List.card_toFinset]
  have positive := populated.card_pos
  unfold Membership.quorum
  omega

/-- A candidate can count votes until it has won, or has counted them all. -/
theorem can_tally
    (inside : node ∈ cluster.nodes)
    (campaigning : (cluster.engineAt before.events node).role = .candidate)
    (votes : (cluster.engineAt before.events node).votes = {node})
    {voters : List NodeId}
    (granted : ∀ voter ∈ voters,
      cluster.Sent (cluster.system.run before.events) voter node
        (.requestVoteResp (cluster.engineAt before.events node).currentTerm
          true)) :
    cluster.Can
      (fun after => cluster.Wins node before after ∨
        (cluster.Acts node before after ∧
          (cluster.engineAt after.events node).role = .candidate ∧
          (cluster.engineAt after.events node).storage =
            (cluster.engineAt before.events node).storage ∧
          (cluster.engineAt after.events node).votes =
            insert node voters.toFinset ∧
          (voters ≠ [] → (cluster.engineAt after.events node).votes.card <
            (cluster.engineAt after.events node).membership.quorum)))
      before := by
  refine System.CanReach.over_list
    (fun done after => cluster.Wins node before after ∨
      (cluster.Acts node before after ∧
        (cluster.engineAt after.events node).role = .candidate ∧
        (cluster.engineAt after.events node).storage =
          (cluster.engineAt before.events node).storage ∧
        (cluster.engineAt after.events node).votes =
          insert node done.toFinset ∧
        (done ≠ [] → (cluster.engineAt after.events node).votes.card <
          (cluster.engineAt after.events node).membership.quorum)))
    voters ?_ (.inr ⟨.refl, campaigning, rfl, by simp [votes], absurd rfl⟩)
  rintro done voter rest rfl middle
    (won | ⟨acts, stillCampaigning, sameStorage, counted, -⟩)
  · exact .now (.inl won)
  have sent := acts.sent _ _ _ (granted voter (by simp))
  have sameTerm : (cluster.engineAt before.events node).currentTerm =
      (cluster.engineAt middle.events node).currentTerm := by
    unfold RaftEngine.currentTerm
    rw [sameStorage]
  rw [sameTerm] at sent
  refine (can_count inside stillCampaigning sent).imp ?_
  rintro after (counts | wins)
  · refine .inr ⟨acts.trans counts.toActs, counts.role,
      counts.sameStorage.trans sameStorage, ?_, fun _ => counts.few⟩
    rw [counts.votes, counted]
    ext other
    simp [or_left_comm]
  · exact .inl { wins with
      toActs := acts.trans wins.toActs
      sameStorage := wins.sameStorage.trans sameStorage }

/-- A candidate that everybody voted for can win. -/
theorem can_win
    (several : 1 < cluster.voters.card)
    (inside : node ∈ cluster.nodes)
    (campaigning : (cluster.engineAt before.events node).role = .candidate)
    (votes : (cluster.engineAt before.events node).votes = {node})
    (granted : ∀ voter ∈ cluster.voters, voter ≠ node →
      cluster.Sent (cluster.system.run before.events) voter node
        (.requestVoteResp (cluster.engineAt before.events node).currentTerm
          true)) :
    cluster.Can (cluster.Wins node before) before := by
  have others : ∀ voter, voter ∈ (cluster.voters.erase node).toList ↔
      voter ≠ node ∧ voter ∈ cluster.voters := by
    intro voter
    rw [Finset.mem_toList, Finset.mem_erase]
  refine (can_tally inside campaigning votes fun voter isVoter =>
    granted voter ((others voter).mp isVoter).2
      ((others voter).mp isVoter).1).imp ?_
  rintro after (won | ⟨-, -, -, counted, few⟩)
  · exact won
  have everyone : cluster.voters ⊆
      (cluster.engineAt after.events node).votes := by
    intro voter isVoter
    rw [counted, Finset.mem_insert, List.mem_toFinset, others]
    by_cases isNode : voter = node
    · exact .inl isNode
    · exact .inr ⟨isNode, isVoter⟩
  obtain ⟨voter, isVoter, isOther⟩ :=
    Finset.exists_mem_ne several node
  have tooFew := few (List.ne_nil_of_mem ((others voter).mpr ⟨isOther, isVoter⟩))
  have enough := (cluster.quorum_le_voters after.events node
    ⟨voter, isVoter⟩).trans (Finset.card_le_card everyone)
  exact absurd enough (Nat.not_le_of_lt tooFew)

/-! ## Replication -/

theorem Deals.trans
    (first : cluster.Deals node peer before middle)
    (second : cluster.Deals node peer middle after) :
    cluster.Deals node peer before after where
  follows := first.follows.trans second.follows
  forward := first.forward.trans second.forward
  others other notNode notPeer := (second.others other notNode notPeer).trans
    (first.others other notNode notPeer)
  leader := first.leader.trans second.leader

/-- A sent request leaves what a leader knows of its peers. -/
theorem Offers.deals
    {prev : Nat}
    {request : RaftMessage}
    (offers : cluster.Offers node peer prev request before after) :
    cluster.Deals node peer before after := by
  obtain ⟨lastAe, aeInflight, heartbeatDeadline, frame⟩ := offers.frame
  refine ⟨offers.follows, offers.forward, fun other notNode _ =>
    offers.others other notNode, ?_⟩
  rw [frame]
  exact ⟨rfl, rfl, rfl, rfl, fun _ _ => rfl, fun _ _ => rfl⟩

/-- A peer has a matching log, and its leader knows nothing of it. -/
structure Awaits
    (cluster : Cluster)
    (node peer : NodeId)
    (log : List LogEntry)
    (prev : Nat)
    (moment : Moment) : Prop where
  older : (cluster.engineAt moment.events peer).currentTerm ≤
    (cluster.engineAt moment.events node).currentTerm
  matching : Matching (cluster.engineAt moment.events peer).storage.entries log
  next : (cluster.engineAt moment.events node).nextIndex.lookup peer =
    some (prev + 1)
  matched : (cluster.engineAt moment.events node).matchIndex.lookup peer = some 0

/-- A peer holds a log, and its leader knows. -/
structure CaughtUp
    (cluster : Cluster)
    (node peer : NodeId)
    (log : List LogEntry)
    (moment : Moment) : Prop where
  ownTerm : (cluster.engineAt moment.events peer).currentTerm =
    (cluster.engineAt moment.events node).currentTerm
  held : log <+: (cluster.engineAt moment.events peer).storage.entries
  next : (cluster.engineAt moment.events node).nextIndex.lookup peer =
    some (log.length + 1)
  matched : (cluster.engineAt moment.events node).matchIndex.lookup peer =
    some log.length

theorem Deals.sameTerm
    (deals : cluster.Deals node peer before after) :
    (cluster.engineAt after.events node).currentTerm =
      (cluster.engineAt before.events node).currentTerm :=
  congrArg (fun storage => storage.hardState.currentTerm) deals.leader.storage

section

variable {other : NodeId} {log : List LogEntry}
  (deals : cluster.Deals node peer before after)
  (notNode : other ≠ node) (notPeer : other ≠ peer)

include deals notNode notPeer

theorem Awaits.kept
    {prev : Nat}
    (awaits : cluster.Awaits node other log prev before) :
    cluster.Awaits node other log prev after where
  older := by
    rw [deals.others other notNode notPeer, deals.sameTerm]
    exact awaits.older
  matching := by
    rw [deals.others other notNode notPeer]
    exact awaits.matching
  next := (deals.leader.next other notPeer).trans awaits.next
  matched := (deals.leader.matched other notPeer).trans awaits.matched

theorem CaughtUp.kept
    (caughtUp : cluster.CaughtUp node other log before) :
    cluster.CaughtUp node other log after where
  ownTerm := by
    rw [deals.others other notNode notPeer, deals.sameTerm]
    exact caughtUp.ownTerm
  held := by
    rw [deals.others other notNode notPeer]
    exact caughtUp.held
  next := (deals.leader.next other notPeer).trans caughtUp.next
  matched := (deals.leader.matched other notPeer).trans caughtUp.matched

end

/-- A leader can bring a peer to hold its log. -/
theorem can_replicate
    (inside : node ∈ cluster.nodes)
    (peerInside : peer ∈ cluster.nodes)
    (different : peer ≠ node)
    (isVoter : peer ∈ cluster.voters)
    (leading : (cluster.engineAt before.events node).role = .leader)
    {log : List LogEntry}
    (sameLog : (cluster.engineAt before.events node).storage.entries = log)
    {prev : Nat}
    (fits : prev ≤ log.length)
    (awaits : cluster.Awaits node peer log prev before) :
    cluster.Can
      (fun after => cluster.Deals node peer before after ∧
        cluster.CaughtUp node peer log after)
      before := by
  have isPeer := (mem_otherVoters_engineAt cluster before.events node peer).mpr
    ⟨isVoter, different⟩
  refine (can_offer inside leading isPeer awaits.next
    (by rw [sameLog]; exact fits)).bind ?_
  rintro middle ⟨request, offers⟩
  obtain ⟨lastAe, aeInflight, heartbeatDeadline, frame⟩ := offers.frame
  have samePeer := offers.others peer different
  have stillLog : (cluster.engineAt middle.events node).storage.entries = log := by
    rw [frame]
    exact sameLog
  have stillTerm : (cluster.engineAt middle.events node).currentTerm =
      (cluster.engineAt before.events node).currentTerm := by
    rw [frame]
    rfl
  have asks : cluster.Asks node peer log prev middle := by
    refine ⟨request, ⟨?_, stillLog, ?_, ?_, fits, ⟨?_, ?_, ?_⟩,
      ⟨request, rfl, ?_⟩, rfl⟩, offers.offered⟩
    · dsimp only
      rw [frame]
      exact leading
    · dsimp only
      rw [samePeer, stillTerm]
      exact awaits.older
    · dsimp only
      rw [samePeer]
      exact awaits.matching
    · dsimp only
      rw [frame]
      exact awaits.next
    · dsimp only
      rw [frame]
      exact awaits.matched
    · dsimp only
      rw [← stillLog]
      exact offers.recorded
    · dsimp only
      rw [← stillLog]
      exact offers.built
  refine System.CanReach.descend
    (fun count moment => cluster.Deals node peer before moment ∧
      cluster.Asks node peer log count moment) ?_ prev ⟨offers.deals, asks⟩
  rintro count moment ⟨deals, asking⟩
  refine (can_exchange inside peerInside different asking).imp ?_
  rintro after ⟨dealt, sameTerm, ⟨positive, again⟩ | ⟨held, next, matched⟩⟩
  · exact .inr ⟨count - 1, by omega, deals.trans dealt, again⟩
  · exact .inl ⟨deals.trans dealt, sameTerm.trans dealt.sameTerm.symm, held,
      next, matched⟩

/-- A leader has a log that peers hold as it knows. -/
structure Replicates
    (cluster : Cluster)
    (node : NodeId)
    (log : List LogEntry)
    (peers : List NodeId)
    (moment : Moment) : Prop where
  leading : (cluster.engineAt moment.events node).role = .leader
  sameLog : (cluster.engineAt moment.events node).storage.entries = log
  caughtUp : ∀ peer ∈ peers, cluster.CaughtUp node peer log moment

/-- A leader can bring all others to hold its log. -/
theorem can_replicate_all
    (voting : cluster.nodes ⊆ cluster.voters)
    (inside : node ∈ cluster.nodes)
    (leading : (cluster.engineAt before.events node).role = .leader)
    {log : List LogEntry}
    (sameLog : (cluster.engineAt before.events node).storage.entries = log)
    {prev : Nat}
    (fits : prev ≤ log.length)
    {peers : List NodeId}
    (nodup : peers.Nodup)
    (subset : ∀ peer ∈ peers, peer ∈ cluster.nodes ∧ peer ≠ node)
    (awaits : ∀ peer ∈ peers, cluster.Awaits node peer log prev before) :
    cluster.Can
      (fun after => before.events <+: after.events ∧
        (cluster.engineAt after.events node).storage =
          (cluster.engineAt before.events node).storage ∧
        cluster.Replicates node log peers after)
      before := by
  refine (System.CanReach.over_list
    (fun done after => before.events <+: after.events ∧
      (cluster.engineAt after.events node).storage =
        (cluster.engineAt before.events node).storage ∧
      cluster.Replicates node log done after ∧
      ∀ peer ∈ peers, peer ∉ done → cluster.Awaits node peer log prev after)
    peers ?_ ⟨List.prefix_refl _, rfl, ⟨leading, sameLog,
      fun _ absent => absurd absent List.not_mem_nil⟩,
      fun peer isPeer _ => awaits peer isPeer⟩).imp
    fun _ all => ⟨all.1, all.2.1, all.2.2.1⟩
  rintro done peer rest rfl middle ⟨follows, sameStorage, replicates, waiting⟩
  have fresh : peer ∉ done :=
    fun again => List.disjoint_of_nodup_append nodup again List.mem_cons_self
  have isPeer : peer ∈ done ++ peer :: rest :=
    List.mem_append_right _ List.mem_cons_self
  obtain ⟨peerInside, different⟩ := subset peer isPeer
  refine (can_replicate inside peerInside different (voting peerInside)
    replicates.leading replicates.sameLog fits
    (waiting peer isPeer fresh)).imp ?_
  rintro after ⟨deals, caughtUp⟩
  refine ⟨follows.trans deals.follows, deals.leader.storage.trans sameStorage,
    ⟨deals.leader.role.trans replicates.leading, ?_, ?_⟩, ?_⟩
  · rw [deals.leader.storage]
    exact replicates.sameLog
  · intro other isDone
    rcases List.mem_append.mp isDone with earlier | last
    · have notPeer : other ≠ peer := by
        rintro rfl
        exact fresh earlier
      exact (replicates.caughtUp other earlier).kept deals
        (subset other (List.mem_append_left _ earlier)).2 notPeer
    · obtain rfl := List.mem_singleton.mp last
      exact caughtUp
  · intro other isOther notDone
    rw [List.mem_append, List.mem_singleton, not_or] at notDone
    exact (waiting other isOther notDone.1).kept deals (subset other isOther).2
      notDone.2

/-! ## Commitment -/

/-- A leader whose log everybody holds has committed it, if it ends in an entry
of the leader's term. -/
theorem length_le_commitIndex
    (cluster : Cluster)
    {events : List Event}
    (several : 1 < cluster.voters.card)
    (leading : (cluster.engineAt events node).role = .leader)
    {entry : LogEntry}
    (stored : (cluster.engineAt events node).storage.entries[
      (cluster.engineAt events node).storage.entries.length - 1]? = some entry)
    (ownTerm : entry.term = (cluster.engineAt events node).currentTerm)
    (matched : ∀ peer ∈ cluster.voters, peer ≠ node →
      (cluster.engineAt events node).matchIndex.lookup peer =
        some (cluster.engineAt events node).storage.entries.length) :
    (cluster.engineAt events node).storage.entries.length ≤
      (cluster.engineAt events node).commitIndex := by
  have configured := cluster.configured events
  obtain ⟨storage, start, calls, lived⟩ := cluster.exists_lifetime events node
  have sameCard : (Membership.new (cluster.config node).voters).voters.length =
      cluster.voters.card := by
    rw [← cluster.voters_eq node, Membership.new, List.card_toFinset]
  have settled : (cluster.engineAt events node).Settled := by
    have quorum : 1 < (Membership.new (cluster.config node).voters).quorum := by
      unfold Membership.quorum
      omega
    have held := RaftEngine.lifetime_settled (cluster.config node) storage start
      quorum calls
    rw [← lived] at held
    exact held leading
  have everyone : (cluster.voters.erase node).filter (fun peer =>
      (cluster.engineAt events node).storage.entries.length ≤
        ((cluster.engineAt events node).matchIndex.lookup peer).getD 0) =
      cluster.voters.erase node := by
    apply Finset.filter_true_of_mem
    intro peer isOther
    obtain ⟨different, isVoter⟩ := Finset.mem_erase.mp isOther
    rw [matched peer isVoter different]
    exact le_rfl
  have positive : 0 < (cluster.engineAt events node).storage.entries.length :=
    Nat.zero_lt_of_lt (List.getElem?_eq_some_iff.mp stored).1
  by_contra behind
  have uncommitted := settled _ (Nat.lt_of_not_le behind)
  rw [← Bool.not_eq_true, RaftEngine.committable_iff_heldOnQuorum
    (configured.membership node), cluster.voters_eq node,
    RaftEngine.HeldOnQuorum, configured.nodeId node, everyone] at uncommitted
  refine uncommitted ⟨entry, ?_, ownTerm, ?_⟩
  · exact entry_eq_some.mpr ⟨positive, stored⟩
  · have size := Finset.pred_card_le_card_erase (s := cluster.voters) (a := node)
    omega

/-- A leader has committed its log, and peers have as well. -/
structure Commits
    (cluster : Cluster)
    (node : NodeId)
    (log : List LogEntry)
    (peers : List NodeId)
    (moment : Moment) : Prop where
  leading : (cluster.engineAt moment.events node).role = .leader
  sameLog : (cluster.engineAt moment.events node).storage.entries = log
  committed : log.length ≤ (cluster.engineAt moment.events node).commitIndex
  told : ∀ peer ∈ peers,
    log <+: (cluster.engineAt moment.events peer).storage.entries ∧
      log.length ≤ (cluster.engineAt moment.events peer).commitIndex

/-- A leader can tell all others how far it is committed. -/
theorem can_notify_all
    (voting : cluster.nodes ⊆ cluster.voters)
    (inside : node ∈ cluster.nodes)
    {log : List LogEntry}
    {peers : List NodeId}
    (nodup : peers.Nodup)
    (subset : ∀ peer ∈ peers, peer ∈ cluster.nodes ∧ peer ≠ node)
    (replicates : cluster.Replicates node log peers before)
    (committed : log.length ≤ (cluster.engineAt before.events node).commitIndex) :
    cluster.Can
      (fun after => before.events <+: after.events ∧
        cluster.Commits node log peers after)
      before := by
  refine (System.CanReach.over_list
    (fun done after => before.events <+: after.events ∧
      cluster.Commits node log done after ∧
      ∀ peer ∈ peers, peer ∉ done → cluster.CaughtUp node peer log after)
    peers ?_ ⟨List.prefix_refl _, ⟨replicates.leading, replicates.sameLog,
      committed, fun _ absent => absurd absent List.not_mem_nil⟩,
      fun peer isPeer _ => replicates.caughtUp peer isPeer⟩).imp
    fun _ all => ⟨all.1, all.2.1⟩
  rintro done peer rest rfl middle ⟨follows, commits, waiting⟩
  have fresh : peer ∉ done :=
    fun again => List.disjoint_of_nodup_append nodup again List.mem_cons_self
  have isPeer : peer ∈ done ++ peer :: rest :=
    List.mem_append_right _ List.mem_cons_self
  obtain ⟨peerInside, different⟩ := subset peer isPeer
  have caughtUp := waiting peer isPeer fresh
  have sameLog := commits.sameLog
  refine (can_notify inside peerInside different commits.leading
    ((mem_otherVoters_engineAt cluster middle.events node peer).mpr
      ⟨voting peerInside, different⟩)
    (by rw [sameLog]; exact caughtUp.next) caughtUp.ownTerm.le
    (by rw [sameLog]; exact caughtUp.held)).imp ?_
  rintro after ⟨later, others, ⟨_, _, _, frame⟩, newTerm, peerLog, learnt⟩
  have sameCommit : (cluster.engineAt after.events node).commitIndex =
      (cluster.engineAt middle.events node).commitIndex := by
    rw [frame]
  refine ⟨follows.trans later, ⟨?_, ?_, ?_, ?_⟩, ?_⟩
  · rw [frame]
    exact commits.leading
  · rw [frame]
    exact sameLog
  · rw [sameCommit]
    exact commits.committed
  · intro other isDone
    rcases List.mem_append.mp isDone with earlier | last
    · have notPeer : other ≠ peer := by
        rintro rfl
        exact fresh earlier
      rw [others other (subset other (List.mem_append_left _ earlier)).2 notPeer]
      exact commits.told other earlier
    · obtain rfl := List.mem_singleton.mp last
      rw [sameLog, Nat.min_eq_right commits.committed] at learnt
      exact ⟨by rw [peerLog]; exact caughtUp.held, learnt⟩
  · intro other isOther notDone
    rw [List.mem_append, List.mem_singleton, not_or] at notDone
    have held := waiting other isOther notDone.1
    have sameOther := others other (subset other isOther).2 notDone.2
    refine ⟨?_, ?_, ?_, ?_⟩
    · rw [sameOther, frame]
      exact held.ownTerm
    · rw [sameOther]
      exact held.held
    · rw [frame]
      exact held.next
    · rw [frame]
      exact held.matched

/-! ## A whole round -/

/-- A leader has just written a command, and knows nothing of its peers. -/
structure Wrote
    (cluster : Cluster)
    (node : NodeId)
    (data : List UInt8)
    (past : List Event)
    (moment : Moment) : Prop where
  isStep : moment.events = past ++ [.call node (.propose data)]
  led : (cluster.engineAt past node).role = .leader
  leading : (cluster.engineAt moment.events node).role = .leader
  ownTerm : (cluster.engineAt moment.events node).currentTerm =
    (cluster.engineAt past node).currentTerm
  log : (cluster.engineAt moment.events node).storage.entries =
    (cluster.engineAt past node).storage.entries ++
      [(cluster.engineAt past node).commandEntry data]
  sameTerm : ∀ peer ∈ cluster.nodes, peer ≠ node →
    (cluster.engineAt moment.events peer).currentTerm =
      (cluster.engineAt moment.events node).currentTerm
  next : ∀ peer ∈ cluster.nodes, peer ≠ node →
    (cluster.engineAt moment.events node).nextIndex.lookup peer =
      some ((cluster.engineAt past node).storage.entries.length + 1)
  matched : ∀ peer ∈ cluster.nodes, peer ≠ node →
    (cluster.engineAt moment.events node).matchIndex.lookup peer = some 0

section

variable (voters : cluster.nodes = cluster.voters)
  (several : 1 < cluster.voters.card)
  (inside : node ∈ cluster.nodes)

include voters several inside

/-- A node whose log is as up to date as all others can win an election and write
a command. -/
theorem can_write
    (best : ∀ other ∈ cluster.nodes,
      UpToDate (cluster.engineAt before.events node).storage.entries
        (cluster.engineAt before.events other).storage.entries)
    {bound : Nat}
    (below : ∀ other ∈ cluster.nodes,
      (cluster.engineAt before.events other).currentTerm ≤ bound)
    (room : bound + 1 < u64Max)
    (terms : cluster.system.Along cluster.TermsBelowMax before.events)
    (data : List UInt8) :
    cluster.Can
      (fun after => ∃ past, before.events <+: past ∧
        cluster.Wrote node data past after)
      before := by
  have voting : cluster.nodes ⊆ cluster.voters := voters.subset
  obtain ⟨peer, isVoter, different⟩ := Finset.exists_mem_ne several node
  have isOther : ∀ other, other ∈ (cluster.nodes.erase node).toList ↔
      other ≠ node ∧ other ∈ cluster.nodes := by
    intro other
    rw [Finset.mem_toList, Finset.mem_erase]
  refine (can_get_ahead voting inside (voters ▸ isVoter) different below terms
    room).bind ?_
  rintro campaigning ⟨unwritten, ahead⟩
  have stillBest : ∀ other ∈ cluster.nodes,
      UpToDate (cluster.engineAt campaigning.events node).storage.entries
        (cluster.engineAt campaigning.events other).storage.entries := by
    intro other otherInside
    rw [unwritten.sameLog node, unwritten.sameLog other]
    exact best other otherInside
  refine (can_be_supported voting ahead stillBest (Finset.nodup_toList _)
    fun other inList => ((isOther other).mp inList).symm).bind ?_
  rintro supported ⟨spares, supports⟩
  have sameNode := spares.others node fun inList =>
    ((isOther node).mp inList).1 rfl
  have granted : ∀ voter ∈ cluster.voters, voter ≠ node →
      cluster.Sent (cluster.system.run supported.events) voter node
        (.requestVoteResp (cluster.engineAt supported.events node).currentTerm
          true) := by
    intro voter isVoter isNot
    rw [sameNode, ahead.ownTerm]
    exact (supports voter ((isOther voter).mpr ⟨isNot, voters ▸ isVoter⟩)).granted
  refine (can_win several inside (by rw [sameNode]; exact ahead.role)
    (by rw [sameNode]; exact ahead.votes) granted).bind ?_
  intro elected wins
  refine (can_command inside wins.role data).imp ?_
  intro after proposes
  have electedTerm : (cluster.engineAt elected.events node).currentTerm =
      bound + 2 := by
    have kept := congrArg (fun storage => storage.hardState.currentTerm)
      wins.sameStorage
    exact kept.trans ((congrArg RaftEngine.currentTerm sameNode).trans
      ahead.ownTerm)
  have tracks : ∀ other ∈ cluster.nodes, other ≠ node →
      (cluster.engineAt elected.events node).Tracks other
        (.opened (cluster.engineAt elected.events node).storage.entries.length) :=
    fun other otherInside isNot => wins.tracks other
      ((mem_otherVoters_engineAt cluster elected.events node other).mpr
        ⟨voting otherInside, isNot⟩)
  refine ⟨elected.events, ?_, proposes.isStep, wins.role, proposes.role,
    proposes.ownTerm, proposes.log, ?_, ?_, ?_⟩
  · exact (unwritten.follows.trans spares.follows).trans wins.follows
  · intro other otherInside isNot
    rw [proposes.others other isNot, wins.others other isNot, proposes.ownTerm,
      electedTerm]
    exact (supports other ((isOther other).mpr ⟨isNot, otherInside⟩)).ownTerm
  · intro other otherInside isNot
    rw [proposes.next]
    exact (tracks other otherInside isNot).next
  · intro other otherInside isNot
    rw [proposes.matched]
    exact (tracks other otherInside isNot).matched

/-- A leader that has just written a command can bring everybody to commit it. -/
theorem can_commit
    (new : cluster.StartsNew)
    {data : List UInt8}
    {past : List Event}
    (wrote : cluster.Wrote node data past before)
    (terms : cluster.system.Along cluster.TermsBelowMax before.events) :
    cluster.Can
      (fun after => before.events <+: after.events ∧ ∀ other ∈ cluster.nodes,
        (cluster.engineAt before.events node).storage.entries <+:
            (cluster.engineAt after.events other).storage.entries ∧
          (cluster.engineAt before.events node).storage.entries.length ≤
            (cluster.engineAt after.events other).commitIndex)
      before := by
  have voting : cluster.nodes ⊆ cluster.voters := voters.subset
  have isOther : ∀ other, other ∈ (cluster.nodes.erase node).toList ↔
      other ≠ node ∧ other ∈ cluster.nodes := by
    intro other
    rw [Finset.mem_toList, Finset.mem_erase]
  have subset : ∀ other ∈ (cluster.nodes.erase node).toList,
      other ∈ cluster.nodes ∧ other ≠ node :=
    fun other inList => ((isOther other).mp inList).symm
  obtain ⟨history, linked⟩ := exists_linked
    (voterCampaigns_of_subset voting before.events) terms
  have shows := linked.seen_past (List.prefix_refl _)
  have written : (cluster.engineAt before.events node).storage.entries.length =
      (cluster.engineAt past node).storage.entries.length + 1 := by
    rw [wrote.log, List.length_append, List.length_singleton]
  have fits : (cluster.engineAt past node).storage.entries.length ≤
      (cluster.engineAt before.events node).storage.entries.length := by
    rw [written]
    exact Nat.le_succ _
  refine (can_replicate_all voting inside wrote.leading rfl fits
    (Finset.nodup_toList _) subset
    fun other inList => ?_).bind ?_
  · obtain ⟨otherInside, isNot⟩ := subset other inList
    exact ⟨(wrote.sameTerm other otherInside isNot).le,
      linked.valid.log_matching new.startsEmpty (shows other) (shows node),
      wrote.next other otherInside isNot, wrote.matched other otherInside isNot⟩
  rintro replicated ⟨follows, sameStorage, replicates⟩
  have committed : (cluster.engineAt before.events
      node).storage.entries.length ≤
        (cluster.engineAt replicated.events node).commitIndex := by
    have stored : (cluster.engineAt replicated.events node).storage.entries[
        (cluster.engineAt replicated.events node).storage.entries.length - 1]? =
          some ((cluster.engineAt past node).commandEntry data) := by
      rw [replicates.sameLog, written, wrote.log]
      simp
    have sameTerm : (cluster.engineAt replicated.events node).currentTerm =
        (cluster.engineAt before.events node).currentTerm :=
      congrArg (fun storage => storage.hardState.currentTerm) sameStorage
    rw [← replicates.sameLog]
    refine length_le_commitIndex cluster several replicates.leading stored
      (wrote.ownTerm.symm.trans sameTerm.symm) ?_
    intro other isVoter isNot
    rw [replicates.sameLog]
    exact (replicates.caughtUp other
      ((isOther other).mpr ⟨isNot, voters ▸ isVoter⟩)).matched
  refine (can_notify_all voting inside (Finset.nodup_toList _) subset replicates
    committed).imp ?_
  rintro after ⟨later, commits⟩
  refine ⟨follows.trans later, ?_⟩
  intro other otherInside
  by_cases isNode : other = node
  · subst isNode
    exact ⟨commits.sameLog ▸ List.prefix_refl _, commits.committed⟩
  · exact commits.told other ((isOther other).mpr ⟨isNode, otherInside⟩)

end

/-- A cluster of two or more voters is never stuck: whatever has happened, it can
go on, in the order of its clocks and without restarts, until a new command is
handed over by every node. -/
theorem progress_possible
    (cluster : Cluster)
    (voters : cluster.nodes = cluster.voters)
    (several : 1 < cluster.voters.card)
    (new : cluster.StartsNew)
    (events : List Event)
    (terms : cluster.system.Along cluster.TermsBelowMax events)
    (reports : cluster.system.Along ReportsRecorded events)
    (room : ∀ node ∈ cluster.nodes,
      (cluster.engineAt events node).currentTerm + 2 ≤ u64Max)
    (since : Nat)
    (data : List UInt8) :
    ∃ more,
      System.Admissible cluster.system cluster.Orderly Event.time
        ⟨events, since⟩ more ∧
      ∃ past leader entry, events <+: past ∧
        cluster.Accepts (events ++ more) past leader data entry ∧
        ∀ node ∈ cluster.nodes, ∃ entries,
          (node, .apply entries) ∈ (cluster.system.run (events ++ more)).trace ∧
            entry ∈ entries := by
  have voting : cluster.nodes ⊆ cluster.voters := voters.subset
  obtain ⟨node, inside, best⟩ := cluster.exists_best_log events
    (voters ▸ Finset.card_pos.mp (Nat.zero_lt_of_lt several))
  have highest : cluster.nodes.sup
      (fun other => (cluster.engineAt events other).currentTerm) + 1 < u64Max := by
    have bounded := Finset.sup_le fun other otherInside =>
      Nat.le_sub_of_add_le (room other otherInside)
    have large : 1 < u64Max := by decide
    omega
  have below : ∀ other ∈ cluster.nodes,
      (cluster.engineAt events other).currentTerm ≤ cluster.nodes.sup
        fun other => (cluster.engineAt events other).currentTerm :=
    fun other otherInside => Finset.le_sup
      (f := fun other => (cluster.engineAt events other).currentTerm) otherInside
  have commits : cluster.Can
      (fun after => ∃ past written, events <+: past ∧
        cluster.Wrote node data past written ∧
        written.events <+: after.events ∧ ∀ other ∈ cluster.nodes,
          (cluster.engineAt written.events node).storage.entries <+:
              (cluster.engineAt after.events other).storage.entries ∧
            (cluster.engineAt written.events node).storage.entries.length ≤
              (cluster.engineAt after.events other).commitIndex)
      ⟨events, since⟩ := by
    have writes : cluster.Can
        (fun after => ∃ past, events <+: past ∧
          cluster.Wrote node data past after)
        ⟨events, since⟩ :=
      can_write voters several inside best below highest terms data
    refine (writes.along (fun _ _ orderly => Orderly.below orderly) terms).bind ?_
    rintro written ⟨⟨past, follows, wrote⟩, stillBelow⟩
    refine (can_commit voters several inside new wrote stillBelow).imp ?_
    rintro after ⟨later, committed⟩
    exact ⟨past, written, follows, wrote, later, committed⟩
  obtain ⟨last, extended, past, written, follows, wrote, later, committed⟩ :=
    commits
  obtain ⟨more, sameEvents, -, admissible, -⟩ := extended.admissible
  have allBelow := admissible.along
    (fun _ _ orderly => Orderly.below orderly) terms
  have allReported := admissible.along
    (fun _ _ orderly => Orderly.reports orderly) reports
  rw [sameEvents] at later committed
  refine ⟨more, admissible, past, node,
    (cluster.engineAt past node).commandEntry data, follows, ?_, ?_⟩
  · have accepts := accepts_commandEntry inside wrote.led data
    rw [← wrote.isStep] at accepts
    exact accepts.extend later
  · intro other otherInside
    obtain ⟨kept, reached⟩ := committed other otherInside
    have isLast : (cluster.engineAt written.events node).storage.entries[
        (cluster.engineAt past node).storage.entries.length]? =
          some ((cluster.engineAt past node).commandEntry data) := by
      rw [wrote.log]
      simp
    exact committed_applied voting new allBelow allReported
      (getElem?_of_isPrefix kept isLast)
      ((List.getElem?_eq_some_iff.mp isLast).1.trans_le reached)

/-- The theorem applies after two elections. -/
theorem progress_possible_second :
    ∃ more,
      System.Admissible (sample {1, 2, 3} [1, 2, 3]).system
        (sample {1, 2, 3} [1, 2, 3]).Orderly Event.time
        ⟨secondElection, 1000⟩ more ∧
      ∃ past leader entry, secondElection <+: past ∧
        (sample {1, 2, 3} [1, 2, 3]).Accepts (secondElection ++ more) past leader
          [9] entry ∧
        ∀ node ∈ ({1, 2, 3} : Finset NodeId), ∃ entries,
          (node, .apply entries) ∈ ((sample {1, 2, 3} [1, 2, 3]).system.run
            (secondElection ++ more)).trace ∧ entry ∈ entries :=
  progress_possible (sample {1, 2, 3} [1, 2, 3]) (by decide) (by decide)
    (fun _ => rfl) secondElection (by decide +kernel) (by decide +kernel)
    (by decide +kernel) 1000 [9]

end Cluster

end Libp2pRaft
