import Libp2pRaft.Cluster.LogSafety
import Libp2pRaft.Cluster.Turns
import Libp2pRaft.Raft.Tenure

/-!
# Stable leadership

A leader of the latest term of a cluster stays its leader as long as every other
node hears of something that puts off its election within each election delay,
whatever else is delayed, lost or duplicated.
-/

namespace Libp2pRaft

open Consensus TransitionSystem

namespace Cluster

variable {cluster : Cluster} {events : List Event} {event : Event}
  {node : NodeId}

/-! ## What was sent -/

/-- A message carries a term that its sender, a node of the cluster, showed. -/
theorem Sent.shown
    {source target : NodeId}
    {msg : RaftMessage}
    (sent : cluster.Sent (cluster.system.run events) source target msg) :
    source ∈ cluster.nodes ∧
      ∃ view, cluster.Shown events source view ∧ view.term = msg.term := by
  obtain ⟨action, emitted, sends⟩ : ∃ action,
      (source, action) ∈ (cluster.system.run events).trace ∧
        action.Sends msg := by
    rcases sent with alone | ⟨broadcast, -⟩
    · exact ⟨_, alone, .inr ⟨target, rfl⟩⟩
    · exact ⟨_, broadcast, .inl rfl⟩
  clear sent
  induction events using List.reverseRecOn with
  | nil => contradiction
  | append_singleton events event inductionHypothesis =>
      have old : (source, action) ∈ (cluster.system.run events).trace →
          source ∈ cluster.nodes ∧ ∃ view,
            cluster.Shown (events ++ [event]) source view ∧
              view.term = msg.term := by
        intro before
        obtain ⟨inside, view, shown, same⟩ := inductionHypothesis before
        exact ⟨inside, view, shown.concat, same⟩
      have ran := cluster.system.run_concat events event
      rcases cluster.step_cases (cluster.system.run events) event with
        idle | ⟨actor, now, -, -, restarted⟩ |
        ⟨actor, call, -, inside, -, called⟩
      · rw [ran, idle] at emitted
        exact old emitted
      · rw [ran, restarted, mem_react_trace] at emitted
        rcases emitted with before | ⟨-, none⟩
        · exact old before
        · exact absurd none List.not_mem_nil
      · rw [ran, called, mem_react_trace] at emitted
        rcases emitted with before | ⟨rfl, new⟩
        · exact old before
        · refine ⟨inside, _, .now, ?_⟩
          rw [ran, called, react_engine_self]
          exact (((RaftEngine.call_outcome _ call).emits new).term_eq sends).symm

/-- Nobody sends anything to itself. -/
theorem not_sent_self
    (msg : RaftMessage) :
    ¬ cluster.Sent (cluster.system.run events) node node msg := by
  rintro (alone | ⟨-, -, different⟩)
  · induction events using List.reverseRecOn generalizing msg with
    | nil => contradiction
    | append_singleton events event inductionHypothesis =>
        obtain ⟨storage, start, calls, lived⟩ :=
          cluster.exists_lifetime (events ++ [event]) node
        have configured := cluster.configured (events ++ [event])
        rw [System.run_concat] at alone lived configured
        rcases emitted_cases alone with
          before | ⟨call, -, asked, called, new⟩
        · exact inductionHypothesis msg before
        · have emits := ((cluster.system.run events).engine node
            |>.call_outcome call).emits new
          rw [called, react_engine_self] at lived
          rcases emits.target_cases fun leading => by
              rw [lived] at leading ⊢
              exact RaftEngine.lifetime_tabled _ storage start calls leading with
            voter | ⟨request, now, isCall⟩
          · rw [called] at configured
            have itself : node ∈ ((react (cluster.system.run events) node
                (((cluster.system.run events).engine node).call
                  call)).engine node).otherVoters := by
              rwa [react_engine_self]
            exact (configured.otherVoters itself).2 rfl
          · rcases asked node request now isCall with again | ⟨-, -, different⟩
            · exact inductionHypothesis request again
            · exact different rfl
  · exact different rfl

/-- A candidate or leader has its own vote. -/
theorem votesItself
    (cluster : Cluster)
    (events : List Event)
    (node : NodeId) :
    ((cluster.system.run events).engine node).VotesItself := by
  obtain ⟨storage, start, calls, lived⟩ := cluster.exists_lifetime events node
  rw [lived]
  refine (RaftEngine.lifetime (cluster.config node) storage start).invariant
    (motive := RaftEngine.VotesItself) (fun active => absurd rfl active) ?_ calls
  exact fun engine call voted => (engine.call_outcome call).votesItself voted

/-! ## One leader -/

/-- An election that a node starts. -/
def StartsElection (cluster : Cluster) (state : State) : Event → Prop
  | .call node call => node ∈ cluster.nodes ∧ (state.engine node).Campaigns call
  | .restart .. => False

/-- Only a campaign can run out of terms. -/
theorem termsBelowMax_of_calm
    {state : State}
    (calm : ¬ cluster.StartsElection state event) :
    cluster.TermsBelowMax state event := by
  cases event with
  | restart => trivial
  | call node call =>
      cases call with
      | tick now =>
          exact fun inside waiting due => absurd ⟨inside, waiting, due⟩ calm
      | propose => trivial
      | rpc => trivial
      | rpcFailure => trivial

/-- A node leads the latest term of the cluster. -/
structure Reigns
    (cluster : Cluster)
    (state : State)
    (leader : NodeId)
    (term : Nat) : Prop where
  leads : IsLeader state leader term
  latest : ∀ node ∈ cluster.nodes, (state.engine node).currentTerm ≤ term

variable {leader : NodeId} {term : Nat}

/-- Nothing that was sent carries a later term. -/
theorem Reigns.sent_le
    (voting : cluster.nodes ⊆ cluster.voters)
    (below : cluster.system.Along cluster.TermsBelowMax events)
    (reigns : cluster.Reigns (cluster.system.run events) leader term)
    {source target : NodeId}
    {msg : RaftMessage}
    (sent : cluster.Sent (cluster.system.run events) source target msg) :
    msg.term ≤ term := by
  obtain ⟨history, linked⟩ :=
    exists_linked (voterCampaigns_of_subset voting events) below
  obtain ⟨inside, view, shown, same⟩ := sent.shown
  have reached := linked.valid.term_le_current (linked.seen _ _ shown)
  rw [linked.shows] at reached
  exact same ▸ reached.trans (reigns.latest source inside)

/-- An AppendEntries of the term comes from its leader. -/
theorem Reigns.source_eq
    (voting : cluster.nodes ⊆ cluster.voters)
    (below : cluster.system.Along cluster.TermsBelowMax events)
    (reigns : cluster.Reigns (cluster.system.run events) leader term)
    {source target : NodeId}
    {leaderId prevLogIndex prevLogTerm leaderCommit : Nat}
    {entries : List LogEntry}
    (sent : cluster.Sent (cluster.system.run events) source target
      (.appendEntries term leaderId prevLogIndex prevLogTerm entries
        leaderCommit)) :
    source = leader := by
  have voterCampaigns := voterCampaigns_of_subset voting events
  obtain ⟨view, ⟨past, isPast, rfl⟩, leading, same, -⟩ :=
    (sound voterCampaigns).vouched _ _ _ sent
  have sourceLeads : cluster.Leads events source term :=
    .inr ⟨past, isPast, Role.standing_eq_leader.mp leading, same⟩
  exact sourceLeads.eq voterCampaigns below
    (.inr ⟨events, List.prefix_refl _, reigns.leads⟩)

/-- A leader of the latest term stays so when no election starts. -/
theorem Reigns.step
    (voting : cluster.nodes ⊆ cluster.voters)
    (below : cluster.system.Along cluster.TermsBelowMax events)
    (reigns : cluster.Reigns (cluster.system.run events) leader term)
    (calm : ¬ cluster.StartsElection (cluster.system.run events) event)
    (stays : ∀ now, event ≠ .restart leader now) :
    cluster.Reigns (cluster.system.run (events ++ [event])) leader term := by
  rw [System.run_concat]
  rcases cluster.step_cases (cluster.system.run events) event with
    idle | ⟨actor, now, rfl, inside, restarted⟩ |
    ⟨actor, call, rfl, inside, asked, called⟩
  · rw [idle]
    exact reigns
  · have different : leader ≠ actor := fun same => stays now (same ▸ rfl)
    rw [restarted]
    refine ⟨?_, ?_⟩
    · unfold IsLeader
      rw [react_engine_of_ne _ _ different]
      exact reigns.leads
    · intro node isNode
      by_cases same : node = actor
      · subst same
        rw [react_engine_self]
        exact reigns.latest node isNode
      · rw [react_engine_of_ne _ _ same]
        exact reigns.latest node isNode
  · have outcome :=
      ((cluster.system.run events).engine actor).call_outcome call
    have bounded : ∀ sender msg now, call = .rpc sender msg now →
        msg.term ≤ term :=
      fun sender msg now isCall =>
        reigns.sent_le voting below (asked sender msg now isCall)
    rw [called]
    refine ⟨?_, ?_⟩
    · unfold IsLeader
      by_cases same : leader = actor
      · subst same
        obtain ⟨leading, ownTerm⟩ := reigns.leads
        have self := (cluster.configured events).nodeId leader
        rw [react_engine_self]
        rw [← ownTerm] at bounded ⊢
        refine outcome.keeps_leading leading (cluster.votesItself events leader)
          bounded ?_ ?_
        · rintro sender leaderId prevLogIndex prevLogTerm entries leaderCommit
            now rfl
          have sent := asked sender _ now rfl
          rw [ownTerm] at sent
          obtain rfl := reigns.source_eq voting below sent
          exact not_sent_self _ sent
        · rintro sender other lastLogIndex lastLogTerm now rfl
          have sent := asked sender _ now rfl
          obtain ⟨same, -⟩ := (sound (voterCampaigns_of_subset voting
            events)).vouched _ _ _ sent
          rw [self] at same
          exact not_sent_self _ (same ▸ sent)
      · rw [react_engine_of_ne _ _ same]
        exact reigns.leads
    · intro node isNode
      by_cases same : node = actor
      · subst same
        rw [react_engine_self]
        rcases outcome.term_cases fun campaigns => calm ⟨inside, campaigns⟩ with
          kept | ⟨sender, msg, now, isCall, taken⟩
        · exact kept.trans_le (reigns.latest node isNode)
        · exact taken.trans_le (bounded sender msg now isCall)
      · rw [react_engine_of_ne _ _ same]
        exact reigns.latest node isNode

/-! ## Election timers -/

/-- The node an event is about. -/
def Event.actor : Event → NodeId
  | .call node _ => node
  | .restart node _ => node

/-- The clock reading of an event of a node. -/
def Event.reading (node : NodeId) (event : Event) : Option Nat :=
  if event.actor = node then event.time else none

/-- An event puts off the next election of a node: it restarts the node, or the
node grants a vote, starts an election or hears of a leader. -/
def Defers
    (cluster : Cluster)
    (node : NodeId)
    (state : State)
    (event : Event) : Prop :=
  cluster.Enabled state event ∧
    match event with
    | .restart other _ => other = node
    | .call other call => other = node ∧
        (state.engine node).role ≠ .leader ∧
          (state.engine node).DefersElection call

/-- An AppendEntries that is not stale puts off the election of its target. -/
theorem defers_append
    {state : State}
    {sender : NodeId}
    {term leaderId prevLogIndex prevLogTerm leaderCommit now : Nat}
    {entries : List LogEntry}
    (enabled : cluster.Enabled state (.call node (.rpc sender (.appendEntries
      term leaderId prevLogIndex prevLogTerm entries leaderCommit) now)))
    (waiting : (state.engine node).role ≠ .leader)
    (recent : (state.engine node).currentTerm ≤ term) :
    cluster.Defers node state (.call node (.rpc sender (.appendEntries
      term leaderId prevLogIndex prevLogTerm entries leaderCommit) now)) :=
  ⟨enabled, rfl, waiting, .inr (.inr (.inr ⟨sender, term, leaderId,
    prevLogIndex, prevLogTerm, entries, leaderCommit, now, rfl, recent⟩))⟩

theorem reading_call
    {call : Call}
    {now : Nat}
    (reads : call.reading = some now) :
    Event.reading node (.call node call) = some now := by
  unfold Event.reading
  rw [if_pos (show (Event.call node call).actor = node from rfl)]
  cases call with
  | tick => exact reads
  | rpc => exact reads
  | propose => contradiction
  | rpcFailure => contradiction

/-- The election deadline of a node is a timer, restarts included. -/
theorem electionTimer
    (cluster : Cluster)
    (node : NodeId) :
    cluster.system.Timer (Event.reading node) cluster.start
      (cluster.config node).electionDelay
      (fun state => (state.engine node).electionDeadline) where
  init := Nat.add_assoc _ _ _
  step := by
    intro past event
    rw [System.run_concat]
    rcases cluster.step_cases (cluster.system.run past) event with
      idle | ⟨actor, now, rfl, -, restarted⟩ |
      ⟨actor, call, rfl, -, -, called⟩
    · rw [idle]
      exact .inl rfl
    · by_cases same : node = actor
      · subst same
        rw [restarted, react_engine_self]
        exact .inr ⟨now, if_pos rfl, Nat.add_assoc _ _ _⟩
      · rw [restarted, react_engine_of_ne _ _ same]
        exact .inl rfl
    · by_cases same : node = actor
      · subst same
        rw [called, react_engine_self]
        obtain ⟨storage, start, calls, lived⟩ := cluster.exists_lifetime past node
        have config :=
          (RaftEngine.lifetime_config (cluster.config node) storage start calls).1
        rw [← lived] at config
        have timing : RaftEngine.Timing ((cluster.system.run past).engine node)
            call (((cluster.system.run past).engine node).call call).1 :=
          RaftEngine.call_timing call
        rcases timing.deadline_cases with
          kept | ⟨now, reads, deadline⟩
        · exact .inl kept
        · rw [config] at deadline
          exact .inr ⟨now, reading_call reads, deadline⟩
      · rw [called, react_engine_of_ne _ _ same]
        exact .inl rfl

/-- What puts off an election puts it off by the election delay. -/
theorem Defers.deadline
    {since : Nat}
    (defers : cluster.Defers node (cluster.system.run events) event)
    (reads : event.time = some since) :
    ((cluster.system.run (events ++ [event])).engine node).electionDeadline =
      since + (cluster.config node).electionDelay := by
  obtain ⟨enabled, defers⟩ := defers
  have ran : cluster.system.run (events ++ [event]) =
      cluster.perform (cluster.system.run events) event := by
    rw [System.run_concat]
    exact if_pos enabled
  rw [ran]
  cases event with
  | restart other now =>
      obtain rfl := defers
      obtain rfl := Option.some.inj reads
      show ((react _ other _).engine other).electionDeadline = _
      rw [react_engine_self]
      exact Nat.add_assoc _ _ _
  | call other call =>
      obtain ⟨rfl, waiting, defers⟩ := defers
      obtain ⟨storage, start, calls, lived⟩ := cluster.exists_lifetime events other
      have config :=
        (RaftEngine.lifetime_config (cluster.config other) storage start calls).1
      rw [← lived] at config
      show ((react _ other _).engine other).electionDeadline = _
      rw [react_engine_self, ← config]
      refine RaftEngine.restarts_of_defers ?_ waiting defers
      cases call with
      | tick => exact reads
      | rpc => exact reads
      | propose => contradiction
      | rpcFailure => contradiction

/-- Every tick of a node other than the leader comes within an election delay of
the start of the cluster or of something that puts off its election. -/
def Timely
    (cluster : Cluster)
    (leader : NodeId)
    (events more : List Event) : Prop :=
  ∀ past node now, events <+: past →
    past ++ [.call node (.tick now)] <+: events ++ more →
    node ∈ cluster.nodes → node ≠ leader →
      now < cluster.start + (cluster.config node).electionDelay ∨
        ∃ earlier event since, earlier ++ [event] <+: past ∧
          cluster.Defers node (cluster.system.run earlier) event ∧
          event.time = some since ∧
          now < since + (cluster.config node).electionDelay

/-- A timely tick starts no election. -/
theorem Timely.calm
    {more past : List Event}
    (timely : cluster.Timely leader events more)
    (forward : ∀ node ∈ cluster.nodes,
      System.Forward (Event.reading node) cluster.start (events ++ more))
    (follows : events <+: past)
    (isStep : past ++ [event] <+: events ++ more)
    (leads : IsLeader (cluster.system.run past) leader term) :
    ¬ cluster.StartsElection (cluster.system.run past) event := by
  intro starts
  cases event with
  | restart => contradiction
  | call node call =>
      cases call with
      | tick now =>
          obtain ⟨inside, waiting, due⟩ := starts
          have different : node ≠ leader := fun same =>
            waiting (same ▸ leads.1)
          have before := (forward node inside).of_isPrefix
            ((List.prefix_append past _).trans isStep)
          have timer := cluster.electionTimer node
          rcases timely past node now follows isStep inside different with
            early | ⟨earlier, event, since, isEarlier, defers, reads, early⟩
          · have armed := timer.start_le before
            omega
          · have moved := timer.mono before isEarlier
            have armed := defers.deadline reads
            omega
      | propose => exact starts.2
      | rpc => exact starts.2
      | rpcFailure => exact starts.2

/-- Whatever happens after a node has come to lead the latest term of a cluster,
as long as it is not restarted and every tick of another node comes within an
election delay of something that puts off its election, it goes on leading that
term, no node enters a later one, and no election starts. -/
theorem stable_leadership
    (cluster : Cluster)
    (voting : cluster.nodes ⊆ cluster.voters)
    (events more : List Event)
    (below : cluster.system.Along cluster.TermsBelowMax events)
    (forward : ∀ node ∈ cluster.nodes,
      System.Forward (Event.reading node) cluster.start (events ++ more))
    (leader : NodeId)
    (term : Nat)
    (leads : IsLeader (cluster.system.run events) leader term)
    (latest : ∀ node ∈ cluster.nodes,
      ((cluster.system.run events).engine node).currentTerm ≤ term)
    (stays : ∀ now, .restart leader now ∉ more)
    (timely : cluster.Timely leader events more) :
    IsLeader (cluster.system.run (events ++ more)) leader term ∧
      (∀ node ∈ cluster.nodes,
        ((cluster.system.run (events ++ more)).engine node).currentTerm ≤ term) ∧
      ∀ past event, events <+: past → past ++ [event] <+: events ++ more →
        ¬ cluster.StartsElection (cluster.system.run past) event := by
  -- Each step needs the reign before it, and adds a step without an election.
  suffices reign : cluster.system.Along cluster.TermsBelowMax (events ++ more) ∧
      cluster.Reigns (cluster.system.run (events ++ more)) leader term ∧
      ∀ past event, events <+: past → past ++ [event] <+: events ++ more →
        ¬ cluster.StartsElection (cluster.system.run past) event by
    exact ⟨reign.2.1.leads, reign.2.1.latest, reign.2.2⟩
  induction more using List.reverseRecOn with
  | nil =>
      rw [List.append_nil]
      refine ⟨below, ⟨leads, latest⟩, ?_⟩
      intro past event follows isStep
      have long := follows.length_le
      have short := isStep.length_le
      simp only [List.length_append, List.length_singleton] at short
      omega
  | append_singleton more event inductionHypothesis =>
      rw [← List.append_assoc] at forward ⊢
      have isPart : events ++ more <+: events ++ more ++ [event] :=
        List.prefix_append _ _
      obtain ⟨belowBefore, reigns, calm⟩ := inductionHypothesis
        (fun node inside => (forward node inside).of_isPrefix isPart)
        (fun now restarted => stays now (List.mem_append_left _ restarted))
        (fun past node now follows isStep => timely past node now follows (by
          rw [← List.append_assoc]
          exact isStep.trans isPart))
      have last : ¬ cluster.StartsElection
          (cluster.system.run (events ++ more)) event := by
        refine timely.calm ?_ (List.prefix_append _ _) ?_ reigns.leads
        · rw [← List.append_assoc]
          exact forward
        · rw [← List.append_assoc]
      refine ⟨System.along_concat _ |>.mpr
          ⟨belowBefore, termsBelowMax_of_calm last⟩,
        reigns.step voting belowBefore last ?_, ?_⟩
      · rintro now rfl
        exact stays now (List.mem_append_right _ List.mem_cons_self)
      · intro past other follows isStep
        rcases List.prefix_concat_iff.mp isStep with same | before
        · obtain ⟨rfl, isLast⟩ := List.append_inj' same rfl
          obtain rfl := List.singleton_inj.mp isLast
          exact last
        · exact calm past other follows before

/-- Node 1 is elected and its heartbeats reach the other nodes in time. -/
def heartbeats : List Event :=
  [.call 1 (.tick 200),
    .call 2 (.rpc 1 (.appendEntries 1 1 0 0 [] 0) 210),
    .call 3 (.rpc 1 (.appendEntries 1 1 0 0 [] 0) 215),
    .call 2 (.tick 300),
    .call 3 (.tick 310)]

/-- The theorem applies to a leader whose heartbeats arrive in time. -/
theorem stable_leadership_heartbeats :
    IsLeader ((sample {1, 2, 3} [1, 2, 3]).system.run
      (firstElection ++ heartbeats)) 1 1 := by
  refine (stable_leadership (sample {1, 2, 3} [1, 2, 3]) (by decide)
    firstElection heartbeats (by decide +kernel) (by decide +kernel) 1 1
    (by decide +kernel) (by decide +kernel) ?_ ?_).1
  · intro now
    simp [heartbeats]
  · rintro past node now follows ⟨rest, isRest⟩ inside different
    have isPast : past = (firstElection ++ heartbeats).take past.length := by
      simp [← isRest]
    have isLast : (firstElection ++ heartbeats)[past.length]? =
        some (.call node (.tick now)) := by
      simp [← isRest]
    have long : 3 ≤ past.length := follows.length_le
    have short : past.length < 8 := by
      have total := congrArg List.length isRest
      simp only [List.length_append, firstElection, heartbeats, List.length_cons,
        List.length_nil] at total
      omega
    generalize past.length = position at isPast isLast long short
    subst isPast
    obtain rfl | rfl | rfl | rfl | rfl : position = 3 ∨ position = 4 ∨
        position = 5 ∨ position = 6 ∨ position = 7 := by
      omega
    · obtain ⟨rfl, rfl⟩ : 1 = node ∧ 200 = now := by
        simpa [firstElection, heartbeats] using isLast
      contradiction
    · simp [firstElection, heartbeats] at isLast
    · simp [firstElection, heartbeats] at isLast
    · obtain ⟨rfl, rfl⟩ : 2 = node ∧ 300 = now := by
        simpa [firstElection, heartbeats] using isLast
      exact .inr ⟨firstElection ++ heartbeats.take 1,
        .call 2 (.rpc 1 (.appendEntries 1 1 0 0 [] 0) 210), 210, by decide,
        defers_append (by decide +kernel) (by decide +kernel) (by decide +kernel),
        rfl, by decide⟩
    · obtain ⟨rfl, rfl⟩ : 3 = node ∧ 310 = now := by
        simpa [firstElection, heartbeats] using isLast
      exact .inr ⟨firstElection ++ heartbeats.take 2,
        .call 3 (.rpc 1 (.appendEntries 1 1 0 0 [] 0) 215), 215, by decide,
        defers_append (by decide +kernel) (by decide +kernel) (by decide +kernel),
        rfl, by decide⟩

end Cluster

end Libp2pRaft
