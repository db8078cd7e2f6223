import Libp2pRaft.Raft.Emissions
import Libp2pRaft.Raft.Roles
import Libp2pRaft.Library.Majority

/-!
# Clusters of engines

Engines over in-memory storages that exchange messages through a network which
delays, loses, duplicates and reorders them at will: a message that was sent
once can be handled by its target at any later moment, any number of times, or
never.  Nodes restart with their storage kept.
-/

namespace Libp2pRaft

open Consensus TransitionSystem

/-- The nodes of a cluster, configured with one voter set. -/
structure Cluster where
  nodes : Finset NodeId
  voters : Finset NodeId
  config : NodeId → RaftConfig
  nodeId_eq : ∀ node, (config node).nodeId = node
  voters_eq : ∀ node, (config node).voters.toFinset = voters
  storage : NodeId → MemoryStorage
  start : Nat

namespace Cluster

/-- What can happen in a cluster. -/
inductive Event
  | call (node : NodeId) (call : Call)
  | restart (node : NodeId) (now : Nat)
  deriving DecidableEq, Repr

/-- The engines, and everything they have emitted. -/
structure State where
  engine : NodeId → MemoryEngine
  trace : List (NodeId × Action)

variable (cluster : Cluster)

/-- A message was sent to a node, alone or to all other voters. -/
def Sent
    (state : State)
    (source target : NodeId)
    (msg : RaftMessage) : Prop :=
  (source, .send target msg) ∈ state.trace ∨
    ((source, .broadcast msg) ∈ state.trace ∧
      target ∈ cluster.voters ∧ target ≠ source)

instance (state : State) (source target : NodeId) (msg : RaftMessage) :
    Decidable (cluster.Sent state source target msg) :=
  inferInstanceAs (Decidable (_ ∨ _))

/-- A node handles only messages that were sent to it. -/
def Enabled (state : State) : Event → Prop
  | .call node (.rpc sender msg _) =>
      node ∈ cluster.nodes ∧ cluster.Sent state sender node msg
  | .call node _ => node ∈ cluster.nodes
  | .restart node _ => node ∈ cluster.nodes

instance (state : State) (event : Event) :
    Decidable (cluster.Enabled state event) := by
  cases event with
  | restart node now => exact inferInstanceAs (Decidable (_ ∈ _))
  | call node call =>
      cases call with
      | rpc sender msg now => exact inferInstanceAs (Decidable (_ ∧ _))
      | tick now => exact inferInstanceAs (Decidable (_ ∈ _))
      | propose data => exact inferInstanceAs (Decidable (_ ∈ _))
      | rpcFailure target kind => exact inferInstanceAs (Decidable (_ ∈ _))

/-- Replace one engine and record what it emitted. -/
def react
    (state : State)
    (node : NodeId)
    (result : MemoryEngine × List Action) : State where
  engine := Function.update state.engine node result.1
  trace := state.trace ++ result.2.map fun action => (node, action)

/-- The effect of an enabled event. -/
def perform (state : State) : Event → State
  | .call node call => react state node ((state.engine node).call call)
  | .restart node now =>
      react state node
        (.new (cluster.config node) (state.engine node).storage now, [])

/-- Runs of the cluster. -/
def system : System State Event where
  init :=
    { engine := fun node =>
        .new (cluster.config node) (cluster.storage node) cluster.start
      trace := [] }
  step := fun state event =>
    if cluster.Enabled state event then cluster.perform state event else state

/-- A node showed a view at some moment of a run. -/
def Shown
    (events : List Event)
    (node : NodeId)
    (view : View NodeId LogEntry) : Prop :=
  cluster.system.Sometime (fun state => (state.engine node).view = view) events

/-- An election timer that fires finds a term below the largest `u64`. -/
def TermsBelowMax (state : State) : Event → Prop
  | .call node (.tick now) =>
      node ∈ cluster.nodes →
      (state.engine node).role ≠ .leader →
      (state.engine node).electionDeadline ≤ now →
        (state.engine node).currentTerm < u64Max
  | _ => True

/-- An election timer that fires belongs to a voter. -/
def VoterCampaigns (state : State) : Event → Prop
  | .call node (.tick now) =>
      node ∈ cluster.nodes →
      (state.engine node).role ≠ .leader →
      (state.engine node).electionDeadline ≤ now →
        node ∈ cluster.voters
  | _ => True

instance (state : State) (event : Event) :
    Decidable (cluster.TermsBelowMax state event) := by
  cases event with
  | restart node now => exact inferInstanceAs (Decidable True)
  | call node call =>
      cases call with
      | tick now => exact inferInstanceAs (Decidable (_ → _ → _ → _))
      | rpc sender msg now => exact inferInstanceAs (Decidable True)
      | propose data => exact inferInstanceAs (Decidable True)
      | rpcFailure target kind => exact inferInstanceAs (Decidable True)

instance (state : State) (event : Event) :
    Decidable (cluster.VoterCampaigns state event) := by
  cases event with
  | restart node now => exact inferInstanceAs (Decidable True)
  | call node call =>
      cases call with
      | tick now => exact inferInstanceAs (Decidable (_ → _ → _ → _))
      | rpc sender msg now => exact inferInstanceAs (Decidable True)
      | propose data => exact inferInstanceAs (Decidable True)
      | rpcFailure target kind => exact inferInstanceAs (Decidable True)

/-- A cluster with new storages and the timeouts of the example cluster. -/
def sample (nodes : Finset NodeId) (voters : List NodeId) : Cluster where
  nodes := nodes
  voters := voters.toFinset
  config := fun node => .cfg node voters
  nodeId_eq := fun _ => rfl
  voters_eq := fun _ => rfl
  storage := fun _ => .new
  start := 0

/-- Node `1` campaigns first and wins with the vote of node `2`. -/
def firstElection : List Event :=
  [.call 1 (.tick 150),
    .call 2 (.rpc 1 (.requestVote 1 1 0 0) 150),
    .call 1 (.rpc 2 (.requestVoteResp 1 true) 150)]

/-- In a cluster of voters only voters campaign. -/
theorem voterCampaigns_of_subset
    {cluster : Cluster}
    (subset : cluster.nodes ⊆ cluster.voters)
    (events : List Event) :
    cluster.system.Along cluster.VoterCampaigns events := by
  intro past event _
  cases event with
  | restart => trivial
  | call node call =>
      cases call with
      | tick now => exact fun inside _ _ => subset inside
      | propose => trivial
      | rpc => trivial
      | rpcFailure => trivial

variable {cluster}
variable {events : List Event} {event : Event} {node : NodeId}
  {view : View NodeId LogEntry}

/-! ## Moments -/

theorem Shown.concat
    (shown : cluster.Shown events node view) :
    cluster.Shown (events ++ [event]) node view :=
  cluster.system.sometime_concat.mpr (.inl shown)

theorem Shown.now :
    cluster.Shown events node ((cluster.system.run events).engine node).view :=
  ⟨events, List.prefix_refl _, rfl⟩

theorem shown_concat :
    cluster.Shown (events ++ [event]) node view ↔
      cluster.Shown events node view ∨
        ((cluster.system.run (events ++ [event])).engine node).view = view := by
  rw [System.run_concat]
  exact cluster.system.sometime_concat

/-- What was shown is the view of an engine with a contiguous log. -/
theorem Shown.contiguous
    (shown : cluster.Shown events node view) :
    Contiguous view.log := by
  obtain ⟨past, -, rfl⟩ := shown
  exact ((cluster.system.run past).engine node).storage.contiguous

/-! ## What one event does -/

/-- A step is skipped, restarts a node, or makes a call on one node that may
handle a sent message. -/
theorem step_cases
    (cluster : Cluster)
    (state : State)
    (event : Event) :
    cluster.system.step state event = state ∨
      (∃ node now, event = .restart node now ∧ node ∈ cluster.nodes ∧
        cluster.system.step state event = react state node
          (.new (cluster.config node) (state.engine node).storage now, [])) ∨
      ∃ node call, event = .call node call ∧ node ∈ cluster.nodes ∧
        (∀ sender msg now, call = .rpc sender msg now →
          cluster.Sent state sender node msg) ∧
        cluster.system.step state event =
          react state node ((state.engine node).call call) := by
  show (if cluster.Enabled state event then cluster.perform state event
    else state) = state ∨ _
  by_cases enabled : cluster.Enabled state event
  · right
    have applied : cluster.system.step state event =
        cluster.perform state event := if_pos enabled
    cases event with
    | restart node now => exact .inl ⟨node, now, rfl, enabled, applied⟩
    | call node call =>
        right
        refine ⟨node, call, rfl, ?_, ?_, applied⟩
        · cases call with
          | rpc sender msg now => exact enabled.1
          | tick now => exact enabled
          | propose data => exact enabled
          | rpcFailure target kind => exact enabled
        · rintro sender msg now rfl
          exact enabled.2
  · exact .inl (if_neg enabled)

@[simp] theorem react_engine_self
    (state : State)
    (node : NodeId)
    (result : MemoryEngine × List Action) :
    (react state node result).engine node = result.1 := by
  simp [react]

theorem react_engine_of_ne
    (state : State)
    {node other : NodeId}
    (result : MemoryEngine × List Action)
    (different : other ≠ node) :
    (react state node result).engine other = state.engine other := by
  simp [react, different]

theorem mem_react_trace
    {state : State}
    {node source : NodeId}
    {result : MemoryEngine × List Action}
    {action : Action} :
    (source, action) ∈ (react state node result).trace ↔
      (source, action) ∈ state.trace ∨
        (source = node ∧ action ∈ result.2) := by
  simp only [react, List.mem_append, List.mem_map, Prod.mk.injEq]
  constructor
  · rintro (old | ⟨emitted, inside, rfl, rfl⟩)
    · exact .inl old
    · exact .inr ⟨rfl, inside⟩
  · rintro (old | ⟨rfl, inside⟩)
    · exact .inl old
    · exact .inr ⟨action, inside, rfl, rfl⟩

/-- What was emitted by the end of a step was emitted before it, or by the call
the step makes. -/
theorem emitted_cases
    {state : State}
    {source : NodeId}
    {action : Action}
    (emitted : (source, action) ∈ (cluster.system.step state event).trace) :
    (source, action) ∈ state.trace ∨
      ∃ call, event = .call source call ∧
        (∀ sender msg now, call = .rpc sender msg now →
          cluster.Sent state sender source msg) ∧
        cluster.system.step state event =
          react state source ((state.engine source).call call) ∧
        action ∈ ((state.engine source).call call).2 := by
  rcases cluster.step_cases state event with
    idle | ⟨node, now, -, -, restarted⟩ | ⟨node, call, isCall, -, asked, called⟩
  · rw [idle] at emitted
    exact .inl emitted
  · rw [restarted, mem_react_trace] at emitted
    exact emitted.imp_right fun new => absurd new.2 List.not_mem_nil
  · rw [called, mem_react_trace] at emitted
    rcases emitted with old | ⟨rfl, new⟩
    · exact .inl old
    · exact .inr ⟨call, isCall, asked, called, new⟩

/-! ## Configuration -/

/-- Every engine keeps the identity and the voters it was configured with. -/
structure Configured (cluster : Cluster) (state : State) : Prop where
  nodeId : ∀ node, (state.engine node).config.nodeId = node
  membership : ∀ node, (state.engine node).membership =
    Membership.new (cluster.config node).voters

theorem configured
    (cluster : Cluster)
    (events : List Event) :
    Configured cluster (cluster.system.run events) := by
  refine cluster.system.invariant ⟨cluster.nodeId_eq, fun _ => rfl⟩ ?_ events
  intro state event before
  rcases cluster.step_cases state event with
    idle | ⟨node, now, -, -, restarted⟩ | ⟨node, call, -, -, -, called⟩
  · rw [idle]
    exact before
  · rw [restarted]
    constructor
    · intro other
      by_cases same : other = node
      · subst same
        rw [react_engine_self]
        exact cluster.nodeId_eq other
      · rw [react_engine_of_ne _ _ same]
        exact before.nodeId other
    · intro other
      by_cases same : other = node
      · subst same
        rw [react_engine_self]
        rfl
      · rw [react_engine_of_ne _ _ same]
        exact before.membership other
  · rw [called]
    have kept := ((state.engine node).call_outcome call).config_eq
    constructor
    · intro other
      by_cases same : other = node
      · subst same
        rw [react_engine_self, kept.1]
        exact before.nodeId other
      · rw [react_engine_of_ne _ _ same]
        exact before.nodeId other
    · intro other
      by_cases same : other = node
      · subst same
        rw [react_engine_self, kept.2]
        exact before.membership other
      · rw [react_engine_of_ne _ _ same]
        exact before.membership other

/-- Every engine of a cluster has lived on its own since it was last created. -/
theorem exists_lifetime
    (cluster : Cluster)
    (events : List Event)
    (node : NodeId) :
    ∃ storage start calls, (cluster.system.run events).engine node =
      (RaftEngine.lifetime (cluster.config node) storage start).run calls := by
  refine cluster.system.invariant
    (motive := fun state => ∃ storage start calls, state.engine node =
      (RaftEngine.lifetime (cluster.config node) storage start).run calls)
    ⟨cluster.storage node, cluster.start, [], rfl⟩ ?_ events
  intro state event before
  rcases cluster.step_cases state event with
    idle | ⟨actor, now, -, -, restarted⟩ | ⟨actor, call, -, -, -, called⟩
  · rw [idle]
    exact before
  · by_cases same : node = actor
    · subst same
      rw [restarted, react_engine_self]
      exact ⟨(state.engine node).storage, now, [], rfl⟩
    · rw [restarted, react_engine_of_ne _ _ same]
      exact before
  · by_cases same : node = actor
    · subst same
      obtain ⟨storage, start, calls, lived⟩ := before
      rw [called, react_engine_self, lived]
      refine ⟨storage, start, calls ++ [call], ?_⟩
      rw [System.run_concat]
      rfl
    · rw [called, react_engine_of_ne _ _ same]
      exact before

/-- A node broadcasts to the other voters. -/
theorem Configured.otherVoters
    {state : State}
    (configured : Configured cluster state)
    {target : NodeId}
    (inside : target ∈ (state.engine node).otherVoters) :
    target ∈ cluster.voters ∧ target ≠ node := by
  rw [RaftEngine.otherVoters, configured.nodeId node,
    Membership.mem_otherVoters, configured.membership node,
    Membership.mem_voters_new] at inside
  rw [← cluster.voters_eq node, List.mem_toFinset]
  exact inside

/-- A quorum of counted votes is a majority of the voter set. -/
theorem Configured.majority
    {state : State}
    (configured : Configured cluster state)
    {members : Finset NodeId}
    (subset : members ⊆ cluster.voters)
    (enough : (state.engine node).membership.quorum ≤ members.card) :
    Majority cluster.voters members := by
  refine ⟨subset, ?_⟩
  have size : (state.engine node).membership.voters.length =
      cluster.voters.card := by
    rw [configured.membership node, ← cluster.voters_eq node, Membership.new,
      List.card_toFinset]
  have large := (state.engine node).membership.lt_two_mul_quorum
  omega

end Cluster

end Libp2pRaft
