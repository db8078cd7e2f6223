import Libp2pRaft.Network.PipelineDepth
import Libp2pRaft.Cluster.Replication

/-!
# The network refines the cluster

Behind every run of a network stands a run of its cluster: an input makes at
most one call of an engine or restarts it, and then tells it of failures.  What
is on the wire was sent in that run, and what an application is told was handed
over in it.
-/

namespace Libp2pRaft

open Consensus TransitionSystem

namespace Cluster

/-- No event makes a proposal. -/
def Unproposed (events : List Event) : Prop :=
  ∀ node data, .call node (.propose data) ∉ events

theorem unproposed_nil : Unproposed [] :=
  fun _ _ => List.not_mem_nil

theorem unproposed_singleton
    {event : Event}
    (other : ∀ node data, event ≠ .call node (.propose data)) :
    Unproposed [event] :=
  fun node data inside => other node data (List.mem_singleton.mp inside).symm

theorem Unproposed.cons
    {events : List Event}
    {event : Event}
    (unproposed : Unproposed events)
    (other : ∀ node data, event ≠ .call node (.propose data)) :
    Unproposed (event :: events) := by
  intro node data inside
  rcases List.mem_cons.mp inside with same | rest
  · exact other node data same.symm
  · exact unproposed node data rest

/-- A run of the cluster goes on at one node, which ends up with an engine and
has asked for some actions. -/
structure Onward
    (cluster : Cluster)
    (events later : List Event)
    (node : NodeId)
    (engine : MemoryEngine)
    (actions : List Action) : Prop where
  engine_self : (cluster.system.run later).engine node = engine
  engine_of_ne : ∀ other, other ≠ node →
    (cluster.system.run later).engine other =
      (cluster.system.run events).engine other
  trace : (cluster.system.run later).trace =
    (cluster.system.run events).trace ++
      actions.map fun action => (node, action)
  shown : ∀ other view, cluster.Shown later other view →
    cluster.Shown events other view ∨ (other = node ∧ engine.view = view)
  below : cluster.system.Along cluster.TermsBelowMax events →
    cluster.system.Along cluster.TermsBelowMax later
  reports : cluster.system.Along ReportsRecorded events →
    cluster.system.Along ReportsRecorded later

namespace Onward

variable {cluster : Cluster} {events later : List Event} {node : NodeId}
  {engine : MemoryEngine} {actions more : List Action}

theorem refl :
    cluster.Onward events events node
      ((cluster.system.run events).engine node) [] where
  engine_self := rfl
  engine_of_ne _ _ := rfl
  trace := (List.append_nil _).symm
  shown _ _ := .inl
  below := id
  reports := id

/-- One more event of the node. -/
theorem concat
    (onward : cluster.Onward events later node engine actions)
    (event : Event)
    {result : MemoryEngine × List Action}
    (stepped : cluster.system.step (cluster.system.run later) event =
      react (cluster.system.run later) node result)
    (quiet : actions = [] ∧ later = events ∨ result.1.view = engine.view)
    (below : cluster.TermsBelowMax (cluster.system.run later) event)
    (reports : ReportsRecorded (cluster.system.run later) event) :
    cluster.Onward events (later ++ [event]) node result.1
      (actions ++ result.2) where
  engine_self := by
    rw [System.run_concat, stepped, react_engine_self]
  engine_of_ne := by
    intro other different
    rw [System.run_concat, stepped, react_engine_of_ne _ _ different]
    exact onward.engine_of_ne other different
  trace := by
    rw [System.run_concat, stepped, react, onward.trace, List.map_append,
      List.append_assoc]
  shown := by
    intro other view shown
    rw [shown_concat, System.run_concat, stepped] at shown
    rcases shown with old | now
    · rcases quiet with ⟨-, rfl⟩ | sameView
      · exact .inl old
      · rw [sameView]
        exact onward.shown other view old
    · by_cases same : other = node
      · subst same
        rw [react_engine_self] at now
        exact .inr ⟨rfl, now⟩
      · rw [react_engine_of_ne _ _ same, onward.engine_of_ne other same] at now
        exact .inl (now ▸ .now)
  below along := System.along_concat _ |>.mpr ⟨onward.below along, below⟩
  reports along := System.along_concat _ |>.mpr ⟨onward.reports along, reports⟩

/-- A call of an engine of the cluster. -/
theorem call
    (call : Call)
    (inside : node ∈ cluster.nodes)
    (asked : ∀ sender msg now, call = .rpc sender msg now →
      cluster.Sent (cluster.system.run events) sender node msg)
    (below : cluster.TermsBelowMax (cluster.system.run events)
      (.call node call))
    (reports : ReportsRecorded (cluster.system.run events) (.call node call)) :
    cluster.Onward events (events ++ [.call node call]) node
      (((cluster.system.run events).engine node).call call).1
      (((cluster.system.run events).engine node).call call).2 := by
  have enabled : cluster.Enabled (cluster.system.run events)
      (.call node call) := by
    cases call with
    | rpc sender msg now => exact ⟨inside, asked sender msg now rfl⟩
    | tick => exact inside
    | propose => exact inside
    | rpcFailure => exact inside
  exact refl.concat _ (if_pos enabled) (.inl ⟨rfl, rfl⟩) below reports

/-- A restart of an engine of the cluster. -/
theorem restart
    (events : List Event)
    (inside : node ∈ cluster.nodes)
    (now : Nat) :
    cluster.Onward events (events ++ [.restart node now]) node
      (.new (cluster.config node)
        ((cluster.system.run events).engine node).storage now)
      [] := by
  have enabled : cluster.Enabled (cluster.system.run events)
      (.restart node now) := inside
  exact refl.concat _ (if_pos enabled) (.inl ⟨rfl, rfl⟩) trivial trivial

/-- The engine of the node learns of failures. -/
theorem failures
    (onward : cluster.Onward events later node engine actions)
    (inside : node ∈ cluster.nodes)
    {after : MemoryEngine}
    (failures : RaftEngine.Failures engine after) :
    ∃ more, Unproposed more ∧
      cluster.Onward events (later ++ more) node after actions := by
  obtain ⟨failed, rfl⟩ := failures
  induction failed using List.reverseRecOn with
  | nil =>
      refine ⟨[], unproposed_nil, ?_⟩
      rw [List.append_nil]
      exact onward
  | append_singleton failed request inductionHypothesis =>
      obtain ⟨more, unproposed, reached⟩ := inductionHypothesis
      rw [List.foldl_concat]
      generalize failed.foldl (fun self request =>
        (self.handleRpcFailure request.1 request.2).1) engine = middle
        at reached ⊢
      have enabled : cluster.Enabled (cluster.system.run (later ++ more))
          (.call node (.rpcFailure request.1 request.2)) := inside
      have applied : cluster.system.step (cluster.system.run (later ++ more))
          (.call node (.rpcFailure request.1 request.2)) =
          react (cluster.system.run (later ++ more)) node
            ((middle.handleRpcFailure request.1 request.2).1, []) := by
        have silent : (middle.handleRpcFailure request.1 request.2).2 = [] := by
          unfold RaftEngine.handleRpcFailure
          split_ifs <;> rfl
        rw [← silent, ← reached.engine_self]
        exact if_pos enabled
      have sameView : (middle.handleRpcFailure request.1 request.2).1.view =
          middle.view := by
        unfold RaftEngine.handleRpcFailure
        split_ifs <;> rfl
      have onward := reached.concat _ applied (.inr sameView) trivial trivial
      rw [List.append_nil] at onward
      rw [List.append_assoc] at onward
      refine ⟨more ++ [.call node (.rpcFailure request.1 request.2)], ?_, onward⟩
      intro other data isProposal
      rcases List.mem_append.mp isProposal with earlier | last
      · exact unproposed other data earlier
      · exact absurd (List.mem_singleton.mp last) nofun

/-- What was sent stays sent. -/
theorem sent
    (onward : cluster.Onward events later node engine actions)
    {source target : NodeId}
    {msg : RaftMessage}
    (sent : cluster.Sent (cluster.system.run events) source target msg) :
    cluster.Sent (cluster.system.run later) source target msg := by
  unfold Sent at sent ⊢
  rw [onward.trace, List.mem_append, List.mem_append]
  exact sent.imp .inl (.imp_left .inl)

/-- The messages of the actions are sent. -/
theorem sends
    (onward : cluster.Onward events later node engine actions)
    (others : List NodeId)
    (voters : ∀ target ∈ others, target ∈ cluster.voters ∧ target ≠ node)
    {target : NodeId}
    {msg : RaftMessage}
    (asked : (target, msg) ∈ outgoing others actions) :
    cluster.Sent (cluster.system.run later) node target msg := by
  unfold Sent
  rw [onward.trace]
  rcases mem_outgoing.mp asked with direct | ⟨broadcast, isOther⟩
  · exact .inl (List.mem_append_right _ (List.mem_map_of_mem direct))
  · exact .inr ⟨List.mem_append_right _ (List.mem_map_of_mem broadcast),
      voters target isOther⟩

end Onward

end Cluster

namespace Network

/-- A success a leader handles reports no less than the leader records for the
AppendEntries in the sender's slot. -/
def ReportsRecorded
    (network : Network)
    (state : State)
    (input : Input) : Prop :=
  (state.engine input.node).role = .leader →
    ∀ packet ∈ network.answer state input,
    ∀ reported ∈ packet.msg.success,
    reported.1 = (state.engine input.node).currentTerm →
    ∀ request ∈ (state.behaviour input.node).pending.lookup packet.correlationId,
    ∀ recorded ∈ (state.engine input.node).lastAe.lookup request.target,
      recorded.1 + recorded.2 ≤ reported.2

instance (network : Network) (state : State) (input : Input) :
    Decidable (ReportsRecorded network state input) :=
  inferInstanceAs (Decidable (_ → _))

/-- A run of the cluster that stands behind a run of the network. -/
structure Embeds
    (network : Network)
    (inputs : List Input)
    (events : List Cluster.Event) : Prop where
  engine : ∀ node, (network.toCluster.system.run events).engine node =
    (network.system.run inputs).engine node
  requests : ∀ packet ∈ (network.system.run inputs).requests, ∀ target,
    packet.peer = network.peerId target →
      network.toCluster.Sent (network.toCluster.system.run events) packet.source
        target packet.msg
  responses : ∀ packet ∈ (network.system.run inputs).responses, ∀ target,
    packet.peer = network.peerId target →
      network.toCluster.Sent (network.toCluster.system.run events) packet.source
        target packet.msg
  reports : ∀ node entries,
    (node, .committed entries) ∈ (network.system.run inputs).reports →
      (node, .apply entries) ∈ (network.toCluster.system.run events).trace
  shown : ∀ node view, network.toCluster.Shown events node view →
    network.system.Sometime (fun state => (state.engine node).view = view) inputs
  below : network.toCluster.system.Along network.toCluster.TermsBelowMax events
  reported : network.toCluster.system.Along Cluster.ReportsRecorded events

variable {network : Network} {inputs : List Input} {input : Input}
  {events later : List Cluster.Event} {state fewer : State} {node : NodeId}
  {after : MemoryBehaviour} {actions : List Action}

theorem Embeds.nil (network : Network) : Embeds network [] [] where
  engine _ := rfl
  requests _ inside := absurd inside List.not_mem_nil
  responses _ inside := absurd inside List.not_mem_nil
  reports _ _ inside := absurd inside List.not_mem_nil
  shown := by
    intro node view shown
    exact network.system.sometime_nil.mpr
      (network.toCluster.system.sometime_nil.mp shown)
  below := System.along_nil _
  reported := System.along_nil _

theorem Embeds.idle
    (embeds : Embeds network inputs events)
    (same : network.system.run (inputs ++ [input]) =
      network.system.run inputs) :
    Embeds network (inputs ++ [input]) events where
  engine := by
    rw [same]
    exact embeds.engine
  requests := by
    rw [same]
    exact embeds.requests
  responses := by
    rw [same]
    exact embeds.responses
  reports := by
    rw [same]
    exact embeds.reports
  shown := by
    intro node view shown
    exact network.system.sometime_concat.mpr (.inl (embeds.shown node view shown))
  below := embeds.below
  reported := embeds.reported

/-- What a drained behaviour told its application. -/
theorem mem_drain_reports
    {other : NodeId}
    {entries : List LogEntry} :
    (other, .committed entries) ∈ (state.drain node after).reports ↔
      (other, .committed entries) ∈ state.reports ∨
        (other = node ∧ entries ∈ committedBatches after.pendingEvents) := by
  unfold State.drain committedBatches
  rw [List.mem_append, List.mem_map, List.mem_filterMap]
  refine or_congr_right ?_
  constructor
  · rintro ⟨event, reported, same⟩
    obtain ⟨rfl, rfl⟩ := Prod.mk.inj same
    obtain ⟨queued, inside, isReport⟩ := List.mem_filterMap.mp reported
    exact ⟨rfl, queued, inside, by rw [isReport]; rfl⟩
  · rintro ⟨rfl, queued, inside, isBatch⟩
    obtain ⟨event, isReport, isCommitted⟩ := Option.bind_eq_some_iff.mp isBatch
    cases event with
    | committed batch =>
        obtain rfl : batch = entries := Option.some.inj isCommitted
        exact ⟨_, List.mem_filterMap.mpr ⟨queued, inside, isReport⟩, rfl⟩
    | roleChanged => contradiction
    | peerMapped => contradiction
    | rpcFailed => contradiction

/-- A drained behaviour is backed by a run that goes on at its node. -/
theorem Embeds.drain
    (embeds : Embeds network inputs events)
    (loses : Loses (network.system.run inputs) fewer)
    (drained : network.system.run (inputs ++ [input]) = fewer.drain node after)
    (onward : network.toCluster.Onward events later node after.engine actions)
    (requests : ∀ packet ∈ after.requests node, ∀ target,
      packet.peer = network.peerId target →
        network.toCluster.Sent (network.toCluster.system.run later)
          packet.source target packet.msg)
    (responses : ∀ packet ∈ after.responses node, ∀ target,
      packet.peer = network.peerId target →
        network.toCluster.Sent (network.toCluster.system.run later)
          packet.source target packet.msg)
    (told : committedBatches after.pendingEvents =
      actions.filterMap Action.batch) :
    Embeds network (inputs ++ [input]) later where
  engine := by
    intro other
    rw [drained]
    by_cases same : other = node
    · subst same
      rw [drain_engine_self]
      exact onward.engine_self
    · rw [drain_engine_of_ne same, State.engine, loses.behaviour,
        onward.engine_of_ne other same]
      exact embeds.engine other
  requests := by
    intro packet inside target isPeer
    rw [drained] at inside
    rcases List.mem_append.mp inside with old | new
    · exact onward.sent
        (embeds.requests packet (loses.requests packet old) target isPeer)
    · exact requests packet new target isPeer
  responses := by
    intro packet inside target isPeer
    rw [drained] at inside
    rcases List.mem_append.mp inside with old | new
    · exact onward.sent
        (embeds.responses packet (loses.responses packet old) target isPeer)
    · exact responses packet new target isPeer
  reports := by
    intro other entries reported
    rw [onward.trace, List.mem_append]
    rw [drained, mem_drain_reports, loses.reports, told] at reported
    rcases reported with old | ⟨rfl, new⟩
    · exact .inl (embeds.reports other entries old)
    · obtain ⟨action, emitted, isBatch⟩ := List.mem_filterMap.mp new
      cases action with
      | apply batch =>
          obtain rfl : batch = entries := Option.some.inj isBatch
          exact .inr (List.mem_map_of_mem emitted)
      | send => contradiction
      | broadcast => contradiction
      | becomeLeader => contradiction
      | becomeFollower => contradiction
      | becomeCandidate => contradiction
      | snapshotInstallComplete => contradiction
  shown := by
    intro other view shown
    rw [System.sometime_concat, ← System.run_concat, drained]
    rcases onward.shown other view shown with old | ⟨rfl, now⟩
    · exact .inl (embeds.shown other view old)
    · rw [drain_engine_self]
      exact .inr now
  below := onward.below embeds.below
  reported := onward.reports embeds.reported

/-- A quiet step that learns of failures at most. -/
theorem Embeds.dropped
    (embeds : Embeds network inputs events)
    (inside : node ∈ network.nodes)
    (loses : Loses (network.system.run inputs) fewer)
    {middle : MemoryBehaviour}
    {ids : List Nat}
    (dropped : RaftBehaviour.Dropped
      ((network.system.run inputs).behaviour node) middle ids)
    (silent : RaftBehaviour.Silent middle after)
    (drained : network.system.run (inputs ++ [input]) =
      fewer.drain node after) :
    ∃ more, Cluster.Unproposed more ∧
      Embeds network (inputs ++ [input]) (events ++ more) := by
  have wired := network.wired inputs
  have failures := dropped.failures
  rw [← silent.engine, ← State.engine, ← embeds.engine] at failures
  obtain ⟨more, unproposed, onward⟩ :=
    Cluster.Onward.refl.failures inside failures
  refine ⟨more, unproposed, embeds.drain loses drained onward ?_ ?_ ?_⟩
  · rw [silent.requests, RaftBehaviour.requests, dropped.pendingEvents,
      wired.drained]
    exact fun _ inside => absurd inside List.not_mem_nil
  · rw [silent.responses, RaftBehaviour.responses, dropped.pendingEvents,
      wired.drained]
    exact fun _ inside => absurd inside List.not_mem_nil
  · rw [silent.batches, dropped.pendingEvents, wired.drained]
    rfl

/-- A step that makes an unasked call and dispatches its actions. -/
theorem Embeds.act
    (embeds : Embeds network inputs events)
    (inside : node ∈ network.nodes)
    (loses : Loses (network.system.run inputs) fewer)
    {start : MemoryBehaviour}
    (starts : Starts ((network.system.run inputs).behaviour node) start)
    (sameEngine : (network.system.run inputs).engine node = start.engine)
    (fresh : start.Fresh)
    (call : Call)
    {now : Nat}
    (asked : ∀ sender msg now, call = .rpc sender msg now →
      network.toCluster.Sent (network.toCluster.system.run events) sender node
        msg)
    (below : network.toCluster.TermsBelowMax
      (network.toCluster.system.run events) (.call node call))
    (reports : Cluster.ReportsRecorded
      (network.toCluster.system.run events) (.call node call))
    (silent : RaftBehaviour.Silent (start.act call now) after)
    (drained : network.system.run (inputs ++ [input]) =
      fewer.drain node after) :
    ∃ more, Cluster.Unproposed more ∧
      Embeds network (inputs ++ [input])
        (events ++ [.call node call] ++ more) := by
  have wired := network.wired inputs
  have called := Cluster.Onward.call call inside asked below reports
  rw [embeds.engine, sameEngine] at called
  have total := (RaftBehaviour.executeActions_dispatched
    { start with engine := (start.engine.call call).1 } fresh
    (start.engine.call call).2 now).quiet silent.toQuiet
  obtain ⟨more, unproposed, onward⟩ := called.failures inside total.failures
  have others : ∀ voter ∈ ((network.toCluster.system.run
      (events ++ [.call node call])).engine node).otherVoters,
      voter ∈ network.voters ∧ voter ≠ node :=
    fun _ => (network.toCluster.configured _).otherVoters
  rw [called.engine_self] at others
  refine ⟨more, unproposed, embeds.drain loses drained onward ?_ ?_ ?_⟩
  · intro packet handedOver target isPeer
    rcases total.requests node packet handedOver with old |
      ⟨own, request, posted, -, samePeer, sameMsg⟩
    · rw [RaftBehaviour.requests, starts.pendingEvents, wired.drained] at old
      exact absurd old List.not_mem_nil
    · have mapped : ((network.system.run inputs).behaviour node).peerMap.peerId
          request.target = some request.peer := starts.peerMap ▸ posted.mapped
      have isTarget : request.target = target := network.peerId_injective
        (((wired.truthful node).forward _ _ mapped).symm.trans
          (samePeer.trans isPeer))
      rw [own, ← sameMsg, ← isTarget]
      exact onward.sends _ others posted.asked
  · intro packet handedOver
    rw [total.responses, RaftBehaviour.responses, starts.pendingEvents,
      wired.drained] at handedOver
    exact absurd handedOver List.not_mem_nil
  · have told := RaftBehaviour.executeActions_committedBatches
      { start with engine := (start.engine.call call).1 }
      (start.engine.call call).2 none now
    rw [silent.batches]
    refine told.trans ?_
    rw [starts.pendingEvents, wired.drained]
    rfl

/-- The run behind a moment goes on through an input, and only a proposal makes a
proposal. -/
def Advances
    (network : Network)
    (inputs : List Input)
    (events : List Cluster.Event)
    (input : Input) : Prop :=
  ∃ more, Cluster.Unproposed more ∧
    (Embeds network (inputs ++ [input]) (events ++ more) ∨
      ∃ node data now, input = .propose node data now ∧
        node ∈ network.nodes ∧
        Embeds network (inputs ++ [input])
          (events ++ [.call node (.propose data)] ++ more))

theorem Advances.of_unproposed
    (advances : ∃ more, Cluster.Unproposed more ∧
      Embeds network (inputs ++ [input]) (events ++ more)) :
    Advances network inputs events input := by
  obtain ⟨more, unproposed, embeds⟩ := advances
  exact ⟨more, unproposed, .inl embeds⟩

theorem Embeds.advances
    (embeds : Embeds network (inputs ++ [input]) events) :
    Advances network inputs events input :=
  ⟨[], Cluster.unproposed_nil, .inl (by rw [List.append_nil]; exact embeds)⟩

theorem Advances.embeds
    (advances : Advances network inputs events input) :
    ∃ more, Embeds network (inputs ++ [input]) (events ++ more) := by
  obtain ⟨more, -, embeds | ⟨node, data, now, -, -, embeds⟩⟩ := advances
  · exact ⟨more, embeds⟩
  · rw [List.append_assoc] at embeds
    exact ⟨_, embeds⟩

/-- A proposal is a call of the engine. -/
theorem Embeds.propose
    (embeds : Embeds network inputs events)
    {data : List UInt8}
    {now : Nat}
    (inside : node ∈ network.nodes)
    (silent : RaftBehaviour.Silent
      (((network.system.run inputs).behaviour node).act (.propose data) now)
      after)
    (drained : network.system.run (inputs ++ [.propose node data now]) =
      (network.system.run inputs).drain node after) :
    ∃ more, Cluster.Unproposed more ∧
      Embeds network (inputs ++ [.propose node data now])
        (events ++ [.call node (.propose data)] ++ more) :=
  embeds.act inside (.refl _) (.refl _) rfl
    ((network.wired inputs).tracked node).fresh (.propose data)
    (fun _ _ _ same => Call.noConfusion same) trivial trivial silent drained

/-- A call that is no proposal continues the run of the cluster. -/
theorem Embeds.act_unproposed
    (embeds : Embeds network inputs events)
    (inside : node ∈ network.nodes)
    (loses : Loses (network.system.run inputs) fewer)
    {start : MemoryBehaviour}
    (starts : Starts ((network.system.run inputs).behaviour node) start)
    (sameEngine : (network.system.run inputs).engine node = start.engine)
    (fresh : start.Fresh)
    (call : Call)
    {now : Nat}
    (other : ∀ data, call ≠ .propose data)
    (asked : ∀ sender msg now, call = .rpc sender msg now →
      network.toCluster.Sent (network.toCluster.system.run events) sender node
        msg)
    (below : network.toCluster.TermsBelowMax
      (network.toCluster.system.run events) (.call node call))
    (reports : Cluster.ReportsRecorded
      (network.toCluster.system.run events) (.call node call))
    (silent : RaftBehaviour.Silent (start.act call now) after)
    (drained : network.system.run (inputs ++ [input]) =
      fewer.drain node after) :
    ∃ more, Cluster.Unproposed more ∧
      Embeds network (inputs ++ [input]) (events ++ more) := by
  obtain ⟨more, unproposed, embedsLater⟩ := embeds.act inside loses starts
    sameEngine fresh call asked below reports silent drained
  rw [List.append_assoc] at embedsLater
  exact ⟨_, unproposed.cons (fun _ data same =>
    other data (Cluster.Event.call.inj same).2), embedsLater⟩

/-- A served request is a call of the engine, and the cluster sent its reply. -/
theorem Embeds.serve
    (embeds : Embeds network inputs events)
    (inside : node ∈ network.nodes)
    {position now channelId : Nat}
    {conn : ConnectionId}
    {packet : Packet}
    (found : (network.system.run inputs).requests[position]? = some packet)
    (addressed : packet.peer = network.peerId node)
    (told : committedBatches after.pendingEvents =
      committedBatches
          ((network.system.run inputs).behaviour node).pendingEvents ++
        (((network.system.run inputs).engine node).call
          (.rpc packet.source packet.msg now)).2.filterMap Action.batch)
    (handled : ∀ actions reply others,
      (((network.system.run inputs).engine node).call
          (.rpc packet.source packet.msg now)).2 =
        actions ++ [.send packet.source reply] →
      outgoing others actions = [] →
      (∀ msg, .broadcast msg ∉ actions) →
        RaftBehaviour.Quiet
          ({ (network.system.run inputs).behaviour node with
            engine := (((network.system.run inputs).engine node).call
              (.rpc packet.source packet.msg now)).1 }.pushEvent
            (.notifyHandler (network.peerId packet.source) (.one conn)
              (.sendResponse channelId packet.correlationId reply)))
          after)
    (drained : network.system.run (inputs ++ [input]) =
      { network.system.run inputs with
        requests :=
          (network.system.run inputs).requests.eraseIdx position }.drain node
        after) :
    ∃ more, Cluster.Unproposed more ∧
      Embeds network (inputs ++ [input]) (events ++ more) := by
  have wired := network.wired inputs
  have onWire := List.mem_of_getElem? found
  have isRequest := (wired.requests packet onWire).isRequest
  have loses : Loses (network.system.run inputs)
      { network.system.run inputs with
        requests := (network.system.run inputs).requests.eraseIdx position } :=
    ⟨rfl, fun _ => List.mem_of_mem_eraseIdx, fun _ => id, rfl⟩
  obtain ⟨actions, reply, emitted, -, silent, noBroadcast⟩ :=
    ((network.system.run inputs).engine node).request_reply [] packet.source
      isRequest now
  have quiet := handled actions reply [] emitted silent noBroadcast
  obtain ⟨requests, responses⟩ := (wired.loses loses).serve_packets quiet
  have asked : ∀ sender msg time,
      Call.rpc packet.source packet.msg now = .rpc sender msg time →
      network.toCluster.Sent (network.toCluster.system.run events) sender node
        msg := by
    rintro _ _ _ ⟨⟩
    exact embeds.requests packet onWire node addressed
  -- A request is no reply, so it reports no success.
  have noSuccess : Cluster.ReportsRecorded
      (network.toCluster.system.run events)
      (.call node (.rpc packet.source packet.msg now)) := by
    apply Cluster.reportsRecorded_call
    intro _ _ _ _ isCall
    injection isCall with _ isReply
    rw [isReply] at isRequest
    exact absurd isRequest id
  have called := Cluster.Onward.call (.rpc packet.source packet.msg now)
    inside asked trivial noSuccess
  have engineEq : after.engine = (((network.system.run inputs).engine
      node).call (.rpc packet.source packet.msg now)).1 := quiet.engine
  rw [embeds.engine, ← engineEq] at called
  rw [wired.drained] at told
  refine ⟨_, Cluster.unproposed_singleton (by rintro _ _ ⟨⟩),
    embeds.drain loses drained called ?_ ?_ told⟩
  · rw [requests]
    exact fun _ inside => absurd inside List.not_mem_nil
  · rw [responses]
    intro response isResponse target isPeer
    obtain rfl := List.mem_singleton.mp isResponse
    obtain rfl := network.peerId_injective isPeer
    refine called.sends [] (fun _ none => absurd none List.not_mem_nil) ?_
    rw [emitted, mem_outgoing]
    exact .inl (List.mem_append_right _ List.mem_cons_self)

/-- A reply that settles an exchange is a call of the engine. -/
theorem Embeds.settle
    (embeds : Embeds network inputs events)
    (inside : node ∈ network.nodes)
    {position now : Nat}
    {conn : ConnectionId}
    {packet : Packet}
    {request : PendingRequest}
    (reports : ReportsRecorded network (network.system.run inputs)
      (.response node position conn now))
    (found : (network.system.run inputs).responses[position]? = some packet)
    (addressed : packet.peer = network.peerId node)
    (pends : ((network.system.run inputs).behaviour node).Pends
      packet.correlationId request)
    (silent : RaftBehaviour.Silent
      (((network.system.run inputs).behaviour node).settle packet.correlationId
        request.target packet.msg now) after)
    (drained :
      network.system.run (inputs ++ [.response node position conn now]) =
        { network.system.run inputs with
          responses :=
            (network.system.run inputs).responses.eraseIdx position }.drain node
          after) :
    ∃ more, Cluster.Unproposed more ∧
      Embeds network (inputs ++ [.response node position conn now])
        (events ++ more) := by
  have wired := network.wired inputs
  have loses : Loses (network.system.run inputs)
      { network.system.run inputs with
        responses := (network.system.run inputs).responses.eraseIdx position } :=
    ⟨rfl, fun _ => id, fun _ => List.mem_of_mem_eraseIdx, rfl⟩
  have isAnswer : packet ∈ network.answer (network.system.run inputs)
      (.response node position conn now) := by
    simp [answer, inside, found, addressed]
  have asked : ∀ sender msg time,
      Call.rpc request.target packet.msg now = .rpc sender msg time →
      network.toCluster.Sent (network.toCluster.system.run events) sender node
        msg := by
    rintro _ _ _ ⟨⟩
    rw [(wired.settles found addressed pends).1]
    exact embeds.responses packet (List.mem_of_getElem? found) node addressed
  have recordedReports : Cluster.ReportsRecorded
      (network.toCluster.system.run events)
      (.call node (.rpc request.target packet.msg now)) := by
    apply Cluster.reportsRecorded_call
    intro sender term matchIndex time isCall
    rw [embeds.engine]
    intro leading sameTerm recorded isRecorded
    injection isCall with isSender isReply
    rw [← isSender] at isRecorded
    exact reports leading packet isAnswer (term, matchIndex)
      (by rw [isReply]; rfl) sameTerm request pends recorded isRecorded
  exact embeds.act_unproposed inside loses (.erase _ packet.correlationId) rfl
    ((wired.tracked node).erased _).fresh (.rpc request.target packet.msg now)
    (fun _ same => Call.noConfusion same) asked trivial recordedReports silent
    drained

/-- A restarted process is a restarted engine. -/
theorem Embeds.restart
    (embeds : Embeds network inputs events)
    (inside : node ∈ network.nodes)
    {now : Nat}
    (drained : network.system.run (inputs ++ [.restart node now]) =
      (network.system.run inputs).drain node
        (network.revive ((network.system.run inputs).behaviour node) node
          now)) :
    ∃ more, Cluster.Unproposed more ∧
      Embeds network (inputs ++ [.restart node now]) (events ++ more) := by
  obtain ⟨requests, responses, told⟩ := network.revive_packets
    ((network.system.run inputs).behaviour node) node now
  have restarted := Cluster.Onward.restart events inside now
  rw [embeds.engine] at restarted
  refine ⟨_, Cluster.unproposed_singleton (by rintro _ _ ⟨⟩),
    embeds.drain (.refl _) drained restarted ?_ ?_ told⟩
  · rw [requests]
    exact fun _ inside => absurd inside List.not_mem_nil
  · rw [responses]
    exact fun _ inside => absurd inside List.not_mem_nil

/-- Every input continues the run of the cluster. -/
theorem Embeds.step
    (embeds : Embeds network inputs events)
    (below : TermsBelowMax (network.system.run inputs) input)
    (reports : ReportsRecorded network (network.system.run inputs) input) :
    Advances network inputs events input := by
  have wired := network.wired inputs
  have ran := network.system.run_concat inputs input
  rcases network.step_effect (network.system.run inputs) input with
    same | ⟨inside, effect⟩
  · exact (embeds.idle (ran.trans same)).advances
  generalize network.system.step (network.system.run inputs) input =
    result at effect ran
  cases effect with
  | skipped => exact (embeds.idle ran).advances
  | idle _ after fewer loses silent =>
      have none :=
        ((network.system.run inputs).behaviour input.node).dropAll_dropped []
      exact .of_unproposed (embeds.dropped inside loses none silent ran)
  | dropped _ id after failed silent =>
      exact .of_unproposed (embeds.dropped inside (.refl _)
        (((network.system.run inputs).behaviour input.node).drop_dropped id)
        silent ran)
  | disconnected _ peer after silent =>
      exact .of_unproposed (embeds.dropped inside (.refl _)
        (((network.system.run inputs).behaviour input.node).dropAll_dropped _)
        silent ran)
  | ticked node now after silent =>
      have inside : node ∈ network.nodes := inside
      have belowMax : network.toCluster.TermsBelowMax
          (network.toCluster.system.run events) (.call node (.tick now)) := by
        intro _ waiting due
        rw [embeds.engine] at waiting due ⊢
        exact below waiting due
      exact .of_unproposed (embeds.act_unproposed inside (.refl _) (.refl _) rfl
        (wired.tracked node).fresh (.tick now)
        (fun _ same => Call.noConfusion same)
        (fun _ _ _ same => Call.noConfusion same) belowMax trivial silent ran)
  | proposed node data now after silent =>
      have inside : node ∈ network.nodes := inside
      obtain ⟨more, unproposed, embedsLater⟩ := embeds.propose inside silent ran
      exact ⟨more, unproposed, .inr ⟨node, data, now, rfl, inside, embedsLater⟩⟩
  | served node position conn channelId now packet sender after found addressed
      mapped told handled =>
      obtain rfl := wired.sender_eq mapped
      exact .of_unproposed
        (embeds.serve inside found addressed told handled ran)
  | settled node position conn now packet request after found addressed pends
      silent =>
      exact .of_unproposed
        (embeds.settle inside reports found addressed pends silent ran)
  | restarted node now => exact .of_unproposed (embeds.restart inside ran)

/-- Behind every run whose successes report what is recorded stands a run of the
cluster. -/
theorem exists_embeds
    (below : network.system.Along TermsBelowMax inputs)
    (reports : network.system.Along (ReportsRecorded network) inputs) :
    ∃ events, Embeds network inputs events := by
  induction inputs using List.reverseRecOn with
  | nil => exact ⟨[], .nil network⟩
  | append_singleton inputs input inductionHypothesis =>
      rw [System.along_concat] at below reports
      obtain ⟨events, embeds⟩ := inductionHypothesis below.1 reports.1
      obtain ⟨more, embedsLater⟩ := (embeds.step below.2 reports.2).embeds
      exact ⟨_, embedsLater⟩

/-- The run behind a moment goes on to the run behind a later one. -/
theorem Embeds.extend
    {past : List Input}
    (embeds : Embeds network past events)
    (isPast : past <+: inputs)
    (below : network.system.Along TermsBelowMax inputs)
    (reports : network.system.Along (ReportsRecorded network) inputs) :
    ∃ more, Embeds network inputs (events ++ more) := by
  obtain ⟨rest, rfl⟩ := isPast
  induction rest using List.reverseRecOn with
  | nil =>
      rw [List.append_nil]
      exact ⟨[], by rw [List.append_nil]; exact embeds⟩
  | append_singleton rest input inductionHypothesis =>
      rw [← List.append_assoc] at below reports ⊢
      rw [System.along_concat] at below reports
      obtain ⟨middle, embedsMiddle⟩ := inductionHypothesis below.1 reports.1
      obtain ⟨more, embedsLater⟩ :=
        (embedsMiddle.step below.2 reports.2).embeds
      exact ⟨middle ++ more, by rw [← List.append_assoc]; exact embedsLater⟩

end Network

end Libp2pRaft
