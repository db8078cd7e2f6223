import Libp2pRaft.Behaviour.Dispatch

/-!
# What an event does to a behaviour

Every entry point of the behaviour drops pending requests, or makes one call of
the engine and dispatches what the engine asks for.  `Dispatched` says what the
dispatch of messages does in total.
-/

namespace Libp2pRaft

namespace RaftEngine

variable {S : Type}

/-- Only a failed AppendEntries frees a slot, and only that of its target. -/
theorem freed_handleRpcFailure
    {self : RaftEngine S}
    {peer target : NodeId}
    {kind : RpcKind}
    (inside : target ∈ self.aeInflight)
    (outside : target ∉ (self.handleRpcFailure peer kind).1.aeInflight) :
    peer = target ∧ kind = .appendEntries := by
  unfold handleRpcFailure at outside
  split_ifs at outside with append
  · refine ⟨?_, append⟩
    by_contra different
    exact outside (Finset.mem_erase.mpr ⟨Ne.symm different, inside⟩)
  · exact absurd inside outside

/-- An engine that learned of failed requests. -/
def Failures (before after : RaftEngine S) : Prop :=
  ∃ failed : List (NodeId × RpcKind), after =
    failed.foldl (fun self request =>
      (self.handleRpcFailure request.1 request.2).1) before

namespace Failures

variable {first second : RaftEngine S}

theorem refl : Failures first first :=
  ⟨[], rfl⟩

theorem concat
    (failures : Failures first second)
    (target : NodeId)
    (kind : RpcKind) :
    Failures first (second.handleRpcFailure target kind).1 := by
  obtain ⟨failed, rfl⟩ := failures
  exact ⟨failed ++ [(target, kind)], by simp⟩

/-- A failure can only free slots. -/
theorem frame
    (failures : Failures first second) :
    ∃ aeInflight ⊆ first.aeInflight,
      second = { first with aeInflight := aeInflight } := by
  obtain ⟨failed, rfl⟩ := failures
  induction failed using List.reverseRecOn with
  | nil => exact ⟨first.aeInflight, Finset.Subset.refl _, rfl⟩
  | append_singleton failed request inductionHypothesis =>
      obtain ⟨aeInflight, subset, frame⟩ := inductionHypothesis
      rw [List.foldl_append, frame]
      by_cases append : request.2 = .appendEntries
      · refine ⟨aeInflight.erase request.1,
          (Finset.erase_subset _ _).trans subset, ?_⟩
        simp [handleRpcFailure, append]
      · refine ⟨aeInflight, subset, ?_⟩
        simp [handleRpcFailure, append]

end Failures

end RaftEngine

namespace RaftBehaviour

variable {S : Type}

/-- The behaviour once every pending request to a peer failed. -/
def dropPeer (self : RaftBehaviour S) (peer : PeerId) : RaftBehaviour S :=
  (self.peerRequests peer).foldl drop self

/-- The behaviour once its engine was called and the actions were dispatched. -/
def act
    [Storage S]
    (self : RaftBehaviour S)
    (call : Call)
    (now : Nat) : RaftBehaviour S :=
  { self with engine := (self.engine.call call).1 }.executeActions
    (self.engine.call call).2 none now

/-- The behaviour once a pending request was answered. -/
def settle
    [Storage S]
    (self : RaftBehaviour S)
    (correlationId : Nat)
    (target : NodeId)
    (msg : RaftMessage)
    (now : Nat) : RaftBehaviour S :=
  { self with pending := self.pending.erase correlationId }.act
    (.rpc target msg now) now

namespace Silent

variable {before after : RaftBehaviour S}

theorem drop
    (silent : Silent before after)
    (correlationId : Nat) :
    Silent (before.drop correlationId) (after.drop correlationId) := by
  unfold RaftBehaviour.drop
  rw [silent.pending, silent.engine]
  split
  · exact silent
  · exact ⟨⟨rfl, silent.peerMap, silent.nextCorrelationId, rfl, silent.requests,
      silent.responses⟩, silent.batches⟩

theorem dropAll
    (silent : Silent before after)
    (ids : List Nat) :
    Silent (ids.foldl RaftBehaviour.drop before)
      (ids.foldl RaftBehaviour.drop after) := by
  induction ids generalizing before after with
  | nil => exact silent
  | cons id ids inductionHypothesis => exact inductionHypothesis (silent.drop id)

end Silent

variable (self : RaftBehaviour S)

theorem failPending_silent
    (correlationId : Nat)
    (error : String)
    (emitEvent : Bool)
    (now : Nat) :
    Silent (self.drop correlationId)
      (self.failPending correlationId error emitEvent now) := by
  rcases self.failPending_cases correlationId error emitEvent now with
    quiet | ⟨-, peer, reported⟩
  · rw [quiet]
    exact .refl _
  · rw [reported]
    exact .generateEvent _ rfl

theorem failPendings_silent
    (ids : List Nat)
    (error : String)
    (emitEvent : Bool)
    (now : Nat) :
    Silent (ids.foldl drop self)
      (ids.foldl (fun self id => self.failPending id error emitEvent now)
        self) := by
  induction ids generalizing self with
  | nil => exact .refl self
  | cons id ids inductionHypothesis =>
      exact ((self.failPending_silent id error emitEvent now).dropAll ids).trans
        (inductionHypothesis _)

/-- A swarm event is silent, or fails every pending request to one peer. -/
theorem onSwarmEvent_cases
    (event : FromSwarm)
    (now : Nat) :
    Silent self (self.onSwarmEvent event now) ∨
      ∃ peer, Silent (self.dropPeer peer) (self.onSwarmEvent event now) := by
  have lost : ∀ (changed : RaftBehaviour S) peer error emitEvent,
      Silent self changed →
      Silent (self.dropPeer peer)
        (changed.failPeerPending peer error emitEvent now) := by
    intro changed peer error emitEvent silent
    have sameIds : changed.peerRequests peer = self.peerRequests peer := by
      unfold peerRequests
      rw [silent.pending]
    refine (silent.dropAll (self.peerRequests peer)).trans ?_
    rw [← sameIds]
    exact changed.failPendings_silent _ error emitEvent now
  cases event with
  | connectionEstablished peer conn =>
      exact .inl ⟨⟨rfl, rfl, rfl, rfl, fun _ => rfl, fun _ => rfl⟩, rfl⟩
  | connectionClosed peer conn =>
      have changed : ∀ connected, Silent self
          { self with
            connected := connected
            dialing := self.dialing.erase peer } :=
        fun _ => ⟨⟨rfl, rfl, rfl, rfl, fun _ => rfl, fun _ => rfl⟩, rfl⟩
      simp only [onSwarmEvent]
      split_ifs
      · exact .inl (changed _)
      · exact .inr ⟨peer, lost _ peer _ _ (changed _)⟩
  | dialFailure peer error =>
      cases peer with
      | none => exact .inl (.refl self)
      | some peer =>
          have changed : Silent self
              (if isBenignDialError error then
                { self with dialing := self.dialing.erase peer }.dialBackoff
                  peer now
              else { self with dialing := self.dialing.erase peer }) := by
            split_ifs
            · exact ⟨⟨rfl, rfl, rfl, rfl, fun _ => rfl, fun _ => rfl⟩, rfl⟩
            · exact ⟨⟨rfl, rfl, rfl, rfl, fun _ => rfl, fun _ => rfl⟩, rfl⟩
          refine .inr ⟨peer, ?_⟩
          have failed := lost _ peer ("dial failure: " ++ error)
            (!isBenignDialError error) changed
          simp only [onSwarmEvent]
          split_ifs at failed ⊢ with benign
          · exact failed
          · exact failed.trans (.generateEvent _ rfl)
  | other => exact .inl (.refl self)

section

variable [Storage S]

/-- The engine is ticked once its deadline is reached. -/
theorem tickEngine_cases (now : Nat) :
    self.tickEngine now = self ∨
      Silent (self.act (.tick now) now) (self.tickEngine now) := by
  unfold tickEngine
  split_ifs
  · exact .inr (.armSleep _ _ _)
  · exact .inl rfl

/-- The behaviour passes on the index the engine answers with. -/
theorem propose_eq_ok
    {data : List UInt8}
    {now index : Nat} :
    (self.propose data now).2 = .ok index ↔
      ∃ actions, (self.engine.propose data).2 = .ok (index, actions) := by
  unfold propose
  generalize self.engine.propose data = result
  obtain ⟨engine, outcome⟩ := result
  cases outcome with
  | error error => simp
  | ok answer => simp [Prod.ext_iff]

theorem propose_silent
    (data : List UInt8)
    (now : Nat) :
    Silent (self.act (.propose data) now) (self.propose data now).1 := by
  simp only [propose, act, RaftEngine.call]
  rcases self.engine.propose data with ⟨engine, error | ⟨index, actions⟩⟩
  · exact .refl _
  · exact .armSleep _ _ _

/-- A response settles its pending request, or is dropped. -/
theorem response_cases
    (peerId : PeerId)
    (connectionId : ConnectionId)
    (correlationId : Nat)
    (msg : RaftMessage)
    (now : Nat) :
    (self.pending.lookup correlationId = none ∧
      self.onConnectionHandlerEvent peerId connectionId
        (.response correlationId msg) now = self) ∨
    ∃ request, self.pending.lookup correlationId = some request ∧
      Silent (self.settle correlationId request.target msg now)
        (self.onConnectionHandlerEvent peerId connectionId
          (.response correlationId msg) now) := by
  simp only [onConnectionHandlerEvent]
  cases self.pending.lookup correlationId with
  | none => exact .inl ⟨rfl, rfl⟩
  | some request => exact .inr ⟨request, rfl, .armSleep _ _ _⟩

/-- A failure drops its pending request, if it names one. -/
theorem failure_silent
    (peerId : PeerId)
    (connectionId : ConnectionId)
    (correlationId : Option Nat)
    (error : String)
    (now : Nat) :
    Silent (correlationId.elim self self.drop)
      (self.onConnectionHandlerEvent peerId connectionId
        (.failure correlationId error) now) := by
  cases correlationId with
  | none =>
      exact (Silent.generateEvent self rfl).trans (.armSleep _ _ _)
  | some id =>
      exact (self.failPending_silent id error true now).trans (.armSleep _ _ _)

/-- A request from a peer that is not mapped is reported, any other is handled
by the engine and answered on its own channel. -/
theorem request_cases
    (peerId : PeerId)
    (connectionId : ConnectionId)
    (correlationId : Nat)
    (msg : RaftMessage)
    (channelId now : Nat) :
    (self.peerMap.nodeId peerId = none ∧
      Silent self (self.onConnectionHandlerEvent peerId connectionId
        (.request correlationId msg channelId) now)) ∨
    ∃ sender, self.peerMap.nodeId peerId = some sender ∧
      committedBatches (self.onConnectionHandlerEvent peerId connectionId
          (.request correlationId msg channelId) now).pendingEvents =
        committedBatches self.pendingEvents ++
          (self.engine.call (.rpc sender msg now)).2.filterMap Action.batch ∧
      ∀ actions reply others,
        (self.engine.call (.rpc sender msg now)).2 =
          actions ++ [.send sender reply] →
        outgoing others actions = [] →
        (∀ msg, .broadcast msg ∉ actions) →
          Quiet
            ({ self with
              engine := (self.engine.call (.rpc sender msg now)).1 }.pushEvent
              (.notifyHandler peerId (.one connectionId)
                (.sendResponse channelId correlationId reply)))
            (self.onConnectionHandlerEvent peerId connectionId
              (.request correlationId msg channelId) now) := by
  simp only [onConnectionHandlerEvent]
  cases self.peerMap.nodeId peerId with
  | none => exact .inl ⟨rfl, .generateEvent _ rfl⟩
  | some sender =>
      refine .inr ⟨sender, rfl, executeActions_committedBatches _ _ _ _, ?_⟩
      intro actions reply others emitted silent noBroadcast
      have responded := executeActions_respond
        { self with
          engine := (self.engine.call (.rpc sender msg now)).1
          inboundChannels := self.inboundChannels.insert channelId
            ⟨peerId, connectionId, correlationId⟩ }
        others silent noBroadcast (AList.lookup_insert _) sender reply now
      rw [← emitted] at responded
      refine .trans ?_ (responded.trans (.trans ?_ (.armSleep _ _ _)))
      · exact ⟨rfl, rfl, rfl, rfl, fun _ => rfl, fun _ => rfl⟩
      · exact ⟨rfl, rfl, rfl, rfl, fun _ => rfl, fun _ => rfl⟩

end

end RaftBehaviour

end Libp2pRaft
