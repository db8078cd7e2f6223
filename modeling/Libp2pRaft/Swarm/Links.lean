import Libp2pRaft.Behaviour.Endings
import Libp2pRaft.Swarm.Steps

/-!
# Connections, from both sides

The behaviour counts a connection to a peer exactly as long as it is there, and
every pending request is to a peer that is connected.
-/

namespace Libp2pRaft

namespace RaftBehaviour

variable {S : Type} {self : RaftBehaviour S} {peer other : PeerId}
  {conn : ConnectionId}

/-- The connections to a peer that a behaviour counts. -/
def links (self : RaftBehaviour S) (peer : PeerId) : Finset ConnectionId :=
  (self.connected.lookup peer).getD ∅

theorem isConnected_iff :
    self.isConnected peer = true ↔ (self.links peer).Nonempty := by
  unfold isConnected links
  cases self.connected.lookup peer with
  | none => simp
  | some conns => simp [Finset.nonempty_iff_ne_empty]

theorem mem_links_established
    (now : Nat)
    {id : ConnectionId} :
    id ∈ (self.onSwarmEvent (.connectionEstablished peer conn) now).links other ↔
      (other = peer ∧ id = conn) ∨ id ∈ self.links other := by
  unfold links onSwarmEvent
  by_cases same : other = peer
  · rw [same]
    simp
  · rw [AList.lookup_insert_ne same]
    simp [same]

theorem mem_links_disconnect
    {id : ConnectionId} :
    id ∈ (self.disconnect peer conn).links other ↔
      ¬ (other = peer ∧ id = conn) ∧ id ∈ self.links other := by
  unfold links disconnect
  cases known : self.connected.lookup peer with
  | none =>
      by_cases same : other = peer
      · rw [same, known]
        simp
      · simp [same]
  | some conns =>
      simp only
      split_ifs with last
      · by_cases same : other = peer
        · rw [same, AList.lookup_erase, known]
          have gone : ¬ id = conn → id ∉ conns := by
            intro different inside
            have stays := Finset.mem_erase.mpr ⟨different, inside⟩
            rw [last] at stays
            exact absurd stays (Finset.notMem_empty id)
          simpa using gone
        · rw [AList.lookup_erase_ne same]
          simp [same]
      · by_cases same : other = peer
        · rw [same, AList.lookup_insert, known]
          simp [Finset.mem_erase]
        · rw [AList.lookup_insert_ne same]
          simp [same]

end RaftBehaviour

namespace Swarm

open RaftBehaviour TransitionSystem

/-- The peer at the other end of a connection. -/
def peerAt (self : Swarm) (conn : ConnectionId) : Option PeerId :=
  (self.connections.lookup conn).map Connection.peer

/-- The behaviour counts the connections that are there, and every pending
request is to a connected peer. -/
structure Linked (state : Swarm) : Prop where
  numbered : ∀ conn peer, state.peerAt conn = some peer →
    conn < state.nextConnection
  links : ∀ peer conn, conn ∈ state.behaviour.links peer ↔
    state.peerAt conn = some peer
  reached : ∀ id request, state.behaviour.Pends id request →
    state.behaviour.isConnected request.peer = true

theorem lifetime_linked
    (config : RaftConfig)
    (storage : MemoryStorage)
    (now : Nat) :
    Linked (lifetime config storage now).init := by
  refine ⟨nofun, ?_, nofun⟩
  intro peer conn
  constructor
  · exact fun inside => absurd inside (Finset.notMem_empty conn)
  · exact nofun

section

variable {reply : OutboundInfo → WireEnvelope → Prop} {before after : Swarm}
  {input : Input}

theorem Linked.moved
    (linked : Linked before)
    {behaviour : MemoryBehaviour}
    {answered : List Answer}
    (moved : Moved before.behaviour behaviour answered) :
    Linked { before with behaviour := behaviour } where
  numbered := linked.numbered
  links peer conn := by
    rw [RaftBehaviour.links, moved.connected]
    exact linked.links peer conn
  reached id request pends := by
    rw [isConnected, moved.connected]
    rcases moved.pending id request pends with old | asked
    · exact linked.reached id request old
    · exact asked.connected

theorem Linked.popped
    (linked : Linked before)
    {behaviour : MemoryBehaviour}
    {event : ToSwarm}
    (popped : Popped before.behaviour behaviour event) :
    Linked { before with behaviour := behaviour } where
  numbered := linked.numbered
  links peer conn := by
    rw [RaftBehaviour.links, popped.connected]
    exact linked.links peer conn
  reached id request pends := by
    rw [Pends, popped.pending] at pends
    rw [isConnected, popped.connected]
    exact linked.reached id request pends

/-- What happens on a connection does not change who is at its other end. -/
theorem peerAt_insert
    {self : Swarm}
    {conn : ConnectionId}
    {connection changed : Connection}
    (isOpen : self.connections.lookup conn = some connection)
    (samePeer : changed.peer = connection.peer)
    (other : ConnectionId) :
    ((self.connections.insert conn changed).lookup other).map Connection.peer =
      self.peerAt other := by
  unfold peerAt
  by_cases same : other = conn
  · rw [same, AList.lookup_insert, isOpen, Option.map_some, Option.map_some,
      samePeer]
  · rw [AList.lookup_insert_ne same]

theorem Linked.changed
    (linked : Linked before)
    (sameBehaviour : after.behaviour = before.behaviour)
    (sameNext : after.nextConnection = before.nextConnection)
    (samePeers : ∀ conn, after.peerAt conn = before.peerAt conn) :
    Linked after where
  numbered conn peer isThere := by
    rw [sameNext]
    exact linked.numbered conn peer (samePeers conn ▸ isThere)
  links peer conn := by
    rw [sameBehaviour, samePeers]
    exact linked.links peer conn
  reached id request pends := by
    rw [sameBehaviour] at pends ⊢
    exact linked.reached id request pends

/-- Every step keeps the two sides together. -/
theorem Linked.step
    (linked : Linked before)
    (step : Step reply before input after) :
    Linked after := by
  cases step with
  | moved behaviour moved => exact linked.moved moved
  | dropped middle behaviour event moved popped =>
      exact (linked.moved moved).popped popped
  | taken middle behaviour peer handler command conn connection moved popped
      isOpen =>
      exact ((linked.moved moved).popped popped).changed rfl rfl
        (peerAt_insert isOpen rfl)
  | connected peer now =>
      have unused : before.peerAt before.nextConnection = none := by
        cases isThere : before.peerAt before.nextConnection with
        | none => rfl
        | some other => exact absurd (linked.numbered _ _ isThere) (lt_irrefl _)
      have peers : ∀ conn,
          ((before.connections.insert before.nextConnection (.new peer)).lookup
            conn).map Connection.peer =
          if conn = before.nextConnection then some peer
          else before.peerAt conn := by
        intro conn
        split_ifs with same
        · rw [same, AList.lookup_insert]
          rfl
        · rw [AList.lookup_insert_ne same]
          rfl
      refine ⟨?_, ?_, ?_⟩
      · intro conn other isThere
        rw [peerAt, peers] at isThere
        split_ifs at isThere with same
        · exact same ▸ Nat.lt_succ_self _
        · exact (linked.numbered conn other isThere).trans (Nat.lt_succ_self _)
      · intro other conn
        rw [mem_links_established, peerAt, peers, linked.links]
        split_ifs with same
        · rw [same, unused]
          simp [eq_comm]
        · simp [same]
      · intro id request pends
        have earlier := linked.reached id request pends
        rw [isConnected_iff] at earlier ⊢
        obtain ⟨conn, inside⟩ := earlier
        exact ⟨conn, (mem_links_established now).mpr (.inr inside)⟩
  | disconnected conn connection now isOpen =>
      have closed := Moved.connectionClosed before.behaviour connection.peer conn
        now
      have peers : ∀ other,
          ((before.connections.erase conn).lookup other).map Connection.peer =
          if other = conn then none else before.peerAt other := by
        intro other
        split_ifs with same
        · rw [same, AList.lookup_erase]
          rfl
        · rw [AList.lookup_erase_ne same]
          rfl
      refine ⟨?_, ?_, ?_⟩
      · intro other peer isThere
        rw [peerAt, peers] at isThere
        split_ifs at isThere
        exact linked.numbered other peer isThere
      · intro peer other
        rw [RaftBehaviour.links, closed.connected, ← RaftBehaviour.links,
          mem_links_disconnect, peerAt, peers, linked.links]
        split_ifs with same
        · rw [same, peerAt, isOpen]
          simp [eq_comm]
        · simp [same]
      · intro id request pends
        obtain ⟨stays, old⟩ := pends_connectionClosed.mp pends
        rw [isConnected, closed.connected, ← isConnected]
        by_cases same : request.peer = connection.peer
        · rw [same]
          by_contra gone
          exact stays (Bool.not_eq_true _ ▸ gone) same
        · have earlier := linked.reached id request old
          rw [isConnected_iff] at earlier ⊢
          obtain ⟨other, inside⟩ := earlier
          exact ⟨other, mem_links_disconnect.mpr
            ⟨fun here => same here.1, inside⟩⟩
  | turned conn connection changed written heard refused isOpen turn =>
      exact linked.changed rfl rfl (peerAt_insert isOpen turn.peer)
  | reported conn connection exchange event rest now isReport isOpen =>
      obtain ⟨answered, moved⟩ := Moved.handled before.behaviour conn event
      exact (linked.moved moved).changed rfl rfl (peerAt_insert isOpen rfl)

end

/-- Behaviour and connections are together after every run. -/
theorem run_linked
    (config : RaftConfig)
    (storage : MemoryStorage)
    (now : Nat)
    (inputs : List Input) :
    Linked ((lifetime config storage now).run inputs) :=
  (lifetime config storage now).invariant
    (lifetime_linked config storage now)
    (fun state input linked => linked.step
      (step_cases state input (hears_any state input)))
    inputs

end Swarm

end Libp2pRaft
