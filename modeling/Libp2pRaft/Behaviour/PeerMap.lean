import Libp2pRaft.Raft.Membership

/-!
# Nodes and their peers

`peer_map.rs`: the static map between Raft identities, libp2p identities and
addresses.
-/

namespace Libp2pRaft

/-- NodeId ↔ PeerId and seed addresses. -/
structure PeerMap where
  nodeToPeer : HashMap NodeId PeerId
  peerToNode : HashMap PeerId NodeId
  addresses : HashMap NodeId (List Multiaddr)

namespace PeerMap

/-- The map without peers. -/
def default : PeerMap where
  nodeToPeer := ∅
  peerToNode := ∅
  addresses := ∅

def insert
    (self : PeerMap)
    (node : NodeId)
    (peer : PeerId)
    (addrs : List Multiaddr) : PeerMap where
  nodeToPeer := self.nodeToPeer.insert node peer
  peerToNode := self.peerToNode.insert peer node
  addresses := self.addresses.insert node addrs

def fromSeeds (seeds : List SeedPeer) : PeerMap :=
  seeds.foldl (fun map seed => map.insert seed.nodeId seed.peerId seed.addrs)
    default

def peerId (self : PeerMap) (node : NodeId) : Option PeerId :=
  self.nodeToPeer.lookup node

def nodeId (self : PeerMap) (peer : PeerId) : Option NodeId :=
  self.peerToNode.lookup peer

def addrs (self : PeerMap) (node : NodeId) : Option (List Multiaddr) :=
  self.addresses.lookup node

/-- Every pair of the map satisfies a relation. -/
structure Respects
    (related : NodeId → PeerId → Prop)
    (map : PeerMap) : Prop where
  forward : ∀ node peer, map.peerId node = some peer → related node peer
  backward : ∀ peer node, map.nodeId peer = some node → related node peer

variable {related : NodeId → PeerId → Prop} {map : PeerMap}

theorem Respects.insert
    (respects : Respects related map)
    {node : NodeId}
    {peer : PeerId}
    (holds : related node peer)
    (addrs : List Multiaddr) :
    Respects related (map.insert node peer addrs) where
  forward := by
    intro other found lookup
    by_cases same : other = node
    · subst same
      simp only [PeerMap.peerId, PeerMap.insert, AList.lookup_insert,
        Option.some.injEq] at lookup
      exact lookup ▸ holds
    · simp only [PeerMap.peerId, PeerMap.insert,
        AList.lookup_insert_ne same] at lookup
      exact respects.forward other found lookup
  backward := by
    intro other found lookup
    by_cases same : other = peer
    · subst same
      simp only [PeerMap.nodeId, PeerMap.insert, AList.lookup_insert,
        Option.some.injEq] at lookup
      exact lookup ▸ holds
    · simp only [PeerMap.nodeId, PeerMap.insert,
        AList.lookup_insert_ne same] at lookup
      exact respects.backward other found lookup

/-- A map built from seeds holds only what the seeds say. -/
theorem respects_fromSeeds
    {seeds : List SeedPeer}
    (holds : ∀ seed ∈ seeds, related seed.nodeId seed.peerId) :
    Respects related (fromSeeds seeds) := by
  unfold fromSeeds
  have start : Respects related default :=
    ⟨fun _ _ lookup => by simp [PeerMap.peerId, default] at lookup,
      fun _ _ lookup => by simp [PeerMap.nodeId, default] at lookup⟩
  revert start
  generalize default = map
  intro start
  induction seeds generalizing map with
  | nil => exact start
  | cons seed seeds inductionHypothesis =>
      rw [List.foldl_cons]
      apply inductionHypothesis
      · exact fun other inside => holds other (List.mem_cons_of_mem _ inside)
      · exact start.insert (holds seed List.mem_cons_self) _

/-! ## Seeds with distinct keys -/

/-- Insertions under other keys leave a value as it is. -/
theorem lookup_foldl_insert_of_notMem
    {α κ β : Type}
    [DecidableEq κ]
    {key : α → κ}
    {value : α → β}
    {items : List α}
    {wanted : κ}
    (outside : wanted ∉ items.map key)
    (map : HashMap κ β) :
    (items.foldl (fun map item => map.insert (key item) (value item))
      map).lookup wanted = map.lookup wanted := by
  induction items generalizing map with
  | nil => rfl
  | cons item items inductionHypothesis =>
      rw [List.map_cons, List.mem_cons, not_or] at outside
      rw [List.foldl_cons, inductionHypothesis outside.2,
        AList.lookup_insert_ne outside.1]

/-- Each of several insertions under distinct keys is found. -/
theorem lookup_foldl_insert
    {α κ β : Type}
    [DecidableEq κ]
    {key : α → κ}
    {value : α → β}
    {items : List α}
    (distinct : (items.map key).Nodup)
    {item : α}
    (inside : item ∈ items)
    (map : HashMap κ β) :
    (items.foldl (fun map item => map.insert (key item) (value item))
      map).lookup (key item) = some (value item) := by
  induction items generalizing map with
  | nil => exact absurd inside List.not_mem_nil
  | cons first items inductionHypothesis =>
      rw [List.map_cons, List.nodup_cons] at distinct
      rw [List.foldl_cons]
      rcases List.mem_cons.mp inside with rfl | later
      · rw [lookup_foldl_insert_of_notMem distinct.1, AList.lookup_insert]
      · exact inductionHypothesis distinct.2 later _

theorem fromSeeds_eq (seeds : List SeedPeer) :
    fromSeeds seeds =
      { nodeToPeer := seeds.foldl
          (fun map seed => map.insert seed.nodeId seed.peerId) ∅
        peerToNode := seeds.foldl
          (fun map seed => map.insert seed.peerId seed.nodeId) ∅
        addresses := seeds.foldl
          (fun map seed => map.insert seed.nodeId seed.addrs) ∅ } := by
  induction seeds using List.reverseRecOn with
  | nil => rfl
  | append_singleton seeds seed inductionHypothesis =>
      unfold fromSeeds at inductionHypothesis ⊢
      simp only [List.foldl_append, List.foldl_cons, List.foldl_nil]
      rw [inductionHypothesis]
      rfl

theorem peerId_fromSeeds
    {seeds : List SeedPeer}
    (distinct : (seeds.map SeedPeer.nodeId).Nodup)
    {seed : SeedPeer}
    (inside : seed ∈ seeds) :
    (fromSeeds seeds).peerId seed.nodeId = some seed.peerId := by
  rw [fromSeeds_eq]
  exact lookup_foldl_insert distinct inside ∅

theorem nodeId_fromSeeds
    {seeds : List SeedPeer}
    (distinct : (seeds.map SeedPeer.peerId).Nodup)
    {seed : SeedPeer}
    (inside : seed ∈ seeds) :
    (fromSeeds seeds).nodeId seed.peerId = some seed.nodeId := by
  rw [fromSeeds_eq]
  exact lookup_foldl_insert distinct inside ∅

end PeerMap

end Libp2pRaft
