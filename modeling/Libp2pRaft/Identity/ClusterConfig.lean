import Libp2pRaft.Protocol.Codec
import Mathlib.Data.List.Nodup
import Mathlib.Data.List.OfFn

/-!
# Node identities and the cluster file

`node_identity.rs` and `cluster_config.rs`.  Key generation, name resolution and
the parsing of addresses belong to libraries and are parameters.
-/

namespace Libp2pRaft

/-- The 32 bytes a key is made from. -/
abbrev Seed := Fin 32 → UInt8

/-- Keys of a seed and the identity of their public half. -/
structure KeyScheme (Keypair : Type) where
  fromSeed : Seed → Except String Keypair
  peerId : Keypair → PeerId

/-- The text `libp2prf`, byte by byte. -/
def seedLabel : List UInt8 := [108, 105, 98, 112, 50, 112, 114, 102]

/-- The seed of a node: the low byte of its id, then a label, then zeros. -/
def seedForNode (nodeId : NodeId) : Seed := fun position =>
  if position.val = 0 then
    UInt8.ofNat nodeId
  else
    seedLabel.getD (position.val - 1) 0

section

variable {Keypair : Type} (keys : KeyScheme Keypair)

def keypairForNode (nodeId : NodeId) : Except Error Keypair :=
  (keys.fromSeed (seedForNode nodeId)).mapError fun error =>
    .rpc ("invalid node key seed: " ++ error)

def peerIdForNode (nodeId : NodeId) : Except Error PeerId :=
  (keypairForNode keys nodeId).map keys.peerId

end

/-- The addresses of a host, and how the text of an address is read. -/
structure Resolver where
  toSocketAddrs : String → Nat → Except String (List (Bool × String))
  parse : String → Except String Multiaddr

/-- The first address of a host. -/
def resolveHostPort
    (resolver : Resolver)
    (host : String)
    (port : Nat) : Except String Multiaddr := do
  let addrs ← (resolver.toSocketAddrs host port).mapError fun error =>
    "resolve " ++ host ++ ":" ++ toString port ++ ": " ++ error
  match addrs with
  | [] => .error ("could not resolve " ++ host ++ ":" ++ toString port)
  | (isIpv4, ip) :: _ =>
      let text :=
        if isIpv4 then
          "/ip4/" ++ ip ++ "/tcp/" ++ toString port
        else
          "/ip6/" ++ ip ++ "/tcp/" ++ toString port
      (resolver.parse text).mapError fun error =>
        "multiaddr for " ++ host ++ ":" ++ toString port ++ ": " ++ error

/-- One node of the cluster file. -/
structure ClusterNodeSpec where
  id : NodeId
  host : String
  port : Nat
  deriving DecidableEq, Repr

/-- The cluster file. -/
structure ClusterConfig where
  nodes : List ClusterNodeSpec
  deriving DecidableEq, Repr

namespace ClusterConfig

def nodeIds (self : ClusterConfig) : List NodeId :=
  self.nodes.map ClusterNodeSpec.id

/-- The seed of one other node. -/
def seedPeer
    {Keypair : Type}
    (keys : KeyScheme Keypair)
    (resolver : Resolver)
    (node : ClusterNodeSpec) : Except String SeedPeer := do
  let addr ← resolveHostPort resolver node.host node.port
  let peerId ← (peerIdForNode keys node.id).mapError fun error =>
    "peer id for node " ++ toString node.id ++ ": " ++ error.text
  .ok { nodeId := node.id, peerId := peerId, addrs := [addr] }

/-- The seeds of every node but one. -/
def seedPeers
    {Keypair : Type}
    (self : ClusterConfig)
    (keys : KeyScheme Keypair)
    (resolver : Resolver)
    (selfId : NodeId) : Except String (List SeedPeer) :=
  (self.nodes.filter fun node => node.id ≠ selfId).mapM
    (seedPeer keys resolver)

end ClusterConfig

/-! ## Which nodes have one identity each -/

/-- Every seed yields a key, and the identity of the key is an injective
function of the seed. -/
structure KeyScheme.Derives
    {Keypair : Type}
    (keys : KeyScheme Keypair)
    (derive : Seed → PeerId) : Prop where
  derived : ∀ seed, ∃ pair,
    keys.fromSeed seed = .ok pair ∧ keys.peerId pair = derive seed
  injective : Function.Injective derive

/-- Two nodes have one seed exactly when their ids agree in the low byte. -/
theorem seedForNode_eq_iff
    {node other : NodeId} :
    seedForNode node = seedForNode other ↔ node % 256 = other % 256 := by
  constructor
  · intro same
    have lowest := congrArg UInt8.toNat (congrFun same 0)
    rwa [show seedForNode node 0 = UInt8.ofNat node from rfl,
      show seedForNode other 0 = UInt8.ofNat other from rfl,
      UInt8.toNat_ofNat', UInt8.toNat_ofNat'] at lowest
  · intro same
    have lowest : UInt8.ofNat node = UInt8.ofNat other := by
      apply UInt8.toNat_inj.mp
      rw [UInt8.toNat_ofNat', UInt8.toNat_ofNat']
      exact same
    funext position
    simp only [seedForNode, lowest]

section

variable {Keypair : Type} {keys : KeyScheme Keypair} {derive : Seed → PeerId}

theorem peerIdForNode_eq
    (derives : keys.Derives derive)
    (node : NodeId) :
    peerIdForNode keys node = .ok (derive (seedForNode node)) := by
  obtain ⟨pair, made, same⟩ := derives.derived (seedForNode node)
  unfold peerIdForNode keypairForNode
  rw [made, ← same]
  rfl

namespace ClusterConfig

/-- The seeds are those of the other nodes, in order. -/
theorem seedPeers_ok
    (derives : keys.Derives derive)
    {config : ClusterConfig}
    {resolver : Resolver}
    (resolves : ∀ node ∈ config.nodes, ∃ addr,
      resolveHostPort resolver node.host node.port = .ok addr)
    (selfId : NodeId) :
    ∃ seeds, config.seedPeers keys resolver selfId = .ok seeds ∧
      seeds.map SeedPeer.nodeId = config.nodeIds.filter (· ≠ selfId) ∧
      ∀ seed ∈ seeds, seed.peerId = derive (seedForNode seed.nodeId) := by
  obtain ⟨nodes⟩ := config
  unfold seedPeers nodeIds
  induction nodes with
  | nil => exact ⟨[], rfl, rfl, fun _ inside => absurd inside List.not_mem_nil⟩
  | cons node nodes inductionHypothesis =>
      obtain ⟨seeds, made, ids, derived⟩ := inductionHypothesis fun other inside =>
        resolves other (List.mem_cons_of_mem _ inside)
      obtain ⟨addr, resolved⟩ := resolves node List.mem_cons_self
      by_cases own : node.id = selfId
      · refine ⟨seeds, ?_, ?_, derived⟩
        · simp only [List.filter_cons, own, ne_eq, not_true, decide_false,
            Bool.false_eq_true, if_false]
          exact made
        · simp only [List.map_cons, List.filter_cons, own, ne_eq, not_true,
            decide_false, Bool.false_eq_true, if_false]
          exact ids
      · have one : seedPeer keys resolver node =
            .ok ⟨node.id, derive (seedForNode node.id), [addr]⟩ := by
          unfold seedPeer
          rw [resolved, peerIdForNode_eq derives]
          rfl
        refine ⟨⟨node.id, derive (seedForNode node.id), [addr]⟩ :: seeds, ?_, ?_,
          List.forall_mem_cons.mpr ⟨rfl, derived⟩⟩
        · simp only [List.filter_cons, own, ne_eq, not_false_eq_true,
            decide_true, if_true, List.mapM_cons, one]
          simp only [ne_eq] at made
          rw [made]
          rfl
        · simp only [List.map_cons, List.filter_cons, own, ne_eq,
            not_false_eq_true, decide_true, if_true]
          simp only [ne_eq] at ids
          rw [ids]

/-- Nodes and peers correspond one to one, as far as one node knows them. -/
structure OneToOne
    (config : ClusterConfig)
    (keys : KeyScheme Keypair)
    (selfId : NodeId)
    (seeds : List SeedPeer) : Prop where
  distinct : (seeds.map SeedPeer.peerId).Nodup
  notOwn : ∀ own, peerIdForNode keys selfId = .ok own →
    own ∉ seeds.map SeedPeer.peerId
  forward : ∀ node ∈ config.nodeIds, node ≠ selfId →
    ∃ peer, peerIdForNode keys node = .ok peer ∧
      (PeerMap.fromSeeds seeds).peerId node = some peer ∧
      (PeerMap.fromSeeds seeds).nodeId peer = some node
  backward : ∀ peer node, (PeerMap.fromSeeds seeds).nodeId peer = some node →
    (PeerMap.fromSeeds seeds).peerId node = some peer

/-- The correspondence is one to one exactly when no two ids agree in the low
byte. -/
theorem oneToOne_iff
    (derives : keys.Derives derive)
    {config : ClusterConfig}
    (distinct : config.nodeIds.Nodup)
    {selfId : NodeId}
    (isNode : selfId ∈ config.nodeIds)
    {seeds : List SeedPeer}
    (ids : seeds.map SeedPeer.nodeId = config.nodeIds.filter (· ≠ selfId))
    (derived : ∀ seed ∈ seeds, seed.peerId = derive (seedForNode seed.nodeId)) :
    config.OneToOne keys selfId seeds ↔
      (config.nodeIds.map fun node => node % 256).Nodup := by
  have peers : seeds.map SeedPeer.peerId =
      (config.nodeIds.filter (· ≠ selfId)).map
        fun node => derive (seedForNode node) := by
    rw [← ids, List.map_map]
    exact List.map_congr_left derived
  have same : ∀ node other,
      derive (seedForNode node) = derive (seedForNode other) ↔
        node % 256 = other % 256 := fun node other =>
    derives.injective.eq_iff.trans seedForNode_eq_iff
  rw [List.nodup_map_iff_inj_on distinct]
  constructor
  · intro oneToOne node isOther other isAnother collide
    have separate := oneToOne.distinct
    rw [peers, List.nodup_map_iff_inj_on (distinct.filter _)] at separate
    have notOwn := oneToOne.notOwn _ (peerIdForNode_eq derives selfId)
    rw [peers] at notOwn
    have differs : ∀ node ∈ config.nodeIds, node ≠ selfId →
        node % 256 ≠ selfId % 256 := by
      intro node inside foreign collide
      apply notOwn
      rw [← (same node selfId).mpr collide]
      exact List.mem_map_of_mem
        (List.mem_filter.mpr ⟨inside, decide_eq_true foreign⟩)
    by_cases own : node = selfId
    · subst own
      by_contra different
      exact differs other isAnother (Ne.symm different) collide.symm
    · by_cases otherOwn : other = selfId
      · subst otherOwn
        exact absurd collide (differs node isOther own)
      · exact separate node (List.mem_filter.mpr ⟨isOther, decide_eq_true own⟩)
          other (List.mem_filter.mpr ⟨isAnother, decide_eq_true otherOwn⟩)
          ((same node other).mpr collide)
  · intro separate
    have nodesDistinct : (seeds.map SeedPeer.nodeId).Nodup := by
      rw [ids]
      exact distinct.filter _
    have peersDistinct : (seeds.map SeedPeer.peerId).Nodup := by
      rw [peers, List.nodup_map_iff_inj_on (distinct.filter _)]
      intro node inside other among collide
      exact separate node (List.mem_of_mem_filter inside) other
        (List.mem_of_mem_filter among) ((same node other).mp collide)
    refine ⟨peersDistinct, ?_, ?_, ?_⟩
    · intro own ownEq inside
      rw [peerIdForNode_eq derives] at ownEq
      injection ownEq with ownEq
      rw [peers] at inside
      obtain ⟨node, among, collide⟩ := List.mem_map.mp inside
      obtain ⟨isNodeId, foreign⟩ := List.mem_filter.mp among
      apply of_decide_eq_true foreign
      exact separate node isNodeId selfId isNode
        ((same node selfId).mp (collide.trans ownEq.symm))
    · intro node inside foreign
      have among : node ∈ seeds.map SeedPeer.nodeId := by
        rw [ids]
        exact List.mem_filter.mpr ⟨inside, decide_eq_true foreign⟩
      obtain ⟨seed, isSeed, rfl⟩ := List.mem_map.mp among
      refine ⟨seed.peerId, ?_, PeerMap.peerId_fromSeeds nodesDistinct isSeed,
        PeerMap.nodeId_fromSeeds peersDistinct isSeed⟩
      rw [peerIdForNode_eq derives, derived seed isSeed]
    · intro peer node known
      have respects : PeerMap.Respects (fun node peer =>
          ∃ seed ∈ seeds, seed.nodeId = node ∧ seed.peerId = peer)
          (PeerMap.fromSeeds seeds) :=
        PeerMap.respects_fromSeeds fun seed isSeed => ⟨seed, isSeed, rfl, rfl⟩
      obtain ⟨seed, isSeed, rfl, rfl⟩ := respects.backward peer node known
      exact PeerMap.peerId_fromSeeds nodesDistinct isSeed

/-- A node whose peers resolve knows them one to one exactly when no two of the
configured ids agree in the low byte. -/
theorem identities_one_to_one
    (derives : keys.Derives derive)
    (config : ClusterConfig)
    (distinct : config.nodeIds.Nodup)
    (selfId : NodeId)
    (isNode : selfId ∈ config.nodeIds)
    (resolver : Resolver)
    (resolves : ∀ node ∈ config.nodes, ∃ addr,
      resolveHostPort resolver node.host node.port = .ok addr) :
    ∃ seeds, config.seedPeers keys resolver selfId = .ok seeds ∧
      (config.OneToOne keys selfId seeds ↔
        (config.nodeIds.map fun node => node % 256).Nodup) := by
  obtain ⟨seeds, made, ids, derived⟩ :=
    seedPeers_ok derives resolves selfId
  exact ⟨seeds, made, oneToOne_iff derives distinct isNode ids derived⟩

/-- A scheme whose identities spell their seeds. -/
def spelled : KeyScheme Seed where
  fromSeed := .ok
  peerId := fun seed => Binary.ofLittleEndian (List.ofFn seed)

theorem spelled_derives :
    spelled.Derives fun seed => Binary.ofLittleEndian (List.ofFn seed) where
  derived seed := ⟨seed, rfl, rfl⟩
  injective := by
    intro seed other same
    have bytes : ∀ seed : Seed, Binary.littleEndian 32
        (Binary.ofLittleEndian (List.ofFn seed)) = List.ofFn seed := by
      intro seed
      have recovered := Binary.littleEndian_ofLittleEndian (List.ofFn seed)
      rwa [List.length_ofFn] at recovered
    apply List.ofFn_injective
    rw [← bytes seed, ← bytes other]
    exact congrArg (Binary.littleEndian 32) same

/-- Every host has one address. -/
def loopback : Resolver where
  toSocketAddrs _ _ := .ok [(true, "127.0.0.1")]
  parse := .ok

/-- A cluster file with nodes of given ids. -/
def ofIds (ids : List NodeId) : ClusterConfig where
  nodes := ids.map fun id => ⟨id, "localhost", 4000 + id⟩

theorem identities_one_to_one_three :
    ∃ seeds, (ofIds [1, 2, 3]).seedPeers spelled loopback 1 = .ok seeds ∧
      ((ofIds [1, 2, 3]).OneToOne spelled 1 seeds ↔
        ((ofIds [1, 2, 3]).nodeIds.map fun node => node % 256).Nodup) :=
  identities_one_to_one spelled_derives (ofIds [1, 2, 3]) (by decide) 1
    (by decide) loopback fun node _ => ⟨_, rfl⟩

/-- Nodes 1 and 257 share one identity. -/
theorem identity_shared :
    (ofIds [1, 2, 257]).nodeIds.Nodup ∧
    ∃ seeds, (ofIds [1, 2, 257]).seedPeers spelled loopback 2 = .ok seeds ∧
      peerIdForNode spelled 1 = peerIdForNode spelled 257 ∧
      ¬ (ofIds [1, 2, 257]).OneToOne spelled 2 seeds := by
  have distinct : (ofIds [1, 2, 257]).nodeIds.Nodup := by decide
  have resolves : ∀ node ∈ (ofIds [1, 2, 257]).nodes, ∃ addr,
      resolveHostPort loopback node.host node.port = .ok addr :=
    fun node _ => ⟨_, rfl⟩
  obtain ⟨seeds, made, ids, derived⟩ := seedPeers_ok spelled_derives resolves 2
  refine ⟨distinct, seeds, made, rfl, ?_⟩
  rw [oneToOne_iff spelled_derives distinct (by decide) ids derived]
  decide

end ClusterConfig

end

end Libp2pRaft
