import Libp2pRaft.Storage.Basic
import Mathlib.Data.List.AList
import Mathlib.Data.List.Dedup

/-!
# Configuration, voter set and log comparison

`config.rs`, `raft/membership.rs` and `raft/log.rs`.  A `HashSet` is iterated
in an order of its own choice; the model iterates the voters in the order of
the configured list, so that every order is the order of some configuration.
-/

namespace Libp2pRaft

/-- A finite map with one value per key. -/
abbrev HashMap (κ β : Type) := AList fun _ : κ => β

/-- libp2p identity of a peer. -/
abbrev PeerId := Nat

/-- Network address of a peer. -/
abbrev Multiaddr := String

/-- One statically configured peer. -/
structure SeedPeer where
  nodeId : NodeId
  peerId : PeerId
  addrs : List Multiaddr
  deriving DecidableEq, Repr

/-- Static configuration of a node. -/
structure RaftConfig where
  nodeId : NodeId
  voters : List NodeId
  seedPeers : List SeedPeer
  electionTimeout : Nat
  electionJitter : Nat
  heartbeatInterval : Nat
  rpcTimeout : Nat
  deriving DecidableEq, Repr

/-- A configuration with the timeouts, in milliseconds, of the example cluster. -/
def RaftConfig.cfg (id : NodeId) (voters : List NodeId) : RaftConfig where
  nodeId := id
  voters := voters
  seedPeers := []
  electionTimeout := 150
  electionJitter := 0
  heartbeatInterval := 50
  rpcTimeout := 500

/-- The voter set: a list without repetition, in iteration order. -/
structure Membership where
  voters : List NodeId
  nodup : voters.Nodup

namespace Membership

/-- Collect the configured voters. -/
def new (voters : List NodeId) : Membership where
  voters := voters.dedup
  nodup := List.nodup_dedup voters

/-- Number of votes that win an election. -/
def quorum (self : Membership) : Nat :=
  self.voters.length / 2 + 1

/-- Every voter but the given node. -/
def otherVoters (self : Membership) (selfId : NodeId) : List NodeId :=
  self.voters.filter fun id => id ≠ selfId

@[simp] theorem mem_otherVoters
    {self : Membership}
    {selfId id : NodeId} :
    id ∈ self.otherVoters selfId ↔ id ∈ self.voters ∧ id ≠ selfId := by
  simp [otherVoters]

theorem otherVoters_nodup
    (self : Membership)
    (selfId : NodeId) :
    (self.otherVoters selfId).Nodup :=
  self.nodup.filter _

@[simp] theorem mem_voters_new
    {voters : List NodeId}
    {id : NodeId} :
    id ∈ (new voters).voters ↔ id ∈ voters := by
  simp [new]

/-- A quorum is more than half of the voters. -/
theorem lt_two_mul_quorum (self : Membership) :
    self.voters.length < 2 * self.quorum := by
  unfold quorum
  omega

/-- One vote is not enough exactly when there is another voter. -/
theorem one_lt_quorum_iff
    {voters : List NodeId}
    {id : NodeId}
    (voter : id ∈ voters) :
    1 < (new voters).quorum ↔ ∃ other ∈ voters, other ≠ id := by
  have distinct := List.nodup_dedup voters
  have members : ∀ node, node ∈ voters ↔ node ∈ voters.dedup := by simp
  rw [members] at voter
  simp only [members, quorum, new]
  generalize voters.dedup = nodes at distinct voter
  cases nodes with
  | nil => contradiction
  | cons first rest =>
      cases rest with
      | nil =>
          obtain rfl := List.mem_singleton.mp voter
          simp
      | cons second rest =>
          have two : 1 < (first :: second :: rest).length / 2 + 1 := by
            simp only [List.length_cons]
            omega
          simp only [two, true_iff]
          have differ : first ≠ second := by
            rintro rfl
            simp at distinct
          by_cases same : first = id
          · exact ⟨second, by simp, same ▸ differ.symm⟩
          · exact ⟨first, by simp, same⟩

end Membership

/-- The candidate's log is at least as up to date as the stored one. -/
def logIsUpToDate {S : Type} [Storage S]
    (storage : S)
    (candidateLastIndex candidateLastTerm : Nat) : Bool :=
  let (lastIndex, lastTerm) := Storage.lastIndexTerm storage
  candidateLastTerm > lastTerm ||
    (candidateLastTerm = lastTerm && candidateLastIndex ≥ lastIndex)

end Libp2pRaft
