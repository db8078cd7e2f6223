import Mathlib.Algebra.Group.Nat.Defs

/-!
# Core Raft types and wire messages

The records of `raft/types.rs` and the messages of `protocol/messages.rs`.
`NodeId`, `Term` and `Index` are `u64` in the source, instants and durations
are clock readings; all of them are naturals here.  The one sum that can leave
the `u64` range on input a peer controls, the successor of a term, wraps
explicitly (`wrappingSucc`).  Index sums are bounded by the length of a stored
log plus the length of one decoded batch.
-/

namespace Libp2pRaft

/-- Raft identity of a node. -/
abbrev NodeId := Nat

/-- The largest `u64`. -/
abbrev u64Max : Nat := 2 ^ 64 - 1

/-- `u64` successor in a release build. -/
def wrappingSucc (value : Nat) : Nat :=
  (value + 1) % 2 ^ 64

theorem wrappingSucc_of_lt
    {value : Nat}
    (below : value < u64Max) :
    wrappingSucc value = value + 1 := by
  unfold wrappingSucc
  apply Nat.mod_eq_of_lt
  unfold u64Max at below
  omega

/-- Role of a node. -/
inductive Role
  | follower
  | candidate
  | leader
  deriving DecidableEq, Repr

/-- Term and vote that survive a restart. -/
structure HardState where
  currentTerm : Nat
  votedFor : Option NodeId
  deriving DecidableEq, Repr

/-- `HardState::default`. -/
def HardState.default : HardState where
  currentTerm := 0
  votedFor := none

/-- Payload of a log entry. -/
inductive EntryType
  | command (data : List UInt8)
  deriving DecidableEq, Repr

/-- One log entry. -/
structure LogEntry where
  index : Nat
  term : Nat
  entryType : EntryType
  deriving DecidableEq, Repr

/-- What a log is replaced by up to an index. -/
structure Snapshot where
  lastIncludedIndex : Nat
  lastIncludedTerm : Nat
  conf : List NodeId
  stateBlob : List UInt8
  deriving DecidableEq, Repr

/-- The messages exchanged by the nodes. -/
inductive RaftMessage
  | requestVote
      (term : Nat)
      (candidateId : NodeId)
      (lastLogIndex : Nat)
      (lastLogTerm : Nat)
  | requestVoteResp
      (term : Nat)
      (voteGranted : Bool)
  | appendEntries
      (term : Nat)
      (leaderId : NodeId)
      (prevLogIndex : Nat)
      (prevLogTerm : Nat)
      (entries : List LogEntry)
      (leaderCommit : Nat)
  | appendEntriesResp
      (term : Nat)
      (success : Bool)
      (matchIndex : Nat)
  | installSnapshot
      (term : Nat)
      (leaderId : NodeId)
      (lastIncludedIndex : Nat)
      (lastIncludedTerm : Nat)
      (offset : Nat)
      (data : List UInt8)
      (done : Bool)
  | installSnapshotResp
      (term : Nat)
  deriving DecidableEq, Repr

/-- Errors of the consensus core. -/
inductive RaftError
  | notLeader
  | membershipPending
  | invalidMembership
  deriving DecidableEq, Repr

/-- Errors of a storage implementation. -/
inductive StorageError
  | msg (text : String)
  deriving DecidableEq, Repr

end Libp2pRaft
