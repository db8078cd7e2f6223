import Libp2pRaft.Protocol.RoundTrip
import Libp2pRaft.Raft.Replies

/-!
# What fits into a frame

An AppendEntries carries the whole log behind the next index of a peer, and a
frame holds `maxFrameBytes` of payload.  Nothing bounds a command or a backlog,
so the request of a peer that is far enough behind is refused by the writer.
-/

namespace Libp2pRaft

/-- What an entry takes in a payload: index, term, tag, length and command. -/
def LogEntry.wireBytes (entry : LogEntry) : Nat :=
  match entry.entryType with
  | .command data => 28 + data.length

/-- What a batch takes in a payload. -/
def batchBytes (entries : List LogEntry) : Nat :=
  (entries.map LogEntry.wireBytes).sum

theorem length_le_batchBytes (entries : List LogEntry) :
    entries.length ≤ batchBytes entries := by
  induction entries with
  | nil => exact le_rfl
  | cons entry rest inductionHypothesis =>
      have positive : 1 ≤ entry.wireBytes := by
        unfold LogEntry.wireBytes
        split
        omega
      simp only [batchBytes, List.map_cons, List.sum_cons,
        List.length_cons] at inductionHypothesis ⊢
      omega

/-- What an AppendEntries takes beside its batch. -/
def appendHeaderBytes : Nat := 60

namespace Bincode

theorem length_logEntry (entry : LogEntry) :
    (logEntry entry).length = entry.wireBytes := by
  obtain ⟨index, term, ⟨data⟩⟩ := entry
  have bytes : data.flatMap byte = data := List.flatMap_singleton' data
  simp only [logEntry, entryType, vec, u32, u64, LogEntry.wireBytes, bytes,
    List.length_append, Binary.length_littleEndian]
  omega

theorem length_serialize_appendEntries
    (correlationId term : Nat)
    (leaderId : NodeId)
    (prevLogIndex prevLogTerm : Nat)
    (entries : List LogEntry)
    (leaderCommit : Nat) :
    (serialize ⟨correlationId, .appendEntries term leaderId prevLogIndex
      prevLogTerm entries leaderCommit⟩).length =
        appendHeaderBytes + batchBytes entries := by
  have batch : (entries.flatMap logEntry).length = batchBytes entries := by
    rw [List.length_flatMap, batchBytes]
    congr 2
    funext entry
    exact length_logEntry entry
  simp only [serialize, message, vec, u32, u64, List.length_append,
    Binary.length_littleEndian, batch, appendHeaderBytes]
  omega

end Bincode

/-- The writer takes a payload up to the limit and nothing larger. -/
theorem writeFrame_ok_iff
    (stream : List UInt8)
    (env : WireEnvelope) :
    (writeFrame stream env).2 = .ok () ↔
      (Bincode.serialize env).length ≤ maxFrameBytes := by
  have length : (Binary.bigEndian 4
      ((Bincode.serialize env).length % 2 ^ 32) ++
        Bincode.serialize env).length = 4 + (Bincode.serialize env).length := by
    rw [List.length_append, Binary.length_bigEndian]
  unfold writeFrame encodeEnvelope
  simp only [length]
  split_ifs with large
  · constructor
    · exact False.elim
    · omega
  · constructor
    · omega
    · exact fun _ => rfl

namespace RaftEngine

/-- The log behind the next index of a peer. -/
def backlog (self : MemoryEngine) (target : NodeId) : List LogEntry :=
  match self.nextIndex.lookup target with
  | none => []
  | some next => self.storage.entries.drop (next - 1)

/-- The request for a peer carries its backlog. -/
theorem buildAppendEntries_backlog
    {self : MemoryEngine}
    {target : NodeId}
    {msg : RaftMessage}
    {prev len : Nat}
    (built : self.buildAppendEntries target = some (msg, prev, len)) :
    ∃ term leaderId prevLogTerm leaderCommit,
      msg = .appendEntries term leaderId prev prevLogTerm (self.backlog target)
        leaderCommit := by
  obtain ⟨prevTerm, -, next, -, same⟩ := self.buildAppendEntries_some built
  refine ⟨self.currentTerm, self.config.nodeId, prevTerm, self.commitIndex,
    same.trans ?_⟩
  simp only [backlog, next, Nat.add_sub_cancel]
  rfl

/-- A message without a batch fits into every frame. -/
theorem writeFrame_small
    {self : MemoryEngine}
    {call : Call}
    {others : List NodeId}
    {target : NodeId}
    {msg : RaftMessage}
    (emitted : (target, msg) ∈ outgoing others (self.call call).2)
    (small : ∀ term leaderId prevLogIndex prevLogTerm entries leaderCommit,
      msg ≠ .appendEntries term leaderId prevLogIndex prevLogTerm entries
        leaderCommit)
    (stream : List UInt8)
    (correlationId : Nat) :
    (writeFrame stream ⟨correlationId, msg⟩).2 = .ok () := by
  rw [writeFrame_ok_iff]
  rcases mem_outgoing.mp emitted with sent | ⟨asked, -⟩
  · cases (self.call_outcome call).emits sent with
    | appendRequest _ _ _ _ _ built =>
        obtain ⟨_, _, _, _, same⟩ := buildAppendEntries_backlog built
        exact absurd same (small _ _ _ _ _ _)
    | voteReply => exact Nat.le_of_ble_eq_true rfl
    | appendReply => exact Nat.le_of_ble_eq_true rfl
  · cases (self.call_outcome call).emits asked with
    | voteRequest => exact Nat.le_of_ble_eq_true rfl

/-- A request fits into a frame exactly when the backlog of its peer does, and
so does every request that a call of a run emits.  Every other message fits. -/
theorem append_entries_fit_frame
    (config : RaftConfig)
    (storage : MemoryStorage)
    (start : Nat)
    (calls : List Call)
    (target : NodeId) :
    (∀ msg prev len correlationId,
      ((lifetime config storage start).run calls).buildAppendEntries target =
        some (msg, prev, len) →
      ((Bincode.serialize ⟨correlationId, msg⟩).length ≤ maxFrameBytes ↔
        appendHeaderBytes + batchBytes
          (((lifetime config storage start).run calls).backlog target) ≤
            maxFrameBytes)) ∧
    (∀ call term leaderId prevLogIndex prevLogTerm entries leaderCommit
      correlationId stream,
      .send target (.appendEntries term leaderId prevLogIndex prevLogTerm
        entries leaderCommit) ∈
          (((lifetime config storage start).run calls).call call).2 →
      ((writeFrame stream ⟨correlationId, .appendEntries term leaderId
          prevLogIndex prevLogTerm entries leaderCommit⟩).2 = .ok () ↔
        appendHeaderBytes + batchBytes
          ((((lifetime config storage start).run calls).call call).1.backlog
            target) ≤ maxFrameBytes)) ∧
    ∀ call others msg correlationId stream,
      (target, msg) ∈ outgoing others
        (((lifetime config storage start).run calls).call call).2 →
      (∀ term leaderId prevLogIndex prevLogTerm entries leaderCommit,
        msg ≠ .appendEntries term leaderId prevLogIndex prevLogTerm entries
          leaderCommit) →
      (writeFrame stream ⟨correlationId, msg⟩).2 = .ok () := by
  refine ⟨?_, ?_, ?_⟩
  · intro msg prev len correlationId built
    obtain ⟨_, _, _, _, rfl⟩ := buildAppendEntries_backlog built
    rw [Bincode.length_serialize_appendEntries]
  · intro call term leaderId prevLogIndex prevLogTerm entries leaderCommit
      correlationId stream emitted
    rw [writeFrame_ok_iff, Bincode.length_serialize_appendEntries]
    cases (call_outcome _ call).emits emitted with
    | appendRequest _ _ prev len leading built =>
        obtain ⟨_, _, _, _, same⟩ := buildAppendEntries_backlog built
        injection same with _ _ _ _ sameEntries _
        rw [sameEntries]
  · intro call others msg correlationId stream emitted small
    exact writeFrame_small emitted small stream correlationId

/-- Node 1 is elected by node 2 and proposes one command. -/
def proposeOnce (data : List UInt8) : List Call :=
  [.tick 150, .rpc 2 (.requestVoteResp 1 true) 151, .propose data]

theorem append_entries_fit_frame_small :
    (Bincode.serialize ⟨3, .appendEntries 1 1 0 0
        [⟨1, 1, .command [7]⟩] 0⟩).length ≤ maxFrameBytes ↔
      appendHeaderBytes + batchBytes
        (((lifetime (.cfg 1 [1, 2, 3]) MemoryStorage.new 0).run
          (proposeOnce [7])).backlog 2) ≤ maxFrameBytes :=
  (append_entries_fit_frame (.cfg 1 [1, 2, 3]) MemoryStorage.new 0
    (proposeOnce [7]) 2).1 _ 0 1 3 rfl

/-- A command that leaves no room for the header makes a request that is
refused. -/
theorem proposeOnce_refused
    {data : List UInt8}
    (large : maxFrameBytes ≤ data.length) :
    ∃ msg prev len,
      ((lifetime (.cfg 1 [1, 2, 3]) MemoryStorage.new 0).run
        (proposeOnce data)).buildAppendEntries 2 = some (msg, prev, len) ∧
      maxFrameBytes < (Bincode.serialize ⟨3, msg⟩).length ∧
      ∀ stream, (writeFrame stream ⟨3, msg⟩).2 ≠ .ok () := by
  have exceeds : maxFrameBytes < (Bincode.serialize ⟨3, .appendEntries 1 1 0 0
      [⟨1, 1, .command data⟩] 0⟩).length := by
    rw [Bincode.length_serialize_appendEntries]
    simp only [batchBytes, LogEntry.wireBytes, List.map_cons, List.map_nil,
      List.sum_cons, List.sum_nil, appendHeaderBytes]
    omega
  refine ⟨.appendEntries 1 1 0 0 [⟨1, 1, .command data⟩] 0, 0, 1, rfl, exceeds,
    ?_⟩
  intro stream accepted
  rw [writeFrame_ok_iff] at accepted
  exact Nat.not_le.mpr exceeds accepted

/-- One command as large as a frame is too large for a request. -/
theorem oversized_command_refused :
    ∃ msg prev len,
      ((lifetime (.cfg 1 [1, 2, 3]) MemoryStorage.new 0).run
        (proposeOnce (List.replicate maxFrameBytes 0))).buildAppendEntries 2 =
          some (msg, prev, len) ∧
      maxFrameBytes < (Bincode.serialize ⟨3, msg⟩).length ∧
      ∀ stream, (writeFrame stream ⟨3, msg⟩).2 ≠ .ok () := by
  apply proposeOnce_refused
  rw [List.length_replicate]

end RaftEngine

end Libp2pRaft
