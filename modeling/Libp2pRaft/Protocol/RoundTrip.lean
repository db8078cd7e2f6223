import Libp2pRaft.Protocol.Codec
import Mathlib.Algebra.BigOperators.Group.List.Basic

/-!
# The wire round trip

Every payload is read back as what was written, by induction on what is nested
in it.  A frame adds its length: writer and reader agree on the limit, and a
frame that was cut short is refused.
-/

namespace Libp2pRaft

open Binary

/-- The `u64` fields of an entry. -/
def LogEntry.numbers (entry : LogEntry) : List Nat :=
  [entry.index, entry.term]

/-- The `u64` fields of a message. -/
def RaftMessage.numbers : RaftMessage → List Nat
  | .requestVote term candidateId lastLogIndex lastLogTerm =>
      [term, candidateId, lastLogIndex, lastLogTerm]
  | .requestVoteResp term _ => [term]
  | .appendEntries term leaderId prevLogIndex prevLogTerm entries
      leaderCommit =>
      [term, leaderId, prevLogIndex, prevLogTerm, leaderCommit] ++
        entries.flatMap LogEntry.numbers
  | .appendEntriesResp term _ matchIndex => [term, matchIndex]
  | .installSnapshot term leaderId lastIncludedIndex lastIncludedTerm offset
      _ _ =>
      [term, leaderId, lastIncludedIndex, lastIncludedTerm, offset]
  | .installSnapshotResp term => [term]

/-- Every `u64` field of a message holds a `u64`. -/
def RaftMessage.Typed (msg : RaftMessage) : Prop :=
  ∀ number ∈ msg.numbers, number < 2 ^ 64

/-- Every `u64` field of an envelope holds a `u64`. -/
def WireEnvelope.Typed (env : WireEnvelope) : Prop :=
  env.correlationId < 2 ^ 64 ∧ env.msg.Typed

instance (msg : RaftMessage) : Decidable msg.Typed :=
  inferInstanceAs (Decidable (∀ number ∈ msg.numbers, number < 2 ^ 64))

instance (env : WireEnvelope) : Decidable env.Typed :=
  inferInstanceAs (Decidable (_ ∧ _))

namespace Bincode

theorem reads_u32
    {value : Nat}
    (typed : value < 2 ^ 32) :
    Reads readU32 (u32 value) value :=
  reads_littleEndian _ typed

theorem reads_u64
    {value : Nat}
    (typed : value < 2 ^ 64) :
    Reads readU64 (u64 value) value :=
  reads_littleEndian _ typed

theorem reads_byte (value : UInt8) :
    Reads readByte (byte value) value := by
  have bounded : value.toNat < 256 ^ 1 := value.toNat_lt
  have read := (reads_littleEndian DecodeError.unexpectedEnd bounded).map
    UInt8.ofNat
  have same : littleEndian 1 value.toNat = byte value := by
    simp [littleEndian, byte]
  rwa [same, UInt8.ofNat_toNat] at read

theorem reads_bool (value : Bool) :
    Reads readBool (bool value) value := by
  intro rest
  cases value with
  | true => rfl
  | false => rfl

theorem length_le_vec
    {α : Type}
    {write : α → List UInt8}
    {items : List α}
    {item : α}
    (inside : item ∈ items) :
    (write item).length ≤ (vec write items).length := by
  have among : write item ∈ items.map write := List.mem_map_of_mem inside
  have shorter := (List.sublist_flatten_of_mem among).length_le
  rw [← List.flatMap_def] at shorter
  apply shorter.trans
  rw [vec, List.length_append]
  exact Nat.le_add_left _ _

/-- A sequence of items that take at least one byte each is read back. -/
theorem reads_vec
    {α : Type}
    {read : Reader DecodeError α}
    {write : α → List UInt8}
    {items : List α}
    (nonempty : ∀ item ∈ items, 1 ≤ (write item).length)
    (fits : (vec write items).length < 2 ^ 64)
    (each : ∀ item ∈ items, Reads read (write item) item) :
    Reads (readVec read) (vec write items) items := by
  have enough : items.length ≤ (items.flatMap write).length := by
    rw [List.length_flatMap]
    have counted := List.length_le_sum_of_one_le
      (items.map fun item => (write item).length) (by simpa using nonempty)
    rwa [List.length_map] at counted
  have counted : items.length < 2 ^ 64 := by
    simp only [vec, List.length_append] at fits
    omega
  exact (reads_u64 counted).bind (reads_many each)

theorem reads_bytes
    {data : List UInt8}
    (fits : (vec byte data).length < 2 ^ 64) :
    Reads (readVec readByte) (vec byte data) data :=
  reads_vec (fun _ _ => le_rfl) fits fun value _ => reads_byte value

theorem reads_entryType
    {type : EntryType}
    (fits : (entryType type).length < 2 ^ 64) :
    Reads readEntryType (entryType type) type := by
  cases type with
  | command data =>
      rw [entryType, List.length_append] at fits
      apply (reads_u32 (Nat.two_pow_pos 32)).bind
      exact (reads_bytes (by omega)).map _

theorem reads_logEntry
    {entry : LogEntry}
    (typed : ∀ number ∈ entry.numbers, number < 2 ^ 64)
    (fits : (logEntry entry).length < 2 ^ 64) :
    Reads readLogEntry (logEntry entry) entry := by
  rw [logEntry, List.length_append] at fits
  rw [logEntry, List.append_assoc]
  apply (reads_u64 (typed entry.index (by simp [LogEntry.numbers]))).bind
  apply (reads_u64 (typed entry.term (by simp [LogEntry.numbers]))).bind
  exact (reads_entryType (by omega)).map _

theorem reads_entries
    {entries : List LogEntry}
    (typed : ∀ number ∈ entries.flatMap LogEntry.numbers, number < 2 ^ 64)
    (fits : (vec logEntry entries).length < 2 ^ 64) :
    Reads (readVec readLogEntry) (vec logEntry entries) entries := by
  apply reads_vec
  · intro entry _
    simp only [logEntry, u64, List.length_append, length_littleEndian]
    omega
  · exact fits
  · intro entry inside
    apply reads_logEntry
    · exact fun number among =>
        typed number (List.mem_flatMap.mpr ⟨entry, inside, among⟩)
    · exact (length_le_vec inside).trans_lt fits

/-- Every message is read back. -/
theorem reads_message
    {msg : RaftMessage}
    (typed : msg.Typed)
    (fits : (message msg).length < 2 ^ 64) :
    Reads readMessage (message msg) msg := by
  cases msg with
  | requestVote term candidateId lastLogIndex lastLogTerm =>
      simp only [message, List.append_assoc]
      apply (reads_u32 (by decide)).bind
      apply (reads_u64 (typed term (by simp [RaftMessage.numbers]))).bind
      apply (reads_u64 (typed candidateId (by simp [RaftMessage.numbers]))).bind
      apply (reads_u64 (typed lastLogIndex (by simp [RaftMessage.numbers]))).bind
      exact (reads_u64 (typed lastLogTerm (by simp [RaftMessage.numbers]))).map _
  | requestVoteResp term voteGranted =>
      simp only [message, List.append_assoc]
      apply (reads_u32 (by decide)).bind
      apply (reads_u64 (typed term (by simp [RaftMessage.numbers]))).bind
      exact (reads_bool voteGranted).map _
  | appendEntries term leaderId prevLogIndex prevLogTerm entries leaderCommit =>
      simp only [message, List.append_assoc, List.length_append] at fits ⊢
      apply (reads_u32 (by decide)).bind
      apply (reads_u64 (typed term (by simp [RaftMessage.numbers]))).bind
      apply (reads_u64 (typed leaderId (by simp [RaftMessage.numbers]))).bind
      apply (reads_u64 (typed prevLogIndex (by simp [RaftMessage.numbers]))).bind
      apply (reads_u64 (typed prevLogTerm (by simp [RaftMessage.numbers]))).bind
      apply (reads_entries _ (by omega)).bind
      · exact (reads_u64 (typed leaderCommit
          (by simp [RaftMessage.numbers]))).map _
      · exact fun number inside =>
          typed number (List.mem_append_right _ inside)
  | appendEntriesResp term success matchIndex =>
      simp only [message, List.append_assoc]
      apply (reads_u32 (by decide)).bind
      apply (reads_u64 (typed term (by simp [RaftMessage.numbers]))).bind
      apply (reads_bool success).bind
      exact (reads_u64 (typed matchIndex (by simp [RaftMessage.numbers]))).map _
  | installSnapshot term leaderId lastIncludedIndex lastIncludedTerm offset data
      done =>
      simp only [message, List.append_assoc, List.length_append] at fits ⊢
      apply (reads_u32 (by decide)).bind
      apply (reads_u64 (typed term (by simp [RaftMessage.numbers]))).bind
      apply (reads_u64 (typed leaderId (by simp [RaftMessage.numbers]))).bind
      apply (reads_u64 (typed lastIncludedIndex
        (by simp [RaftMessage.numbers]))).bind
      apply (reads_u64 (typed lastIncludedTerm
        (by simp [RaftMessage.numbers]))).bind
      apply (reads_u64 (typed offset (by simp [RaftMessage.numbers]))).bind
      apply (reads_bytes (by omega)).bind
      exact (reads_bool done).map _
  | installSnapshotResp term =>
      apply (reads_u32 (by decide)).bind
      exact (reads_u64 (typed term (by simp [RaftMessage.numbers]))).map _

/-- Every payload is read back. -/
theorem reads_serialize
    {env : WireEnvelope}
    (typed : env.Typed)
    (fits : (serialize env).length < 2 ^ 64) :
    Reads deserialize (serialize env) env := by
  rw [serialize, List.length_append] at fits
  apply (reads_u64 typed.1).bind
  exact (reads_message typed.2 (by omega)).map _

end Bincode

/-! ## Frames -/

/-- The length in front of a payload is its length. -/
theorem ofBigEndian_prefix
    {payload : List UInt8}
    (short : payload.length < 2 ^ 32) :
    ofBigEndian (bigEndian 4 (payload.length % 2 ^ 32)) = payload.length := by
  rw [ofBigEndian_bigEndian, Nat.mod_eq_of_lt short]
  exact Nat.mod_eq_of_lt short

/-- A payload behind its length is decoded, whatever follows. -/
theorem decodeEnvelope_encoded
    {env : WireEnvelope}
    (typed : env.Typed)
    (short : (Bincode.serialize env).length < 2 ^ 32)
    (rest : List UInt8) :
    decodeEnvelope (bigEndian 4 ((Bincode.serialize env).length % 2 ^ 32) ++
      Bincode.serialize env ++ rest) = .ok env := by
  have read := Bincode.reads_serialize typed
    (short.trans (by decide)) []
  have length := ofBigEndian_prefix short
  generalize Bincode.serialize env = payload at short read length ⊢
  have front : (bigEndian 4 (payload.length % 2 ^ 32) ++ payload ++ rest).take 4 =
      bigEndian 4 (payload.length % 2 ^ 32) := by
    rw [List.append_assoc]
    exact List.take_left' (length_bigEndian _ _)
  have middle : ((bigEndian 4 (payload.length % 2 ^ 32) ++ payload ++ rest).take
      (4 + payload.length)).drop 4 = payload := by
    rw [List.take_left' (by simp), List.drop_left' (length_bigEndian _ _)]
  unfold decodeEnvelope
  rw [List.append_nil] at read
  simp only [front, length, middle, read]
  rw [if_neg, if_neg]
  · simp only [List.length_append, length_bigEndian]
    omega
  · simp only [List.length_append, length_bigEndian]
    omega

/-- A frame that was cut short is refused. -/
theorem decodeEnvelope_truncated
    {payload cut : List UInt8}
    (short : payload.length < 2 ^ 32)
    (isPrefix : cut <+: bigEndian 4 (payload.length % 2 ^ 32) ++ payload)
    (proper : cut.length < 4 + payload.length) :
    ∃ error, decodeEnvelope cut = .error error := by
  unfold decodeEnvelope
  by_cases tiny : cut.length < 4
  · exact ⟨_, if_pos tiny⟩
  · have front : cut.take 4 = bigEndian 4 (payload.length % 2 ^ 32) := by
      obtain ⟨rest, whole⟩ := isPrefix
      have taken := congrArg (List.take 4) whole
      rwa [List.take_append_of_le_length (by omega),
        List.take_left' (length_bigEndian _ _)] at taken
    rw [if_neg tiny]
    simp only [front, ofBigEndian_prefix short]
    exact ⟨_, if_pos proper⟩

/-- Every envelope whose payload fits is written as a frame that is read back
whatever follows it, and one that does not fit is refused before a byte is
written.  Decoding inverts encoding, and refuses whatever was cut short. -/
theorem wire_round_trip
    (env : WireEnvelope)
    (typed : env.Typed) :
    ((Bincode.serialize env).length ≤ maxFrameBytes →
      ∃ frame, (∀ stream, writeFrame stream env = (stream ++ frame, .ok ())) ∧
        Reads readFrame frame env) ∧
    (maxFrameBytes < (Bincode.serialize env).length →
      ∀ stream, writeFrame stream env =
        (stream, .error "encoded frame too large")) ∧
    ((Bincode.serialize env).length < 2 ^ 32 →
      ∃ bytes, encodeEnvelope env = .ok bytes ∧
        (∀ rest, decodeEnvelope (bytes ++ rest) = .ok env) ∧
        ∀ cut, cut <+: bytes → cut ≠ bytes →
          ∃ error, decodeEnvelope cut = .error error) := by
  refine ⟨?_, ?_, ?_⟩
  · intro fits
    have short : (Bincode.serialize env).length < 2 ^ 32 :=
      fits.trans_lt (by decide)
    refine ⟨bigEndian 4 ((Bincode.serialize env).length % 2 ^ 32) ++
      Bincode.serialize env, ?_, ?_⟩
    · intro stream
      unfold writeFrame encodeEnvelope
      simp only
      rw [if_neg]
      simp only [List.length_append, length_bigEndian]
      omega
    · have decoded := decodeEnvelope_encoded typed short []
      have length := ofBigEndian_prefix short
      rw [List.append_nil] at decoded
      unfold readFrame
      have lengthRead := reads_take "read len: unexpected end of file"
        (bigEndian 4 ((Bincode.serialize env).length % 2 ^ 32))
      rw [length_bigEndian] at lengthRead
      apply lengthRead.bind
      simp only [length]
      rw [if_neg (Nat.not_lt.mpr fits)]
      apply (reads_take _ _).finish
      rw [decoded]
  · intro large stream
    unfold writeFrame encodeEnvelope
    simp only
    rw [if_pos]
    simp only [List.length_append, length_bigEndian]
    omega
  · intro short
    refine ⟨_, rfl, decodeEnvelope_encoded typed short, ?_⟩
    intro cut isPrefix different
    apply decodeEnvelope_truncated short isPrefix
    have shorter := isPrefix.length_le
    rw [List.length_append, length_bigEndian] at shorter
    apply lt_of_le_of_ne shorter
    intro same
    apply different
    apply isPrefix.eq_of_length
    rw [same, List.length_append, length_bigEndian]

/-- The vote request of the example. -/
def voteEnvelope : WireEnvelope where
  correlationId := 42
  msg := .requestVote 1 7 0 0

theorem wire_round_trip_vote :
    (∃ frame, (∀ stream, writeFrame stream voteEnvelope =
        (stream ++ frame, .ok ())) ∧ Reads readFrame frame voteEnvelope) ∧
      ∃ bytes, encodeEnvelope voteEnvelope = .ok bytes ∧
        (∀ rest, decodeEnvelope (bytes ++ rest) = .ok voteEnvelope) ∧
        ∀ cut, cut <+: bytes → cut ≠ bytes →
          ∃ error, decodeEnvelope cut = .error error :=
  ⟨(wire_round_trip voteEnvelope (by decide)).1 (by decide),
    (wire_round_trip voteEnvelope (by decide)).2.2 (by decide)⟩

end Libp2pRaft
