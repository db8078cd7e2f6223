import Libp2pRaft.Protocol.RoundTrip

/-!
# What the decoder accepts

Only the encoding of an envelope is decoded as it: the format has one encoding
for each value, and every number that is read is a `u64`.  A decoded batch is
therefore no longer than its frame.
-/

namespace Libp2pRaft

open Binary

namespace Bincode

/-- A number is a `u64`. -/
def IsU64 (value : Nat) : Prop := value < 2 ^ 64

theorem inverts_u64 : Inverts readU64 u64 IsU64 :=
  inverts_littleEndian DecodeError.unexpectedEnd 8

theorem inverts_u32 : Inverts readU32 u32 (fun value => value < 2 ^ 32) :=
  inverts_littleEndian DecodeError.unexpectedEnd 4

theorem inverts_byte : Inverts readByte byte (fun _ => True) := by
  intro input value rest done
  obtain ⟨number, rfl, bounded, rfl⟩ :=
    (inverts_littleEndian DecodeError.unexpectedEnd 1).map_ok done
  exact ⟨rfl, trivial⟩

theorem inverts_bool : Inverts readBool bool (fun _ => True) := by
  intro input value rest done
  obtain ⟨number, between, rfl, -, done⟩ :=
    (inverts_littleEndian DecodeError.unexpectedEnd 1).bind_ok done
  match number with
  | 0 =>
      obtain ⟨rfl, rfl⟩ : false = value ∧ between = rest := by
        simpa using (Except.ok.inj done)
      exact ⟨rfl, trivial⟩
  | 1 =>
      obtain ⟨rfl, rfl⟩ : true = value ∧ between = rest := by
        simpa using (Except.ok.inj done)
      exact ⟨rfl, trivial⟩
  | _ + 2 => contradiction

theorem inverts_vec
    {α : Type}
    {read : Reader DecodeError α}
    {write : α → List UInt8}
    {property : α → Prop}
    (each : Inverts read write property) :
    Inverts (readVec read) (vec write)
      (fun items => ∀ item ∈ items, property item) := by
  intro input items rest done
  obtain ⟨length, _, rfl, -, done⟩ := inverts_u64.bind_ok done
  obtain ⟨rfl, rfl, hold⟩ := inverts_many each length _ _ _ done
  exact ⟨(List.append_assoc _ _ _).symm, hold⟩

theorem inverts_entryType :
    Inverts readEntryType entryType (fun _ => True) := by
  intro input type rest done
  obtain ⟨tag, _, rfl, -, done⟩ :=
    inverts_u32.bind_ok done
  cases tag with
  | zero =>
      obtain ⟨data, rfl, -, rfl⟩ := (inverts_vec inverts_byte).map_ok done
      exact ⟨(List.append_assoc _ _ _).symm, trivial⟩
  | succ => contradiction

theorem inverts_logEntry :
    Inverts readLogEntry logEntry
      (fun entry => ∀ number ∈ entry.numbers, IsU64 number) := by
  intro input entry rest done
  obtain ⟨index, _, rfl, indexTyped, done⟩ :=
    inverts_u64.bind_ok done
  obtain ⟨term, _, rfl, termTyped, done⟩ :=
    inverts_u64.bind_ok done
  obtain ⟨type, rfl, -, rfl⟩ := inverts_entryType.map_ok done
  refine ⟨by simp only [logEntry, List.append_assoc], ?_⟩
  simp only [LogEntry.numbers, List.forall_mem_cons]
  exact ⟨indexTyped, termTyped, fun _ inside => absurd inside List.not_mem_nil⟩

/-- The fields of a variant, behind its tag, are its encoding. -/
theorem readVariant_ok
    {tag : Nat}
    {input rest : List UInt8}
    {msg : RaftMessage}
    (done : (readVariant tag).run input = .ok (msg, rest)) :
    u32 tag ++ input = message msg ++ rest ∧ msg.Typed := by
  unfold readVariant at done
  split at done
  · obtain ⟨term, _, rfl, termTyped, done⟩ :=
      inverts_u64.bind_ok done
    obtain ⟨candidateId, _, rfl, candidateTyped, done⟩ :=
      inverts_u64.bind_ok done
    obtain ⟨lastLogIndex, _, rfl, indexTyped, done⟩ :=
      inverts_u64.bind_ok done
    obtain ⟨lastLogTerm, rfl, lastTermTyped, rfl⟩ := inverts_u64.map_ok done
    refine ⟨by simp only [message, List.append_assoc], ?_⟩
    simp only [RaftMessage.Typed, RaftMessage.numbers, List.forall_mem_cons]
    exact ⟨termTyped, candidateTyped, indexTyped, lastTermTyped,
      fun _ inside => absurd inside List.not_mem_nil⟩
  · obtain ⟨term, _, rfl, termTyped, done⟩ :=
      inverts_u64.bind_ok done
    obtain ⟨voteGranted, rfl, -, rfl⟩ := inverts_bool.map_ok done
    refine ⟨by simp only [message, List.append_assoc], ?_⟩
    simp only [RaftMessage.Typed, RaftMessage.numbers, List.forall_mem_cons]
    exact ⟨termTyped, fun _ inside => absurd inside List.not_mem_nil⟩
  · obtain ⟨term, _, rfl, termTyped, done⟩ :=
      inverts_u64.bind_ok done
    obtain ⟨leaderId, _, rfl, leaderTyped, done⟩ :=
      inverts_u64.bind_ok done
    obtain ⟨prevLogIndex, _, rfl, prevTyped, done⟩ :=
      inverts_u64.bind_ok done
    obtain ⟨prevLogTerm, _, rfl, prevTermTyped, done⟩ :=
      inverts_u64.bind_ok done
    obtain ⟨entries, _, rfl, entriesTyped, done⟩ :=
      (inverts_vec inverts_logEntry).bind_ok done
    obtain ⟨leaderCommit, rfl, commitTyped, rfl⟩ := inverts_u64.map_ok done
    refine ⟨by simp only [message, List.append_assoc], ?_⟩
    simp only [RaftMessage.Typed, RaftMessage.numbers, List.cons_append,
      List.nil_append, List.forall_mem_cons, List.mem_flatMap]
    refine ⟨termTyped, leaderTyped, prevTyped, prevTermTyped, commitTyped, ?_⟩
    rintro number ⟨entry, inside, among⟩
    exact entriesTyped entry inside number among
  · obtain ⟨term, _, rfl, termTyped, done⟩ :=
      inverts_u64.bind_ok done
    obtain ⟨success, _, rfl, -, done⟩ :=
      inverts_bool.bind_ok done
    obtain ⟨matchIndex, rfl, matchTyped, rfl⟩ := inverts_u64.map_ok done
    refine ⟨by simp only [message, List.append_assoc], ?_⟩
    simp only [RaftMessage.Typed, RaftMessage.numbers, List.forall_mem_cons]
    exact ⟨termTyped, matchTyped, fun _ inside => absurd inside List.not_mem_nil⟩
  · obtain ⟨term, _, rfl, termTyped, done⟩ :=
      inverts_u64.bind_ok done
    obtain ⟨leaderId, _, rfl, leaderTyped, done⟩ :=
      inverts_u64.bind_ok done
    obtain ⟨lastIncludedIndex, _, rfl, indexTyped, done⟩ :=
      inverts_u64.bind_ok done
    obtain ⟨lastIncludedTerm, _, rfl, includedTyped, done⟩ :=
      inverts_u64.bind_ok done
    obtain ⟨offset, _, rfl, offsetTyped, done⟩ :=
      inverts_u64.bind_ok done
    obtain ⟨data, _, rfl, -, done⟩ :=
      (inverts_vec inverts_byte).bind_ok done
    obtain ⟨last, rfl, -, rfl⟩ := inverts_bool.map_ok done
    refine ⟨by simp only [message, List.append_assoc], ?_⟩
    simp only [RaftMessage.Typed, RaftMessage.numbers, List.forall_mem_cons]
    exact ⟨termTyped, leaderTyped, indexTyped, includedTyped, offsetTyped,
      fun _ inside => absurd inside List.not_mem_nil⟩
  · obtain ⟨term, rfl, termTyped, rfl⟩ := inverts_u64.map_ok done
    refine ⟨by simp only [message, List.append_assoc], ?_⟩
    simp only [RaftMessage.Typed, RaftMessage.numbers, List.forall_mem_cons]
    exact ⟨termTyped, fun _ inside => absurd inside List.not_mem_nil⟩
  · contradiction

theorem inverts_message :
    Inverts readMessage message RaftMessage.Typed := by
  intro input msg rest done
  obtain ⟨tag, _, rfl, -, done⟩ := inverts_u32.bind_ok done
  exact readVariant_ok done

theorem inverts_deserialize :
    Inverts deserialize serialize WireEnvelope.Typed := by
  intro input env rest done
  obtain ⟨correlationId, _, rfl, idTyped, done⟩ :=
    inverts_u64.bind_ok done
  obtain ⟨msg, rfl, typed, rfl⟩ := inverts_message.map_ok done
  exact ⟨by simp only [serialize, List.append_assoc], idTyped, typed⟩

end Bincode

/-- A decoded envelope is typed, and its payload stands behind the length. -/
theorem decodeEnvelope_ok
    {bytes : List UInt8}
    {env : WireEnvelope}
    (decoded : decodeEnvelope bytes = .ok env) :
    env.Typed ∧ (Bincode.serialize env).length < 2 ^ 32 := by
  unfold decodeEnvelope at decoded
  split_ifs at decoded with tiny
  have width : (bytes.take 4).reverse.length = 4 := by
    rw [List.length_reverse, List.length_take]
    omega
  have bounded : ofBigEndian (bytes.take 4) < 2 ^ 32 := by
    have small := ofLittleEndian_lt (bytes.take 4).reverse
    rwa [width] at small
  generalize ofBigEndian (bytes.take 4) = len at bounded decoded
  simp only at decoded
  split_ifs at decoded
  cases read : Bincode.deserialize.run ((bytes.take (4 + len)).drop 4) with
  | error error =>
      rw [read] at decoded
      contradiction
  | ok result =>
      rw [read] at decoded
      obtain ⟨found, rest⟩ := result
      obtain rfl : found = env := Except.ok.inj decoded
      obtain ⟨inputEq, typed⟩ := Bincode.inverts_deserialize _ _ _ read
      have lengths := congrArg List.length inputEq
      rw [List.length_append, List.length_drop, List.length_take] at lengths
      exact ⟨typed, by omega⟩

end Libp2pRaft
