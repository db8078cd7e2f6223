import Libp2pRaft.Protocol.Accepted

/-!
# The language of frames

Which streams are read as which envelope, and why any other stream is refused.
A frame is a payload behind its length, and the payload begins with the encoding
of a typed envelope; bytes behind it within the payload are ignored.
-/

namespace Libp2pRaft

open Binary

/-- A payload behind its length. -/
def framed (payload : List UInt8) : List UInt8 :=
  bigEndian 4 payload.length ++ payload

/-- The number that four bytes spell. -/
theorem ofBigEndian_four
    {len : Nat}
    (short : len < 2 ^ 32) :
    ofBigEndian (bigEndian 4 len) = len := by
  rw [ofBigEndian_bigEndian]
  exact Nat.mod_eq_of_lt short

/-- Four bytes are a length. -/
theorem exists_bigEndian_append
    {input : List UInt8}
    (long : 4 ≤ input.length) :
    ∃ len, len < 2 ^ 32 ∧ ∃ rest, input = bigEndian 4 len ++ rest := by
  have width : (input.take 4).reverse.length = 4 := by
    rw [List.length_reverse, List.length_take]
    omega
  have small := ofLittleEndian_lt (input.take 4).reverse
  have front : bigEndian 4 (ofBigEndian (input.take 4)) = input.take 4 := by
    have same := littleEndian_ofLittleEndian (input.take 4).reverse
    rw [width] at same
    unfold bigEndian ofBigEndian
    rw [same, List.reverse_reverse]
  rw [width] at small
  refine ⟨ofBigEndian (input.take 4), small, input.drop 4, ?_⟩
  rw [front, List.take_append_drop]

/-- What a stream can be. -/
theorem frame_cases (input : List UInt8) :
    input.length < 4 ∨
      (∃ len rest, maxFrameBytes < len ∧ len < 2 ^ 32 ∧
        input = bigEndian 4 len ++ rest) ∨
      (∃ len cut, len ≤ maxFrameBytes ∧ cut.length < len ∧
        input = bigEndian 4 len ++ cut) ∨
      ∃ payload rest, payload.length ≤ maxFrameBytes ∧
        input = framed payload ++ rest := by
  by_cases tiny : input.length < 4
  · exact .inl tiny
  right
  obtain ⟨len, short, rest, rfl⟩ := exists_bigEndian_append (Nat.not_lt.mp tiny)
  by_cases large : maxFrameBytes < len
  · exact .inl ⟨len, rest, large, short, rfl⟩
  right
  have fits := Nat.not_lt.mp large
  by_cases cut : rest.length < len
  · exact .inl ⟨len, rest, fits, cut, rfl⟩
  · right
    have whole := List.length_take_of_le (Nat.not_lt.mp cut)
    refine ⟨rest.take len, rest.drop len, whole.trans_le fits, ?_⟩
    rw [framed, whole, List.append_assoc, List.take_append_drop]

namespace Bincode

/-- A payload is read as the typed envelope whose encoding it begins with. -/
theorem deserialize_iff
    {payload trailing : List UInt8}
    {env : WireEnvelope}
    (short : payload.length < 2 ^ 32) :
    deserialize.run payload = .ok (env, trailing) ↔
      env.Typed ∧ payload = serialize env ++ trailing := by
  constructor
  · intro read
    obtain ⟨same, typed⟩ := inverts_deserialize _ _ _ read
    exact ⟨typed, same⟩
  · rintro ⟨typed, rfl⟩
    rw [List.length_append] at short
    have bounded : (serialize env).length < 2 ^ 64 := by omega
    exact reads_serialize typed bounded trailing

/-- A payload that begins with no encoding is refused. -/
theorem deserialize_error_iff
    {payload : List UInt8}
    (short : payload.length < 2 ^ 32) :
    (∃ error, deserialize.run payload = .error error) ↔
      ∀ env : WireEnvelope, env.Typed → ¬ serialize env <+: payload := by
  constructor
  · rintro ⟨error, refused⟩ env typed ⟨trailing, same⟩
    rw [(deserialize_iff short).mpr ⟨typed, same.symm⟩] at refused
    contradiction
  · intro none
    cases read : deserialize.run payload with
    | error error => exact ⟨error, rfl⟩
    | ok result =>
        obtain ⟨env, trailing⟩ := result
        obtain ⟨typed, same⟩ := (deserialize_iff short).mp read
        exact absurd ⟨trailing, same.symm⟩ (none env typed)

end Bincode

/-- A framed payload is decoded by its payload alone. -/
theorem decodeEnvelope_framed
    {payload : List UInt8}
    (short : payload.length < 2 ^ 32)
    (rest : List UInt8) :
    decodeEnvelope (framed payload ++ rest) =
      ((Bincode.deserialize.run payload).map Prod.fst).mapError fun error =>
        .codec error.text := by
  have front : (framed payload ++ rest).take 4 = bigEndian 4 payload.length := by
    rw [framed, List.append_assoc]
    exact List.take_left' (length_bigEndian _ _)
  have middle :
      ((framed payload ++ rest).take (4 + payload.length)).drop 4 = payload := by
    rw [framed, List.take_left' (by simp), List.drop_left' (length_bigEndian _ _)]
  have long : (framed payload ++ rest).length =
      4 + payload.length + rest.length := by
    rw [List.length_append, framed, List.length_append, length_bigEndian]
  unfold decodeEnvelope
  simp only [front, ofBigEndian_four short, middle]
  cases Bincode.deserialize.run payload with
  | ok => exact (if_neg (by omega)).trans (if_neg (by omega))
  | error => exact (if_neg (by omega)).trans (if_neg (by omega))

/-! ## The four ways to read a stream -/

theorem readFrame_short
    {input : List UInt8}
    (short : input.length < 4) :
    readFrame.run input = .error "read len: unexpected end of file" := by
  have refused : (take "read len: unexpected end of file" 4).run input =
      .error "read len: unexpected end of file" :=
    if_neg (Nat.not_le.mpr short)
  unfold readFrame
  rw [StateT.run_bind, refused]
  rfl

/-- Behind the length. -/
theorem readFrame_prefixed
    {len : Nat}
    (short : len < 2 ^ 32)
    (rest : List UInt8) :
    readFrame.run (bigEndian 4 len ++ rest) =
      if maxFrameBytes < len then
        .error ("frame too large: " ++ toString len)
      else
        (take "read payload: unexpected end of file" len).run rest >>= fun taken =>
          ((decodeEnvelope (bigEndian 4 len ++ taken.1)).map fun env =>
            (env, taken.2)).mapError Error.text := by
  have front := reads_take "read len: unexpected end of file" (bigEndian 4 len) rest
  rw [length_bigEndian] at front
  unfold readFrame
  rw [StateT.run_bind, front]
  dsimp only [Except.bind, bind]
  rw [ofBigEndian_four short]
  by_cases large : maxFrameBytes < len
  · rw [if_pos large, if_pos large]
    rfl
  · rw [if_neg large, if_neg large]
    show Except.bind ((take "read payload: unexpected end of file" len).run
      rest) _ = _
    cases (take "read payload: unexpected end of file" len).run rest with
    | error error => rfl
    | ok taken =>
        dsimp only [Except.bind]
        cases decodeEnvelope (bigEndian 4 len ++ taken.1) with
        | ok env => rfl
        | error error => rfl

theorem readFrame_large
    {len : Nat}
    (large : maxFrameBytes < len)
    (short : len < 2 ^ 32)
    (rest : List UInt8) :
    readFrame.run (bigEndian 4 len ++ rest) =
      .error ("frame too large: " ++ toString len) := by
  rw [readFrame_prefixed short, if_pos large]

theorem readFrame_cut
    {len : Nat}
    {cut : List UInt8}
    (fits : len ≤ maxFrameBytes)
    (missing : cut.length < len) :
    readFrame.run (bigEndian 4 len ++ cut) =
      .error "read payload: unexpected end of file" := by
  have short : len < 2 ^ 32 := fits.trans_lt (by decide)
  have refused : (take "read payload: unexpected end of file" len).run cut =
      .error "read payload: unexpected end of file" :=
    if_neg (Nat.not_le.mpr missing)
  rw [readFrame_prefixed short, if_neg (Nat.not_lt.mpr fits), refused]
  rfl

theorem readFrame_framed
    {payload : List UInt8}
    (fits : payload.length ≤ maxFrameBytes)
    (rest : List UInt8) :
    readFrame.run (framed payload ++ rest) =
      ((Bincode.deserialize.run payload).map fun read =>
        (read.1, rest)).mapError fun error => (Error.codec error.text).text := by
  have short : payload.length < 2 ^ 32 := fits.trans_lt (by decide)
  have decoded := decodeEnvelope_framed short []
  rw [List.append_nil, framed] at decoded
  rw [framed, List.append_assoc, readFrame_prefixed short,
    if_neg (Nat.not_lt.mpr fits), reads_take]
  dsimp only [bind, Except.bind]
  rw [decoded]
  cases Bincode.deserialize.run payload with
  | ok => rfl
  | error => rfl

/-- A stream is read as an envelope exactly if it begins with a frame whose
payload fits and begins with the encoding of the envelope; what is left is what
stands behind the frame.  Every other stream is refused for one of four reasons,
and the error tells which. -/
theorem frame_language (input : List UInt8) :
    (∀ env rest, readFrame.run input = .ok (env, rest) ↔
      env.Typed ∧ ∃ trailing,
        (Bincode.serialize env ++ trailing).length ≤ maxFrameBytes ∧
        input = framed (Bincode.serialize env ++ trailing) ++ rest) ∧
    (∀ text, readFrame.run input = .error text ↔
      (input.length < 4 ∧ text = "read len: unexpected end of file") ∨
      (∃ len rest, maxFrameBytes < len ∧ len < 2 ^ 32 ∧
        input = bigEndian 4 len ++ rest ∧
        text = "frame too large: " ++ toString len) ∨
      (∃ len cut, len ≤ maxFrameBytes ∧ cut.length < len ∧
        input = bigEndian 4 len ++ cut ∧
        text = "read payload: unexpected end of file") ∨
      ∃ payload rest, payload.length ≤ maxFrameBytes ∧
        input = framed payload ++ rest ∧
        (∀ env : WireEnvelope, env.Typed → ¬ Bincode.serialize env <+: payload) ∧
        ∃ error, Bincode.deserialize.run payload = .error error ∧
          text = (Error.codec error.text).text) := by
  have below : maxFrameBytes < 2 ^ 32 := by decide
  refine ⟨fun env rest => ⟨?_, ?_⟩, fun text => ⟨?_, ?_⟩⟩
  · intro read
    rcases frame_cases input with
      tiny | ⟨len, after, large, short, rfl⟩ | ⟨len, cut, fits, missing, rfl⟩ |
        ⟨payload, after, fits, rfl⟩
    · rw [readFrame_short tiny] at read
      contradiction
    · rw [readFrame_large large short] at read
      contradiction
    · rw [readFrame_cut fits missing] at read
      contradiction
    · rw [readFrame_framed fits] at read
      cases decoded : Bincode.deserialize.run payload with
      | error error =>
          rw [decoded] at read
          contradiction
      | ok result =>
          rw [decoded] at read
          obtain ⟨rfl, rfl⟩ := Prod.mk.inj (Except.ok.inj read)
          obtain ⟨typed, rfl⟩ :=
            (Bincode.deserialize_iff (fits.trans_lt below)).mp decoded
          exact ⟨typed, result.2, fits, rfl⟩
  · rintro ⟨typed, trailing, fits, rfl⟩
    have decoded :=
      (Bincode.deserialize_iff (fits.trans_lt below)).mpr ⟨typed, rfl⟩
    rw [readFrame_framed fits, decoded]
    rfl
  · intro read
    rcases frame_cases input with
      tiny | ⟨len, after, large, short, rfl⟩ | ⟨len, cut, fits, missing, rfl⟩ |
        ⟨payload, after, fits, rfl⟩
    · rw [readFrame_short tiny] at read
      exact .inl ⟨tiny, (Except.error.inj read).symm⟩
    · rw [readFrame_large large short] at read
      exact .inr (.inl ⟨len, after, large, short, rfl, (Except.error.inj read).symm⟩)
    · rw [readFrame_cut fits missing] at read
      exact .inr (.inr (.inl
        ⟨len, cut, fits, missing, rfl, (Except.error.inj read).symm⟩))
    · rw [readFrame_framed fits] at read
      cases decoded : Bincode.deserialize.run payload with
      | ok result =>
          rw [decoded] at read
          contradiction
      | error error =>
          rw [decoded] at read
          exact .inr (.inr (.inr ⟨payload, after, fits, rfl,
            (Bincode.deserialize_error_iff (fits.trans_lt below)).mp
              ⟨error, decoded⟩,
            error, decoded, (Except.error.inj read).symm⟩))
  · rintro (⟨tiny, rfl⟩ | ⟨len, after, large, short, rfl, rfl⟩ |
      ⟨len, cut, fits, missing, rfl, rfl⟩ |
      ⟨payload, after, fits, rfl, -, error, decoded, rfl⟩)
    · exact readFrame_short tiny
    · exact readFrame_large large short after
    · exact readFrame_cut fits missing
    · rw [readFrame_framed fits, decoded]
      rfl

end Libp2pRaft
