import Mathlib.Data.Nat.Digits.Defs

/-!
# Reading binary formats

A reader takes bytes off the front of its input, or fails.  `Reads` says that a
byte string is read as a value whatever follows it.  `Inverts` says that only the
canonical bytes of a value are read as it.  Formats are put together by binding
readers and appending byte strings; the rules follow the same structure.
-/

namespace Binary

variable {ε α β : Type}

/-- A computation that takes bytes off the front of its input. -/
abbrev Reader (ε α : Type) := StateT (List UInt8) (Except ε) α

/-- A byte string is read as a value, and nothing behind it is touched. -/
def Reads
    (reader : Reader ε α)
    (bytes : List UInt8)
    (value : α) : Prop :=
  ∀ rest, reader.run (bytes ++ rest) = .ok (value, rest)

theorem reads_pure (value : α) :
    Reads (pure value : Reader ε α) [] value := by
  intro rest
  rfl

theorem Reads.bind
    {reader : Reader ε α}
    {next : α → Reader ε β}
    {bytes more : List UInt8}
    {value : α}
    {result : β}
    (first : Reads reader bytes value)
    (second : Reads (next value) more result) :
    Reads (reader >>= next) (bytes ++ more) result := by
  intro rest
  rw [StateT.run_bind, List.append_assoc, first]
  exact second rest

/-- A reader whose last step takes no bytes reads what came before it. -/
theorem Reads.finish
    {reader : Reader ε α}
    {next : α → Reader ε β}
    {bytes : List UInt8}
    {value : α}
    {result : β}
    (first : Reads reader bytes value)
    (last : next value = pure result) :
    Reads (reader >>= next) bytes result := by
  rw [← List.append_nil bytes]
  apply first.bind
  rw [last]
  exact reads_pure result

theorem Reads.map
    {reader : Reader ε α}
    {bytes : List UInt8}
    {value : α}
    (reads : Reads reader bytes value)
    (f : α → β) :
    Reads (f <$> reader) bytes (f value) := by
  intro rest
  rw [StateT.run_map, reads]
  rfl

/-- What a reader takes off its input are the bytes of the value, which
satisfies a property. -/
def Inverts
    (reader : Reader ε α)
    (write : α → List UInt8)
    (property : α → Prop) : Prop :=
  ∀ input value rest, reader.run input = .ok (value, rest) →
    input = write value ++ rest ∧ property value

/-- Readers one after the other read one after the other. -/
theorem run_bind_ok
    {reader : Reader ε α}
    {next : α → Reader ε β}
    {input rest : List UInt8}
    {result : β}
    (done : (reader >>= next).run input = .ok (result, rest)) :
    ∃ value between, reader.run input = .ok (value, between) ∧
      (next value).run between = .ok (result, rest) := by
  rw [StateT.run_bind] at done
  cases first : reader.run input with
  | error error =>
      rw [first] at done
      contradiction
  | ok read =>
      rw [first] at done
      exact ⟨read.1, read.2, rfl, done⟩

theorem run_map_ok
    {reader : Reader ε α}
    {f : α → β}
    {input rest : List UInt8}
    {result : β}
    (done : (f <$> reader).run input = .ok (result, rest)) :
    ∃ value, reader.run input = .ok (value, rest) ∧ f value = result := by
  rw [StateT.run_map] at done
  cases first : reader.run input with
  | error error =>
      rw [first] at done
      contradiction
  | ok read =>
      rw [first] at done
      injection done with same
      obtain ⟨rfl, rfl⟩ := Prod.mk.inj same
      exact ⟨read.1, rfl, rfl⟩

theorem Inverts.bind_ok
    {reader : Reader ε α}
    {write : α → List UInt8}
    {property : α → Prop}
    (inverts : Inverts reader write property)
    {next : α → Reader ε β}
    {input rest : List UInt8}
    {result : β}
    (done : (reader >>= next).run input = .ok (result, rest)) :
    ∃ value between, input = write value ++ between ∧ property value ∧
      (next value).run between = .ok (result, rest) := by
  obtain ⟨value, between, read, later⟩ := run_bind_ok done
  obtain ⟨same, holds⟩ := inverts _ _ _ read
  exact ⟨value, between, same, holds, later⟩

theorem Inverts.map_ok
    {reader : Reader ε α}
    {write : α → List UInt8}
    {property : α → Prop}
    (inverts : Inverts reader write property)
    {f : α → β}
    {input rest : List UInt8}
    {result : β}
    (done : (f <$> reader).run input = .ok (result, rest)) :
    ∃ value, input = write value ++ rest ∧ property value ∧
      f value = result := by
  obtain ⟨value, read, same⟩ := run_map_ok done
  obtain ⟨inputEq, holds⟩ := inverts _ _ _ read
  exact ⟨value, inputEq, holds, same⟩

/-! ## Integers of a fixed width -/

/-- The low bytes of a number, the least significant first. -/
def littleEndian : (width value : Nat) → List UInt8
  | 0, _ => []
  | width + 1, value => UInt8.ofNat value :: littleEndian width (value / 256)

/-- The low bytes of a number, the most significant first. -/
def bigEndian (width value : Nat) : List UInt8 :=
  (littleEndian width value).reverse

/-- The number that bytes spell, the least significant first. -/
def ofLittleEndian (bytes : List UInt8) : Nat :=
  Nat.ofDigits 256 (bytes.map UInt8.toNat)

/-- The number that bytes spell, the most significant first. -/
def ofBigEndian (bytes : List UInt8) : Nat :=
  ofLittleEndian bytes.reverse

@[simp] theorem length_littleEndian (width value : Nat) :
    (littleEndian width value).length = width := by
  induction width generalizing value with
  | zero => rfl
  | succ width inductionHypothesis =>
      rw [littleEndian, List.length_cons, inductionHypothesis]

@[simp] theorem length_bigEndian (width value : Nat) :
    (bigEndian width value).length = width := by
  simp [bigEndian]

/-- Bytes spell the number they were cut from, as far as they are wide. -/
theorem ofLittleEndian_littleEndian (width value : Nat) :
    ofLittleEndian (littleEndian width value) = value % 256 ^ width := by
  induction width generalizing value with
  | zero =>
      rw [Nat.pow_zero, Nat.mod_one]
      rfl
  | succ width inductionHypothesis =>
      have lowest : (UInt8.ofNat value).toNat = value % 256 := by simp
      have others := inductionHypothesis (value / 256)
      unfold ofLittleEndian at others ⊢
      rw [littleEndian, List.map_cons, Nat.ofDigits_cons, lowest, others,
        Nat.pow_succ', Nat.mod_mul]

theorem ofBigEndian_bigEndian (width value : Nat) :
    ofBigEndian (bigEndian width value) = value % 256 ^ width := by
  rw [ofBigEndian, bigEndian, List.reverse_reverse,
    ofLittleEndian_littleEndian]

theorem ofLittleEndian_lt (bytes : List UInt8) :
    ofLittleEndian bytes < 256 ^ bytes.length := by
  have bounded := Nat.ofDigits_lt_base_pow_length (b := 256)
    (l := bytes.map UInt8.toNat) (by decide) (by
      intro digit inside
      obtain ⟨byte, -, rfl⟩ := List.mem_map.mp inside
      exact byte.toNat_lt)
  rwa [List.length_map] at bounded

/-- The bytes of the number that bytes spell are these bytes. -/
theorem littleEndian_ofLittleEndian (bytes : List UInt8) :
    littleEndian bytes.length (ofLittleEndian bytes) = bytes := by
  induction bytes with
  | nil => rfl
  | cons byte bytes inductionHypothesis =>
      have spelled : ofLittleEndian (byte :: bytes) =
          byte.toNat + 256 * ofLittleEndian bytes := rfl
      have small := byte.toNat_lt
      have lowest : UInt8.ofNat (byte.toNat + 256 * ofLittleEndian bytes) =
          byte := by
        apply UInt8.toNat_inj.mp
        rw [UInt8.toNat_ofNat']
        omega
      have others : (byte.toNat + 256 * ofLittleEndian bytes) / 256 =
          ofLittleEndian bytes := by
        omega
      rw [spelled, List.length_cons, littleEndian, lowest, others,
        inductionHypothesis]

/-! ## Readers -/

/-- Take a number of bytes, or fail when there are fewer. -/
def take (missing : ε) (count : Nat) : Reader ε (List UInt8) := fun input =>
  if count ≤ input.length then
    .ok (input.take count, input.drop count)
  else
    .error missing

theorem reads_take
    (missing : ε)
    (bytes : List UInt8) :
    Reads (take missing bytes.length) bytes bytes := by
  intro rest
  show take missing bytes.length (bytes ++ rest) = _
  simp [take]

theorem take_ok
    {missing : ε}
    {count : Nat}
    {input bytes rest : List UInt8}
    (done : (take missing count).run input = .ok (bytes, rest)) :
    input = bytes ++ rest ∧ bytes.length = count := by
  have unfolded : (if count ≤ input.length then
      (.ok (input.take count, input.drop count) :
        Except ε (List UInt8 × List UInt8))
    else .error missing) = .ok (bytes, rest) := done
  split_ifs at unfolded with enough
  injection unfolded with same
  obtain ⟨rfl, rfl⟩ := Prod.mk.inj same
  exact ⟨(List.take_append_drop _ _).symm, List.length_take_of_le enough⟩

/-- Read an integer, the least significant byte first. -/
def readLittleEndian (missing : ε) (width : Nat) : Reader ε Nat :=
  ofLittleEndian <$> take missing width

theorem reads_littleEndian
    (missing : ε)
    {width value : Nat}
    (bounded : value < 256 ^ width) :
    Reads (readLittleEndian missing width) (littleEndian width value)
      value := by
  have taken := (reads_take missing (littleEndian width value)).map
    ofLittleEndian
  rwa [length_littleEndian, ofLittleEndian_littleEndian,
    Nat.mod_eq_of_lt bounded] at taken

theorem inverts_littleEndian
    (missing : ε)
    (width : Nat) :
    Inverts (readLittleEndian missing width) (littleEndian width)
      (fun value => value < 256 ^ width) := by
  intro input value rest done
  obtain ⟨bytes, taken, rfl⟩ := run_map_ok done
  obtain ⟨rfl, rfl⟩ := take_ok taken
  rw [littleEndian_ofLittleEndian]
  exact ⟨rfl, ofLittleEndian_lt bytes⟩

/-- Read a counted run of items. -/
def readMany (reader : Reader ε α) : Nat → Reader ε (List α)
  | 0 => pure []
  | count + 1 => do
      let item ← reader
      let items ← readMany reader count
      pure (item :: items)

/-- A run of items that are read one by one is read as a whole. -/
theorem reads_many
    {reader : Reader ε α}
    {write : α → List UInt8}
    {items : List α}
    (each : ∀ item ∈ items, Reads reader (write item) item) :
    Reads (readMany reader items.length) (items.flatMap write) items := by
  induction items with
  | nil => exact reads_pure []
  | cons item items inductionHypothesis =>
      have first := each item List.mem_cons_self
      have others := inductionHypothesis fun other inside =>
        each other (List.mem_cons_of_mem item inside)
      apply first.bind
      exact others.finish rfl

theorem inverts_many
    {reader : Reader ε α}
    {write : α → List UInt8}
    {property : α → Prop}
    (each : Inverts reader write property)
    (count : Nat) :
    Inverts (readMany reader count) (List.flatMap write)
      (fun items => items.length = count ∧ ∀ item ∈ items, property item) := by
  induction count with
  | zero =>
      rintro input items rest ⟨⟩
      exact ⟨rfl, rfl, fun _ inside => absurd inside List.not_mem_nil⟩
  | succ count inductionHypothesis =>
      intro input items rest done
      obtain ⟨item, _, rfl, holds, done⟩ := each.bind_ok done
      obtain ⟨others, _, rfl, ⟨counted, allHold⟩, ⟨⟩⟩ :=
        inductionHypothesis.bind_ok done
      refine ⟨?_, ?_, ?_⟩
      · rw [List.flatMap_cons, List.append_assoc]
      · rw [List.length_cons, counted]
      · exact List.forall_mem_cons.mpr ⟨holds, allHold⟩

end Binary
