import Libp2pRaft.Identity.ClusterConfig
import Mathlib.Data.List.DropRight
import Mathlib.Data.List.ReduceOption

/-!
# Peers listed in one line

`parse_peers_legacy` of `bin/raft-node.rs`, which reads peers in the form
`node_id:host:port,...`.  Numbers are parsed as the standard library parses
them, and blanks are those of Unicode.  A line is accepted exactly if it is in a
grammar, and the line of a cluster file yields the seeds of the file.
-/

namespace Libp2pRaft

/-! ## Text -/

/-- The code points with the property `White_Space`. -/
def isWhitespace (c : Char) : Bool :=
  (9 ≤ c.toNat && c.toNat ≤ 13) || c.toNat = 32 || c.toNat = 0x85 ||
    c.toNat = 0xA0 || c.toNat = 0x1680 ||
    (0x2000 ≤ c.toNat && c.toNat ≤ 0x200A) || c.toNat = 0x2028 ||
    c.toNat = 0x2029 || c.toNat = 0x202F || c.toNat = 0x205F || c.toNat = 0x3000

/-- Text without the blanks around it. -/
def trim (text : List Char) : List Char :=
  (text.dropWhile isWhitespace).rdropWhile isWhitespace

/-- Why a number is refused. -/
inductive ParseIntError
  | empty
  | invalidDigit
  | posOverflow
  deriving DecidableEq, Repr

def ParseIntError.text : ParseIntError → String
  | .empty => "cannot parse integer from empty string"
  | .invalidDigit => "invalid digit found in string"
  | .posOverflow => "number too large to fit in target type"

/-- Read digits behind a value, as long as it stays below a bound. -/
def parseDigits (bound : Nat) : (value : Nat) → List Char →
    Except ParseIntError Nat
  | value, [] => .ok value
  | value, c :: rest =>
      if c.isDigit then
        if 10 * value + (c.toNat - '0'.toNat) < bound then
          parseDigits bound (10 * value + (c.toNat - '0'.toNat)) rest
        else
          .error .posOverflow
      else
        .error .invalidDigit

/-- Parse an unsigned number below a bound. -/
def parseUnsigned (bound : Nat) : List Char → Except ParseIntError Nat
  | [] => .error .empty
  | ['+'] => .error .invalidDigit
  | '+' :: digits => parseDigits bound 0 digits
  | digits => parseDigits bound 0 digits

/-- A text is a number in decimal, with or without a plus. -/
def Spells (bound : Nat) (text : List Char) (value : Nat) : Prop :=
  ∃ digits, digits ≠ [] ∧ (text = digits ∨ text = '+' :: digits) ∧
    (∀ c ∈ digits, c.isDigit) ∧ Nat.ofDigitChars 10 digits 0 = value ∧
    value < bound

theorem le_ofDigitChars (digits : List Char) (value : Nat) :
    value ≤ Nat.ofDigitChars 10 digits value := by
  rw [Nat.ofDigitChars_eq_ofDigitChars_zero]
  have positive := Nat.pow_pos (n := digits.length) (show 0 < 10 by decide)
  nlinarith

theorem parseDigits_ok_iff
    {bound value number : Nat}
    (below : value < bound)
    {text : List Char} :
    parseDigits bound value text = .ok number ↔
      (∀ c ∈ text, c.isDigit) ∧ Nat.ofDigitChars 10 text value = number ∧
        number < bound := by
  induction text generalizing value with
  | nil =>
      simp only [parseDigits, Except.ok.injEq, List.not_mem_nil, false_implies,
        implies_true, Nat.ofDigitChars_nil, true_and]
      constructor
      · rintro rfl
        exact ⟨rfl, below⟩
      · exact fun same => same.1
  | cons c rest inductionHypothesis =>
      rw [parseDigits, Nat.ofDigitChars_cons, List.forall_mem_cons]
      by_cases digit : c.isDigit
      · rw [if_pos digit]
        by_cases fits : 10 * value + (c.toNat - '0'.toNat) < bound
        · rw [if_pos fits, inductionHypothesis fits]
          simp only [digit, true_and]
        · have grows := le_ofDigitChars rest (10 * value + (c.toNat - '0'.toNat))
          rw [if_neg fits]
          constructor
          · exact fun refused => absurd refused (by simp)
          · rintro ⟨-, rfl, small⟩
            omega
      · rw [if_neg digit]
        constructor
        · exact fun refused => absurd refused (by simp)
        · exact fun digits => absurd digits.1.1 digit

theorem parseUnsigned_ok_iff
    {bound : Nat}
    (positive : 0 < bound)
    {text : List Char}
    {number : Nat} :
    parseUnsigned bound text = .ok number ↔ Spells bound text number := by
  have noPlus : ('+' : Char).isDigit = false := by decide
  unfold parseUnsigned
  split
  · constructor
    · exact fun refused => absurd refused (by simp)
    · rintro ⟨digits, nonempty, same | same, -⟩
      · exact absurd same.symm nonempty
      · contradiction
  · constructor
    · exact fun refused => absurd refused (by simp)
    · rintro ⟨digits, nonempty, rfl | same, isDigits, -⟩
      · simp [noPlus] at isDigits
      · simp at same
        exact absurd same nonempty
  · next digits notAlone =>
      rw [parseDigits_ok_iff positive]
      constructor
      · rintro ⟨isDigits, same, small⟩
        refine ⟨digits, ?_, .inr rfl, isDigits, same, small⟩
        rintro rfl
        exact notAlone rfl
      · rintro ⟨others, nonempty, same | same, isDigits, rest⟩
        · rw [← same, List.forall_mem_cons, noPlus] at isDigits
          exact absurd isDigits.1 (by decide)
        · obtain rfl : digits = others := by simpa using same
          exact ⟨isDigits, rest⟩
  · next nonempty _ noSign =>
      rw [parseDigits_ok_iff positive]
      constructor
      · rintro ⟨isDigits, same, small⟩
        exact ⟨_, nonempty, .inl rfl, isDigits, same, small⟩
      · rintro ⟨others, -, rfl | same, isDigits, rest⟩
        · exact ⟨isDigits, rest⟩
        · exact absurd same (noSign others)

/-! ## Parsing -/

section

variable {Keypair : Type} (keys : KeyScheme Keypair) (resolver : Resolver)
  (selfId : NodeId)

/-- The seed of one entry, or nothing for the entry of the node itself. -/
def parsePeer (part : List Char) : Except String (Option SeedPeer) :=
  match part.splitOn ':' with
  | [] => .error "peer entry missing node_id"
  | idText :: fields => do
      let nodeId ← (parseUnsigned (2 ^ 64) idText).mapError fun e =>
        "peer node_id: " ++ e.text
      if nodeId = selfId then
        .ok none
      else
        match fields with
        | [] => .error "peer entry missing host"
        | [_] => .error "peer entry missing port"
        | host :: portText :: _ => do
            let port ← (parseUnsigned (2 ^ 16) portText).mapError fun e =>
              "peer port: " ++ e.text
            let addr ← resolveHostPort resolver (String.ofList host) port
            let peerId ← (peerIdForNode keys nodeId).mapError Error.text
            .ok (some { nodeId := nodeId, peerId := peerId, addrs := [addr] })

/-- The seeds of entries, up to the first that is refused. -/
def parsePeers : List (List Char) → Except String (List SeedPeer)
  | [] => .ok []
  | part :: parts => do
      let seed ← parsePeer keys resolver selfId part
      let seeds ← parsePeers parts
      .ok (seed.toList ++ seeds)

/-- The seeds of a line. -/
def parsePeersLegacy (raw : String) : Except String (List SeedPeer) :=
  parsePeers keys resolver selfId
    (((raw.toList.splitOn ',').map trim).filter fun part => part ≠ [])

/-! ## The grammar -/

/-- What may stand behind the last field that is read. -/
def Ignored (text : List Char) : Prop :=
  text = [] ∨ ∃ more, text = ':' :: more

/-- An entry, and the seed it stands for. -/
inductive Entry : List Char → Option SeedPeer → Prop
  | own (idText ignored : List Char)
      (id : Spells (2 ^ 64) idText selfId)
      (behind : Ignored ignored) :
      Entry (idText ++ ignored) none
  | peer (idText host portText ignored : List Char) (nodeId port : Nat)
      (peerId : PeerId) (addr : Multiaddr)
      (id : Spells (2 ^ 64) idText nodeId)
      (other : nodeId ≠ selfId)
      (plain : ':' ∉ host)
      (number : Spells (2 ^ 16) portText port)
      (behind : Ignored ignored)
      (resolved : resolveHostPort resolver (String.ofList host) port = .ok addr)
      (identified : peerIdForNode keys nodeId = .ok peerId) :
      Entry (idText ++ ':' :: (host ++ ':' :: (portText ++ ignored)))
        (some ⟨nodeId, peerId, [addr]⟩)

end

/-- A number holds no colon. -/
theorem Spells.plain
    {bound number : Nat}
    {text : List Char}
    (spells : Spells bound text number)
    {c : Char}
    (noDigit : c.isDigit = false)
    (noPlus : c ≠ '+') :
    c ∉ text := by
  obtain ⟨digits, -, same, isDigits, -⟩ := spells
  have outside : c ∉ digits := by
    intro inside
    rw [isDigits c inside] at noDigit
    contradiction
  rcases same with rfl | rfl
  · exact outside
  · exact List.not_mem_cons_of_ne_of_not_mem noPlus outside

theorem bind_ok
    {ε α β : Type}
    {first : Except ε α}
    {next : α → Except ε β}
    {result : β}
    (done : first >>= next = .ok result) :
    ∃ value, first = .ok value ∧ next value = .ok result := by
  cases first with
  | error error => contradiction
  | ok value => exact ⟨value, rfl, done⟩

theorem mapError_ok
    {ε δ α : Type}
    {first : Except ε α}
    {f : ε → δ}
    {value : α}
    (done : first.mapError f = .ok value) :
    first = .ok value := by
  cases first with
  | error error => contradiction
  | ok found => exact congrArg Except.ok (Except.ok.inj done)

/-- No part holds the separator. -/
theorem notMem_of_mem_splitOn
    {separator : Char}
    {text part : List Char}
    (inside : part ∈ text.splitOn separator) :
    separator ∉ part := by
  induction text generalizing part with
  | nil =>
      rw [List.splitOn_nil, List.mem_singleton] at inside
      rw [inside]
      exact List.not_mem_nil
  | cons c rest inductionHypothesis =>
      obtain ⟨first, others, split⟩ :=
        List.exists_cons_of_ne_nil (List.splitOn_ne_nil separator rest)
      rw [List.splitOn_cons_eq_if_modifyHead, split, List.modifyHead_cons] at inside
      rw [split] at inductionHypothesis
      split_ifs at inside with same
      · rcases List.mem_cons.mp inside with rfl | later
        · exact List.not_mem_nil
        · exact inductionHypothesis later
      · rcases List.mem_cons.mp inside with rfl | later
        · exact List.not_mem_cons_of_ne_of_not_mem (fun equal => same (by simp [equal]))
            (inductionHypothesis List.mem_cons_self)
        · exact inductionHypothesis (List.mem_cons_of_mem _ later)

/-- The first field of a text. -/
theorem splitOn_ignored
    {field ignored : List Char}
    (plain : ':' ∉ field)
    (behind : Ignored ignored) :
    ∃ fields, (field ++ ignored).splitOn ':' = field :: fields := by
  rcases behind with rfl | ⟨more, rfl⟩
  · rw [List.append_nil]
    exact ⟨[], List.splitOn_eq_singleton plain⟩
  · exact ⟨_, List.splitOn_append_cons_self_of_not_mem plain more⟩

/-- A text begins with the first of its fields. -/
theorem exists_ignored
    {text field : List Char}
    {fields : List (List Char)}
    (split : text.splitOn ':' = field :: fields) :
    ':' ∉ field ∧ ∃ ignored, Ignored ignored ∧ text = field ++ ignored ∧
      (fields = [] ∧ ignored = [] ∨
        ∃ more, ignored = ':' :: more ∧ more.splitOn ':' = fields) := by
  by_cases inside : ':' ∈ text
  · obtain ⟨front, back, rfl, plain⟩ := List.eq_append_cons_of_mem inside
    rw [List.splitOn_append_cons_self_of_not_mem plain] at split
    injection split with same rest
    subst same
    exact ⟨plain, ':' :: back, .inr ⟨back, rfl⟩, rfl, .inr ⟨back, rfl, rest⟩⟩
  · rw [List.splitOn_eq_singleton inside] at split
    injection split with same rest
    subst same
    exact ⟨inside, [], .inl rfl, (List.append_nil _).symm, .inl ⟨rest.symm, rfl⟩⟩

section

variable {Keypair : Type} {keys : KeyScheme Keypair} {resolver : Resolver}
  {selfId : NodeId}

/-- Whatever is accepted is an entry of the grammar. -/
theorem entry_of_parsePeer
    {part : List Char}
    {seed : Option SeedPeer}
    (done : parsePeer keys resolver selfId part = .ok seed) :
    Entry keys resolver selfId part seed := by
  unfold parsePeer at done
  split at done
  · contradiction
  next idText fields split =>
  obtain ⟨-, ignored, behindId, rfl, others⟩ := exists_ignored split
  obtain ⟨nodeId, parsed, done⟩ := bind_ok done
  have id := (parseUnsigned_ok_iff (by decide)).mp (mapError_ok parsed)
  split_ifs at done with own
  · obtain rfl := Except.ok.inj done
    exact .own idText ignored (own ▸ id) behindId
  split at done
  · contradiction
  · contradiction
  next host portText _ _ =>
  rcases others with ⟨none, -⟩ | ⟨more, rfl, hostSplit⟩
  · contradiction
  obtain ⟨plain, _, -, rfl, others⟩ := exists_ignored hostSplit
  rcases others with ⟨none, -⟩ | ⟨more, rfl, portSplit⟩
  · contradiction
  obtain ⟨-, ignored, behindPort, rfl, -⟩ := exists_ignored portSplit
  obtain ⟨port, portParsed, done⟩ := bind_ok done
  obtain ⟨addr, resolved, done⟩ := bind_ok done
  obtain ⟨peerId, identified, done⟩ := bind_ok done
  have number := (parseUnsigned_ok_iff (by decide)).mp (mapError_ok portParsed)
  obtain rfl := Except.ok.inj done
  exact .peer idText host portText ignored nodeId port peerId addr id own plain
    number behindPort resolved (mapError_ok identified)

/-- Every entry of the grammar is accepted. -/
theorem parsePeer_of_entry
    {part : List Char}
    {seed : Option SeedPeer}
    (entry : Entry keys resolver selfId part seed) :
    parsePeer keys resolver selfId part = .ok seed := by
  have colon : (':' : Char).isDigit = false := by decide
  unfold parsePeer
  cases entry with
  | own idText ignored id behind =>
      obtain ⟨fields, split⟩ :=
        splitOn_ignored (id.plain colon (by decide)) behind
      have parsed := (parseUnsigned_ok_iff (by decide)).mpr id
      simp only [split, parsed, Except.mapError, bind, Except.bind, if_true]
  | peer idText host portText ignored nodeId port peerId addr id other plain number
      behind resolved identified =>
      obtain ⟨fields, split⟩ :=
        splitOn_ignored (number.plain colon (by decide)) behind
      have parsed := (parseUnsigned_ok_iff (by decide)).mpr id
      have portParsed := (parseUnsigned_ok_iff (by decide)).mpr number
      rw [List.splitOn_append_cons_self_of_not_mem (id.plain colon (by decide)),
        List.splitOn_append_cons_self_of_not_mem plain, split]
      simp only [parsed, portParsed, resolved, identified, other, Except.mapError,
        bind, Except.bind, if_false]

theorem parsePeers_ok_iff
    {parts : List (List Char)}
    {seeds : List SeedPeer} :
    parsePeers keys resolver selfId parts = .ok seeds ↔
      ∃ entries, List.Forall₂ (Entry keys resolver selfId) parts entries ∧
        seeds = entries.reduceOption := by
  induction parts generalizing seeds with
  | nil =>
      constructor
      · intro done
        exact ⟨[], .nil, (Except.ok.inj done).symm⟩
      · rintro ⟨_, ⟨⟩, rfl⟩
        rfl
  | cons part parts inductionHypothesis =>
      constructor
      · intro done
        obtain ⟨seed, first, done⟩ := bind_ok done
        obtain ⟨others, rest, done⟩ := bind_ok done
        obtain ⟨entries, accepted, rfl⟩ := inductionHypothesis.mp rest
        obtain rfl := Except.ok.inj done
        refine ⟨seed :: entries, .cons (entry_of_parsePeer first) accepted, ?_⟩
        cases seed with
        | none => rw [List.reduceOption_cons_of_none]; rfl
        | some seed => rw [List.reduceOption_cons_of_some]; rfl
      · rintro ⟨_, accepted, rfl⟩
        obtain ⟨seed, entries, first, rest, rfl⟩ :=
          List.forall₂_cons_left_iff.mp accepted
        have accepted := inductionHypothesis.mpr ⟨entries, rest, rfl⟩
        rw [parsePeers, parsePeer_of_entry first, accepted]
        cases seed with
        | none => rw [List.reduceOption_cons_of_none]; rfl
        | some seed => rw [List.reduceOption_cons_of_some]; rfl

/-- A line is accepted exactly if the parts between its commas, without the
blanks around them, are empty or entries: a number, a host and a port, or the
number of the node itself with anything behind it.  The seeds are those of the
entries of other nodes, in order. -/
theorem legacy_peers_language
    (raw : String)
    (seeds : List SeedPeer) :
    parsePeersLegacy keys resolver selfId raw = .ok seeds ↔
      ∃ parts entries, parts ≠ [] ∧ (∀ part ∈ parts, ',' ∉ part) ∧
        raw.toList = [','].intercalate parts ∧
        List.Forall₂ (Entry keys resolver selfId)
          ((parts.map trim).filter fun part => part ≠ []) entries ∧
        seeds = entries.reduceOption := by
  unfold parsePeersLegacy
  rw [parsePeers_ok_iff]
  constructor
  · rintro ⟨entries, accepted, rfl⟩
    refine ⟨raw.toList.splitOn ',', entries, List.splitOn_ne_nil _ _, ?_, ?_,
      accepted, rfl⟩
    · exact fun part inside => notMem_of_mem_splitOn inside
    · exact (List.intercalate_splitOn ',').symm
  · rintro ⟨parts, entries, nonempty, plain, same, accepted, rfl⟩
    rw [same, List.splitOn_intercalate ',' plain nonempty]
    exact ⟨entries, accepted, rfl⟩

end

/-! ## The line of a cluster file -/

/-- A node as an entry. -/
def ClusterNodeSpec.legacyEntry (node : ClusterNodeSpec) : List Char :=
  Nat.toDigits 10 node.id ++
    ':' :: (node.host.toList ++ ':' :: Nat.toDigits 10 node.port)

/-- The nodes of a cluster file in one line. -/
def ClusterConfig.legacyLine (self : ClusterConfig) : String :=
  String.ofList ([','].intercalate (self.nodes.map ClusterNodeSpec.legacyEntry))

theorem isDigit_of_mem_toDigits
    {number : Nat}
    {c : Char}
    (inside : c ∈ Nat.toDigits 10 number) :
    c.isDigit :=
  Nat.isDigit_of_mem_toDigits (by decide) (by decide) inside

/-- A number below the bound is spelled by its digits. -/
theorem spells_toDigits
    {bound number : Nat}
    (below : number < bound) :
    Spells bound (Nat.toDigits 10 number) number :=
  ⟨_, Nat.toDigits_ne_nil, .inl rfl, fun _ => isDigit_of_mem_toDigits,
    Nat.ofDigitChars_ten_toDigits, below⟩

/-- No digit is blank. -/
theorem not_isWhitespace_of_isDigit
    {c : Char}
    (digit : c.isDigit) :
    isWhitespace c = false := by
  have low : 48 ≤ c.toNat ∧ c.toNat ≤ 57 := by
    simpa [Char.isDigit, UInt32.le_iff_toNat_le] using digit
  simp only [isWhitespace, Bool.or_eq_false_iff, Bool.and_eq_false_iff,
    decide_eq_false_iff_not]
  omega

/-- A text between digits has no blanks around it. -/
theorem trim_between
    {front back middle : List Char}
    (frontNonempty : front ≠ [])
    (backNonempty : back ≠ [])
    (frontDigits : ∀ c ∈ front, c.isDigit)
    (backDigits : ∀ c ∈ back, c.isDigit) :
    trim (front ++ (middle ++ back)) = front ++ (middle ++ back) := by
  obtain ⟨first, rest, rfl⟩ := List.exists_cons_of_ne_nil frontNonempty
  obtain ⟨before, last, rfl⟩ : ∃ before last, back = before ++ [last] :=
    ⟨_, _, (List.dropLast_append_getLast backNonempty).symm⟩
  have firstInk := not_isWhitespace_of_isDigit
    (frontDigits first List.mem_cons_self)
  have lastInk := not_isWhitespace_of_isDigit
    (backDigits last (List.mem_append_right _ (List.mem_singleton_self last)))
  unfold trim
  rw [List.cons_append, List.dropWhile_cons_of_neg (by simp [firstInk]),
    ← List.append_assoc middle, ← List.append_assoc rest, ← List.cons_append,
    List.rdropWhile_concat_neg _ _ last (by simp [lastInk])]

namespace ClusterNodeSpec

variable (node : ClusterNodeSpec)

theorem trim_legacyEntry : trim node.legacyEntry = node.legacyEntry := by
  unfold legacyEntry
  rw [← List.cons_append, List.append_cons (':' :: node.host.toList)]
  exact trim_between Nat.toDigits_ne_nil Nat.toDigits_ne_nil
    (fun _ => isDigit_of_mem_toDigits) (fun _ => isDigit_of_mem_toDigits)

theorem legacyEntry_ne_nil : node.legacyEntry ≠ [] :=
  List.append_ne_nil_of_left_ne_nil Nat.toDigits_ne_nil _

/-- What the fields of an entry are. -/
theorem splitOn_legacyEntry
    (plain : ':' ∉ node.host.toList) :
    node.legacyEntry.splitOn ':' =
      [Nat.toDigits 10 node.id, node.host.toList, Nat.toDigits 10 node.port] := by
  have noColon : ∀ number, ':' ∉ Nat.toDigits 10 number := by
    intro number inside
    exact absurd (isDigit_of_mem_toDigits inside) (by decide)
  unfold legacyEntry
  rw [List.splitOn_append_cons_self_of_not_mem (noColon _),
    List.splitOn_append_cons_self_of_not_mem plain,
    List.splitOn_eq_singleton (noColon _)]

end ClusterNodeSpec

section

variable {Keypair : Type} {keys : KeyScheme Keypair} {resolver : Resolver}
  {selfId : NodeId}

/-- The entry of a node yields its seed, or nothing for the node itself. -/
theorem parsePeer_legacyEntry
    {node : ClusterNodeSpec}
    (id : node.id < 2 ^ 64)
    (port : node.port < 2 ^ 16)
    (plain : ':' ∉ node.host.toList)
    {seed : Option SeedPeer} :
    parsePeer keys resolver selfId node.legacyEntry = .ok seed ↔
      node.id = selfId ∧ seed = none ∨
        node.id ≠ selfId ∧ ∃ found,
          ClusterConfig.seedPeer keys resolver node = .ok found ∧
          seed = some found := by
  have parsed := (parseUnsigned_ok_iff (by decide)).mpr (spells_toDigits id)
  have portParsed := (parseUnsigned_ok_iff (by decide)).mpr (spells_toDigits port)
  unfold parsePeer ClusterConfig.seedPeer
  simp only [node.splitOn_legacyEntry plain, parsed, portParsed, String.ofList_toList,
    Except.mapError, bind, Except.bind]
  by_cases own : node.id = selfId
  · simp only [own, if_true, Except.ok.injEq, true_and, ne_eq, not_true, false_and,
      or_false]
    exact eq_comm
  · cases resolveHostPort resolver node.host node.port with
    | error error => simp [own]
    | ok addr =>
        cases peerIdForNode keys node.id with
        | error error => simp [own]
        | ok peerId => simp [own, eq_comm]

/-- The entries of nodes yield the seeds of the nodes. -/
theorem parsePeers_legacyEntry
    {nodes : List ClusterNodeSpec}
    (ids : ∀ node ∈ nodes, node.id < 2 ^ 64)
    (ports : ∀ node ∈ nodes, node.port < 2 ^ 16)
    (plain : ∀ node ∈ nodes, ':' ∉ node.host.toList)
    {seeds : List SeedPeer} :
    parsePeers keys resolver selfId (nodes.map ClusterNodeSpec.legacyEntry) =
        .ok seeds ↔
      (ClusterConfig.mk nodes).seedPeers keys resolver selfId = .ok seeds := by
  unfold ClusterConfig.seedPeers
  dsimp only
  induction nodes generalizing seeds with
  | nil => exact Iff.rfl
  | cons node nodes inductionHypothesis =>
      have id := ids node List.mem_cons_self
      have port := ports node List.mem_cons_self
      have noColon := plain node List.mem_cons_self
      have others := @inductionHypothesis
        (fun other inside => ids other (List.mem_cons_of_mem _ inside))
        (fun other inside => ports other (List.mem_cons_of_mem _ inside))
        (fun other inside => plain other (List.mem_cons_of_mem _ inside))
      constructor
      · intro done
        obtain ⟨seed, first, done⟩ := bind_ok done
        obtain ⟨rest, later, done⟩ := bind_ok done
        obtain rfl := Except.ok.inj done
        have made := others.mp later
        rcases (parsePeer_legacyEntry id port noColon).mp first with
          ⟨own, rfl⟩ | ⟨foreign, found, seeded, rfl⟩
        · rw [List.filter_cons_of_neg (by simp [own])]
          exact made
        · rw [List.filter_cons_of_pos (by simp [foreign]), List.mapM_cons, seeded,
            made]
          rfl
      · intro done
        by_cases own : node.id = selfId
        · rw [List.filter_cons_of_neg (by simp [own])] at done
          rw [List.map_cons, parsePeers, (parsePeer_legacyEntry id port
            noColon).mpr (.inl ⟨own, rfl⟩), others.mpr done]
          rfl
        · rw [List.filter_cons_of_pos (by simp [own]), List.mapM_cons] at done
          obtain ⟨found, seeded, done⟩ := bind_ok done
          obtain ⟨rest, later, done⟩ := bind_ok done
          obtain rfl := Except.ok.inj done
          rw [List.map_cons, parsePeers, (parsePeer_legacyEntry id port
            noColon).mpr (.inr ⟨own, found, seeded, rfl⟩), others.mpr later]
          rfl

/-- The line of a cluster file whose hosts hold no comma and no colon yields the
seeds of the file, and is refused if the file is. -/
theorem legacy_peers_agree
    (config : ClusterConfig)
    (ids : ∀ node ∈ config.nodes, node.id < 2 ^ 64)
    (ports : ∀ node ∈ config.nodes, node.port < 2 ^ 16)
    (plain : ∀ node ∈ config.nodes,
      ',' ∉ node.host.toList ∧ ':' ∉ node.host.toList)
    (seeds : List SeedPeer) :
    parsePeersLegacy keys resolver selfId config.legacyLine = .ok seeds ↔
      config.seedPeers keys resolver selfId = .ok seeds := by
  obtain ⟨nodes⟩ := config
  have parts : (((ClusterConfig.mk nodes).legacyLine.toList.splitOn ',').map
      trim).filter (fun part => part ≠ []) =
        nodes.map ClusterNodeSpec.legacyEntry := by
    have noComma : ∀ part ∈ nodes.map ClusterNodeSpec.legacyEntry, ',' ∉ part := by
      intro part inside
      obtain ⟨node, isNode, rfl⟩ := List.mem_map.mp inside
      have noDigit : ∀ number, ',' ∉ Nat.toDigits 10 number := fun number digit =>
        absurd (isDigit_of_mem_toDigits digit) (by decide)
      simp [ClusterNodeSpec.legacyEntry, noDigit, (plain node isNode).1]
    have trimmed : (nodes.map ClusterNodeSpec.legacyEntry).map trim =
        nodes.map ClusterNodeSpec.legacyEntry := by
      rw [List.map_map]
      exact List.map_congr_left fun node _ => node.trim_legacyEntry
    have kept : (nodes.map ClusterNodeSpec.legacyEntry).filter
        (fun part => part ≠ []) = nodes.map ClusterNodeSpec.legacyEntry := by
      refine List.filter_eq_self.mpr fun part inside => ?_
      obtain ⟨node, -, rfl⟩ := List.mem_map.mp inside
      exact decide_eq_true node.legacyEntry_ne_nil
    unfold ClusterConfig.legacyLine
    rw [String.toList_ofList]
    cases nodes with
    | nil => rfl
    | cons node nodes =>
        rw [List.splitOn_intercalate ',' noComma (List.cons_ne_nil _ _), trimmed,
          kept]
  unfold parsePeersLegacy
  rw [parts]
  exact parsePeers_legacyEntry ids ports fun node inside => (plain node inside).2

end

open ClusterConfig in
/-- The theorem applies to three nodes on one host. -/
theorem legacy_peers_agree_three :
    ∃ seeds, (ofIds [1, 2, 3]).seedPeers spelled loopback 2 = .ok seeds ∧
      parsePeersLegacy spelled loopback 2 (ofIds [1, 2, 3]).legacyLine =
        .ok seeds := by
  obtain ⟨seeds, made, -, -⟩ := seedPeers_ok spelled_derives
    (fun node (_ : node ∈ (ofIds [1, 2, 3]).nodes) =>
      (⟨_, rfl⟩ : ∃ addr, resolveHostPort loopback node.host node.port = .ok addr)) 2
  exact ⟨seeds, made, (legacy_peers_agree (ofIds [1, 2, 3]) (by decide) (by decide)
    (by decide +kernel) seeds).mpr made⟩

end Libp2pRaft
