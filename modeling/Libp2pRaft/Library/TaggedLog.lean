import Mathlib.Data.List.Infix

/-!
# Logs of tagged entries

Entries carry a number, their term.  This module compares the last entries of
two logs, splices a batch into a log by comparing terms only, and shows that on
logs that match in the sense of replicated logs such a splice either keeps the
log or produces the sender's log.
-/

namespace Consensus

/-! ## Prefixes -/

section

variable {ε : Type}

/-- One of two logs is a prefix of the other. -/
def Comparable (log other : List ε) : Prop :=
  log <+: other ∨ other <+: log

theorem getElem?_of_isPrefix
    {log other : List ε}
    (isPrefix : log <+: other)
    {position : Nat}
    {entry : ε}
    (stored : log[position]? = some entry) :
    other[position]? = some entry := by
  obtain ⟨rest, rfl⟩ := isPrefix
  rw [List.getElem?_append_left (List.getElem?_eq_some_iff.mp stored).1]
  exact stored

/-- Equal beginnings hold equal entries. -/
theorem getElem?_of_take_eq
    {log other : List ε}
    {count position : Nat}
    (equal : log.take count = other.take count)
    (inside : position < count) :
    log[position]? = other[position]? := by
  rw [← List.getElem?_take_of_lt inside, equal,
    List.getElem?_take_of_lt inside]

theorem take_eq_of_take_eq
    {log other : List ε}
    {count bound : Nat}
    (equal : log.take bound = other.take bound)
    (inside : count ≤ bound) :
    log.take count = other.take count := by
  have shorter := congrArg (List.take count) equal
  simpa [List.take_take, Nat.min_eq_left inside] using shorter

theorem Comparable.symm
    {log other : List ε}
    (comparable : Comparable log other) :
    Comparable other log :=
  Or.symm comparable

/-- Comparable logs agree as far as both reach. -/
theorem Comparable.take_eq
    {log other : List ε}
    (comparable : Comparable log other)
    {count : Nat}
    (leftLong : count ≤ log.length)
    (rightLong : count ≤ other.length) :
    log.take count = other.take count := by
  rcases comparable with ⟨rest, rfl⟩ | ⟨rest, rfl⟩
  · rw [List.take_append_of_le_length leftLong]
  · rw [List.take_append_of_le_length rightLong]

/-- Prefixes of comparable logs are comparable. -/
theorem Comparable.of_isPrefix
    {log other left right : List ε}
    (comparable : Comparable log other)
    (leftPrefix : left <+: log)
    (rightPrefix : right <+: other) :
    Comparable left right := by
  rcases comparable with below | below
  · exact List.prefix_or_prefix_of_prefix (leftPrefix.trans below) rightPrefix
  · exact List.prefix_or_prefix_of_prefix leftPrefix (rightPrefix.trans below)

theorem Comparable.prefix_of_length_le
    {log other : List ε}
    (comparable : Comparable log other)
    (short : log.length ≤ other.length) :
    log <+: other := by
  rcases comparable with below | above
  · exact below
  · rw [above.eq_of_length_le short]

end

/-! ## Entries with a term -/

/-- Entries that carry a term. -/
class Tagged (ε : Type) where
  term : ε → Nat

variable {ε : Type} [Tagged ε]

/-- The term of the last entry, `0` for an empty log. -/
def lastTerm (log : List ε) : Nat :=
  (log.getLast?.map Tagged.term).getD 0

/-- `candidate` ends in a later term, or in the same one and is as long. -/
def UpToDate (candidate log : List ε) : Prop :=
  lastTerm log < lastTerm candidate ∨
    (lastTerm candidate = lastTerm log ∧ log.length ≤ candidate.length)

/-- How many leading entries of a batch are stored with the same term. -/
def matchLength : List ε → List ε → Nat
  | stored :: log, sent :: batch =>
      if Tagged.term stored = Tagged.term sent then
        matchLength log batch + 1
      else
        0
  | _, _ => 0

/-- Skip the entries of a batch that are stored with the same term after
position `prev`; from the first other one on, the batch replaces the rest. -/
def splice (log : List ε) (prev : Nat) (batch : List ε) : List ε :=
  let skipped := matchLength (log.drop prev) batch
  if skipped = batch.length then
    log
  else
    log.take (prev + skipped) ++ batch.drop skipped

/-- Both logs hold an entry of one term right before position `prev`. -/
def AgreeBefore (prev : Nat) (log other : List ε) : Prop :=
  prev = 0 ∨ ∃ stored sent, log[prev - 1]? = some stored ∧
    other[prev - 1]? = some sent ∧ Tagged.term stored = Tagged.term sent

/-- Entries at one position with one term are preceded by the same entries. -/
def Matching (log other : List ε) : Prop :=
  ∀ position stored sent, log[position]? = some stored →
    other[position]? = some sent → Tagged.term stored = Tagged.term sent →
    log.take (position + 1) = other.take (position + 1)

/-- Terms never decrease along a log. -/
def Sorted (log : List ε) : Prop :=
  log.Pairwise fun earlier later => Tagged.term earlier ≤ Tagged.term later

/-! ## Sorted logs -/

/-- Along a sorted log a later position has a later or equal term. -/
theorem Sorted.term_le
    {log : List ε}
    (sorted : Sorted log)
    {first second : Nat}
    {earlier later : ε}
    (earlierAt : log[first]? = some earlier)
    (laterAt : log[second]? = some later)
    (order : first ≤ second) :
    Tagged.term earlier ≤ Tagged.term later := by
  obtain ⟨firstInside, rfl⟩ := List.getElem?_eq_some_iff.mp earlierAt
  obtain ⟨secondInside, rfl⟩ := List.getElem?_eq_some_iff.mp laterAt
  rcases Nat.lt_or_eq_of_le order with before | rfl
  · exact List.pairwise_iff_getElem.mp sorted _ _ firstInside secondInside before
  · exact le_rfl

/-- A sorted log stays sorted when an entry of a later term is appended. -/
theorem Sorted.concat
    {log : List ε}
    (sorted : Sorted log)
    {entry : ε}
    (newest : ∀ stored ∈ log, Tagged.term stored ≤ Tagged.term entry) :
    Sorted (log ++ [entry]) := by
  unfold Sorted
  rw [List.pairwise_append]
  refine ⟨sorted, List.pairwise_singleton _ _, ?_⟩
  intro stored inside last isLast
  rw [List.mem_singleton.mp isLast]
  exact newest stored inside

/-- The last entry of a nonempty log carries its last term. -/
theorem lastTerm_eq
    {log : List ε}
    {entry : ε}
    (last : log[log.length - 1]? = some entry) :
    lastTerm log = Tagged.term entry := by
  unfold lastTerm
  rw [List.getLast?_eq_getElem?, last]
  rfl

/-- A log that ends in a positive term has a last entry. -/
theorem exists_last
    {log : List ε}
    (nonempty : log ≠ []) :
    ∃ entry, log[log.length - 1]? = some entry ∧
      lastTerm log = Tagged.term entry := by
  have positive := List.length_pos_iff.mpr nonempty
  refine ⟨log[log.length - 1], List.getElem?_eq_getElem _, ?_⟩
  exact lastTerm_eq (List.getElem?_eq_getElem _)

/-! ## Splicing a batch -/

theorem matchLength_le
    (log batch : List ε) :
    matchLength log batch ≤ batch.length := by
  induction log generalizing batch with
  | nil => simp [matchLength]
  | cons stored log inductionHypothesis =>
      cases batch with
      | nil => simp [matchLength]
      | cons sent batch =>
          have shorter := inductionHypothesis batch
          unfold matchLength
          split_ifs <;> simp [shorter]

theorem matchLength_le_left
    (log batch : List ε) :
    matchLength log batch ≤ log.length := by
  induction log generalizing batch with
  | nil => simp [matchLength]
  | cons stored log inductionHypothesis =>
      cases batch with
      | nil => simp [matchLength]
      | cons sent batch =>
          have shorter := inductionHypothesis batch
          unfold matchLength
          split_ifs <;> simp [shorter]

/-- Every skipped entry is stored with its term. -/
theorem term_eq_of_lt_matchLength
    {log batch : List ε}
    {position : Nat}
    (skipped : position < matchLength log batch) :
    ∃ stored sent, log[position]? = some stored ∧
      batch[position]? = some sent ∧
      Tagged.term stored = Tagged.term sent := by
  induction log generalizing batch position with
  | nil => simp [matchLength] at skipped
  | cons stored log inductionHypothesis =>
      cases batch with
      | nil => simp [matchLength] at skipped
      | cons sent batch =>
          unfold matchLength at skipped
          split_ifs at skipped with same
          · cases position with
            | zero => exact ⟨stored, sent, rfl, rfl, same⟩
            | succ position =>
                simpa using inductionHypothesis (Nat.succ_lt_succ_iff.mp skipped)
          · omega

/-- The first entry that is not skipped is not stored with its term. -/
theorem term_ne_at_matchLength
    {log batch : List ε}
    {stored sent : ε}
    (storedAt : log[matchLength log batch]? = some stored)
    (sentAt : batch[matchLength log batch]? = some sent) :
    Tagged.term stored ≠ Tagged.term sent := by
  induction log generalizing batch with
  | nil => simp at storedAt
  | cons first log inductionHypothesis =>
      cases batch with
      | nil => simp at sentAt
      | cons head batch =>
          unfold matchLength at storedAt sentAt
          split_ifs at storedAt sentAt with same
          · exact inductionHypothesis (by simpa using storedAt)
              (by simpa using sentAt)
          · cases storedAt
            cases sentAt
            exact same

/-- A batch is skipped as a whole when every entry of it is stored with its
term. -/
theorem matchLength_eq_length
    {log batch : List ε}
    (stored : ∀ (position : Nat) (sent : ε), batch[position]? = some sent →
      ∃ entry : ε, log[position]? = some entry ∧
        Tagged.term entry = Tagged.term sent) :
    matchLength log batch = batch.length := by
  apply Nat.le_antisymm (matchLength_le log batch)
  by_contra shorter
  have sentAt := List.getElem?_eq_getElem (Nat.lt_of_not_le shorter)
  obtain ⟨entry, storedAt, same⟩ := stored _ _ sentAt
  exact term_ne_at_matchLength storedAt sentAt same

/-- A splice leaves what stands before the batch. -/
theorem take_splice
    {log batch : List ε}
    {prev : Nat}
    (inside : prev ≤ log.length) :
    (splice log prev batch).take prev = log.take prev := by
  unfold splice
  simp only
  split_ifs
  · rfl
  · rw [List.take_append_of_le_length, List.take_take,
      Nat.min_eq_left (Nat.le_add_right _ _)]
    rw [List.length_take]
    omega

/-- At the position of a sent entry a splice holds an entry of its term: the
entry itself, or one that was stored there. -/
theorem exists_splice
    {log batch : List ε}
    {prev : Nat}
    (inside : prev ≤ log.length)
    {position : Nat}
    {sent : ε}
    (sentAt : batch[position]? = some sent) :
    ∃ entry, (splice log prev batch)[prev + position]? = some entry ∧
      Tagged.term entry = Tagged.term sent ∧
      (entry = sent ∨ log[prev + position]? = some entry) := by
  have reaches := matchLength_le_left (log.drop prev) batch
  rw [List.length_drop] at reaches
  have atBatch := (List.getElem?_eq_some_iff.mp sentAt).1
  by_cases early : position < matchLength (log.drop prev) batch
  · obtain ⟨stored, also, storedAt, alsoAt, sameTerm⟩ :=
      term_eq_of_lt_matchLength early
    rw [List.getElem?_drop] at storedAt
    rw [sentAt, Option.some.injEq] at alsoAt
    subst alsoAt
    refine ⟨stored, ?_, sameTerm, .inr storedAt⟩
    unfold splice
    simp only
    split_ifs with whole
    · exact storedAt
    · have kept : prev + position < (log.take
          (prev + matchLength (log.drop prev) batch)).length := by
        rw [List.length_take]
        omega
      rw [List.getElem?_append_left kept, List.getElem?_take_of_lt (by omega)]
      exact storedAt
  · have behind : (log.take
        (prev + matchLength (log.drop prev) batch)).length =
          prev + matchLength (log.drop prev) batch := by
      rw [List.length_take]
      omega
    refine ⟨sent, ?_, rfl, .inl rfl⟩
    unfold splice
    simp only
    rw [if_neg (by omega), List.getElem?_append_right (by omega), behind,
      List.getElem?_drop, ← sentAt]
    congr 1
    omega

/-- A splice holds the whole batch, when stored entries of one position and term
are the sent ones. -/
theorem getElem?_splice
    {log batch : List ε}
    {prev : Nat}
    (inside : prev ≤ log.length)
    (same : ∀ position stored sent, log[prev + position]? = some stored →
      batch[position]? = some sent → Tagged.term stored = Tagged.term sent →
      stored = sent)
    {position : Nat}
    {sent : ε}
    (sentAt : batch[position]? = some sent) :
    (splice log prev batch)[prev + position]? = some sent := by
  obtain ⟨entry, held, sameTerm, isSent | wasStored⟩ :=
    exists_splice inside sentAt
  · rw [← isSent]
    exact held
  · rw [← same position entry sent wasStored sentAt sameTerm]
    exact held

/-- Splicing a batch once more changes nothing. -/
theorem splice_splice
    {log batch : List ε}
    {prev : Nat}
    (inside : prev ≤ log.length) :
    splice (splice log prev batch) prev batch = splice log prev batch := by
  have whole : matchLength ((splice log prev batch).drop prev) batch =
      batch.length := by
    apply matchLength_eq_length
    intro position sent sentAt
    obtain ⟨entry, held, same, -⟩ := exists_splice inside sentAt
    refine ⟨entry, ?_, same⟩
    rw [List.getElem?_drop]
    exact held
  generalize splice log prev batch = spliced at whole
  unfold splice
  exact if_pos whole

/-- Matching logs that agree up to `prev` agree through all skipped entries. -/
theorem take_eq_through_skipped
    {log other : List ε}
    (matching : Matching log other)
    {prev : Nat}
    (agreed : log.take prev = other.take prev) :
    log.take (prev + matchLength (log.drop prev) (other.drop prev)) =
      other.take (prev + matchLength (log.drop prev) (other.drop prev)) := by
  cases skipped : matchLength (log.drop prev) (other.drop prev) with
  | zero => exact agreed
  | succ last =>
      obtain ⟨stored, sent, storedAt, sentAt, same⟩ :=
        term_eq_of_lt_matchLength (by rw [skipped]; exact Nat.lt_succ_self last)
      rw [List.getElem?_drop] at storedAt sentAt
      exact matching (prev + last) stored sent storedAt sentAt same

/-- On matching logs that agree up to `prev`, a splice keeps the log if it
extends the sender's, and makes it the sender's log otherwise. -/
theorem splice_of_take_eq
    {log other : List ε}
    (matching : Matching log other)
    {prev : Nat}
    (inside : prev ≤ other.length)
    (agreed : log.take prev = other.take prev) :
    (other <+: log ∧ splice log prev (other.drop prev) = log) ∨
      (¬ other <+: log ∧ splice log prev (other.drop prev) = other) := by
  have through := take_eq_through_skipped matching agreed
  have bounded := matchLength_le (log.drop prev) (other.drop prev)
  rw [List.length_drop] at bounded
  unfold splice
  rcases Nat.lt_or_eq_of_le bounded with partly | whole
  · right
    refine ⟨?_, ?_⟩
    · intro extending
      obtain ⟨sent, sentAt⟩ : ∃ sent, other[prev +
          matchLength (log.drop prev) (other.drop prev)]? = some sent :=
        ⟨_, List.getElem?_eq_getElem (by omega)⟩
      have storedAt := getElem?_of_isPrefix extending sentAt
      rw [← List.getElem?_drop] at sentAt storedAt
      exact term_ne_at_matchLength storedAt sentAt rfl
    · simp only [List.length_drop, List.drop_drop, through]
      rw [if_neg (Nat.ne_of_lt partly), List.take_append_drop]
  · left
    have total : prev + (other.length - prev) = other.length := by omega
    rw [whole, total, List.take_length] at through
    refine ⟨through ▸ List.take_prefix _ _, ?_⟩
    simp only [List.length_drop, whole, if_true]

/-- Logs that match and agree right before `prev` agree up to it. -/
theorem AgreeBefore.take_eq
    {log other : List ε}
    (matching : Matching log other)
    {prev : Nat}
    (agree : AgreeBefore prev log other) :
    log.take prev = other.take prev := by
  rcases agree with rfl | ⟨stored, sent, storedAt, sentAt, same⟩
  · simp
  · cases prev with
    | zero => simp
    | succ position => exact matching position stored sent storedAt sentAt same

/-- A splice from a matching log keeps the log if it extends the sender's and
makes it the sender's otherwise. -/
theorem splice_cases
    {log other : List ε}
    (matching : Matching log other)
    {prev : Nat}
    (inside : prev ≤ other.length)
    (agree : AgreeBefore prev log other) :
    (other <+: log ∧ splice log prev (other.drop prev) = log) ∨
      (¬ other <+: log ∧ splice log prev (other.drop prev) = other) :=
  splice_of_take_eq matching inside (agree.take_eq matching)

/-- A splice from a matching log holds the sender's log. -/
theorem prefix_splice
    {log other : List ε}
    (matching : Matching log other)
    {prev : Nat}
    (inside : prev ≤ other.length)
    (agree : AgreeBefore prev log other) :
    other <+: splice log prev (other.drop prev) := by
  rcases splice_cases matching inside agree with
    ⟨extended, kept⟩ | ⟨-, replaced⟩
  · rw [kept]
    exact extended
  · rw [replaced]

/-- Comparable logs match. -/
theorem Comparable.matching
    {log other : List ε}
    (comparable : Comparable log other) :
    Matching log other := by
  intro position stored sent storedAt sentAt _
  exact comparable.take_eq (List.getElem?_eq_some_iff.mp storedAt).1
    (List.getElem?_eq_some_iff.mp sentAt).1

/-- What a log has taken over from a sender stays when a batch of an earlier or
a later log of that sender is spliced in. -/
theorem take_splice_of_comparable
    {log other sender : List ε}
    (matching : Matching log other)
    (comparable : Comparable other sender)
    {prev count : Nat}
    (inside : prev ≤ other.length)
    (agree : AgreeBefore prev log other)
    (reached : count ≤ sender.length)
    (held : log.take count = sender.take count) :
    (splice log prev (other.drop prev)).take count = sender.take count := by
  rcases splice_cases matching inside agree with
    ⟨-, kept⟩ | ⟨differs, replaced⟩
  · rw [kept, held]
  · rw [replaced]
    rcases Nat.le_total count other.length with long | short
    · exact comparable.take_eq long reached
    · -- A shorter log of the sender is part of what is held.
      have isPart : other <+: sender.take count := by
        have below := comparable.prefix_of_length_le (short.trans reached)
        rw [List.prefix_take_iff]
        exact ⟨below, short⟩
      rw [← held] at isPart
      exact absurd (isPart.trans (List.take_prefix _ _)) differs

end Consensus
