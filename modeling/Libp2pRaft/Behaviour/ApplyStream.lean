import Libp2pRaft.Behaviour.Dispatch
import Libp2pRaft.Raft.View

/-!
# The apply stream

What one engine hands over since `new`: every index once, in order and without
gap, as long as batches count up from the position they are sent for.  The
behaviour reports the batches in the same order.
-/

namespace Libp2pRaft

open Consensus TransitionSystem

namespace RaftEngine

/-- The life of one engine since `new`, with everything it emitted. -/
def recording
    (config : RaftConfig)
    (storage : MemoryStorage)
    (now : Nat) : System (MemoryEngine × List Action) Call where
  init := (new config storage now, [])
  step := fun state call =>
    ((state.1.call call).1, state.2 ++ (state.1.call call).2)

/-- The batch of an AppendEntries counts up from the position it is sent for. -/
def CountsUp : Call → Prop
  | .rpc _ (.appendEntries _ _ prevLogIndex _ entries _) _ =>
      Consecutive (prevLogIndex + 1) entries
  | _ => True

instance (call : Call) : Decidable (CountsUp call) := by
  unfold CountsUp
  split
  · infer_instance
  · infer_instance

/-- The entries a call hands over are the ones in the log it leaves. -/
def HandsOverStored
    (state : MemoryEngine × List Action)
    (call : Call) : Prop :=
  ∀ entry ∈ appliedEntries (state.1.call call).2,
    (state.1.call call).1.storage.entry entry.index = some entry

/-- What the stream of a run looks like. -/
structure ApplyStream
    (state : MemoryEngine × List Action) : Prop where
  indices : (appliedEntries state.2).map LogEntry.index =
    List.range' 1 state.1.lastApplied
  applied : state.1.lastApplied = state.1.commitIndex

variable {self : MemoryEngine} {bound : Nat}
  {result : MemoryEngine × List Action}

/-- Entries handed over by an advance are in the log. -/
theorem Advances.stored
    (advances : Advances self bound result)
    {entry : LogEntry}
    (inside : entry ∈ appliedEntries result.2) :
    result.1.storage.entry entry.index = some entry := by
  rw [advances.applied] at inside
  have inLog : entry ∈ result.1.storage.entries :=
    List.mem_of_mem_drop (List.mem_of_mem_take inside)
  obtain ⟨position, atPosition⟩ := List.getElem?_of_mem inLog
  have index : entry.index = position + 1 := by
    rw [result.1.storage.contiguous.index_eq atPosition, Nat.add_comm]
  rw [index]
  exact (entry_succ result.1.storage position).trans atPosition

/-- An advance inside the log hands over exactly the indices it moves past. -/
theorem Advances.indices
    (advances : Advances self bound result)
    (applied : self.lastApplied = self.commitIndex)
    (inside : self.commitIndex < bound → bound ≤ result.1.storage.entries.length) :
    (appliedEntries result.2).map LogEntry.index =
        List.range' (self.lastApplied + 1)
          (result.1.lastApplied - self.lastApplied) ∧
      result.1.lastApplied = result.1.commitIndex ∧
      self.lastApplied ≤ result.1.lastApplied := by
  have moved : result.1.lastApplied = max self.commitIndex bound := by
    rw [advances.lastApplied, applied]
    omega
  refine ⟨?_, by rw [moved, advances.commitIndex], by omega⟩
  have consecutive := (result.1.storage.contiguous.drop self.lastApplied).take
    (max self.commitIndex bound - self.lastApplied)
  rw [Nat.add_comm 1] at consecutive
  rw [advances.applied]
  refine consecutive.trans (congrArg (List.range' (self.lastApplied + 1)) ?_)
  rw [List.length_take, List.length_drop, moved]
  rcases Nat.lt_or_ge self.commitIndex bound with larger | smaller
  · have short := inside larger
    omega
  · omega

/-- An accepted batch ends inside the log. -/
theorem le_length_storeEntries
    {prevLogIndex : Nat}
    {entries : List LogEntry}
    (inside : prevLogIndex ≤ self.storage.entries.length)
    (consecutive : Consecutive (prevLogIndex + 1) entries) :
    prevLogIndex + entries.length ≤
      (self.storeEntries prevLogIndex entries).storage.entries.length := by
  rw [← view_log, view_storeEntries _ inside consecutive]
  show _ ≤ (splice self.storage.entries prevLogIndex entries).length
  have left := matchLength_le_left (self.storage.entries.drop prevLogIndex)
    entries
  have right := matchLength_le (self.storage.entries.drop prevLogIndex) entries
  rw [List.length_drop] at left
  unfold splice
  simp only
  split_ifs with whole
  · omega
  · rw [List.length_append, List.length_take, List.length_drop]
    omega

/-- A call extends the stream by the indices it applies. -/
theorem Progress.indices
    {call : Call}
    (progress : Progress self call result)
    (applied : self.lastApplied = self.commitIndex)
    (countsUp : CountsUp call) :
    (appliedEntries result.2).map LogEntry.index =
        List.range' (self.lastApplied + 1)
          (result.1.lastApplied - self.lastApplied) ∧
      result.1.lastApplied = result.1.commitIndex ∧
      self.lastApplied ≤ result.1.lastApplied := by
  cases progress with
  | quiet _ _ sameCommit sameApplied silent =>
      rw [silent, sameApplied, sameCommit, Nat.sub_self]
      exact ⟨rfl, applied, le_rfl⟩
  | followed sender term leaderId prevLogIndex prevLogTerm entries leaderCommit
      now _ recent agreed stored following advances =>
      apply advances.indices applied
      intro _
      have known := ((prevOk_iff _).mp agreed).le_length
      have reaches := le_length_storeEntries known countsUp
      rw [stored]
      omega
  | committed sender matchIndex now index entry _ leading stillLeading
      sameStorage newer inside stored ownTerm replicated advances =>
      apply advances.indices applied
      intro _
      rw [sameStorage]
      exact inside

/-- The stream of every run is gap-free. -/
theorem applyStream
    (config : RaftConfig)
    (storage : MemoryStorage)
    (now : Nat)
    {calls : List Call}
    (countsUp : ∀ call ∈ calls, CountsUp call) :
    ApplyStream ((recording config storage now).run calls) := by
  induction calls using List.reverseRecOn with
  | nil => exact ⟨rfl, rfl⟩
  | append_singleton calls call inductionHypothesis =>
      have before := inductionHypothesis fun earlier inside =>
        countsUp earlier (List.mem_append_left _ inside)
      rw [System.run_concat]
      generalize (recording config storage now).run calls = state at before
      obtain ⟨indices, applied, grown⟩ :=
        (state.1.call_outcome call).progress.indices before.applied
          (countsUp call (List.mem_append_right _ (List.mem_singleton_self call)))
      refine ⟨?_, applied⟩
      obtain ⟨more, total⟩ := Nat.exists_eq_add_of_le grown
      simp only [recording, appliedEntries_append, List.map_append,
        before.indices, indices]
      rw [total, Nat.add_sub_cancel_left, Nat.add_comm state.1.lastApplied 1,
        List.range'_append_1]

/-- Entries are handed over as they are in the log. -/
theorem handsOverStored
    (state : MemoryEngine × List Action)
    (call : Call) :
    HandsOverStored state call := by
  intro entry inside
  cases (state.1.call_outcome call).progress with
  | quiet _ _ sameCommit sameApplied silent =>
      rw [silent] at inside
      contradiction
  | followed _ _ _ _ _ _ _ _ _ _ _ _ _ advances => exact advances.stored inside
  | committed _ _ _ _ _ _ _ _ _ _ _ _ _ _ advances =>
      exact advances.stored inside

/-- The entries handed over since `new` carry the indices `1` to `last_applied`
in order, each as it is in the log; `last_applied` is the commit index, which
never decreases; and the behaviour reports the batches in order. -/
theorem apply_stream_gap_free
    (config : RaftConfig)
    (storage : MemoryStorage)
    (now : Nat)
    (calls : List Call)
    (countsUp : ∀ call ∈ calls, CountsUp call) :
    (∀ past, past <+: calls →
      ApplyStream ((recording config storage now).run past)) ∧
    (recording config storage now).Along HandsOverStored calls ∧
    (recording config storage now).Along
      (fun before call =>
        before.1.commitIndex ≤ (before.1.call call).1.commitIndex) calls ∧
    (recording config storage now).Along
      (fun before call => ∀ (behaviour : RaftBehaviour MemoryStorage)
          (inboundFrom : Option (NodeId × Nat)) (later : Nat),
        committedBatches (behaviour.executeActions (before.1.call call).2
            inboundFrom later).pendingEvents =
          committedBatches behaviour.pendingEvents ++
            (before.1.call call).2.filterMap Action.batch)
      calls := by
  refine ⟨?_, ?_, ?_, ?_⟩
  · intro past isPast
    exact applyStream config storage now fun call inside =>
      countsUp call (isPast.subset inside)
  · intro past call isPast
    exact handsOverStored _ call
  · intro past call isPast
    exact (call_outcome _ call).commitIndex_le
  · intro past call isPast behaviour inboundFrom later
    exact behaviour.executeActions_committedBatches _ inboundFrom later

/-- Two batches from a leader and a conflicting one from its successor. -/
def conflictingLeaders : List Call :=
  [.rpc 2
    (.appendEntries 1 2 0 0
      [{ index := 1, term := 1, entryType := .command [1] },
        { index := 2, term := 1, entryType := .command [2] }] 1) 0,
    .rpc 3
      (.appendEntries 2 3 1 1
        [{ index := 2, term := 2, entryType := .command [3] }] 2) 0]

/-- The theorem applies to conflicting leaders. -/
theorem apply_stream_conflicting :
    (appliedEntries ((recording (.cfg 1 [1, 2, 3]) MemoryStorage.new 0).run
      conflictingLeaders).2).map LogEntry.index =
        List.range' 1 ((recording (.cfg 1 [1, 2, 3]) MemoryStorage.new 0).run
          conflictingLeaders).1.lastApplied :=
  ((apply_stream_gap_free (.cfg 1 [1, 2, 3]) MemoryStorage.new 0
    conflictingLeaders (by decide)).1 _ (List.prefix_refl _)).indices

end RaftEngine

end Libp2pRaft
