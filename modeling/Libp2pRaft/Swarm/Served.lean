import Libp2pRaft.Swarm.Steps
import Mathlib.Data.List.Perm.Basic

/-!
# The futures of a handler

A handler holds the sender of a channel exactly as long as a write future waits
for the response.  No two futures share a substream or a channel, and neither is
used again.
-/

namespace Libp2pRaft

/-- The futures of a handler against the frames written so far. -/
structure Served
    (written : List Frame)
    (conn : ConnectionId)
    (nextStream nextChannel : Nat)
    (responseTxs : Finset Nat)
    (inflight : List Task) : Prop where
  /-- A future waits exactly for the channels whose sender is held. -/
  waits : ∀ channelId, channelId ∈ responseTxs ↔
    ∃ stream id, .inboundWrite stream channelId id none ∈ inflight
  channels : (inflight.filterMap Task.channelId).Nodup
  streams : (inflight.map Task.stream).Nodup
  numbered : ∀ task ∈ inflight, ∀ channelId ∈ task.channelId,
    channelId < nextChannel
  own : ∀ task ∈ inflight,
    task.stream.conn = conn ∧ task.stream.number < nextStream
  /-- What was written used up its substream and its channel. -/
  used : ∀ frame ∈ written, frame.stream.conn = conn →
    frame.stream.number < nextStream ∧
      ∀ channelId ∈ frame.channelId, channelId < nextChannel
  /-- An inbound future did not write yet. -/
  unwritten : ∀ task ∈ inflight, ∀ channelId ∈ task.channelId,
    ∀ frame ∈ written, frame.stream ≠ task.stream ∧
      (frame.stream.conn = conn → frame.channelId ≠ some channelId)

/-- A future that waits for its response. -/
def Task.Waits : Task → Prop
  | .inboundWrite _ _ _ none => True
  | _ => False

namespace Served

variable {written : List Frame} {conn : ConnectionId}
  {nextStream nextChannel : Nat} {responseTxs : Finset Nat}
  {inflight others : List Task} {task : Task}

theorem nil (unused : ∀ frame ∈ written, frame.stream.conn ≠ conn) :
    Served written conn nextStream nextChannel ∅ [] where
  waits _ := by simp
  channels := List.nodup_nil
  streams := List.nodup_nil
  numbered := nofun
  own := nofun
  used frame inside here := absurd here (unused frame inside)
  unwritten := nofun

theorem perm
    (served : Served written conn nextStream nextChannel responseTxs inflight)
    (same : inflight.Perm others) :
    Served written conn nextStream nextChannel responseTxs others where
  waits channelId := by
    simp only [← same.mem_iff]
    exact served.waits channelId
  channels := (same.filterMap _).nodup served.channels
  streams := (same.map _).nodup served.streams
  numbered task inside := served.numbered task (same.mem_iff.mpr inside)
  own task inside := served.own task (same.mem_iff.mpr inside)
  used := served.used
  unwritten task inside := served.unwritten task (same.mem_iff.mpr inside)

/-- A future that waits for nothing may end. -/
theorem done
    (served : Served written conn nextStream nextChannel responseTxs
      (task :: others))
    (ready : ¬ task.Waits) :
    Served written conn nextStream nextChannel responseTxs others where
  waits channelId := by
    rw [served.waits]
    constructor
    · rintro ⟨stream, id, inside⟩
      rcases List.mem_cons.mp inside with rfl | among
      · exact absurd trivial ready
      · exact ⟨stream, id, among⟩
    · rintro ⟨stream, id, inside⟩
      exact ⟨stream, id, List.mem_cons_of_mem _ inside⟩
  channels := served.channels.sublist
    ((List.sublist_cons_self task others).filterMap _)
  streams := (List.nodup_cons.mp served.streams).2
  numbered other inside := served.numbered other (List.mem_cons_of_mem _ inside)
  own other inside := served.own other (List.mem_cons_of_mem _ inside)
  used := served.used
  unwritten other inside :=
    served.unwritten other (List.mem_cons_of_mem _ inside)

/-- No other future has the channel of one. -/
theorem channel_ne
    (served : Served written conn nextStream nextChannel responseTxs
      (task :: others))
    {channelId : Nat}
    (isChannel : task.channelId = some channelId) :
    ∀ other ∈ others, other.channelId ≠ some channelId := by
  intro other inside same
  have distinct := served.channels
  rw [List.filterMap_cons_some isChannel, List.nodup_cons] at distinct
  exact distinct.1 (List.mem_filterMap.mpr ⟨other, inside, same⟩)

theorem stream_ne
    (served : Served written conn nextStream nextChannel responseTxs
      (task :: others)) :
    ∀ other ∈ others, other.stream ≠ task.stream := by
  intro other inside same
  apply (List.nodup_cons.mp served.streams).1
  exact same ▸ List.mem_map_of_mem inside

/-- A future that waits for nothing joins on a new substream, and on a new
channel if it has one. -/
theorem join
    (served : Served written conn nextStream nextChannel responseTxs inflight)
    (task : Task)
    (isNew : task.stream = ⟨conn, nextStream⟩)
    (ready : ¬ task.Waits)
    {later : Nat}
    (grown : nextChannel ≤ later)
    (newer : ∀ channelId ∈ task.channelId,
      nextChannel ≤ channelId ∧ channelId < later) :
    Served written conn (nextStream + 1) later responseTxs (task :: inflight) where
  waits channelId := by
    rw [served.waits]
    constructor
    · rintro ⟨stream, id, inside⟩
      exact ⟨stream, id, List.mem_cons_of_mem _ inside⟩
    · rintro ⟨stream, id, inside⟩
      rcases List.mem_cons.mp inside with rfl | among
      · exact absurd trivial ready
      · exact ⟨stream, id, among⟩
  channels := by
    cases isChannel : task.channelId with
    | none =>
        rw [List.filterMap_cons_none isChannel]
        exact served.channels
    | some channelId =>
        rw [List.filterMap_cons_some isChannel, List.nodup_cons]
        refine ⟨fun inside => ?_, served.channels⟩
        obtain ⟨other, among, same⟩ := List.mem_filterMap.mp inside
        exact absurd (newer channelId isChannel).1
          (served.numbered other among channelId same).not_ge
  streams := by
    refine List.nodup_cons.mpr ⟨fun inside => ?_, served.streams⟩
    obtain ⟨other, among, same⟩ := List.mem_map.mp inside
    have older := (served.own other among).2
    rw [same, isNew] at older
    exact absurd older (lt_irrefl _)
  numbered other inside channelId isChannel := by
    rcases List.mem_cons.mp inside with rfl | among
    · exact (newer channelId isChannel).2
    · exact (served.numbered other among channelId isChannel).trans_le grown
  own other inside := by
    rcases List.mem_cons.mp inside with rfl | among
    · rw [isNew]
      exact ⟨rfl, Nat.lt_succ_self _⟩
    · exact (served.own other among).imp_right fun older =>
        older.trans (Nat.lt_succ_self _)
  used frame inside here := by
    obtain ⟨older, earlier⟩ := served.used frame inside here
    exact ⟨older.trans (Nat.lt_succ_self _), fun channelId isChannel =>
      (earlier channelId isChannel).trans_le grown⟩
  unwritten other inside channelId isChannel frame wrote := by
    rcases List.mem_cons.mp inside with rfl | among
    · constructor
      · intro same
        rw [isNew] at same
        have older := (served.used frame wrote (congrArg Stream.conn same)).1
        rw [same] at older
        exact absurd older (lt_irrefl _)
      · intro here same
        exact absurd (newer channelId isChannel).1
          ((served.used frame wrote here).2 channelId same).not_ge
    · exact served.unwritten other among channelId isChannel frame wrote

/-- A frame on another connection does not matter. -/
theorem elsewhere
    (served : Served written conn nextStream nextChannel responseTxs inflight)
    {frame : Frame}
    (isElsewhere : frame.stream.conn ≠ conn) :
    Served (written ++ [frame]) conn nextStream nextChannel responseTxs
      inflight where
  waits := served.waits
  channels := served.channels
  streams := served.streams
  numbered := served.numbered
  own := served.own
  used other inside here := by
    rcases List.mem_append.mp inside with old | last
    · exact served.used other old here
    · rw [List.mem_singleton.mp last] at here
      exact absurd here isElsewhere
  unwritten task inside channelId isChannel other wrote := by
    rcases List.mem_append.mp wrote with old | last
    · exact served.unwritten task inside channelId isChannel other old
    · rw [List.mem_singleton.mp last]
      refine ⟨fun same => isElsewhere ?_, fun here => absurd here isElsewhere⟩
      rw [same]
      exact (served.own task inside).1

/-- A future may end by writing its frame. -/
theorem write
    (served : Served written conn nextStream nextChannel responseTxs
      (task :: others))
    (ready : ¬ task.Waits)
    {frame : Frame}
    (onStream : frame.stream = task.stream)
    (onChannel : frame.channelId = task.channelId) :
    Served (written ++ [frame]) conn nextStream nextChannel responseTxs
      others := by
  have rest := served.done ready
  have inside : task ∈ task :: others := List.mem_cons_self ..
  refine ⟨rest.waits, rest.channels, rest.streams, rest.numbered, rest.own,
    ?_, ?_⟩
  · intro other wrote here
    rcases List.mem_append.mp wrote with old | last
    · exact served.used other old here
    · rw [List.mem_singleton.mp last, onStream, onChannel]
      exact ⟨(served.own task inside).2, served.numbered task inside⟩
  · intro other among channelId isChannel earlier wrote
    rcases List.mem_append.mp wrote with old | last
    · exact rest.unwritten other among channelId isChannel earlier old
    · rw [List.mem_singleton.mp last, onStream, onChannel]
      refine ⟨(served.stream_ne other among).symm, fun _ same => ?_⟩
      exact served.channel_ne same other among isChannel

/-- A future that wrote its request reads the reply on the same substream. -/
theorem wroteRequest
    {stream : Stream}
    {info : OutboundInfo}
    (served : Served written conn nextStream nextChannel responseTxs
      (.outboundWrite stream info :: others))
    (env : WireEnvelope) :
    Served (written ++ [⟨stream, none, env⟩]) conn nextStream nextChannel
      responseTxs (.outboundRead stream info :: others) := by
  have here := served.own (.outboundWrite stream info) (List.mem_cons_self ..)
  have rest : Served (written ++ [⟨stream, none, env⟩]) conn nextStream
      nextChannel responseTxs others :=
    served.write not_false rfl rfl
  refine ⟨?_, rest.channels, served.streams, ?_, ?_, rest.used, ?_⟩
  · intro channelId
    rw [rest.waits]
    simp
  · intro other inside
    rcases List.mem_cons.mp inside with rfl | among
    · exact nofun
    · exact rest.numbered other among
  · intro other inside
    rcases List.mem_cons.mp inside with rfl | among
    · exact here
    · exact rest.own other among
  · intro other inside
    rcases List.mem_cons.mp inside with rfl | among
    · exact nofun
    · exact rest.unwritten other among

/-- The sender of a channel is not held while its future waits for nothing. -/
theorem unheld
    {channelId : Nat}
    (served : Served written conn nextStream nextChannel responseTxs
      (task :: others))
    (isChannel : task.channelId = some channelId)
    (ready : ¬ task.Waits) :
    channelId ∉ responseTxs := by
  intro held
  obtain ⟨stream, id, inside⟩ := (served.waits channelId).mp held
  rcases List.mem_cons.mp inside with rfl | among
  · exact ready trivial
  · exact served.channel_ne isChannel _ among rfl

/-- A future that read a request leaves its substream and channel to one that
waits for the response. -/
theorem asked
    {stream : Stream}
    {channelId : Nat}
    (served : Served written conn nextStream nextChannel responseTxs
      (.inboundRead stream channelId :: others))
    (id : Nat) :
    Served written conn nextStream nextChannel (insert channelId responseTxs)
      (.inboundWrite stream channelId id none :: others) := by
  have inside : .inboundRead stream channelId ∈
      .inboundRead stream channelId :: others := List.mem_cons_self ..
  have rest := served.done not_false
  refine ⟨?_, served.channels, served.streams, ?_, ?_, served.used, ?_⟩
  · intro other
    rw [Finset.mem_insert, rest.waits]
    constructor
    · rintro (rfl | ⟨waiting, number, among⟩)
      · exact ⟨stream, id, List.mem_cons_self ..⟩
      · exact ⟨waiting, number, List.mem_cons_of_mem _ among⟩
    · rintro ⟨waiting, number, found⟩
      rcases List.mem_cons.mp found with same | among
      · injection same with _ sameChannel
        exact .inl sameChannel
      · exact .inr ⟨waiting, number, among⟩
  · intro other found
    rcases List.mem_cons.mp found with rfl | among
    · exact served.numbered (.inboundRead stream channelId) inside
    · exact rest.numbered other among
  · intro other found
    rcases List.mem_cons.mp found with rfl | among
    · exact served.own (.inboundRead stream channelId) inside
    · exact rest.own other among
  · intro other found
    rcases List.mem_cons.mp found with rfl | among
    · exact served.unwritten (.inboundRead stream channelId) inside
    · exact rest.unwritten other among

/-- A future that gets its response waits no longer. -/
theorem received
    (served : Served written conn nextStream nextChannel responseTxs inflight)
    (channelId correlationId : Nat)
    (msg : RaftMessage) :
    Served written conn nextStream nextChannel (responseTxs.erase channelId)
      (inflight.map (Task.receive channelId correlationId msg)) where
  waits other := by
    rw [Finset.mem_erase, served.waits]
    constructor
    · rintro ⟨different, stream, id, inside⟩
      refine ⟨stream, id, List.mem_map.mpr ⟨_, inside, ?_⟩⟩
      exact if_neg different
    · rintro ⟨stream, id, inside⟩
      obtain ⟨old, among, isOld⟩ := List.mem_map.mp inside
      rcases old.receive_cases channelId correlationId msg with
        same | ⟨waiting, number, rfl, received⟩
      · rw [same] at isOld
        subst isOld
        refine ⟨?_, stream, id, among⟩
        rintro rfl
        simp [Task.receive] at same
      · rw [received] at isOld
        injection isOld
        contradiction
  channels := by
    have same : Task.channelId ∘ Task.receive channelId correlationId msg =
        Task.channelId := by
      funext task
      exact Task.channelId_receive ..
    rw [List.filterMap_map, same]
    exact served.channels
  streams := by
    have same : Task.stream ∘ Task.receive channelId correlationId msg =
        Task.stream := by
      funext task
      exact Task.stream_receive ..
    rw [List.map_map, same]
    exact served.streams
  numbered task inside := by
    obtain ⟨old, among, rfl⟩ := List.mem_map.mp inside
    rw [Task.channelId_receive]
    exact served.numbered old among
  own task inside := by
    obtain ⟨old, among, rfl⟩ := List.mem_map.mp inside
    rw [Task.stream_receive]
    exact served.own old among
  used := served.used
  unwritten task inside := by
    obtain ⟨old, among, rfl⟩ := List.mem_map.mp inside
    rw [Task.channelId_receive, Task.stream_receive]
    exact served.unwritten old among

end Served

end Libp2pRaft
