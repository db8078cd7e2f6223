import Libp2pRaft.Swarm.Inbound

/-!
# A response on its way to its substream

From the queue of the behaviour to the frame on the substream, the response to a
request is in one place at a time.  Once it is written, or failed to be written,
substream and channel are spent.
-/

namespace Libp2pRaft

/-- A frame is on a substream, or on a channel of the same connection. -/
def Frame.On (frame : Frame) (stream : Stream) (channelId : Nat) : Prop :=
  frame.stream = stream ∨
    frame.stream.conn = stream.conn ∧ frame.channelId = some channelId

instance (frame : Frame) (stream : Stream) (channelId : Nat) :
    Decidable (frame.On stream channelId) :=
  inferInstanceAs (Decidable (_ ∨ _))

namespace Answer

variable (self : Answer) (stream : Stream)

/-- The frame that carries a response. -/
def frame : Frame :=
  ⟨stream, some self.channelId, ⟨self.correlationId, self.msg⟩⟩

/-- The command that hands a response to its handler. -/
def command : FromBehaviour :=
  .sendResponse self.channelId self.correlationId self.msg

/-- The future that waits for a response. -/
def waiter : Task :=
  .inboundWrite stream self.channelId self.correlationId none

/-- The future that writes a response. -/
def writer : Task :=
  .inboundWrite stream self.channelId self.correlationId
    (some (self.correlationId, self.msg))

end Answer

namespace Task

variable {reply : OutboundInfo → WireEnvelope → Prop}
  {responseTxs : Finset Nat} {task next : Task} {wrote read : Option Frame}
  {refused : Option Stream} {result : Task ⊕ IoOutcome}

/-- A future that goes on keeps its substream and its channel. -/
theorem Went.place_next
    (went : task.Went reply responseTxs (.inl next) wrote read refused) :
    next.stream = task.stream ∧ next.channelId = task.channelId := by
  cases went with
  | requestWritten => exact ⟨rfl, rfl⟩

/-- A future writes to its own substream and channel. -/
theorem Went.place_wrote
    (went : task.Went reply responseTxs result wrote read refused) :
    ∀ frame ∈ wrote,
      frame.stream = task.stream ∧ frame.channelId = task.channelId := by
  intro frame isFrame
  cases went with
  | requestWritten =>
      injection isFrame with same
      exact same ▸ ⟨rfl, rfl⟩
  | responseWritten =>
      injection isFrame with same
      exact same ▸ ⟨rfl, rfl⟩
  | _ => contradiction

end Task

namespace Connection

variable {reply : OutboundInfo → WireEnvelope → Prop} {conn : ConnectionId}
  {before after : Connection} {wrote read : Option Frame}
  {refused : Option Stream} {stream : Stream} {channelId : Nat}

/-- A substream and a channel that were in use and have no future any more. -/
structure Spent
    (connection : Connection)
    (stream : Stream)
    (channelId : Nat) : Prop where
  older : stream.number < connection.nextStream
  earlier : channelId < connection.handler.inboundChannelId
  free : ∀ task ∈ connection.handler.inflight,
    task.stream ≠ stream ∧ task.channelId ≠ some channelId

/-- The futures after what one of them ended with. -/
theorem finish_inflight
    {task : Task}
    {outcome : IoOutcome}
    {position : Nat}
    (running : before.handler.inflight[position]? = some task)
    (went : task.Went reply before.handler.responseTxs (.inr outcome) wrote read
      refused) :
    ∀ other ∈ ({ before.handler with
        inflight := before.handler.inflight.eraseIdx position }.finish
          task.exchange outcome).inflight,
      other ∈ before.handler.inflight.eraseIdx position ∨
        other.stream = task.stream ∧ other.channelId = task.channelId := by
  intro other inside
  cases went with
  | requestRead =>
      rcases List.mem_append.mp inside with old | new
      · exact .inl old
      · rw [List.mem_singleton.mp new]
        exact .inr ⟨rfl, rfl⟩
  | _ => exact .inl inside

/-- What is spent stays spent, and no frame is written there. -/
theorem Spent.turn
    (spent : before.Spent stream channelId)
    (turn : before.Turn reply conn after wrote read refused) :
    after.Spent stream channelId ∧
      ∀ frame ∈ wrote, frame.stream ≠ stream ∧
        frame.channelId ≠ some channelId := by
  have others : ∀ position,
      ∀ task ∈ before.handler.inflight.eraseIdx position,
        task.stream ≠ stream ∧ task.channelId ≠ some channelId :=
    fun _ task inside => spent.free task (List.mem_of_mem_eraseIdx inside)
  cases turn with
  | idle => exact ⟨spent, nofun⟩
  | requested => exact ⟨⟨spent.older, spent.earlier, spent.free⟩, nofun⟩
  | responded other correlationId msg rest commands waits =>
      refine ⟨⟨spent.older, spent.earlier, ?_⟩, nofun⟩
      intro task inside
      obtain ⟨old, among, rfl⟩ := List.mem_map.mp inside
      rw [Task.stream_receive, Task.channelId_receive]
      exact spent.free old among
  | unknown => exact ⟨⟨spent.older, spent.earlier, spent.free⟩, nofun⟩
  | accepted =>
      refine ⟨⟨spent.older.trans (Nat.lt_succ_self _),
        spent.earlier.trans (Nat.lt_succ_self _), ?_⟩, nofun⟩
      intro task inside
      rcases List.mem_append.mp inside with old | new
      · exact spent.free task old
      · rw [List.mem_singleton.mp new]
        refine ⟨?_, ?_⟩
        · rintro rfl
          exact absurd spent.older (lt_irrefl _)
        · rintro ⟨⟩
          exact absurd spent.earlier (lt_irrefl _)
  | opened info position asked =>
      refine ⟨⟨spent.older.trans (Nat.lt_succ_self _), spent.earlier, ?_⟩, nofun⟩
      intro task inside
      rcases List.mem_append.mp inside with old | new
      · exact spent.free task old
      · rw [List.mem_singleton.mp new]
        refine ⟨?_, nofun⟩
        rintro rfl
        exact absurd spent.older (lt_irrefl _)
  | openFailed => exact ⟨⟨spent.older, spent.earlier, spent.free⟩, nofun⟩
  | reported => exact ⟨⟨spent.older, spent.earlier, spent.free⟩, nofun⟩
  | asked => exact ⟨⟨spent.older, spent.earlier, spent.free⟩, nofun⟩
  | continued task next position wrote read refused running went =>
      have here := spent.free task (List.mem_of_getElem? running)
      refine ⟨⟨spent.older, spent.earlier, ?_⟩, ?_⟩
      · intro other inside
        rcases List.mem_append.mp inside with old | new
        · exact others position other old
        · rw [List.mem_singleton.mp new, went.place_next.1, went.place_next.2]
          exact here
      · intro frame isFrame
        rw [(went.place_wrote frame isFrame).1, (went.place_wrote frame isFrame).2]
        exact here
  | finished task outcome position wrote read refused running went =>
      have here := spent.free task (List.mem_of_getElem? running)
      refine ⟨⟨spent.older, ?_, ?_⟩, ?_⟩
      · cases went with
        | _ => exact spent.earlier
      · intro other inside
        rcases finish_inflight running went other inside with old | ⟨same, also⟩
        · exact others position other old
        · rw [same, also]
          exact here
      · intro frame isFrame
        rw [(went.place_wrote frame isFrame).1, (went.place_wrote frame isFrame).2]
        exact here

theorem mem_finish
    {handler : RaftHandler}
    {task : Task}
    (inside : task ∈ handler.inflight)
    (exchange : Exchange)
    (outcome : IoOutcome) :
    task ∈ (handler.finish exchange outcome).inflight := by
  cases outcome with
  | outboundDone => exact inside
  | inboundRead => exact List.mem_append_left _ inside
  | inboundWritten => exact inside
  | failed correlationId =>
      cases correlationId with
      | none => exact inside
      | some id => exact inside

/-- A future waits for the response, which is in a queue or on its way. -/
structure Awaits
    (connection : Connection)
    (queue : List Answer)
    (stream : Stream)
    (answer : Answer) : Prop where
  waits : answer.waiter stream ∈ connection.handler.inflight
  coming : answer ∈ queue ∨ answer.command ∈ connection.commands

section

variable {answered : List Nat} {written heard : List Frame}
  {queue : List Answer} {answer : Answer}

theorem Inbound.token
    (inbound : before.Inbound answered written heard conn)
    (isToken : ∀ answer ∈ queue, answer.conn = conn →
      answer.channelId ∈ answered)
    (isHere : answer.conn = conn)
    (coming : answer ∈ queue ∨ answer.command ∈ before.commands) :
    answer.channelId ∈ before.handler.responseTxs := by
  apply inbound.held
  rw [mem_tokens]
  rcases coming with queued | commanded
  · exact .inr (.inr (isToken answer queued isHere))
  · exact .inr (.inl ⟨_, _, commanded⟩)

/-- The command on a channel is the response to it. -/
theorem Inbound.command_eq
    (inbound : before.Inbound answered written heard conn)
    (isToken : ∀ answer ∈ queue, answer.conn = conn →
      answer.channelId ∈ answered)
    (isHere : answer.conn = conn)
    (coming : answer ∈ queue ∨ answer.command ∈ before.commands)
    {correlationId : Nat}
    {msg : RaftMessage}
    {rest : List FromBehaviour}
    (commands : before.commands =
      .sendResponse answer.channelId correlationId msg :: rest) :
    answer.correlationId = correlationId ∧ answer.msg = msg := by
  have once := inbound.once
  have isChannel : (FromBehaviour.sendResponse answer.channelId correlationId
      msg).channelId = some answer.channelId := rfl
  rw [tokens, commands, List.filterMap_cons_some isChannel,
    List.cons_append] at once
  have alone := (List.nodup_cons.mp (List.nodup_append.mp once).2.1).1
  rw [List.mem_append, not_or] at alone
  rcases coming with queued | commanded
  · exact absurd (isToken answer queued isHere) alone.2
  · rw [commands, List.mem_cons] at commanded
    rcases commanded with same | among
    · injection same with _ sameId sameMsg
      exact ⟨sameId, sameMsg⟩
    · refine absurd ?_ alone.1
      exact List.mem_filterMap.mpr ⟨answer.command, among, isChannel⟩

/-- A response that is awaited stays so until its future has it. -/
theorem Awaits.turn
    (awaits : before.Awaits queue stream answer)
    (inbound : before.Inbound answered written heard conn)
    (isToken : ∀ answer ∈ queue, answer.conn = conn →
      answer.channelId ∈ answered)
    (isHere : answer.conn = conn)
    (turn : before.Turn reply conn after wrote read refused) :
    after.Awaits queue stream answer ∨
      answer.writer stream ∈ after.handler.inflight := by
  have held := inbound.token isToken isHere awaits.coming
  have left : ∀ {command rest}, before.commands = command :: rest →
      command ≠ answer.command →
        answer ∈ queue ∨ answer.command ∈ rest := by
    intro command rest commands other
    apply awaits.coming.imp_right
    rw [commands, List.mem_cons]
    exact fun inside => inside.resolve_left other.symm
  cases turn with
  | idle => exact .inl awaits
  | requested info rest commands =>
      exact .inl ⟨awaits.waits, left commands nofun⟩
  | responded channelId correlationId msg rest commands waits =>
      by_cases same : answer.channelId = channelId
      · subst same
        obtain ⟨rfl, rfl⟩ :=
          inbound.command_eq isToken isHere awaits.coming commands
        exact .inr (List.mem_map.mpr ⟨_, awaits.waits, if_pos rfl⟩)
      · refine .inl ⟨List.mem_map.mpr ⟨_, awaits.waits, if_neg same⟩,
          left commands ?_⟩
        intro isCommand
        injection isCommand with sameChannel
        exact same sameChannel.symm
  | unknown channelId correlationId msg rest error commands closed =>
      refine absurd (inbound.held channelId ?_) closed
      rw [mem_tokens, commands]
      exact .inr (.inl ⟨_, _, List.mem_cons_self ..⟩)
  | accepted =>
      exact .inl ⟨List.mem_append_left _ awaits.waits, awaits.coming⟩
  | opened =>
      exact .inl ⟨List.mem_append_left _ awaits.waits, awaits.coming⟩
  | openFailed => exact .inl ⟨awaits.waits, awaits.coming⟩
  | reported => exact .inl ⟨awaits.waits, awaits.coming⟩
  | asked => exact .inl ⟨awaits.waits, awaits.coming⟩
  | continued task next position wrote read refused running went =>
      refine .inl ⟨List.mem_append_left _ ?_, awaits.coming⟩
      apply waiting_of_perm (perm_cons_eraseIdx running) ?_ _ awaits.waits trivial
      cases went with
      | requestWritten => exact not_false
  | finished task outcome position wrote read refused running went =>
      refine .inl ⟨mem_finish ?_ _ _, awaits.coming⟩
      have split := perm_cons_eraseIdx running
      rcases List.mem_cons.mp (split.mem_iff.mp awaits.waits) with rfl | among
      · cases went with
        | cancelled stream channelId id closed => exact absurd held closed
      · exact among

/-- A future that has its response keeps it until the frame is written or the
substream failed.  Then substream and channel are spent. -/
theorem Inbound.writer_turn
    (inbound : before.Inbound answered written heard conn)
    (writes : answer.writer stream ∈ before.handler.inflight)
    (turn : before.Turn reply conn after wrote read refused) :
    answer.writer stream ∈ after.handler.inflight ∨
      after.Spent stream answer.channelId ∧
        (wrote = some (answer.frame stream) ∨
          wrote = none ∧ refused = some stream) := by
  cases turn with
  | idle => exact .inl writes
  | requested => exact .inl writes
  | responded => exact .inl (List.mem_map.mpr ⟨_, writes, rfl⟩)
  | unknown => exact .inl writes
  | accepted => exact .inl (List.mem_append_left _ writes)
  | opened => exact .inl (List.mem_append_left _ writes)
  | openFailed => exact .inl writes
  | reported => exact .inl writes
  | asked => exact .inl writes
  | continued task next position wrote read refused running went =>
      refine .inl (List.mem_append_left _ ?_)
      have split := perm_cons_eraseIdx running
      rcases List.mem_cons.mp (split.mem_iff.mp writes) with rfl | among
      · cases went
      · exact among
  | finished task outcome position wrote read refused running went =>
      have split := perm_cons_eraseIdx running
      rcases List.mem_cons.mp (split.mem_iff.mp writes) with rfl | among
      · have served := inbound.served.perm split
        have spent : ∀ task ∈ before.handler.inflight.eraseIdx position,
            task.stream ≠ stream ∧ task.channelId ≠ some answer.channelId :=
          fun task inside => ⟨served.stream_ne task inside,
            served.channel_ne rfl task inside⟩
        have older := (inbound.served.own _ writes).2
        have earlier := inbound.served.numbered _ writes answer.channelId rfl
        cases went with
        | responseWritten => exact .inr ⟨⟨older, earlier, spent⟩, .inl rfl⟩
        | responseRefused =>
            exact .inr ⟨⟨older, earlier, spent⟩, .inr ⟨rfl, rfl⟩⟩
      · exact .inl (mem_finish among _ _)

end

end Connection

namespace Swarm

open RaftBehaviour

/-- The frames written to a substream, or on a channel of its connection. -/
def framesOn
    (self : Swarm)
    (stream : Stream)
    (channelId : Nat) : List Frame :=
  self.written.filter fun frame => decide (frame.On stream channelId)

/-- How far a response got: it is awaited, it is with its future, its frame is
written, its substream failed, or its connection closed. -/
inductive Delivery
    (state : Swarm)
    (stream : Stream)
    (answer : Answer) : Prop
  | awaited (connection : Connection) :
      state.connections.lookup stream.conn = some connection →
      connection.Awaits state.behaviour.answers stream answer →
      Delivery state stream answer
  | sent (connection : Connection) :
      state.connections.lookup stream.conn = some connection →
      answer.writer stream ∈ connection.handler.inflight →
      Delivery state stream answer
  | written (connection : Connection) :
      state.connections.lookup stream.conn = some connection →
      connection.Spent stream answer.channelId →
      state.framesOn stream answer.channelId = [answer.frame stream] →
      Delivery state stream answer
  | refused (connection : Connection) :
      state.connections.lookup stream.conn = some connection →
      connection.Spent stream answer.channelId →
      state.framesOn stream answer.channelId = [] →
      stream ∈ state.refused →
      Delivery state stream answer
  | closed :
      state.connections.lookup stream.conn = none →
      stream.conn < state.nextConnection →
      (state.framesOn stream answer.channelId = [] ∨
        state.framesOn stream answer.channelId = [answer.frame stream]) →
      Delivery state stream answer

variable {reply : OutboundInfo → WireEnvelope → Prop}
  {before after state : Swarm} {input : Input} {stream : Stream}
  {channelId : Nat} {answer : Answer}

/-- As long as a future is on a substream and a channel, nothing was written
there. -/
theorem Inbound.framesOn_eq_nil
    (inbound : Inbound state)
    {connection : Connection}
    (isOpen : state.connections.lookup stream.conn = some connection)
    {task : Task}
    (running : task ∈ connection.handler.inflight)
    (onStream : task.stream = stream)
    (onChannel : task.channelId = some channelId) :
    state.framesOn stream channelId = [] := by
  rw [framesOn, List.filter_eq_nil_iff]
  intro frame wrote isOn
  obtain ⟨other, free⟩ := (inbound.connections _ _ isOpen).served.unwritten task
    running channelId onChannel frame wrote
  rcases of_decide_eq_true isOn with same | ⟨here, same⟩
  · exact other (same.trans onStream.symm)
  · exact free here same

/-- A response has no frame, or the one that carries it. -/
theorem Delivery.framesOn
    (delivery : Delivery state stream answer)
    (inbound : Inbound state) :
    state.framesOn stream answer.channelId = [] ∨
      state.framesOn stream answer.channelId = [answer.frame stream] := by
  cases delivery with
  | awaited connection isOpen awaits =>
      exact .inl (inbound.framesOn_eq_nil isOpen awaits.waits rfl rfl)
  | sent connection isOpen writes =>
      exact .inl (inbound.framesOn_eq_nil isOpen writes rfl rfl)
  | written connection isOpen spent frames => exact .inr frames
  | refused connection isOpen spent frames => exact .inl frames
  | closed gone older frames => exact frames

theorem framesOn_append
    {wrote : Option Frame}
    (elsewhere : ∀ frame ∈ wrote, ¬ frame.On stream channelId) :
    (before.written ++ wrote.toList).filter
        (fun frame => decide (frame.On stream channelId)) =
      before.framesOn stream channelId := by
  rw [List.filter_append, Swarm.framesOn]
  apply List.append_right_eq_self.mpr
  rw [List.filter_eq_nil_iff]
  intro frame inside isOn
  exact elsewhere frame (Option.mem_toList.mp inside) (of_decide_eq_true isOn)

/-- A step that leaves the handler of a connection alone, and takes responses at
most from the queue to the commands, does not matter. -/
theorem Delivery.kept
    (delivery : Delivery before stream answer)
    (frames : after.framesOn stream answer.channelId =
      before.framesOn stream answer.channelId)
    (refused : before.refused ⊆ after.refused)
    (grown : before.nextConnection ≤ after.nextConnection)
    (gone : before.connections.lookup stream.conn = none →
      stream.conn < before.nextConnection →
        after.connections.lookup stream.conn = none)
    (kept : ∀ connection,
      before.connections.lookup stream.conn = some connection →
        ∃ changed, after.connections.lookup stream.conn = some changed ∧
          changed.handler = connection.handler ∧
          changed.nextStream = connection.nextStream ∧
          (answer ∈ before.behaviour.answers ∨
              answer.command ∈ connection.commands →
            answer ∈ after.behaviour.answers ∨
              answer.command ∈ changed.commands)) :
    Delivery after stream answer := by
  have spent : ∀ {connection changed : Connection},
      changed.handler = connection.handler →
      changed.nextStream = connection.nextStream →
      connection.Spent stream answer.channelId →
        changed.Spent stream answer.channelId := by
    intro connection changed handler nextStream spent
    refine ⟨?_, ?_, ?_⟩
    · rw [nextStream]
      exact spent.older
    · rw [handler]
      exact spent.earlier
    · rw [handler]
      exact spent.free
  cases delivery with
  | awaited connection isOpen awaits =>
      obtain ⟨changed, isThere, handler, -, coming⟩ := kept connection isOpen
      exact .awaited changed isThere ⟨handler ▸ awaits.waits,
        coming awaits.coming⟩
  | sent connection isOpen writes =>
      obtain ⟨changed, isThere, handler, -⟩ := kept connection isOpen
      exact .sent changed isThere (handler ▸ writes)
  | written connection isOpen used wrote =>
      obtain ⟨changed, isThere, handler, nextStream, -⟩ := kept connection isOpen
      exact .written changed isThere (spent handler nextStream used)
        (frames.trans wrote)
  | refused connection isOpen used wrote failed =>
      obtain ⟨changed, isThere, handler, nextStream, -⟩ := kept connection isOpen
      exact .refused changed isThere (spent handler nextStream used)
        (frames.trans wrote) (refused failed)
  | closed isClosed older wrote =>
      refine .closed (gone isClosed older) (older.trans_le grown) ?_
      rw [frames]
      exact wrote

/-- The connection takes a turn. -/
theorem Delivery.turned
    (delivery : Delivery before stream answer)
    (inbound : Inbound before)
    (isHere : answer.conn = stream.conn)
    {connection changed : Connection}
    {wrote read : Option Frame}
    {refused : Option Stream}
    (isOpen : before.connections.lookup stream.conn = some connection)
    (turn : connection.Turn reply stream.conn changed wrote read refused) :
    Delivery { before with
      connections := before.connections.insert stream.conn changed
      written := before.written ++ wrote.toList
      heard := before.heard ++ read.toList
      refused := before.refused ++ refused.toList } stream answer := by
  have here := inbound.connections stream.conn connection isOpen
  have isThere : (before.connections.insert stream.conn changed).lookup
      stream.conn = some changed := AList.lookup_insert _
  have silent : connection.Spent stream answer.channelId →
      ∀ frame ∈ wrote, ¬ frame.On stream answer.channelId := by
    intro spent frame isFrame
    obtain ⟨other, free⟩ := (spent.turn turn).2 frame isFrame
    rintro (same | ⟨-, same⟩)
    · exact other same
    · exact free same
  have isToken : ∀ other ∈ before.behaviour.answers, other.conn = stream.conn →
      other.channelId ∈ before.behaviour.answeredOn stream.conn :=
    fun other queued isHere =>
      List.mem_filterMap.mpr ⟨other, queued, if_pos isHere⟩
  cases delivery with
  | awaited found isFound awaits =>
      obtain rfl := Option.some.inj (isFound.symm.trans isOpen)
      rcases awaits.turn here isToken isHere turn with later | writes
      · exact .awaited changed isThere later
      · exact .sent changed isThere writes
  | sent found isFound writes =>
      obtain rfl := Option.some.inj (isFound.symm.trans isOpen)
      have nothing := inbound.framesOn_eq_nil isFound writes rfl rfl
      rcases here.writer_turn writes turn with
        later | ⟨spent, rfl | ⟨rfl, rfl⟩⟩
      · exact .sent changed isThere later
      · refine .written changed isThere spent ?_
        have isOn : (answer.frame stream).On stream answer.channelId := .inl rfl
        rw [Swarm.framesOn, List.filter_append, ← Swarm.framesOn, nothing]
        simp [isOn]
      · refine .refused changed isThere spent ?_
          (List.mem_append_right _ (List.mem_singleton_self _))
        exact (framesOn_append fun _ isFrame =>
          absurd isFrame (Option.not_mem_none _)).trans nothing
  | written found isFound spent frames =>
      obtain rfl := Option.some.inj (isFound.symm.trans isOpen)
      exact .written changed isThere (spent.turn turn).1
        ((framesOn_append (silent spent)).trans frames)
  | refused found isFound spent frames failed =>
      obtain rfl := Option.some.inj (isFound.symm.trans isOpen)
      exact .refused changed isThere (spent.turn turn).1
        ((framesOn_append (silent spent)).trans frames)
        (List.mem_append_left _ failed)
  | closed gone =>
      rw [isOpen] at gone
      contradiction

/-- A response in the queue is taken out of it, or stays. -/
theorem mem_answers_popped
    {middle behaviour : MemoryBehaviour}
    {event : ToSwarm}
    (moved : Moved state.behaviour middle [])
    (popped : Popped middle behaviour event)
    (queued : answer ∈ state.behaviour.answers) :
    event.answer = some answer ∨ answer ∈ behaviour.answers := by
  have same : state.behaviour.answers =
      event.answer.toList ++ behaviour.answers := by
    rw [← popped.answers, moved.answers, List.append_nil]
  rw [same, List.mem_append, Option.mem_toList] at queued
  exact queued

/-- An event that hands over a response goes to its connection, and carries its
command. -/
theorem eq_of_answer
    {peer : PeerId}
    {handler : NotifyHandler}
    {command : FromBehaviour}
    (isAnswer : (ToSwarm.notifyHandler peer handler command).answer =
      some answer) :
    handler = .one answer.conn ∧ command = answer.command := by
  cases handler with
  | any => contradiction
  | one conn =>
      cases command with
      | sendRequest => contradiction
      | sendResponse channelId correlationId msg =>
          injection isAnswer with same
          rw [← same]
          exact ⟨rfl, rfl⟩

/-- A connection that keeps its handler does not matter, as long as a response
that is awaited keeps coming. -/
theorem Delivery.replaced
    (delivery : Delivery before stream answer)
    {behaviour : MemoryBehaviour}
    {conn : ConnectionId}
    {connection changed : Connection}
    (isOpen : before.connections.lookup conn = some connection)
    (handler : changed.handler = connection.handler)
    (nextStream : changed.nextStream = connection.nextStream)
    (here : stream.conn = conn →
      answer ∈ before.behaviour.answers ∨
          answer.command ∈ connection.commands →
        answer ∈ behaviour.answers ∨ answer.command ∈ changed.commands)
    (elsewhere : stream.conn ≠ conn →
      answer ∈ before.behaviour.answers → answer ∈ behaviour.answers) :
    Delivery { before with
      behaviour := behaviour
      connections := before.connections.insert conn changed } stream answer := by
  by_cases same : stream.conn = conn
  · refine delivery.kept rfl (List.Subset.refl _) le_rfl ?_ ?_
    · intro gone
      rw [same, isOpen] at gone
      contradiction
    · intro found isFound
      rw [same, isOpen] at isFound
      obtain rfl := Option.some.inj isFound
      refine ⟨changed, ?_, handler, nextStream, here same⟩
      rw [same]
      exact AList.lookup_insert _
  · have still : (before.connections.insert conn changed).lookup stream.conn =
        before.connections.lookup stream.conn := AList.lookup_insert_ne same
    refine delivery.kept rfl (List.Subset.refl _) le_rfl ?_ ?_
    · intro gone _
      exact still.trans gone
    · intro found isFound
      exact ⟨found, still.trans isFound, rfl, rfl,
        Or.imp_left (elsewhere same)⟩

/-- A handler takes the front of the queue. -/
theorem Delivery.taken
    (delivery : Delivery before stream answer)
    (isHere : answer.conn = stream.conn)
    {middle behaviour : MemoryBehaviour}
    {peer : PeerId}
    {handler : NotifyHandler}
    {command : FromBehaviour}
    {conn : ConnectionId}
    {connection : Connection}
    (moved : Moved before.behaviour middle [])
    (popped : Popped middle behaviour (.notifyHandler peer handler command))
    (isOpen : before.connections.lookup conn = some connection)
    (matching : handler = .one conn ∨ handler = .any ∧ connection.peer = peer) :
    Delivery { before with
      behaviour := behaviour
      connections := before.connections.insert conn
        { connection with commands := connection.commands ++ [command] } }
      stream answer := by
  refine delivery.replaced isOpen rfl rfl ?_ ?_
  · rintro - (queued | commanded)
    · apply (mem_answers_popped moved popped queued).symm.imp_right
      intro isAnswer
      rw [(eq_of_answer isAnswer).2]
      exact List.mem_append_right _ (List.mem_singleton_self _)
    · exact .inr (List.mem_append_left _ commanded)
  · intro other queued
    apply (mem_answers_popped moved popped queued).resolve_left
    intro isAnswer
    obtain ⟨rfl, -⟩ := eq_of_answer isAnswer
    rcases matching with sameHandler | ⟨anyHandler, -⟩
    · injection sameHandler with sameConn
      exact other (isHere.symm.trans sameConn)
    · contradiction

/-- A connection comes up, on an id of its own. -/
theorem Delivery.connected
    (delivery : Delivery before stream answer)
    (inbound : Inbound before)
    (peer : PeerId)
    (now : Nat) :
    Delivery { before with
      behaviour := before.behaviour.onSwarmEvent
        (.connectionEstablished peer before.nextConnection) now
      connections :=
        before.connections.insert before.nextConnection (.new peer)
      nextConnection := before.nextConnection + 1 } stream answer := by
  refine delivery.kept rfl (List.Subset.refl _) (Nat.le_succ _) ?_ ?_
  · intro gone older
    exact (AList.lookup_insert_ne older.ne).trans gone
  · intro connection isOpen
    have older := inbound.numbered stream.conn connection isOpen
    exact ⟨connection, (AList.lookup_insert_ne older.ne).trans isOpen, rfl, rfl,
      id⟩

/-- A connection goes down, and with it what it carries. -/
theorem Delivery.disconnected
    (delivery : Delivery before stream answer)
    (inbound : Inbound before)
    {conn : ConnectionId}
    {connection : Connection}
    (isOpen : before.connections.lookup conn = some connection)
    (now : Nat) :
    Delivery { before with
      behaviour := before.behaviour.onSwarmEvent
        (.connectionClosed connection.peer conn) now
      connections := before.connections.erase conn } stream answer := by
  have moved := Moved.connectionClosed before.behaviour connection.peer conn now
  by_cases same : stream.conn = conn
  · subst same
    exact .closed (AList.lookup_erase _ _)
      (inbound.numbered stream.conn connection isOpen)
      (delivery.framesOn inbound)
  · refine delivery.kept rfl (List.Subset.refl _) le_rfl ?_ ?_
    · intro gone _
      exact (AList.lookup_erase_ne same).trans gone
    · intro found isFound
      refine ⟨found, (AList.lookup_erase_ne same).trans isFound, rfl, rfl,
        Or.imp_left fun queued => ?_⟩
      rw [moved.answers, List.append_nil]
      exact queued

/-- Another connection takes a turn, and writes to its own substreams. -/
theorem Delivery.turned_elsewhere
    (delivery : Delivery before stream answer)
    (inbound : Inbound before)
    {conn : ConnectionId}
    {connection changed : Connection}
    {wrote read : Option Frame}
    {refused : Option Stream}
    (isOpen : before.connections.lookup conn = some connection)
    (turn : connection.Turn reply conn changed wrote read refused)
    (other : stream.conn ≠ conn) :
    Delivery { before with
      connections := before.connections.insert conn changed
      written := before.written ++ wrote.toList
      heard := before.heard ++ read.toList
      refused := before.refused ++ refused.toList } stream answer := by
  have here := inbound.connections conn connection isOpen
  have elsewhere : ∀ frame ∈ wrote, ¬ frame.On stream answer.channelId := by
    intro frame isFrame
    have own := turn.written_conn
      (fun task inside => (here.served.own task inside).1) frame isFrame
    rintro (isStream | ⟨isConn, -⟩)
    · exact other (own ▸ isStream ▸ rfl)
    · exact other (isConn.symm.trans own)
  have still : (before.connections.insert conn changed).lookup stream.conn =
      before.connections.lookup stream.conn := AList.lookup_insert_ne other
  refine delivery.kept (framesOn_append elsewhere)
    (List.subset_append_left _ _) le_rfl ?_ ?_
  · intro gone _
    exact still.trans gone
  · intro found isFound
    exact ⟨found, still.trans isFound, rfl, rfl, id⟩

/-- A response gets further, or stays where it is. -/
theorem Delivery.step
    (delivery : Delivery before stream answer)
    (inbound : Inbound before)
    (isHere : answer.conn = stream.conn)
    (step : Step reply before input after) :
    Delivery after stream answer := by
  cases step with
  | moved behaviour moved =>
      refine delivery.kept rfl (List.Subset.refl _) le_rfl (fun gone _ => gone) ?_
      intro connection isOpen
      refine ⟨connection, isOpen, rfl, rfl, Or.imp_left fun queued => ?_⟩
      rw [moved.answers]
      exact List.mem_append_left _ queued
  | dropped middle behaviour event moved popped gone =>
      refine delivery.kept rfl (List.Subset.refl _) le_rfl (fun gone _ => gone) ?_
      intro connection isOpen
      refine ⟨connection, isOpen, rfl, rfl, Or.imp_left fun queued => ?_⟩
      apply (mem_answers_popped moved popped queued).resolve_left
      intro isAnswer
      rw [← isHere, gone answer isAnswer] at isOpen
      contradiction
  | taken middle behaviour peer handler command conn connection moved popped
      isOpen matching =>
      exact delivery.taken isHere moved popped isOpen matching
  | connected peer now => exact delivery.connected inbound peer now
  | disconnected conn connection now isOpen =>
      exact delivery.disconnected inbound isOpen now
  | turned conn connection changed wrote read refused isOpen turn =>
      by_cases same : stream.conn = conn
      · subst same
        exact delivery.turned inbound isHere isOpen turn
      · exact delivery.turned_elsewhere inbound isOpen turn same
  | reported conn connection exchange event rest now isReport isOpen reports =>
      obtain ⟨answered, moved⟩ := Moved.handled before.behaviour conn event
      have grown : ∀ other ∈ before.behaviour.answers, other ∈
          (before.behaviour.onConnectionHandlerEvent connection.peer conn event
            now).answers := by
        intro other queued
        rw [moved.answers]
        exact List.mem_append_left _ queued
      exact delivery.replaced isOpen rfl rfl (fun _ => Or.imp_left (grown answer))
        fun _ => grown answer

/-- From where a response is queued, every run delivers it or closes its
connection. -/
theorem Delivery.run
    {config : RaftConfig}
    {storage : MemoryStorage}
    {start : Nat}
    {past : List Input}
    (delivery : Delivery ((lifetime config storage start).run past) stream
      answer)
    (isHere : answer.conn = stream.conn)
    (later : List Input) :
    Delivery ((lifetime config storage start).run (past ++ later)) stream
      answer := by
  induction later using List.reverseRecOn with
  | nil =>
      rw [List.append_nil]
      exact delivery
  | append_singleton later input inductionHypothesis =>
      rw [← List.append_assoc, TransitionSystem.System.run_concat]
      exact inductionHypothesis.step (run_inbound config storage start _) isHere
        (step_cases _ input (hears_any _ input))

end Swarm

end Libp2pRaft
