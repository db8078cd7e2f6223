import Libp2pRaft.Swarm.Outbound

/-!
# To whom a response is attributed

`on_connection_handler_event` looks a response up under the correlation id of
the frame, and hands it to the engine as coming from the node that the pending
request went to.  That node sent it exactly if the frame carries the id of the
request on its own substream.
-/

namespace Libp2pRaft

/-- The kind of request a message is the response to. -/
def RaftMessage.responds : RaftMessage → Option RpcKind
  | .requestVoteResp .. => some .requestVote
  | .appendEntriesResp .. => some .appendEntries
  | .installSnapshotResp .. => some .installSnapshot
  | .requestVote .. | .appendEntries .. | .installSnapshot .. => none

/-- A response that resolves a pending request: the engine is called with its
message and the target of the request. -/
structure Resolution where
  conn : ConnectionId
  exchange : Exchange
  correlationId : Nat
  msg : RaftMessage
  request : PendingRequest
  deriving DecidableEq, Repr

namespace Swarm

open RaftBehaviour TransitionSystem

variable (self : Swarm)

/-- The request an input resolves. -/
def resolution : Input → Option Resolution
  | .report conn _ => do
      let connection ← self.connections.lookup conn
      let (exchange, event) ← connection.reports.head?
      match event with
      | .response correlationId msg =>
          let request ← self.behaviour.pending.lookup correlationId
          some ⟨conn, exchange, correlationId, msg, request⟩
      | .request .. | .failure .. => none
  | _ => none

/-- The node that was asked sent the response: it was read on the substream that
carried the request, from the peer of the target, and is of the kind asked
for. -/
def Attributed (resolution : Resolution) : Prop :=
  ∃ stream connection,
    resolution.exchange = .outbound
      ⟨resolution.correlationId, resolution.request.msg⟩ (some stream) ∧
    self.connections.lookup resolution.conn = some connection ∧
    stream.conn = resolution.conn ∧
    ⟨stream, none, ⟨resolution.correlationId, resolution.request.msg⟩⟩ ∈
      self.written ∧
    ⟨stream, none, ⟨resolution.correlationId, resolution.msg⟩⟩ ∈ self.heard ∧
    connection.peer = resolution.request.peer ∧
    self.behaviour.peerMap.peerId resolution.request.target =
      some resolution.request.peer ∧
    resolution.msg.responds = some resolution.request.kind

/-- An input resolves a request only by a response of the node that was asked. -/
def Attributes (input : Input) : Prop :=
  ∀ resolution ∈ self.resolution input, self.Attributed resolution

/-- A frame that resolves a request carries the id of the request on its own
substream, and the response variant for it. -/
def Answers (input : Input) : Prop :=
  ∀ resolution ∈ self.resolution input, ∃ info stream,
    resolution.exchange = .outbound info stream ∧
      info.correlationId = resolution.correlationId ∧
      resolution.msg.responds = some (rpcKind info.msg)

/-- A request that is resolved is never pending again. -/
def ResolvesOnce
    (system : System Swarm Input)
    (inputs : List Input) : Prop :=
  ∀ past input resolution, (system.run past).resolution input = some resolution →
    ∀ later, past ++ [input] <+: later → later <+: inputs →
      ∀ request, ¬ (system.run later).behaviour.Pends resolution.correlationId
        request

variable {self}

theorem resolution_some
    {input : Input}
    {resolution : Resolution}
    (resolves : self.resolution input = some resolution) :
    ∃ now connection rest,
      input = .report resolution.conn now ∧
      self.connections.lookup resolution.conn = some connection ∧
      connection.reports = (resolution.exchange,
        .response resolution.correlationId resolution.msg) :: rest ∧
      self.behaviour.Pends resolution.correlationId resolution.request := by
  cases input with
  | report conn now =>
      simp only [Swarm.resolution, Option.bind_eq_bind,
        Option.bind_eq_some_iff] at resolves
      obtain ⟨connection, isOpen, ⟨exchange, event⟩, first, resolves⟩ := resolves
      obtain ⟨rest, reports⟩ := List.head?_eq_some_iff.mp first
      cases event with
      | response correlationId msg =>
          obtain ⟨request, pends, same⟩ := Option.bind_eq_some_iff.mp resolves
          injection same with same
          subst same
          exact ⟨now, connection, rest, rfl, isOpen, reports, pends⟩
      | request => contradiction
      | failure => contradiction
  | _ => contradiction

/-- A request that resolves is gone after the step. -/
theorem gone_of_resolution
    (orderly : self.behaviour.Orderly)
    {input : Input}
    {resolution : Resolution}
    (resolves : self.resolution input = some resolution) :
    (self.step input).behaviour.Gone resolution.correlationId := by
  obtain ⟨now, connection, rest, rfl, isOpen, reports, pends⟩ :=
    resolution_some resolves
  simp only [step, isOpen, reports]
  have erased : { self.behaviour with
      pending := self.behaviour.pending.erase resolution.correlationId
      engine := (self.behaviour.engine.call
        (.rpc resolution.request.target resolution.msg now)).1 }.Gone
        resolution.correlationId := by
    refine ⟨orderly.fresh _ _ pends, fun request stays => ?_⟩
    exact (pends_erase.mp stays).1 rfl
  exact erased.moved (.settled _ pends _ _ _ now)

/-- What is gone stays gone. -/
theorem Step.gone
    {reply : OutboundInfo → WireEnvelope → Prop}
    {before after : Swarm}
    {input : Input}
    (step : Step reply before input after)
    {id : Nat}
    (gone : before.behaviour.Gone id) :
    after.behaviour.Gone id := by
  cases step with
  | moved behaviour moved => exact gone.moved moved
  | dropped middle behaviour event moved popped =>
      exact popped.gone (gone.moved moved)
  | taken middle behaviour peer handler command conn connection moved popped =>
      exact popped.gone (gone.moved moved)
  | connected peer now => exact gone
  | disconnected conn connection now isOpen =>
      have closed : (before.behaviour.disconnect connection.peer conn).Gone id :=
        gone
      exact closed.moved (.connectionClosed _ _ conn now)
  | turned => exact gone
  | reported conn connection exchange event rest now =>
      obtain ⟨answered, moved⟩ := Moved.handled before.behaviour conn event
      exact gone.moved moved

variable (config : RaftConfig) (storage : MemoryStorage) (start : Nat)

theorem along_any (inputs : List Input) :
    (lifetime config storage start).Along (Hears fun _ _ => True) inputs :=
  fun _ _ _ => hears_any _ _

/-- Every request is resolved at most once. -/
theorem lifetime_resolvesOnce (inputs : List Input) :
    ResolvesOnce (lifetime config storage start) inputs := by
  intro past input resolution resolves later isLater _ request
  have accounted :=
    run_accounted config storage start (along_any config storage start past)
  have gone := gone_of_resolution accounted.orderly resolves
  have stays := (lifetime config storage start).related_along
    (fun before after : Swarm =>
      before.behaviour.Gone resolution.correlationId →
        after.behaviour.Gone resolution.correlationId)
    (fun _ => id) (fun first second => second ∘ first)
    (fun state input hears => (step_cases state input hears).gone) isLater
    (along_any config storage start later)
  rw [System.run_concat] at stays
  exact (stays gone).2 request

/-- A resolution is of the node that was asked exactly if the frame answers the
request on its own substream. -/
theorem Accounted.attributed_iff
    {reply : OutboundInfo → WireEnvelope → Prop}
    (accounted : Accounted reply self)
    {input : Input}
    {resolution : Resolution}
    (resolves : self.resolution input = some resolution) :
    self.Attributed resolution ↔ ∃ info stream,
      resolution.exchange = .outbound info stream ∧
        info.correlationId = resolution.correlationId ∧
        resolution.msg.responds = some (rpcKind info.msg) := by
  obtain ⟨now, connection, rest, rfl, isOpen, reports, pends⟩ :=
    resolution_some resolves
  have here := accounted.connections _ _ isOpen
  have isUnderway : (resolution.exchange, ToBehaviour.response
      resolution.correlationId resolution.msg) ∈ connection.underway := by
    simp [Connection.underway, reports]
  have kind := accounted.orderly.kind _ _ pends
  constructor
  · rintro ⟨stream, connection, isOutbound, -, -, -, -, -, -, responds⟩
    exact ⟨_, _, isOutbound, rfl, kind ▸ responds⟩
  · rintro ⟨info, stream, isOutbound, sameId, responds⟩
    have owned := here.ended _ isUnderway info (by rw [isOutbound]; rfl)
    have truthful := here.truthful _ isUnderway
    rw [isOutbound] at truthful
    obtain ⟨carrier, sameStream, own, wrote, read, -⟩ := truthful.response
    rw [← sameId] at pends
    obtain ⟨sameMsg, samePeer⟩ := owned.2 _ pends
    refine ⟨carrier, connection, ?_, isOpen, own, ?_, read, samePeer.symm,
      accounted.orderly.mapped _ _ pends, ?_⟩
    · rw [isOutbound, sameStream, sameMsg, ← sameId]
    · rw [sameMsg, ← sameId]
      exact wrote
    · rw [kind, sameMsg]
      exact responds

/-- In every run, every response is attributed to the node that was asked, and
every request is resolved at most once, exactly if every frame that resolves a
request carries the id of the request on its own substream, and the response
variant for it. -/
theorem responses_attributed (inputs : List Input) :
    ((lifetime config storage start).Along Attributes inputs ∧
        ResolvesOnce (lifetime config storage start) inputs) ↔
      (lifetime config storage start).Along Answers inputs := by
  have accounted := fun past =>
    run_accounted config storage start (along_any config storage start past)
  constructor
  · rintro ⟨attributes, -⟩ past input isPast resolution resolves
    exact ((accounted past).attributed_iff resolves).mp
      (attributes past input isPast resolution resolves)
  · intro answers
    refine ⟨?_, lifetime_resolvesOnce config storage start inputs⟩
    intro past input isPast resolution resolves
    exact ((accounted past).attributed_iff resolves).mpr
      (answers past input isPast resolution resolves)

/-- Node 1 of three, which knows the peers of the others. -/
def threeNodes : RaftConfig :=
  { RaftConfig.cfg 1 [1, 2, 3] with seedPeers := [⟨2, 12, []⟩, ⟨3, 13, []⟩] }

/-- Node 1 asks both others for their votes, and the peer of node 3 replies with
the id of the request to node 2. -/
def borrowedVote : List Input :=
  [.connect 12 0, .connect 13 0, .pollBehaviour 0 0 false, .pollBehaviour 0 0 false,
    .pollBehaviour 0 150 false, .pollBehaviour 0 150 false, .pollBehaviour 0 150 false,
    .deliver 1, .pollHandler 1 none, .opened 1 0,
    .pollHandler 1 (some (0, .written (.ok ()))),
    .pollHandler 1 (some (0, .read (.ok ⟨1, .requestVoteResp 1 true⟩))),
    .pollHandler 1 none]

theorem responses_attributed_borrowedVote :
    ¬ ((lifetime threeNodes MemoryStorage.new 0).Along Attributes
          (borrowedVote ++ [.report 1 151]) ∧
        ResolvesOnce (lifetime threeNodes MemoryStorage.new 0)
          (borrowedVote ++ [.report 1 151])) := by
  rintro ⟨attributes, -⟩
  have attributed := attributes borrowedVote (.report 1 151)
    (List.prefix_refl _)
    ⟨1, .outbound ⟨2, .requestVote 1 1 0 0⟩ (some ⟨1, 0⟩), 1,
      .requestVoteResp 1 true,
      ⟨1, 2, 12, .requestVote, 150, .requestVote 1 1 0 0⟩⟩
    (by decide +kernel)
  obtain ⟨stream, connection, isOutbound, -⟩ := attributed
  injection isOutbound with sameInfo
  injection sameInfo with sameId
  contradiction

end Swarm

end Libp2pRaft
