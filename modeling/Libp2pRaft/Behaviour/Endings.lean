import Libp2pRaft.Behaviour.Moves

/-!
# What ends a pending request

Dispatching actions only adds pending requests.  A request leaves with its
response or its failure, when it has waited for the timeout, and with every
other request to its peer when a dial fails or the last connection closes.
-/

namespace Libp2pRaft

namespace RaftBehaviour

section

variable {S : Type} {self : RaftBehaviour S} {id : Nat}
  {request : PendingRequest}

theorem pends_executeActions
    (self : RaftBehaviour S)
    (fresh : self.Fresh)
    (pends : self.Pends id request)
    (actions : List Action)
    (inboundFrom : Option (NodeId × Nat))
    (now : Nat) :
    (self.executeActions actions inboundFrom now).Pends id request := by
  suffices kept : ∀ after : RaftBehaviour S,
      after = self.executeActions actions inboundFrom now →
        after.Fresh ∧ after.Pends id request from (kept _ rfl).2
  rintro after rfl
  apply executeActions_induction (motive := fun after =>
    after.Fresh ∧ after.Pends id request)
  · rintro before after inward ⟨fresh, pends⟩
    unfold Fresh Pends at *
    rw [inward.pending, inward.nextCorrelationId]
    exact ⟨fresh, pends⟩
  · rintro before target peer msg - - ⟨fresh, pends⟩
    refine ⟨?_, (pends_post _).mpr (.inr ⟨?_, pends⟩)⟩
    · intro other found posted
      rcases (pends_post _).mp posted with ⟨rfl, -⟩ | ⟨-, old⟩
      · exact Nat.lt_succ_self _
      · exact (fresh other found old).trans (Nat.lt_succ_self _)
    · exact Nat.ne_of_lt (fresh id request pends)
  · rintro before sender channelId channel msg - - ⟨fresh, pends⟩
    exact ⟨fresh, pends⟩
  · exact ⟨fresh, pends⟩

/-- Failing requests ends these and no others. -/
theorem pends_failPendings
    {ids : List Nat}
    {error : String}
    {emitEvent : Bool}
    {now : Nat} :
    (ids.foldl (fun self id => failPending self id error emitEvent now)
        self).Pends id request ↔
      id ∉ ids ∧ self.Pends id request := by
  have silent := self.failPendings_silent ids error emitEvent now
  rw [Pends, silent.pending]
  exact (self.dropAll_dropped ids).pending id request

theorem pends_failPeerPending
    {peer : PeerId}
    {error : String}
    {emitEvent : Bool}
    {now : Nat} :
    (self.failPeerPending peer error emitEvent now).Pends id request ↔
      request.peer ≠ peer ∧ self.Pends id request := by
  apply pends_failPendings.trans
  apply and_congr_left
  intro pends
  exact (mem_peerRequests pends).not

theorem pends_dialFailure
    {peer : PeerId}
    {error : String}
    {now : Nat} :
    (self.onSwarmEvent (.dialFailure (some peer) error) now).Pends id request ↔
      request.peer ≠ peer ∧ self.Pends id request := by
  simp only [onSwarmEvent]
  split
  · exact pends_failPeerPending
  · exact pends_failPeerPending

/-- The last connection to a peer takes every request to it along. -/
theorem pends_connectionClosed
    {peer : PeerId}
    {conn : ConnectionId}
    {now : Nat} :
    (self.onSwarmEvent (.connectionClosed peer conn) now).Pends id request ↔
      ((self.disconnect peer conn).isConnected peer = false →
        request.peer ≠ peer) ∧ self.Pends id request := by
  have changed : self.onSwarmEvent (.connectionClosed peer conn) now =
      if ¬ (self.disconnect peer conn).isConnected peer then
        (self.disconnect peer conn).failPeerPending peer "connection closed"
          false now
      else
        self.disconnect peer conn := rfl
  rw [changed]
  cases (self.disconnect peer conn).isConnected peer with
  | false =>
      simp only [Bool.false_eq_true, not_false_eq_true, if_true, true_imp_iff]
      exact pends_failPeerPending
  | true => simp [disconnect, Pends]

/-- The requests that are timed out are those that have waited. -/
theorem mem_timedOut
    (pends : self.Pends id request)
    {now : Nat} :
    id ∈ self.timedOut now ↔ self.config.rpcTimeout ≤ now - request.sentAt := by
  have entry : ⟨id, request⟩ ∈ self.pending.entries :=
    AList.mem_lookup_iff.mp pends
  unfold timedOut
  rw [List.mem_map]
  constructor
  · rintro ⟨⟨other, found⟩, inside, same⟩
    obtain ⟨inside, waited⟩ := List.mem_filter.mp inside
    have same : other = id := same
    subst same
    have foundEq := AList.mem_lookup_iff.mpr inside
    rw [Option.mem_def, pends] at foundEq
    injection foundEq with sameRequest
    rw [sameRequest]
    exact of_decide_eq_true waited
  · intro waited
    exact ⟨_, List.mem_filter.mpr ⟨entry, decide_eq_true waited⟩, rfl⟩

theorem pends_expirePending
    {now : Nat} :
    (self.expirePending now).Pends id request ↔
      ¬ self.config.rpcTimeout ≤ now - request.sentAt ∧
        self.Pends id request := by
  apply pends_failPendings.trans
  apply and_congr_left
  intro pends
  exact (mem_timedOut pends).not

theorem pends_failure
    {peer : PeerId}
    {conn : ConnectionId}
    {failed : Option Nat}
    {error : String}
    [Storage S]
    {now : Nat} :
    (self.onConnectionHandlerEvent peer conn (.failure failed error) now).Pends
        id request ↔
      failed ≠ some id ∧ self.Pends id request := by
  cases failed with
  | none => simp [onConnectionHandlerEvent, Pends, pushEvent, armSleep]
  | some other =>
      have silent := self.failPending_silent other error true now
      have dropped := (self.drop_dropped other).pending id request
      simp only [onConnectionHandlerEvent, armSleep, Pends] at dropped ⊢
      rw [silent.pending, dropped]
      simp [eq_comm]

end

section

variable {S : Type} [Storage S] {self : RaftBehaviour S} {id : Nat}
  {request : PendingRequest} (fresh : self.Fresh)
  (pends : self.Pends id request) (now : Nat)

include fresh pends

theorem pends_propose (data : List UInt8) :
    (self.propose data now).1.Pends id request := by
  unfold propose
  rcases self.engine.propose data with ⟨engine, error | ⟨index, actions⟩⟩
  · exact pends
  · exact pends_executeActions { self with engine := engine } fresh pends actions
      none now

theorem pends_tickEngine : (self.tickEngine now).Pends id request := by
  unfold tickEngine
  split
  · exact pends_executeActions
      { self with engine := (self.engine.tick now).1 } fresh pends _ none now
  · exact pends

theorem pends_request
    (peer : PeerId)
    (conn : ConnectionId)
    (correlationId : Nat)
    (msg : RaftMessage)
    (channelId : Nat) :
    (self.onConnectionHandlerEvent peer conn
      (.request correlationId msg channelId) now).Pends id request := by
  simp only [onConnectionHandlerEvent]
  cases self.peerMap.nodeId peer with
  | none => exact pends
  | some sender =>
      exact pends_executeActions
        { self with
          inboundChannels := self.inboundChannels.insert channelId
            ⟨peer, conn, correlationId⟩
          engine := (self.engine.handleRpc sender msg now).1 }
        fresh pends _ (some (sender, channelId)) now

/-- A response ends the request whose id it carries. -/
theorem pends_response
    (peer : PeerId)
    (conn : ConnectionId)
    {other : Nat}
    (different : id ≠ other)
    (msg : RaftMessage) :
    (self.onConnectionHandlerEvent peer conn (.response other msg) now).Pends id
      request := by
  simp only [onConnectionHandlerEvent]
  cases self.pending.lookup other with
  | none => exact pends
  | some found =>
      apply pends_executeActions
        { self with
          pending := self.pending.erase other
          engine := (self.engine.handleRpc found.target msg now).1 }
      · intro earlier request pends
        exact fresh earlier request (pends_erase.mp pends).2
      · exact pends_erase.mpr ⟨different, pends⟩

/-- A round ends a request only if it has waited for the timeout. -/
theorem pends_pollRound
    (early : ¬ self.config.rpcTimeout ≤ now - request.sentAt)
    (elapsed : Bool) :
    (self.pollRound now elapsed).1.Pends id request := by
  have expired := pends_expirePending.mpr ⟨early, pends⟩
  have stillFresh : (self.expirePending now).Fresh := by
    intro other found stays
    have grown := (Moved.expirePending self now).grown
    exact (fresh other found (pends_expirePending.mp stays).2).trans_le grown
  have ticked := pends_tickEngine stillFresh expired now
  obtain ⟨middle, reached, popped, settled⟩ := self.pollRound_cases now elapsed
  have stays : middle.Pends id request := by
    rcases reached with rfl | rfl | rfl
    · exact pends
    · exact expired
    · exact ticked
  rcases round : self.pollRound now elapsed with ⟨after, outcome⟩
  rw [round] at settled
  have idle : (∀ event, outcome ≠ .ready event) → after.Pends id request := by
    intro isIdle
    rcases settled isIdle with rfl | ⟨deadline, rfl⟩
    · exact stays
    · exact stays
  cases outcome with
  | ready event =>
      rw [Pends, (popped after event round).pending]
      exact stays
  | pending => exact idle fun event => by simp
  | again => exact idle fun event => by simp

end

end RaftBehaviour

end Libp2pRaft
