import Libp2pRaft.Behaviour.Dialling
import Libp2pRaft.Behaviour.Endings

/-!
# Bookkeeping

What a behaviour records about connections, dials and open exchanges is what has
happened: whatever its entry points are called with, in whatever order, it holds
the connections that were reported, the dials that were asked for and not
reported on, requests to connected peers only, and no inbound channel once the
entry point has returned.
-/

namespace Libp2pRaft

open TransitionSystem

namespace RaftBehaviour

variable {S : Type} {self : RaftBehaviour S}

/-! ## Inbound channels -/

/-- No inbound channel is open. -/
def Closed (self : RaftBehaviour S) : Prop :=
  ∀ channelId, self.inboundChannels.lookup channelId = none

theorem Closed.of_lapse
    {after : RaftBehaviour S}
    (closed : self.Closed)
    (lapse : Lapse self after) :
    after.Closed := by
  cases lapse with
  | dropped id =>
      unfold RaftBehaviour.drop
      cases self.pending.lookup id with
      | none => exact closed
      | some request => exact closed
  | reported => exact closed

theorem Closed.of_lapses
    {after : RaftBehaviour S}
    (closed : self.Closed)
    (lapses : Relation.ReflTransGen Lapse self after) :
    after.Closed :=
  kept_of_reflTransGen (motive := Closed)
    (fun _ _ lapse closed => closed.of_lapse lapse) lapses closed

/-- Without a request nothing opens a channel. -/
theorem Closed.of_updates
    {now : Nat}
    {after : RaftBehaviour S}
    (closed : self.Closed)
    (updates : Relation.ReflTransGen (Update now) self after) :
    after.Closed := by
  refine kept_of_reflTransGen (motive := Closed)
    (fun middle last update closed => ?_) updates closed
  cases update with
  | edited _ edit =>
      cases edit with
      | reported => exact closed
      | noted => exact closed
      | dialled => exact closed
      | posted => exact closed
      | responded _ _ _ _ asked => contradiction
  | lapsed _ lapse => exact closed.of_lapse lapse
  | called => exact closed
  | settled => exact closed
  | armed => exact closed

variable [Storage S]

/-- The channel of a request is the only one that is open while the request is
handled, and is closed then. -/
theorem Closed.request
    (closed : self.Closed)
    (peer : PeerId)
    (conn : ConnectionId)
    (correlationId : Nat)
    (msg : RaftMessage)
    (channelId now : Nat) :
    (self.onConnectionHandlerEvent peer conn
      (.request correlationId msg channelId) now).Closed := by
  cases mapped : self.peerMap.nodeId peer with
  | none =>
      simp only [onConnectionHandlerEvent, mapped]
      exact closed
  | some sender =>
      rw [onRequest_eq _ mapped]
      have others : ∀ other, other ≠ channelId →
          (((self.openChannel peer conn correlationId channelId sender msg
            now).executeActions (self.engine.handleRpc sender msg now).2
              (some (sender, channelId)) now).inboundChannels.lookup other) =
            none := by
        apply executeActions_induction (motive := fun behaviour =>
          ∀ other, other ≠ channelId →
            behaviour.inboundChannels.lookup other = none)
        · intro before after inward holds other different
          rw [inward.inboundChannels]
          exact holds other different
        · exact fun _ _ _ _ _ _ holds => holds
        · rintro before _ _ channel reply ⟨⟩ - holds other different
          exact (AList.lookup_erase_ne different).trans (holds other different)
        · intro other different
          exact (AList.lookup_insert_ne different).trans (closed other)
      intro other
      by_cases same : other = channelId
      · subst same
        exact AList.lookup_erase _ _
      · exact (AList.lookup_erase_ne same).trans (others other same)

theorem Closed.through
    (closed : self.Closed)
    (entry : EntryPoint) :
    (self.through entry).Closed := by
  cases entry with
  | propose data now => exact closed.of_updates (self.propose_updates data now)
  | dialSeed peer now =>
      rcases self.dialSeed_cases peer now with idle | ⟨addresses, -, dialled⟩
      · show (self.dialSeed peer now).Closed
        rw [idle]
        exact closed
      · show (self.dialSeed peer now).Closed
        rw [dialled]
        exact closed
  | onSwarmEvent event now =>
      have heard : (self.hear event now).Closed := by
        obtain ⟨_, _, _, frame⟩ := self.hear_frame event now
        rw [frame]
        exact closed
      exact heard.of_lapses (self.onSwarmEvent_lapses event now)
  | onConnectionHandlerEvent peer conn event now =>
      cases event with
      | request correlationId msg channelId =>
          exact closed.request peer conn correlationId msg channelId now
      | response correlationId msg =>
          exact closed.of_updates
            (self.response_updates peer conn correlationId msg now)
      | failure correlationId error =>
          exact closed.of_updates
            (self.failure_updates peer conn correlationId error now)
  | poll now elapsed =>
      obtain ⟨middle, updates, events, sleep, round⟩ :=
        self.pollRound_updates now elapsed
      have settled : middle.Closed := closed.of_updates updates
      show (self.pollRound now elapsed).1.Closed
      rw [round]
      exact settled

/-! ## Pending requests -/

/-- A request goes to the peer of its target, which is connected. -/
structure Addressed (behaviour : RaftBehaviour S) (request : PendingRequest) :
    Prop where
  mapped : behaviour.peerMap.peerId request.target = some request.peer
  kind : request.kind = rpcKind request.msg
  connected : behaviour.isConnected request.peer = true

omit [Storage S] in
theorem Moved.addressed
    {after : RaftBehaviour S}
    {answered : List Answer}
    (moved : Moved self after answered)
    {id : Nat}
    {request : PendingRequest}
    (pends : after.Pends id request) :
    self.Pends id request ∨ self.Addressed request :=
  (moved.pending id request pends).imp_right fun asked =>
    ⟨asked.mapped, asked.kind, asked.connected⟩

/-- An own entry point adds requests to connected peers at most. -/
theorem pends_own
    {entry : EntryPoint}
    (isOwn : entry.IsOwn)
    {id : Nat}
    {request : PendingRequest}
    (pends : (self.through entry).Pends id request) :
    self.Pends id request ∨ self.Addressed request := by
  cases entry with
  | propose data now => exact (Moved.propose self data now).addressed pends
  | dialSeed peer now =>
      exact (Moved.of_inward (.dialSeed self peer now)).addressed pends
  | onSwarmEvent => contradiction
  | onConnectionHandlerEvent peer conn event now =>
      obtain ⟨answered, moved⟩ := Moved.handled self conn event
      exact moved.addressed pends
  | poll now elapsed =>
      by_cases idle : ∀ event, (self.pollRound now elapsed).2 ≠ .ready event
      · exact (Moved.pollRound_idle self idle).addressed pends
      · push Not at idle
        obtain ⟨event, isReady⟩ := idle
        obtain ⟨middle, moved, popped⟩ :=
          Moved.pollRound_ready (Prod.ext rfl isReady)
        apply moved.addressed
        have same : (self.pollRound now elapsed).1.Pends id request := pends
        rw [Pends, popped.pending] at same
        exact same

/-! ## Connections and dials -/

section

omit [Storage S]

theorem isConnected_iff_lookup
    {peer : PeerId} :
    self.isConnected peer = true ↔ (self.connected.lookup peer).getD ∅ ≠ ∅ := by
  unfold isConnected
  cases self.connected.lookup peer with
  | none => simp
  | some conns => simp

/-- No peer is recorded with an empty set of connections. -/
def Occupied (self : RaftBehaviour S) : Prop :=
  ∀ peer conns, self.connected.lookup peer = some conns → conns ≠ ∅

theorem Occupied.hear
    (occupied : self.Occupied)
    (event : FromSwarm)
    (now : Nat) :
    (self.hear event now).Occupied := by
  intro peer conns known
  cases event with
  | connectionEstablished other conn =>
      by_cases same : peer = other
      · subst same
        obtain rfl := Option.some.inj ((AList.lookup_insert _).symm.trans known)
        exact Finset.insert_ne_empty _ _
      · exact occupied peer conns ((AList.lookup_insert_ne same).symm.trans known)
  | connectionClosed other conn =>
      simp only [RaftBehaviour.hear, disconnect] at known
      cases found : self.connected.lookup other with
      | none =>
          rw [found] at known
          exact occupied peer conns known
      | some before =>
          rw [found] at known
          simp only at known
          by_cases same : peer = other
          · subst same
            split_ifs at known with last
            · rw [AList.lookup_erase] at known
              contradiction
            · rw [AList.lookup_insert] at known
              exact Option.some.inj known ▸ last
          · split_ifs at known
            · rw [AList.lookup_erase_ne same] at known
              exact occupied peer conns known
            · rw [AList.lookup_insert_ne same] at known
              exact occupied peer conns known
  | dialFailure other error =>
      cases other with
      | none => exact occupied peer conns known
      | some other =>
          simp only [RaftBehaviour.hear] at known
          split_ifs at known
          · exact occupied peer conns known
          · exact occupied peer conns known
  | other => exact occupied peer conns known

/-- A report about a peer ends a dial of it. -/
theorem notMem_dialing_hear
    {event : FromSwarm}
    {now : Nat}
    {peer : PeerId}
    (reported : Reported peer self (.onSwarmEvent event now)) :
    peer ∉ (self.hear event now).dialing := by
  cases event with
  | connectionEstablished other conn =>
      obtain rfl := reported
      exact Finset.notMem_erase _ _
  | connectionClosed other conn =>
      obtain rfl := reported
      exact Finset.notMem_erase _ _
  | dialFailure other error =>
      cases other with
      | none => contradiction
      | some other =>
          obtain rfl := reported
          simp only [hear]
          split_ifs
          · exact Finset.notMem_erase _ _
          · exact Finset.notMem_erase _ _
  | other => contradiction

/-- What is not about a peer leaves its connections alone. -/
theorem connections_step_of_silent
    {event : FromSwarm}
    {now : Nat}
    {peer : PeerId}
    (silent : ¬ Reported peer self (.onSwarmEvent event now))
    (conns : Finset ConnectionId) :
    (connections peer).step conns (.onSwarmEvent event now) = conns := by
  cases event with
  | connectionEstablished other conn => exact if_neg silent
  | connectionClosed other conn => exact if_neg silent
  | dialFailure => rfl
  | other => rfl

end

/-- What a behaviour records after a run. -/
structure Consistent
    (config : RaftConfig)
    (storage : S)
    (start : Nat)
    (entries : List EntryPoint)
    (behaviour : RaftBehaviour S) : Prop where
  connected : ∀ peer, (behaviour.connected.lookup peer).getD ∅ =
    (connections peer).run entries
  occupied : behaviour.Occupied
  dialing : ∀ peer, peer ∈ behaviour.dialing ↔
    (operation config storage start).Since (Dials peer) (Reported peer) entries
  idle : ∀ peer ∈ behaviour.dialing, behaviour.isConnected peer = false
  pending : ∀ id request, behaviour.Pends id request →
    behaviour.Addressed request
  closed : behaviour.Closed

variable {config : RaftConfig} {storage : S} {start now : Nat}
  {entries : List EntryPoint} {entry : EntryPoint}

theorem Consistent.own
    (consistent : Consistent config storage start entries
      ((operation config storage start).run entries))
    (isOwn : entry.IsOwn)
    (reads : entry.reading = some now) :
    Consistent config storage start (entries ++ [entry])
      ((operation config storage start).run (entries ++ [entry])) := by
  have owns := RaftBehaviour.own ((operation config storage start).run entries)
    isOwn reads
  rw [System.run_concat]
  generalize isRun : (operation config storage start).run entries = behaviour
    at consistent owns ⊢
  have connected : (behaviour.through entry).connected = behaviour.connected :=
    owns.connected
  have sameConnected : ∀ peer, (behaviour.through entry).isConnected peer =
      behaviour.isConnected peer := by
    intro peer
    unfold isConnected
    rw [connected]
  show Consistent config storage start _ (behaviour.through entry)
  refine ⟨?_, ?_, ?_, ?_, ?_, consistent.closed.through entry⟩
  · intro peer
    obtain ⟨-, -, -, same⟩ := isOwn.silent behaviour peer
    rw [System.run_concat, same, connected]
    exact consistent.connected peer
  · intro peer conns known
    rw [connected] at known
    exact consistent.occupied peer conns known
  · intro peer
    obtain ⟨silent, -⟩ := isOwn.silent behaviour peer
    rw [System.since_concat, isRun, owns.dialing, consistent.dialing, mem_dials,
      or_comm, and_iff_left silent]
  · intro peer dials
    rw [sameConnected]
    rcases (owns.dialing peer).mp dials with old | new
    · exact consistent.idle peer old
    · obtain ⟨⟨_, addresses⟩, inside, rfl⟩ := List.mem_map.mp new
      exact (owns.allowed _ addresses inside).disconnected
  · intro id request pends
    have addressed : behaviour.Addressed request := by
      rcases pends_own isOwn pends with old | new
      · exact consistent.pending id request old
      · exact new
    refine ⟨?_, addressed.kind, ?_⟩
    · rw [owns.peerMap]
      exact addressed.mapped
    · rw [sameConnected]
      exact addressed.connected

omit [Storage S] in
/-- A report of the swarm leaves requests to connected peers. -/
theorem pends_onSwarmEvent
    {event : FromSwarm}
    (linked : ∀ id request, self.Pends id request →
      self.isConnected request.peer = true)
    {id : Nat}
    {request : PendingRequest}
    (pends : (self.onSwarmEvent event now).Pends id request) :
    self.Pends id request ∧
      (self.hear event now).isConnected request.peer = true := by
  cases event with
  | connectionEstablished other conn =>
      refine ⟨pends, ?_⟩
      by_cases same : request.peer = other
      · rw [isConnected_iff_lookup, same]
        show (AList.lookup other (self.connected.insert other _)).getD ∅ ≠ ∅
        rw [AList.lookup_insert]
        exact Finset.insert_ne_empty _ _
      · have before := linked id request pends
        rw [isConnected_iff_lookup] at before ⊢
        show (AList.lookup request.peer (self.connected.insert other _)).getD ∅ ≠ ∅
        rwa [AList.lookup_insert_ne same]
  | connectionClosed other conn =>
      obtain ⟨kept, before⟩ := pends_connectionClosed.mp pends
      refine ⟨before, ?_⟩
      show (self.disconnect other conn).isConnected request.peer = true
      by_cases same : request.peer = other
      · rw [same]
        by_contra parted
        exact kept (Bool.not_eq_true _ ▸ parted) same
      · have connected := linked id request before
        have apart : (connections request.peer).step
            ((self.connected.lookup request.peer).getD ∅)
            (.onSwarmEvent (.connectionClosed other conn) now) =
              (self.connected.lookup request.peer).getD ∅ :=
          if_neg (Ne.symm same)
        have heard := self.hear_connected (.connectionClosed other conn) now
          request.peer
        rw [isConnected_iff_lookup] at connected ⊢
        rw [apart] at heard
        show (AList.lookup request.peer
          (self.hear (.connectionClosed other conn) now).connected).getD ∅ ≠ ∅
        rwa [heard]
  | dialFailure other error =>
      cases other with
      | none => exact ⟨pends, linked id request pends⟩
      | some other =>
          obtain ⟨-, before⟩ := pends_dialFailure.mp pends
          refine ⟨before, ?_⟩
          simp only [hear]
          split_ifs
          · exact linked id request before
          · exact linked id request before
  | other => exact ⟨pends, linked id request pends⟩

theorem Consistent.onSwarmEvent
    {event : FromSwarm}
    (consistent : Consistent config storage start entries
      ((operation config storage start).run entries)) :
    Consistent config storage start (entries ++ [.onSwarmEvent event now])
      ((operation config storage start).run
        (entries ++ [.onSwarmEvent event now])) := by
  rw [System.run_concat]
  generalize isRun : (operation config storage start).run entries = behaviour
    at consistent ⊢
  have quiet := behaviour.dialled_hear event now
  have sameMap : (behaviour.hear event now).peerMap = behaviour.peerMap := by
    obtain ⟨_, _, _, frame⟩ := behaviour.hear_frame event now
    rw [frame]
  have mem_dialing : ∀ peer, peer ∈ (behaviour.onSwarmEvent event now).dialing ↔
      peer ∈ (behaviour.hear event now).dialing :=
    fun peer => (quiet.dialing peer).trans (by simp)
  have sameConnected : ∀ peer,
      (behaviour.onSwarmEvent event now).isConnected peer =
        (behaviour.hear event now).isConnected peer := by
    intro peer
    unfold isConnected
    rw [quiet.connected]
  show Consistent config storage start _ (behaviour.onSwarmEvent event now)
  refine ⟨?_, ?_, ?_, ?_, ?_, consistent.closed.through (.onSwarmEvent event now)⟩
  · intro peer
    have heard := behaviour.hear_connected event now peer
    rw [consistent.connected peer] at heard
    rw [System.run_concat, ← heard, quiet.connected]
  · intro peer conns known
    rw [quiet.connected] at known
    exact consistent.occupied.hear event now peer conns known
  · intro peer
    have silence : ¬ Dials peer behaviour (.onSwarmEvent event now) :=
      fun ⟨_, inside⟩ => behaviour.not_dial_onSwarmEvent event now inside
    rw [mem_dialing, System.since_concat, isRun, or_iff_right silence]
    by_cases reported : Reported peer behaviour (.onSwarmEvent event now)
    · exact iff_of_false (notMem_dialing_hear reported)
        fun since => since.2 reported
    · rw [mem_dialing_hear reported, consistent.dialing,
        and_iff_left reported]
  · intro peer dials
    rw [mem_dialing] at dials
    have silent : ¬ Reported peer behaviour (.onSwarmEvent event now) :=
      fun reported => notMem_dialing_hear reported dials
    have before := consistent.idle peer ((mem_dialing_hear silent).mp dials)
    have heard := behaviour.hear_connected event now peer
    rw [connections_step_of_silent silent] at heard
    rw [sameConnected, ← Bool.not_eq_true, isConnected_iff_lookup, heard,
      ← isConnected_iff_lookup, before]
    exact Bool.false_ne_true
  · intro id request pends
    obtain ⟨old, connected⟩ := pends_onSwarmEvent
      (fun id request pends => (consistent.pending id request pends).connected)
      pends
    have addressed := consistent.pending id request old
    refine ⟨?_, addressed.kind, ?_⟩
    · rw [quiet.peerMap, sameMap]
      exact addressed.mapped
    · rw [sameConnected]
      exact connected

/-- Whatever the entry points of a behaviour are called with, it records exactly
the connections that were reported to it, and as dials under way exactly those it
asked for and no report has ended, all of peers it is not connected to.  Every
pending request went to the peer of its target, which is connected, and no inbound
channel is left open. -/
theorem bookkeeping_exact
    (config : RaftConfig)
    (storage : S)
    (start : Nat)
    (entries : List EntryPoint) :
    (∀ peer, ((operation config storage start).run entries).connected.lookup
        peer =
      if (connections peer).run entries = ∅ then none
      else some ((connections peer).run entries)) ∧
    (∀ peer, peer ∈ ((operation config storage start).run entries).dialing ↔
      (operation config storage start).Since (Dials peer) (Reported peer)
        entries) ∧
    (∀ peer ∈ ((operation config storage start).run entries).dialing,
      (connections peer).run entries = ∅) ∧
    (∀ id request,
      ((operation config storage start).run entries).pending.lookup id =
        some request →
      ((operation config storage start).run entries).peerMap.peerId
        request.target = some request.peer ∧
      request.kind = rpcKind request.msg ∧
      (connections request.peer).run entries ≠ ∅) ∧
    ∀ channelId, ((operation config storage start).run
      entries).inboundChannels.lookup channelId = none := by
  have consistent : Consistent config storage start entries
      ((operation config storage start).run entries) := by
    induction entries using List.reverseRecOn with
    | nil =>
        refine ⟨fun _ => rfl, ?_, ?_, ?_, ?_, fun _ => rfl⟩
        · intro peer conns known
          contradiction
        · exact fun peer => iff_of_false (Finset.notMem_empty peer)
            (System.since_nil _)
        · exact fun peer dials => absurd dials (Finset.notMem_empty peer)
        · intro id request pends
          contradiction
    | append_singleton entries entry inductionHypothesis =>
        cases entry with
        | onSwarmEvent event => exact inductionHypothesis.onSwarmEvent
        | propose => exact inductionHypothesis.own trivial rfl
        | dialSeed => exact inductionHypothesis.own trivial rfl
        | onConnectionHandlerEvent => exact inductionHypothesis.own trivial rfl
        | poll => exact inductionHypothesis.own trivial rfl
  generalize (operation config storage start).run entries = behaviour
    at consistent ⊢
  refine ⟨?_, consistent.dialing, ?_, ?_, consistent.closed⟩
  · intro peer
    rw [← consistent.connected peer]
    cases known : behaviour.connected.lookup peer with
    | none => simp
    | some conns => simp [consistent.occupied peer conns known]
  · intro peer dials
    have apart := consistent.idle peer dials
    rw [← consistent.connected peer]
    by_contra occupied
    rw [isConnected_iff_lookup.mpr occupied] at apart
    contradiction
  · intro id request pends
    have addressed := consistent.pending id request pends
    have connected := isConnected_iff_lookup.mp addressed.connected
    rw [consistent.connected] at connected
    exact ⟨addressed.mapped, addressed.kind, connected⟩

end RaftBehaviour

end Libp2pRaft
