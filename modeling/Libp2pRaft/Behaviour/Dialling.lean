import Libp2pRaft.Behaviour.Moves
import Libp2pRaft.Behaviour.Wakeups

/-!
# Dialling

A behaviour dials a peer it has no connection to whenever it has something for
it, and must not flood the swarm with dials.  Whatever its entry points are
called with, it has one dial of a peer under way at most, dials no peer that is
connected, and after an expected failure waits out the backoff.
-/

namespace Libp2pRaft

open TransitionSystem

/-- The peer and the addresses of a dial. -/
def ToSwarm.dialled : ToSwarm → Option (PeerId × List Multiaddr)
  | .dial peer addresses => some (peer, addresses)
  | .generateEvent _ | .notifyHandler .. => none

namespace RaftBehaviour

variable {S : Type}

/-- A change that touches nothing about connections but dials some peers. -/
structure Dialled
    (now : Nat)
    (before after : RaftBehaviour S)
    (dials : List (PeerId × List Multiaddr)) : Prop where
  config : after.config = before.config
  peerMap : after.peerMap = before.peerMap
  connected : after.connected = before.connected
  backoff : after.dialBackoffUntil = before.dialBackoffUntil
  dialing : ∀ peer, peer ∈ after.dialing ↔
    peer ∈ before.dialing ∨ peer ∈ dials.map Prod.fst
  queued : ∃ more, after.pendingEvents = before.pendingEvents ++ more ∧
    more.filterMap ToSwarm.dialled = dials
  allowed : ∀ peer addresses, (peer, addresses) ∈ dials →
    before.MayDial peer addresses now
  once : (dials.map Prod.fst).Nodup

namespace Dialled

variable {self before middle after : RaftBehaviour S} {now : Nat}
  {dials others : List (PeerId × List Multiaddr)}

/-- Other fields, and other events, do not matter. -/
theorem of_eq
    (config : after.config = before.config)
    (peerMap : after.peerMap = before.peerMap)
    (connected : after.connected = before.connected)
    (backoff : after.dialBackoffUntil = before.dialBackoffUntil)
    (dialing : after.dialing = before.dialing)
    {more : List ToSwarm}
    (queued : after.pendingEvents = before.pendingEvents ++ more)
    (silent : more.filterMap ToSwarm.dialled = []) :
    Dialled now before after [] where
  config := config
  peerMap := peerMap
  connected := connected
  backoff := backoff
  dialing peer := by simp [dialing]
  queued := ⟨more, queued, silent⟩
  allowed _ _ absent := absurd absent List.not_mem_nil
  once := List.nodup_nil

theorem refl (self : RaftBehaviour S) : Dialled now self self [] :=
  .of_eq rfl rfl rfl rfl rfl (List.append_nil _).symm rfl

theorem pushEvent
    (self : RaftBehaviour S)
    {event : ToSwarm}
    (silent : event.dialled = none) :
    Dialled now self (self.pushEvent event) [] :=
  .of_eq rfl rfl rfl rfl rfl rfl (by simp [silent])

theorem trans
    (first : Dialled now before middle dials)
    (second : Dialled now middle after others) :
    Dialled now before after (dials ++ others) where
  config := second.config.trans first.config
  peerMap := second.peerMap.trans first.peerMap
  connected := second.connected.trans first.connected
  backoff := second.backoff.trans first.backoff
  dialing peer := by
    rw [second.dialing, first.dialing, List.map_append, List.mem_append, or_assoc]
  queued := by
    obtain ⟨more, isMore, dialled⟩ := first.queued
    obtain ⟨rest, isRest, dialledRest⟩ := second.queued
    refine ⟨more ++ rest, ?_, ?_⟩
    · rw [isRest, isMore, List.append_assoc]
    · rw [List.filterMap_append, dialled, dialledRest]
  allowed := by
    intro peer addresses inside
    rcases List.mem_append.mp inside with early | late
    · exact first.allowed peer addresses early
    · have allowed := second.allowed peer addresses late
      refine ⟨?_, ?_, ?_, allowed.reachable, ?_⟩
      · have same := allowed.disconnected
        unfold isConnected at same ⊢
        rwa [first.connected] at same
      · exact fun dialling => allowed.idle
          ((first.dialing peer).mpr (.inl dialling))
      · rw [← first.backoff]
        exact allowed.rested
      · have same := allowed.offered
        unfold handlePendingOutboundConnection at same ⊢
        rwa [first.peerMap] at same
  once := by
    rw [List.map_append, List.nodup_append]
    refine ⟨first.once, second.once, ?_⟩
    intro peer early other late
    rintro rfl
    obtain ⟨⟨_, addresses⟩, inside, rfl⟩ := List.mem_map.mp late
    exact (second.allowed _ _ inside).idle ((first.dialing _).mpr (.inr early))

/-- An update of a dispatch dials one peer at most. -/
theorem of_edit
    {inboundFrom : Option (NodeId × Nat)}
    (edit : Edit inboundFrom now before after) :
    ∃ dials, Dialled now before after dials := by
  cases edit with
  | reported event => exact ⟨[], .pushEvent before rfl⟩
  | noted target kind =>
      exact ⟨[], .of_eq rfl rfl rfl rfl rfl (List.append_nil _).symm rfl⟩
  | dialled peer addresses mayDial =>
      refine ⟨[(peer, addresses)], rfl, rfl, rfl, rfl, ?_,
        ⟨[.dial peer addresses], rfl, rfl⟩, ?_, List.nodup_singleton _⟩
      · intro other
        show other ∈ insert peer before.dialing ↔ _
        rw [Finset.mem_insert, or_comm]
        simp
      · intro other others isOnly
        obtain ⟨rfl, rfl⟩ := Prod.mk.inj (List.mem_singleton.mp isOnly)
        exact mayDial
  | posted => exact ⟨[], .of_eq rfl rfl rfl rfl rfl rfl rfl⟩
  | responded => exact ⟨[], .of_eq rfl rfl rfl rfl rfl rfl rfl⟩

theorem of_edits
    {inboundFrom : Option (NodeId × Nat)}
    (edits : Relation.ReflTransGen (Edit inboundFrom now) before after) :
    ∃ dials, Dialled now before after dials := by
  refine kept_of_reflTransGen
    (motive := fun after => ∃ dials, Dialled now before after dials)
    (fun middle last edit early => ?_) edits ⟨[], .refl before⟩
  obtain ⟨dials, dialled⟩ := early
  obtain ⟨more, dialledMore⟩ := of_edit edit
  exact ⟨dials ++ more, dialled.trans dialledMore⟩

/-- A failed request dials nobody. -/
theorem of_lapse
    (lapse : Lapse before after) :
    Dialled now before after [] := by
  cases lapse with
  | dropped id =>
      unfold RaftBehaviour.drop
      cases before.pending.lookup id with
      | none => exact .refl before
      | some request =>
          exact .of_eq rfl rfl rfl rfl rfl (List.append_nil _).symm rfl
  | reported peer error => exact .pushEvent before rfl

theorem of_lapses
    (lapses : Relation.ReflTransGen Lapse before after) :
    Dialled now before after [] :=
  kept_of_reflTransGen (motive := fun after => Dialled now before after [])
    (fun _ _ lapse dialled => dialled.trans (.of_lapse lapse))
    lapses (.refl before)

theorem armSleep
    (self : RaftBehaviour S)
    (deadline : Nat) :
    Dialled now self (self.armSleep deadline now) [] :=
  .of_eq rfl rfl rfl rfl rfl (List.append_nil _).symm rfl

theorem of_updates
    (updates : Relation.ReflTransGen (Update now) before after) :
    ∃ dials, Dialled now before after dials := by
  refine kept_of_reflTransGen
    (motive := fun after => ∃ dials, Dialled now before after dials)
    (fun middle last update early => ?_) updates ⟨[], .refl before⟩
  obtain ⟨dials, dialled⟩ := early
  have single : ∃ more, Dialled now middle last more := by
    cases update with
    | edited _ edit => exact of_edit edit
    | lapsed _ lapse => exact ⟨[], .of_lapse lapse⟩
    | called =>
        exact ⟨[], .of_eq rfl rfl rfl rfl rfl (List.append_nil _).symm rfl⟩
    | settled =>
        exact ⟨[], .of_eq rfl rfl rfl rfl rfl (List.append_nil _).symm rfl⟩
    | armed deadline => exact ⟨[], .armSleep middle deadline⟩
  obtain ⟨more, dialledMore⟩ := single
  exact ⟨dials ++ more, dialled.trans dialledMore⟩

variable [Storage S]

theorem onConnectionHandlerEvent
    (self : RaftBehaviour S)
    (peer : PeerId)
    (conn : ConnectionId)
    (event : ToBehaviour)
    (now : Nat) :
    ∃ dials, Dialled now self
      (self.onConnectionHandlerEvent peer conn event now) dials := by
  cases event with
  | request correlationId msg channelId =>
      cases mapped : self.peerMap.nodeId peer with
      | none =>
          simp only [RaftBehaviour.onConnectionHandlerEvent, mapped]
          exact ⟨[], .pushEvent self rfl⟩
      | some sender =>
          rw [onRequest_eq _ mapped]
          have opened : Dialled now self (self.openChannel peer conn correlationId
              channelId sender msg now) [] :=
            .of_eq rfl rfl rfl rfl rfl (List.append_nil _).symm rfl
          obtain ⟨dials, dialled⟩ := of_edits ((self.openChannel peer conn
            correlationId channelId sender msg now).executeActions_edits
              (self.engine.handleRpc sender msg now).2)
          have closed : ∀ before : RaftBehaviour S,
              Dialled now before (before.closeChannel channelId now) [] :=
            fun _ => .of_eq rfl rfl rfl rfl rfl (List.append_nil _).symm rfl
          exact ⟨_, (opened.trans dialled).trans (closed _)⟩
  | response correlationId msg =>
      exact of_updates (self.response_updates peer conn correlationId msg now)
  | failure correlationId error =>
      exact of_updates (self.failure_updates peer conn correlationId error now)

end Dialled

/-! ## Entry points -/

section

variable [Storage S]

/-- What an entry point puts into the queue. -/
def queued (self : RaftBehaviour S) (entry : EntryPoint) : List ToSwarm :=
  match entry with
  | .poll now elapsed =>
      match self.pollRound now elapsed with
      | (after, .ready event) =>
          (event :: after.pendingEvents).drop self.pendingEvents.length
      | (after, .pending) => after.pendingEvents.drop self.pendingEvents.length
      | (after, .again) => after.pendingEvents.drop self.pendingEvents.length
  | entry => (self.through entry).pendingEvents.drop self.pendingEvents.length

/-- An entry point queues a dial of a peer. -/
def Dials (peer : PeerId) (self : RaftBehaviour S) (entry : EntryPoint) : Prop :=
  ∃ addresses, .dial peer addresses ∈ self.queued entry

end

/-- The swarm reports how a dial of a peer ended, or a closed connection. -/
def Reported
    (peer : PeerId)
    (_ : RaftBehaviour S) : EntryPoint → Prop
  | .onSwarmEvent (.connectionEstablished other _) _ => other = peer
  | .onSwarmEvent (.connectionClosed other _) _ => other = peer
  | .onSwarmEvent (.dialFailure (some other) _) _ => other = peer
  | _ => False

/-- The swarm reports at an instant that a dial of a peer failed as expected. -/
def FailsBenignly
    (peer : PeerId)
    (now : Nat)
    (_ : RaftBehaviour S) : EntryPoint → Prop
  | .onSwarmEvent (.dialFailure (some other) error) reading =>
      other = peer ∧ reading = now ∧ isBenignDialError error = true
  | _ => False

/-- The swarm reports a new connection to a peer. -/
def Established
    (peer : PeerId)
    (_ : RaftBehaviour S) : EntryPoint → Prop
  | .onSwarmEvent (.connectionEstablished other _) _ => other = peer
  | _ => False

/-- The connections to a peer that the swarm has reported, less those it has
reported closed. -/
def connections (peer : PeerId) : System (Finset ConnectionId) EntryPoint where
  init := ∅
  step := fun conns entry =>
    match entry with
    | .onSwarmEvent (.connectionEstablished other conn) _ =>
        if other = peer then insert conn conns else conns
    | .onSwarmEvent (.connectionClosed other conn) _ =>
        if other = peer then conns.erase conn else conns
    | _ => conns

/-- An entry point that is no report of the swarm. -/
def EntryPoint.IsOwn : EntryPoint → Prop
  | .onSwarmEvent _ _ => False
  | _ => True

section

variable [Storage S] {self : RaftBehaviour S} {now : Nat}

omit [Storage S] in
theorem Dialled.queue
    {after : RaftBehaviour S}
    {dials : List (PeerId × List Multiaddr)}
    (dialled : Dialled now self after dials) :
    (after.pendingEvents.drop self.pendingEvents.length).filterMap
      ToSwarm.dialled = dials := by
  obtain ⟨more, isMore, same⟩ := dialled.queued
  rw [isMore, List.drop_left, same]

/-- What an own entry point does to the connections, and the dials it queues. -/
structure Own
    (behaviour : RaftBehaviour S)
    (entry : EntryPoint)
    (now : Nat) : Prop where
  config : (behaviour.through entry).config = behaviour.config
  peerMap : (behaviour.through entry).peerMap = behaviour.peerMap
  connected : (behaviour.through entry).connected = behaviour.connected
  backoff : (behaviour.through entry).dialBackoffUntil = behaviour.dialBackoffUntil
  dialing : ∀ peer, peer ∈ (behaviour.through entry).dialing ↔
    peer ∈ behaviour.dialing ∨
      peer ∈ ((behaviour.queued entry).filterMap ToSwarm.dialled).map Prod.fst
  allowed : ∀ peer addresses,
    (peer, addresses) ∈ (behaviour.queued entry).filterMap ToSwarm.dialled →
      behaviour.MayDial peer addresses now
  once : (((behaviour.queued entry).filterMap ToSwarm.dialled).map Prod.fst).Nodup

/-- A change that dials, after which queued events may be taken. -/
theorem Own.of_dialled
    {entry : EntryPoint}
    {after : RaftBehaviour S}
    {dials : List (PeerId × List Multiaddr)}
    (dialled : Dialled now self after dials)
    (taken : ∃ events, self.through entry =
      { after with pendingEvents := events, sleep := (self.through entry).sleep })
    (queued : (self.queued entry).filterMap ToSwarm.dialled = dials) :
    Own self entry now := by
  obtain ⟨events, same⟩ := taken
  refine ⟨?_, ?_, ?_, ?_, ?_, ?_, ?_⟩
  · rw [same]
    exact dialled.config
  · rw [same]
    exact dialled.peerMap
  · rw [same]
    exact dialled.connected
  · rw [same]
    exact dialled.backoff
  · rw [same, queued]
    exact dialled.dialing
  · rw [queued]
    exact dialled.allowed
  · rw [queued]
    exact dialled.once

/-- A round of `poll` that ends with an event dials what was queued besides. -/
theorem Own.of_ready
    {before after : RaftBehaviour S}
    {elapsed : Bool}
    {event : ToSwarm}
    {rest : List ToSwarm}
    {dials : List (PeerId × List Multiaddr)}
    (dialled : Dialled now self before dials)
    (empty : self.pendingEvents = [])
    (ready : before.pendingEvents = event :: rest)
    (round : self.pollRound now elapsed = (after, .ready event))
    (taken : ∃ sleep, after =
      { before with pendingEvents := rest, sleep := sleep }) :
    Own self (.poll now elapsed) now := by
  obtain ⟨sleep, rfl⟩ := taken
  have through : self.through (.poll now elapsed) =
      { before with pendingEvents := rest, sleep := sleep } :=
    congrArg Prod.fst round
  refine .of_dialled dialled ⟨rest, ?_⟩ ?_
  · rw [through]
  · have queue := dialled.queue
    rw [empty, ready] at queue
    unfold queued
    simp only [round, empty]
    exact queue

/-- A round of `poll` dials in order to expire requests and to tick. -/
theorem own_poll
    (self : RaftBehaviour S)
    (now : Nat)
    (elapsed : Bool) :
    Own self (.poll now elapsed) now := by
  have expired : Dialled now self (self.expirePending now) [] :=
    .of_lapses (self.expirePending_lapses now)
  obtain ⟨dials, ticked⟩ :=
    Dialled.of_updates ((self.expirePending now).tickEngine_updates now)
  have both := expired.trans ticked
  cases waiting : self.pendingEvents with
  | cons event rest =>
      have round : self.pollRound now elapsed =
          ({ self with pendingEvents := rest }, .ready event) := by
        unfold pollRound
        rw [waiting]
      refine .of_dialled (.refl self) ⟨rest, ?_⟩ ?_
      · show (self.pollRound now elapsed).1 =
          { self with pendingEvents := rest, sleep := (self.pollRound now elapsed).1.sleep }
        rw [round]
      · unfold queued
        simp [round, waiting]
  | nil =>
      have late : (self.expirePending now).pendingEvents = [] :=
        (self.expirePending_frame now).1.trans waiting
      cases done : (self.advance now).pendingEvents with
      | cons event rest =>
          have round : self.pollRound now elapsed =
              ({ self.advance now with pendingEvents := rest }, .ready event) := by
            unfold advance at done ⊢
            unfold pollRound
            simp only [waiting, late, done]
          exact .of_ready both waiting done round ⟨_, rfl⟩
      | nil =>
          have silent := both.queue
          have round := pollRound_of_idles ⟨waiting, done⟩ elapsed
          refine .of_dialled both ⟨[], ?_⟩ ?_
          · show (self.pollRound now elapsed).1 =
              { self.advance now with
                pendingEvents := []
                sleep := (self.pollRound now elapsed).1.sleep }
            rw [round, ← done]
            split_ifs
            · rfl
            · rfl
          · unfold queued
            simp only [round]
            cases elapsed with
            | true => exact silent
            | false => exact silent

/-- Every own entry point keeps to what a dial asks for. -/
theorem own
    (self : RaftBehaviour S)
    {entry : EntryPoint}
    (isOwn : entry.IsOwn)
    (reads : entry.reading = some now) :
    Own self entry now := by
  cases entry with
  | propose data =>
      obtain rfl := Option.some.inj reads
      obtain ⟨dials, dialled⟩ :=
        Dialled.of_updates (self.propose_updates data _)
      exact .of_dialled dialled ⟨_, rfl⟩ dialled.queue
  | dialSeed peer instant =>
      obtain rfl := Option.some.inj reads
      have edits : Relation.ReflTransGen (Edit none instant) self
          (self.dialSeed peer instant) := self.dialSeed_edits peer
      obtain ⟨dials, dialled⟩ := Dialled.of_edits edits
      exact .of_dialled dialled ⟨_, rfl⟩ dialled.queue
  | onSwarmEvent => contradiction
  | onConnectionHandlerEvent peer conn event =>
      obtain rfl := Option.some.inj reads
      obtain ⟨dials, dialled⟩ :=
        Dialled.onConnectionHandlerEvent self peer conn event _
      exact .of_dialled dialled ⟨_, rfl⟩ dialled.queue
  | poll =>
      obtain rfl := Option.some.inj reads
      exact own_poll self _ _

end

/-! ## Reports of the swarm -/

/-- A report of the swarm dials nobody. -/
theorem dialled_hear
    (self : RaftBehaviour S)
    (event : FromSwarm)
    (now : Nat) :
    Dialled now (self.hear event now) (self.onSwarmEvent event now) [] :=
  .of_lapses (self.onSwarmEvent_lapses event now)

/-- What is reported of a connection is what is recorded. -/
theorem hear_connected
    (self : RaftBehaviour S)
    (event : FromSwarm)
    (now : Nat)
    (peer : PeerId) :
    (((self.hear event now).connected.lookup peer).getD ∅) =
      (connections peer).step ((self.connected.lookup peer).getD ∅)
        (.onSwarmEvent event now) := by
  cases event with
  | connectionEstablished other conn =>
      by_cases same : other = peer
      · subst same
        simp [hear, connections]
      · simp [hear, connections, same, AList.lookup_insert_ne (Ne.symm same)]
  | connectionClosed other conn =>
      by_cases same : other = peer
      · subst same
        simp only [hear, disconnect, connections, if_true]
        cases known : self.connected.lookup other with
        | none => simp [known]
        | some conns =>
            simp only [Option.getD_some]
            split_ifs with last
            · simp [last]
            · simp
      · simp only [hear, disconnect, connections, same, if_false]
        cases known : self.connected.lookup other with
        | none => rfl
        | some conns =>
            simp only
            split_ifs
            · rw [AList.lookup_erase_ne (Ne.symm same)]
            · rw [AList.lookup_insert_ne (Ne.symm same)]
  | dialFailure other error =>
      cases other with
      | none => rfl
      | some other =>
          simp only [hear, connections]
          split_ifs
          · rfl
          · rfl
  | other => rfl

/-- Only a report about a peer ends what is known of a dial of it. -/
theorem mem_dialing_hear
    {event : FromSwarm}
    {now : Nat}
    {peer : PeerId}
    {self : RaftBehaviour S}
    (silent : ¬ Reported peer self (.onSwarmEvent event now)) :
    peer ∈ (self.hear event now).dialing ↔ peer ∈ self.dialing := by
  cases event with
  | connectionEstablished other conn =>
      exact Finset.mem_erase.trans (and_iff_right (Ne.symm silent))
  | connectionClosed other conn =>
      exact Finset.mem_erase.trans (and_iff_right (Ne.symm silent))
  | dialFailure other error =>
      cases other with
      | none => rfl
      | some other =>
          simp only [hear]
          split_ifs
          · exact Finset.mem_erase.trans (and_iff_right (Ne.symm silent))
          · exact Finset.mem_erase.trans (and_iff_right (Ne.symm silent))
  | other => rfl

/-- A backoff is kept until a connection is there, or another dial fails. -/
theorem lookup_backoff_hear
    {event : FromSwarm}
    {now : Nat}
    {peer : PeerId}
    {self : RaftBehaviour S}
    (apart : ¬ Established peer self (.onSwarmEvent event now)) :
    (self.hear event now).dialBackoffUntil.lookup peer =
        self.dialBackoffUntil.lookup peer ∨
      (self.hear event now).dialBackoffUntil.lookup peer =
        some (now + 5 * 1000 + self.dialBackoffJitterMs peer) := by
  cases event with
  | connectionEstablished other conn =>
      exact .inl (AList.lookup_erase_ne (Ne.symm apart))
  | connectionClosed other conn => exact .inl rfl
  | dialFailure other error =>
      cases other with
      | none => exact .inl rfl
      | some other =>
          simp only [hear]
          split_ifs
          · by_cases same : other = peer
            · subst same
              exact .inr (AList.lookup_insert _)
            · exact .inl (AList.lookup_insert_ne (Ne.symm same))
          · exact .inl rfl
  | other => exact .inl rfl

/-- An expected failure starts a backoff. -/
theorem lookup_backoff_failed
    {event : FromSwarm}
    {now failed : Nat}
    {peer : PeerId}
    {self : RaftBehaviour S}
    (fails : FailsBenignly peer failed self (.onSwarmEvent event now)) :
    failed = now ∧
      (self.hear event now).dialBackoffUntil.lookup peer =
        some (now + 5 * 1000 + self.dialBackoffJitterMs peer) := by
  cases event with
  | dialFailure other error =>
      cases other with
      | none => contradiction
      | some other =>
          obtain ⟨rfl, rfl, benign⟩ := fails
          refine ⟨rfl, ?_⟩
          simp only [hear, benign, if_true]
          exact AList.lookup_insert _
  | connectionEstablished => contradiction
  | connectionClosed => contradiction
  | other => contradiction

/-! ## Runs -/

section

variable [Storage S] {self : RaftBehaviour S}

/-- What a behaviour remembers of a peer after a run. -/
structure Recalls
    (config : RaftConfig)
    (storage : S)
    (start : Nat)
    (peer : PeerId)
    (entries : List EntryPoint)
    (behaviour : RaftBehaviour S) : Prop where
  configured : behaviour.config = config
  mapped : behaviour.peerMap = PeerMap.fromSeeds config.seedPeers
  connected : (behaviour.connected.lookup peer).getD ∅ =
    (connections peer).run entries
  dialing : (operation config storage start).Since (Dials peer) (Reported peer)
    entries → peer ∈ behaviour.dialing
  backoff : ∀ failed, (operation config storage start).Since
      (FailsBenignly peer failed) (Established peer) entries →
    failed ≤ (System.clock EntryPoint.reading start).run entries ∧
      ∃ backoff ∈ behaviour.dialBackoffUntil.lookup peer,
        failed + 5 * 1000 + behaviour.dialBackoffJitterMs peer ≤ backoff

omit [Storage S] in
theorem jitter_congr
    {before after : RaftBehaviour S}
    (config : after.config = before.config)
    (peerMap : after.peerMap = before.peerMap)
    (peer : PeerId) :
    after.dialBackoffJitterMs peer = before.dialBackoffJitterMs peer := by
  unfold dialBackoffJitterMs
  rw [config, peerMap]

omit [Storage S] in
/-- An own entry point is no report about any peer. -/
theorem EntryPoint.IsOwn.silent
    {entry : EntryPoint}
    (isOwn : entry.IsOwn)
    (self : RaftBehaviour S)
    (peer : PeerId) :
    ¬ Reported peer self entry ∧ ¬ Established peer self entry ∧
      (∀ failed, ¬ FailsBenignly peer failed self entry) ∧
      ∀ conns, (connections peer).step conns entry = conns := by
  cases entry with
  | onSwarmEvent => contradiction
  | propose => exact ⟨id, id, fun _ => id, fun _ => rfl⟩
  | dialSeed => exact ⟨id, id, fun _ => id, fun _ => rfl⟩
  | onConnectionHandlerEvent => exact ⟨id, id, fun _ => id, fun _ => rfl⟩
  | poll => exact ⟨id, id, fun _ => id, fun _ => rfl⟩

theorem mem_dialled
    {events : List ToSwarm}
    {peer : PeerId}
    {addresses : List Multiaddr} :
    (peer, addresses) ∈ events.filterMap ToSwarm.dialled ↔
      .dial peer addresses ∈ events := by
  rw [List.mem_filterMap]
  constructor
  · rintro ⟨event, inside, isDial⟩
    cases event with
    | dial other others =>
        obtain ⟨rfl, rfl⟩ := Prod.mk.inj (Option.some.inj isDial)
        exact inside
    | generateEvent => contradiction
    | notifyHandler => contradiction
  · exact fun inside => ⟨_, inside, rfl⟩

theorem mem_dials
    {peer : PeerId}
    {entry : EntryPoint} :
    Dials peer self entry ↔
      peer ∈ ((self.queued entry).filterMap ToSwarm.dialled).map Prod.fst := by
  unfold Dials
  simp [← mem_dialled]

/-- Reports of the swarm are answered without a dial. -/
theorem not_dial_onSwarmEvent
    (self : RaftBehaviour S)
    (event : FromSwarm)
    (now : Nat)
    {peer : PeerId}
    {addresses : List Multiaddr} :
    .dial peer addresses ∉ self.queued (.onSwarmEvent event now) := by
  obtain ⟨_, _, _, frame⟩ := self.hear_frame event now
  have queue := (self.dialled_hear event now).queue
  have sameQueue : (self.hear event now).pendingEvents = self.pendingEvents := by
    rw [frame]
  rw [sameQueue] at queue
  intro inside
  have dialled : (peer, addresses) ∈ ((self.onSwarmEvent event
      now).pendingEvents.drop self.pendingEvents.length).filterMap
        ToSwarm.dialled :=
    mem_dialled.mpr inside
  rw [queue] at dialled
  exact absurd dialled List.not_mem_nil

variable {config : RaftConfig} {storage : S} {start now : Nat} {peer : PeerId}
  {entries : List EntryPoint} {entry : EntryPoint}

/-- What is remembered stays so over an own entry point. -/
theorem Recalls.own
    (recalls : Recalls config storage start peer entries
      ((operation config storage start).run entries))
    (isOwn : entry.IsOwn)
    (reads : entry.reading = some now)
    (later : (System.clock EntryPoint.reading start).run entries ≤ now) :
    Recalls config storage start peer (entries ++ [entry])
      ((operation config storage start).run (entries ++ [entry])) := by
  have owns := RaftBehaviour.own ((operation config storage start).run entries)
    isOwn reads
  obtain ⟨-, -, notFailed, sameConns⟩ :=
    isOwn.silent ((operation config storage start).run entries) peer
  rw [System.run_concat]
  refine ⟨owns.config.trans recalls.configured,
    owns.peerMap.trans recalls.mapped, ?_, ?_, ?_⟩
  · rw [System.run_concat, sameConns]
    exact (congrArg (fun conns => (AList.lookup peer conns).getD ∅)
      owns.connected).trans recalls.connected
  · intro since
    rcases System.since_concat _ |>.mp since with dials | ⟨before, -⟩
    · exact (owns.dialing peer).mpr (.inr (mem_dials.mp dials))
    · exact (owns.dialing peer).mpr (.inl (recalls.dialing before))
  · intro failed since
    rcases System.since_concat _ |>.mp since with fails | ⟨before, -⟩
    · exact absurd fails (notFailed failed)
    · obtain ⟨isPast, backoff, isBackoff, long⟩ := recalls.backoff failed before
      rw [System.run_concat, System.clock_step_of_reading reads]
      refine ⟨isPast.trans later, backoff, ?_, ?_⟩
      · exact owns.backoff ▸ isBackoff
      · have same := jitter_congr owns.config owns.peerMap peer
        exact same ▸ long

/-- And over a report of the swarm. -/
theorem Recalls.onSwarmEvent
    {event : FromSwarm}
    (recalls : Recalls config storage start peer entries
      ((operation config storage start).run entries))
    (later : (System.clock EntryPoint.reading start).run entries ≤ now) :
    Recalls config storage start peer (entries ++ [.onSwarmEvent event now])
      ((operation config storage start).run
        (entries ++ [.onSwarmEvent event now])) := by
  rw [System.run_concat]
  generalize isRun : (operation config storage start).run entries = behaviour
    at recalls ⊢
  have quiet := behaviour.dialled_hear event now
  obtain ⟨_, _, _, frame⟩ := behaviour.hear_frame event now
  have sameConfig : (behaviour.onSwarmEvent event now).config =
      behaviour.config := by
    rw [quiet.config, frame]
  have sameMap : (behaviour.onSwarmEvent event now).peerMap =
      behaviour.peerMap := by
    rw [quiet.peerMap, frame]
  refine ⟨sameConfig.trans recalls.configured, sameMap.trans recalls.mapped,
    ?_, ?_, ?_⟩
  · have heard := behaviour.hear_connected event now peer
    rw [recalls.connected] at heard
    rw [System.run_concat, ← heard]
    exact congrArg (fun conns => (AList.lookup peer conns).getD ∅) quiet.connected
  · intro since
    rcases System.since_concat _ |>.mp since with dials | ⟨before, silent⟩
    · rw [isRun] at dials
      obtain ⟨addresses, inside⟩ := dials
      exact absurd inside (behaviour.not_dial_onSwarmEvent event now)
    · rw [isRun] at silent
      have known := (mem_dialing_hear silent).mpr (recalls.dialing before)
      exact (quiet.dialing peer).mpr (.inl known)
  · intro failed since
    have same := jitter_congr sameConfig sameMap peer
    have isBackoff : ((operation config storage start).step behaviour
        (.onSwarmEvent event now)).dialBackoffUntil =
          (behaviour.hear event now).dialBackoffUntil := quiet.backoff
    rw [System.run_concat, isBackoff]
    rw [System.since_concat, isRun] at since
    show failed ≤ now ∧ ∃ backoff ∈ _,
      failed + 5 * 1000 + (behaviour.onSwarmEvent event now).dialBackoffJitterMs
        peer ≤ backoff
    rw [same]
    rcases since with fails | ⟨before, apart⟩
    · obtain ⟨rfl, backoff⟩ := lookup_backoff_failed fails
      exact ⟨le_rfl, _, backoff, le_rfl⟩
    · obtain ⟨isPast, backoff, isBackoff, long⟩ := recalls.backoff failed before
      refine ⟨isPast.trans later, ?_⟩
      rcases lookup_backoff_hear apart with kept | restarted
      · exact ⟨backoff, kept ▸ isBackoff, long⟩
      · exact ⟨_, restarted, by omega⟩

theorem recalls_run
    (config : RaftConfig)
    (storage : S)
    (start : Nat)
    (peer : PeerId)
    {entries : List EntryPoint}
    (forward : System.Forward EntryPoint.reading start entries) :
    Recalls config storage start peer entries
      ((operation config storage start).run entries) := by
  induction entries using List.reverseRecOn with
  | nil =>
      refine ⟨rfl, rfl, rfl, ?_, ?_⟩
      · exact fun since => absurd since (System.since_nil _)
      · exact fun failed since => absurd since (System.since_nil _)
  | append_singleton entries entry inductionHypothesis =>
      have recalls := inductionHypothesis
        (forward.of_isPrefix (List.prefix_append _ _))
      obtain ⟨now, reads⟩ : ∃ now, entry.reading = some now := by
        cases entry <;> exact ⟨_, rfl⟩
      have later := forward.clock_le_reading (List.prefix_refl _) reads
      cases entry with
      | onSwarmEvent event =>
          obtain rfl := Option.some.inj reads
          exact recalls.onSwarmEvent later
      | propose => exact recalls.own trivial reads later
      | dialSeed => exact recalls.own trivial reads later
      | onConnectionHandlerEvent => exact recalls.own trivial reads later
      | poll => exact recalls.own trivial reads later

/-- A behaviour dials a peer only while it has no connection to it and no dial
of it under way, not in the five seconds and the jitter after an expected
failure that no connection has followed, once at a time, and under the addresses
it was given for it. -/
theorem dial_discipline
    (config : RaftConfig)
    (storage : S)
    (start : Nat)
    (entries : List EntryPoint)
    (forward : System.Forward EntryPoint.reading start entries)
    (past : List EntryPoint)
    (entry : EntryPoint)
    (isStep : past ++ [entry] <+: entries)
    (peer : PeerId)
    (addresses : List Multiaddr)
    (dialled : .dial peer addresses ∈
      ((operation config storage start).run past).queued entry) :
    (connections peer).run past = ∅ ∧
      ¬ (operation config storage start).Since (Dials peer) (Reported peer)
        past ∧
      (∀ failed, (operation config storage start).Since
          (FailsBenignly peer failed) (Established peer) past →
        ∀ now ∈ entry.reading, failed + 5 * 1000 +
          ((operation config storage start).run past).dialBackoffJitterMs peer
            ≤ now) ∧
      (((((operation config storage start).run past).queued entry).filterMap
        ToSwarm.dialled).map Prod.fst).count peer = 1 ∧
      addresses ≠ [] ∧
      ((operation config storage start).run past).handlePendingOutboundConnection
        (some peer) [] = addresses := by
  have recalls := recalls_run config storage start peer
    (forward.of_isPrefix ((List.prefix_append _ _).trans isStep))
  generalize (operation config storage start).run past = behaviour
    at recalls dialled ⊢
  obtain ⟨now, reads⟩ : ∃ now, entry.reading = some now := by
    cases entry <;> exact ⟨_, rfl⟩
  have isOwn : entry.IsOwn := by
    cases entry with
    | onSwarmEvent event instant =>
        exact absurd dialled (behaviour.not_dial_onSwarmEvent event instant)
    | propose => trivial
    | dialSeed => trivial
    | onConnectionHandlerEvent => trivial
    | poll => trivial
  have owns := RaftBehaviour.own behaviour isOwn reads
  have inside := mem_dialled.mpr dialled
  have allowed := owns.allowed peer addresses inside
  refine ⟨?_, ?_, ?_, ?_, allowed.reachable, allowed.offered⟩
  · rw [← recalls.connected]
    have apart := allowed.disconnected
    unfold isConnected at apart
    cases known : behaviour.connected.lookup peer with
    | none => rfl
    | some conns => simpa [known] using apart
  · exact fun since => allowed.idle (recalls.dialing since)
  · intro failed since later isLater
    obtain ⟨-, backoff, isBackoff, long⟩ := recalls.backoff failed since
    obtain rfl := Option.some.inj (reads.symm.trans isLater)
    exact long.trans (allowed.rested backoff isBackoff)
  · exact List.count_eq_one_of_mem owns.once
      (List.mem_map_of_mem (f := Prod.fst) inside)

/-- Node 2 does not answer a dial in time. -/
def redialling : List EntryPoint :=
  [.dialSeed 12 10, .onSwarmEvent (.dialFailure (some 12) "Timeout") 20,
    .dialSeed 12 5366]

/-- The theorem applies to the dial after a failure: nothing is connected, and
the backoff is over. -/
theorem dial_discipline_second :
    (connections 12).run (redialling.take 2) = ∅ ∧
      20 + 5 * 1000 + ((operation
        { RaftConfig.cfg 1 [1, 2] with seedPeers := [⟨2, 12, ["/dns4/two"]⟩] }
        MemoryStorage.new 0).run (redialling.take 2)).dialBackoffJitterMs 12
          ≤ 5366 := by
  obtain ⟨apart, -, rested, -⟩ := dial_discipline
    { RaftConfig.cfg 1 [1, 2] with seedPeers := [⟨2, 12, ["/dns4/two"]⟩] }
    MemoryStorage.new 0 redialling (by decide) (redialling.take 2)
    (.dialSeed 12 5366) (by decide) 12 ["/dns4/two"] (by decide +kernel)
  have failed : (operation
      { RaftConfig.cfg 1 [1, 2] with seedPeers := [⟨2, 12, ["/dns4/two"]⟩] }
      MemoryStorage.new 0).Since (FailsBenignly 12 20) (Established 12)
        (redialling.take 2) := by
    rw [show redialling.take 2 = [.dialSeed 12 10] ++
      [.onSwarmEvent (.dialFailure (some 12) "Timeout") 20] from rfl]
    exact (System.since_concat _).mpr (.inl ⟨rfl, rfl, by decide⟩)
  exact ⟨apart, rested 20 failed 5366 rfl⟩

end

end RaftBehaviour

end Libp2pRaft
