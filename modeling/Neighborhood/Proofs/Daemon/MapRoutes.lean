import Neighborhood.Route.Ledger
import Neighborhood.Proofs.Daemon.Acts

/-!
# One daemon, two route tables

A map between route tables that keeps all answers makes no difference to the daemon above them: what it does and
counts is the same.

* `RouteTable.Keeps` — the map keeps the answers, and commutes with requests
* `Daemon.mapRoutes` — the daemon with the other table
* `Daemon.react` — what an event makes of a daemon, as a function; steps are its values (`Daemon.Step.eq_react`)
* `Daemon.mapRoutes_react` — an event does the same above either table
* `Daemon.recorded`, `Daemon.Moment.answers` — a ledger around the table, and what it notes of one event
-/

namespace Neighborhood

/-- Whatever is asked for, the answers are the same, and the tables correspond afterwards. -/
structure RouteTable.Keeps {σ τ : Type} [RouteTable σ] [RouteTable τ] (f : σ → τ) : Prop where
  add : ∀ t dst gateway, add (f t) dst gateway = (add t dst gateway).map id f
  del : ∀ t dst, del (f t) dst = (del t dst).map id f
  dump : ∀ t table filter, dump (f t) table filter = (dump t table filter).map id f

/-- A ledger answers as its table does. -/
theorem Ledger.keeps_table {σ : Type} [RouteTable σ] : RouteTable.Keeps (Ledger.table (σ := σ)) :=
  ⟨fun _ _ _ => rfl, fun _ _ => rfl, fun _ _ _ => rfl⟩

namespace Daemon

variable {σ τ : Type} (f : σ → τ)

def mapRoutes (d : Daemon σ) : Daemon τ :=
  { d with routes := f d.routes }

@[simp] theorem mapRoutes_neighbors (d : Daemon σ) : (d.mapRoutes f).neighbors = d.neighbors := rfl

@[simp] theorem mapRoutes_link (d : Daemon σ) : (d.mapRoutes f).link = d.link := rfl

@[simp] theorem mapRoutes_types (d : Daemon σ) : (d.mapRoutes f).types = d.types := rfl

@[simp] theorem mapRoutes_sink (d : Daemon σ) : (d.mapRoutes f).sink = d.sink := rfl

@[simp] theorem mapRoutes_etherXid (d : Daemon σ) (a : HwAddr) : (d.mapRoutes f).etherXid a = d.etherXid a := rfl

@[simp] theorem mapRoutes_adXid (d : Daemon σ) (id : Identifier) : (d.mapRoutes f).adXid id = d.adXid id := rfl

/-! ## Acts that ask for no routes -/

theorem mapRoutes_transmit (d : Daemon σ) (dest : Option HwAddr) (packet : Packet) :
    (d.mapRoutes f).transmit dest packet = (d.transmit dest packet).map id (mapRoutes f) := by
  unfold transmit
  cases packet.encode with
  | error e => rfl
  | ok frame =>
    dsimp only
    rw [mapRoutes_sink]
    cases d.sink.send dest frame with
    | mk answer sink => cases answer <;> rfl

theorem mapRoutes_broadcastAll : ∀ (ps : List Packet) (d : Daemon σ),
    (d.mapRoutes f).broadcastAll ps = (d.broadcastAll ps).map id (mapRoutes f)
  | [], _ => rfl
  | p :: ps, d => by
    have ih := mapRoutes_broadcastAll ps (d.transmit none p).2
    simp only [broadcastAll, broadcast, mapRoutes_transmit, Prod.map_fst, Prod.map_snd, ih]
    rfl

theorem mapRoutes_askRelays (suspect : HwAddr) : ∀ (relays : List Neighbor) (d : Daemon σ),
    (d.mapRoutes f).askRelays suspect relays = (d.askRelays suspect relays).mapRoutes f
  | [], _ => rfl
  | relay :: relays, d => by
    simp only [askRelays, send, mapRoutes_transmit, Prod.map_snd, mapRoutes_askRelays suspect relays]
    rfl

theorem mapRoutes_relayInvestigation (d : Daemon σ) (p : Investigation) :
    (d.mapRoutes f).relayInvestigation p = (d.relayInvestigation p).mapRoutes f := by
  unfold relayInvestigation
  rw [mapRoutes_neighbors]
  cases d.neighbors.get? p.investigate with
  | none => rfl
  | some n => exact congrArg Prod.snd (mapRoutes_transmit f d _ _)

theorem mapRoutes_register (d : Daemon σ) (a : HwAddr) (identity : Xid) :
    (d.mapRoutes f).register a identity = (d.register a identity).mapRoutes f := by
  unfold register
  rw [mapRoutes_neighbors]
  rcases d.neighbors.getOrCreate a identity with ⟨⟨_, _ | _⟩, _⟩ <;> rfl

theorem mapRoutes_judge (d : Daemon σ) (answer : Except Error Unit) :
    (d.mapRoutes f).judge answer = (d.judge answer).map id (mapRoutes f) := by
  cases answer with
  | ok => rfl
  | error e =>
    unfold judge
    dsimp only
    split <;> rfl

theorem mapRoutes_settle (d : Daemon σ) (n : Neighbor) : (d.mapRoutes f).settle n = (d.settle n).mapRoutes f := by
  rw [settle_eq, settle_eq]
  rfl

theorem mapRoutes_giveUp (d : Daemon σ) (ref : NeighborRef) (timer : TimerId) :
    (d.mapRoutes f).giveUp ref timer = (d.giveUp ref timer).mapRoutes f := by
  unfold giveUp
  rw [mapRoutes_neighbors]
  cases d.neighbors.find? ref with
  | none => rfl
  | some n =>
    dsimp only
    split
    · exact mapRoutes_settle f d n
    · rfl

theorem mapRoutes_notePing (d : Daemon σ) (sender : HwAddr) (clock : Int32) :
    (d.mapRoutes f).notePing sender clock = (d.notePing sender clock).mapRoutes f := by
  unfold notePing
  rw [mapRoutes_neighbors]
  cases d.neighbors.get? sender with
  | none => rfl
  | some n =>
    dsimp only
    split
    · exact mapRoutes_settle f { d with neighbors := d.neighbors.setClock n.ref clock } n
    · rfl

theorem mapRoutes_noteAck (d : Daemon σ) (sender : HwAddr) (clock : Int32) :
    (d.mapRoutes f).noteAck sender clock = (d.noteAck sender clock).mapRoutes f := by
  unfold noteAck
  rw [mapRoutes_neighbors]
  cases d.neighbors.get? sender with
  | none => rfl
  | some n =>
    dsimp only
    split
    · rfl
    · rw [mapRoutes_settle]
      rfl

theorem mapRoutes_processMonitor (d : Daemon σ) (sender : HwAddr) (p : Monitor) :
    (d.mapRoutes f).processMonitor sender p = (d.processMonitor sender p).map id (mapRoutes f) := by
  unfold processMonitor
  rw [mapRoutes_link]
  split
  · rfl
  · split
    · rfl
    · split
      · rw [mapRoutes_notePing]
        exact congrArg (fun answer : Bool × Daemon τ => (Except.ok (), answer.2)) (mapRoutes_transmit f _ _ _)
      · rw [mapRoutes_noteAck]
        rfl

/-! ## Probes, start and shutdown -/

theorem mapRoutes_ping (d : Daemon σ) (n : Neighbor) : (d.mapRoutes f).ping n = (d.ping n).map id (mapRoutes f) := by
  rw [ping_eq, ping_eq]
  have ht := mapRoutes_transmit f (d.awaitAck n) (some n.hwaddr) (d.pingTo n.hwaddr)
  have hd : ((d.mapRoutes f).awaitAck n).transmit (some n.hwaddr) ((d.mapRoutes f).pingTo n.hwaddr) =
      ((d.awaitAck n).mapRoutes f).transmit (some n.hwaddr) (d.pingTo n.hwaddr) := rfl
  rw [hd, ht]
  rcases (d.awaitAck n).transmit (some n.hwaddr) (d.pingTo n.hwaddr) with ⟨_ | _, d'⟩
  · exact congrArg (Prod.mk none) (mapRoutes_giveUp f d' _ _)
  · rfl

theorem mapRoutes_pingTick (d : Daemon σ) : (d.mapRoutes f).pingTick = d.pingTick.map id (mapRoutes f) := by
  unfold pingTick
  have hp : (d.mapRoutes f).neighbors.pick? (d.mapRoutes f).lots = d.neighbors.pick? d.lots := rfl
  rw [hp]
  rcases d.neighbors.pick? d.lots with ⟨_ | n, lots⟩
  · rfl
  · exact mapRoutes_ping f { d with lots := lots } n

theorem mapRoutes_escalate (d : Daemon σ) (n : Neighbor) :
    (d.mapRoutes f).escalate n = (d.escalate n).mapRoutes f := by
  rw [escalate_eq, escalate_eq]
  exact mapRoutes_askRelays f n.hwaddr _ { d.awaitAnswer n with metrics := _, lots := _ }

theorem mapRoutes_onAckTimeout (d : Daemon σ) (ref : NeighborRef) (timer : TimerId) :
    (d.mapRoutes f).onAckTimeout ref timer = (d.onAckTimeout ref timer).mapRoutes f := by
  unfold onAckTimeout
  rw [mapRoutes_neighbors]
  cases d.neighbors.find? ref with
  | none => rfl
  | some n =>
    dsimp only
    split
    · exact mapRoutes_escalate f d n
    · rfl

theorem mapRoutes_shutdown (d : Daemon σ) : (d.mapRoutes f).shutdown = d.shutdown.mapRoutes f := by
  rw [shutdown_eq, shutdown_eq]
  rfl

/-! ## Acts that ask for routes -/

theorem mapRoutes_noteRequest {α : Type} (d : Daemon σ) (answer : Except Error α) :
    (d.mapRoutes f).noteRequest answer = (d.noteRequest answer).mapRoutes f := by
  cases answer <;> rfl

section
variable [RouteTable σ] [RouteTable τ] {f} (hf : RouteTable.Keeps f)
include hf

theorem mapRoutes_installRoute (d : Daemon σ) (dst : Xid) (gateway : Option Xid) :
    (d.mapRoutes f).installRoute dst gateway = (d.installRoute dst gateway).map id (mapRoutes f) := by
  unfold installRoute
  have hr : RouteTable.add (d.mapRoutes f).routes dst gateway = (RouteTable.add d.routes dst gateway).map id f :=
    hf.add d.routes dst gateway
  rw [hr]
  exact congrArg (Prod.mk _) (mapRoutes_noteRequest f { d with routes := _ } _)

theorem mapRoutes_withdrawRoute (d : Daemon σ) (dst : Xid) :
    (d.mapRoutes f).withdrawRoute dst = (d.withdrawRoute dst).map id (mapRoutes f) := by
  unfold withdrawRoute
  have hr : RouteTable.del (d.mapRoutes f).routes dst = (RouteTable.del d.routes dst).map id f := hf.del d.routes dst
  rw [hr]
  exact congrArg (Prod.mk _) (mapRoutes_noteRequest f { d with routes := _ } _)

theorem mapRoutes_dumpRoutes (d : Daemon σ) (table : TableId) (filter : RouteFilter) :
    (d.mapRoutes f).dumpRoutes table filter = (d.dumpRoutes table filter).map id (mapRoutes f) := by
  unfold dumpRoutes
  have hr : RouteTable.dump (d.mapRoutes f).routes table filter = (RouteTable.dump d.routes table filter).map id f :=
    hf.dump d.routes table filter
  rw [hr]
  exact congrArg (Prod.mk _) (mapRoutes_noteRequest f { d with routes := _ } _)

theorem mapRoutes_withdrawRoutes : ∀ (dsts : List Xid) (d : Daemon σ),
    (d.mapRoutes f).withdrawRoutes dsts = (d.withdrawRoutes dsts).mapRoutes f
  | [], _ => rfl
  | dst :: dsts, d => by
    simp only [withdrawRoutes, mapRoutes_withdrawRoute hf, Prod.map_snd, mapRoutes_withdrawRoutes dsts]

theorem mapRoutes_installPrefixes (gateway : Xid) : ∀ (ids : List Identifier) (d : Daemon σ),
    (d.mapRoutes f).installPrefixes gateway ids = (d.installPrefixes gateway ids).mapRoutes f
  | [], _ => rfl
  | id :: ids, d => by
    simp only [installPrefixes, mapRoutes_installRoute hf, Prod.map_snd, mapRoutes_installPrefixes gateway ids]
    rfl

theorem mapRoutes_withdrawNeighbor (d : Daemon σ) (identity : Xid) :
    (d.mapRoutes f).withdrawNeighbor identity = (d.withdrawNeighbor identity).mapRoutes f := by
  unfold withdrawNeighbor
  dsimp only
  rw [mapRoutes_types, mapRoutes_dumpRoutes hf]
  rcases d.dumpRoutes .main _ with ⟨_ | routes, d'⟩
  · exact congrArg Prod.snd (mapRoutes_withdrawRoute hf d' identity)
  · simp only [Prod.map_apply, id_eq, mapRoutes_withdrawRoutes hf, mapRoutes_withdrawRoute hf, Prod.map_snd]

theorem mapRoutes_announce (d : Daemon σ) : (d.mapRoutes f).announce = d.announce.map id (mapRoutes f) := by
  unfold announce
  rw [mapRoutes_types, mapRoutes_dumpRoutes hf]
  rcases d.dumpRoutes .own _ with ⟨_ | own, d'⟩
  · rfl
  · simp only [Prod.map_apply, id_eq]
    cases own with
    | nil => exact mapRoutes_transmit f { d' with counters := d'.counters.setOwn (UInt32.ofNat 0) } none _
    | cons r rs =>
      exact mapRoutes_broadcastAll f _ { d' with counters := d'.counters.setOwn (UInt32.ofNat (r :: rs).length) }

theorem mapRoutes_tryAnnounce (d : Daemon σ) : (d.mapRoutes f).tryAnnounce = d.tryAnnounce.mapRoutes f := by
  unfold tryAnnounce
  have hs : (d.mapRoutes f).shouldAnnounce = d.shouldAnnounce.map id (mapRoutes f) := rfl
  rw [hs]
  rcases d.shouldAnnounce with ⟨_ | _, d'⟩
  · rfl
  · exact congrArg Prod.snd (mapRoutes_announce hf d')

theorem mapRoutes_sendNeighborList (d : Daemon σ) (dest : HwAddr) :
    (d.mapRoutes f).sendNeighborList dest = (d.sendNeighborList dest).map id (mapRoutes f) := by
  unfold sendNeighborList
  rw [mapRoutes_types, mapRoutes_dumpRoutes hf]
  rcases d.dumpRoutes .main _ with ⟨_ | onLink, d₁⟩
  · rfl
  · have hd := mapRoutes_dumpRoutes hf { d₁ with counters := d₁.counters.setDiscovered (UInt32.ofNat onLink.length) }
      .main { dstType := some d₁.types.ad, gwType := some d₁.types.ether }
    simp only [Prod.map_apply, id_eq]
    simp only [mapRoutes] at hd ⊢
    rw [hd]
    rcases Daemon.dumpRoutes _ .main _ with ⟨_ | prefixes, d₂⟩
    · rfl
    · exact mapRoutes_transmit f d₂ (some dest) _

theorem mapRoutes_replyTo (d : Daemon σ) (sender : HwAddr) :
    (d.mapRoutes f).replyTo sender = (d.replyTo sender).mapRoutes f := by
  unfold replyTo
  have hm : (d.mapRoutes f).myTurn = d.myTurn.map id (mapRoutes f) := rfl
  rw [hm]
  rcases d.myTurn with ⟨_ | _, d'⟩
  · rfl
  · exact congrArg Prod.snd (mapRoutes_sendNeighborList hf d' sender)

theorem mapRoutes_learn (d : Daemon σ) (sender : HwAddr) (a : Announce) :
    (d.mapRoutes f).learn sender a = (d.learn sender a).mapRoutes f := by
  unfold learn
  rw [mapRoutes_etherXid, mapRoutes_installRoute hf, Prod.map_snd, mapRoutes_register, mapRoutes_installPrefixes hf]

theorem mapRoutes_acceptAnnounce (d : Daemon σ) (sender : HwAddr) (a : Announce) :
    (d.mapRoutes f).acceptAnnounce sender a = (d.acceptAnnounce sender a).mapRoutes f := by
  rw [acceptAnnounce_eq, acceptAnnounce_eq, mapRoutes_learn hf, mapRoutes_replyTo hf]
  rfl

theorem mapRoutes_acceptRecord (d : Daemon σ) (r : NeighborRecord) :
    (d.mapRoutes f).acceptRecord r = (d.acceptRecord r).mapRoutes f := by
  unfold acceptRecord
  rw [mapRoutes_link]
  split
  · split
    · rfl
    · dsimp only
      rw [mapRoutes_etherXid, mapRoutes_installRoute hf, Prod.map_snd, mapRoutes_adXid, mapRoutes_installRoute hf,
        Prod.map_snd, mapRoutes_register]
  · rfl

theorem mapRoutes_acceptRecords : ∀ (rs : List NeighborRecord) (d : Daemon σ),
    (d.mapRoutes f).acceptRecords rs = (d.acceptRecords rs).mapRoutes f
  | [], _ => rfl
  | r :: rs, d => by
    simp only [acceptRecords, mapRoutes_acceptRecord hf, mapRoutes_acceptRecords rs]

theorem mapRoutes_processInvestigation (d : Daemon σ) (sender : HwAddr) (p : Investigation) :
    (d.mapRoutes f).processInvestigation sender p = (d.processInvestigation sender p).map id (mapRoutes f) := by
  unfold processInvestigation
  rw [mapRoutes_link]
  split
  · rfl
  · split
    · rfl
    · split
      · have hs : (d.mapRoutes f).sendAck p.src = (d.sendAck p.src).mapRoutes f :=
          congrArg Prod.snd (mapRoutes_transmit f d _ _)
        unfold answerInvestigation
        rw [hs, mapRoutes_announce hf]
        rfl
      · split
        · rw [mapRoutes_relayInvestigation]
          rfl
        · rfl

theorem mapRoutes_process (d : Daemon σ) (sender : HwAddr) : ∀ p,
    (d.mapRoutes f).process sender p = (d.process sender p).map id (mapRoutes f)
  | .announce a => by
    simp only [process, processAnnounce, mapRoutes_link, mapRoutes_acceptAnnounce hf]
    cases a.rejection? d.link sender <;> rfl
  | .neighborList l => by
    simp only [process, processNeighborList, mapRoutes_link, mapRoutes_acceptRecords hf]
    split <;> rfl
  | .monitor p => mapRoutes_processMonitor f d sender p
  | .investigation p => mapRoutes_processInvestigation hf d sender p

theorem mapRoutes_handleFrame (d : Daemon σ) (sender : HwAddr) (bytes : List UInt8) :
    (d.mapRoutes f).handleFrame sender bytes = (d.handleFrame sender bytes).map id (mapRoutes f) := by
  unfold handleFrame
  cases Packet.decode bytes with
  | error e => exact mapRoutes_judge f d _
  | ok packet =>
    have hp := mapRoutes_process hf { d with metrics := d.metrics.recordReceived packet.kind } sender packet
    simp only [mapRoutes] at hp ⊢
    rw [hp]
    exact mapRoutes_judge f _ _

theorem mapRoutes_onInvestigationTimeout (d : Daemon σ) (ref : NeighborRef) (timer : TimerId) :
    (d.mapRoutes f).onInvestigationTimeout ref timer = (d.onInvestigationTimeout ref timer).mapRoutes f := by
  rw [onInvestigationTimeout_eq, onInvestigationTimeout_eq, mapRoutes_neighbors]
  cases d.neighbors.expired? ref timer with
  | none => rfl
  | some n =>
    have hw := mapRoutes_withdrawNeighbor hf { d with neighbors := d.neighbors.depart n } n.identity
    simp only [dismiss, mapRoutes] at hw ⊢
    rw [hw]
    rfl

theorem mapRoutes_expire (d : Daemon σ) (t : Timer Alarm) : (d.mapRoutes f).expire t = (d.expire t).mapRoutes f := by
  unfold expire
  split
  · exact mapRoutes_tryAnnounce hf d
  · exact congrArg Prod.snd (mapRoutes_pingTick f d)
  · exact mapRoutes_onAckTimeout f d _ _
  · exact mapRoutes_onInvestigationTimeout hf d _ _
  · rfl

end

/-! ## Events -/

/-- What an event makes of a daemon. -/
def react [RouteTable σ] (d : Daemon σ) : Event → Daemon σ
  | .frame sender bytes => (d.handleFrame sender bytes).2
  | .pingTick => d.pingTick.2
  | .announce => d.announce.2
  | .tryAnnounce => d.tryAnnounce
  | .start => d.start
  | .shutdown => d.shutdown
  | .expiry t => { d with timers := d.timers.fire t }.expire t
  | .pass limit => { d with timers := d.timers.passTo limit }
  | .surroundings sink clock => { d with sink := sink, clock := clock }

theorem Step.eq_react [RouteTable σ] {d d' : Daemon σ} {e : Event} (h : Step d e d') : d' = d.react e := by
  cases h <;> rfl

section
variable [RouteTable σ] [RouteTable τ] {f} (hf : RouteTable.Keeps f)
include hf

/-- An event does the same above either table. -/
theorem mapRoutes_react (d : Daemon σ) : ∀ e, (d.mapRoutes f).react e = (d.react e).mapRoutes f
  | .frame sender bytes => congrArg Prod.snd (mapRoutes_handleFrame hf d sender bytes)
  | .pingTick => congrArg Prod.snd (mapRoutes_pingTick f d)
  | .announce => congrArg Prod.snd (mapRoutes_announce hf d)
  | .tryAnnounce => mapRoutes_tryAnnounce hf d
  | .start => by
    unfold react start
    rw [mapRoutes_announce hf]
    rfl
  | .shutdown => mapRoutes_shutdown f d
  | .expiry t => mapRoutes_expire hf { d with timers := d.timers.fire t } t
  | .pass _ => rfl
  | .surroundings _ _ => rfl

end

/-! ## A ledger around the table -/

/-- The daemon with a new ledger around its route table. -/
def recorded (d : Daemon σ) : Daemon (Ledger σ) :=
  d.mapRoutes fun table => { table := table }

section
variable [RouteTable σ] {d d' : Daemon σ} {e : Event}

/-- The ledger changes nothing but itself. -/
theorem react_recorded (d : Daemon σ) (e : Event) : (d.recorded.react e).mapRoutes Ledger.table = d.react e :=
  (mapRoutes_react Ledger.keeps_table d.recorded e).symm

theorem Step.recorded : Step d e d' → Step d.recorded e (d.recorded.react e)
  | .frame _ sender bytes => .frame _ sender bytes
  | .pingTick _ => .pingTick _
  | .announce _ => .announce _
  | .tryAnnounce _ => .tryAnnounce _
  | .start _ => .start _
  | .shutdown _ => .shutdown _
  | .expiry ht => .expiry ht
  | .pass hl => .pass hl
  | .surroundings _ sink clock => .surroundings _ sink clock

/-- How the route table answers the requests that an event makes, in order. -/
def Moment.answers (m : Moment σ) : List Bool :=
  (m.before.recorded.react m.event).routes.answers

end

end Daemon

end Neighborhood
