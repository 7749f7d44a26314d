import Neighborhood.Proofs.Daemon.Acts

/-!
# What probes and counters leave alone

* `Daemon.SameHost` — the configuration, the link, the principal types and the runtime's sleeps are those told at the
  start; nothing that happens changes them (`Step.sameHost`, `Run.sameHost`)
* `Daemon.Still` — besides, the routes and who the neighbors are have not changed
* `Daemon.Tends` — an act that changes the states of neighbors, their clocks and deadlines, and sends packets

Every function of a daemon that neither adds a neighbor nor evicts one has a lemma here.
-/

namespace Neighborhood

namespace Daemon

variable {σ : Type}

/-- All that was told at the start, but for the sources of chance, is the same. -/
structure SameHost (d d' : Daemon σ) : Prop where
  config : d'.config = d.config
  link : d'.link = d.link
  types : d'.types = d.types
  sleep : d'.timers.sleep = d.timers.sleep

namespace SameHost

theorem refl (d : Daemon σ) : SameHost d d := ⟨rfl, rfl, rfl, rfl⟩

theorem trans {d₁ d₂ d₃ : Daemon σ} (h₁ : SameHost d₁ d₂) (h₂ : SameHost d₂ d₃) : SameHost d₁ d₃ where
  config := h₂.config.trans h₁.config
  link := h₂.link.trans h₁.link
  types := h₂.types.trans h₁.types
  sleep := h₂.sleep.trans h₁.sleep

theorem etherXid {d d' : Daemon σ} (h : SameHost d d') : d'.etherXid = d.etherXid := by
  funext a
  simp only [Daemon.etherXid, h.types, h.link]

end SameHost

theorem Aside.sameHost {d d' : Daemon σ} (h : Aside d d') : SameHost d d' :=
  ⟨h.config, h.link, h.types, by rw [h.timers]⟩

/-- The routes are the same, and the neighbors are the same hosts under the same identities. -/
structure Still (d d' : Daemon σ) : Prop extends SameHost d d' where
  routes : d'.routes = d.routes
  directory : d'.neighbors.directory = d.neighbors.directory

namespace Still

theorem refl (d : Daemon σ) : Still d d := ⟨.refl d, rfl, rfl⟩

theorem trans {d₁ d₂ d₃ : Daemon σ} (h₁ : Still d₁ d₂) (h₂ : Still d₂ d₃) : Still d₁ d₃ where
  toSameHost := h₁.toSameHost.trans h₂.toSameHost
  routes := h₂.routes.trans h₁.routes
  directory := h₂.directory.trans h₁.directory

end Still

theorem Outward.still {d d' : Daemon σ} (h : Outward d d') (hr : d'.routes = d.routes) : Still d d' where
  toSameHost := h.aside.sameHost
  routes := hr
  directory := by rw [h.aside.neighbors]

theorem Sends.still {d d' : Daemon σ} (h : Sends d d') : Still d d' := h.outward.still h.routes

/-! ## Probes -/

/-- States, clocks and deadlines of neighbors have been changed and packets been tried to be sent, and no more. -/
def Tends (d d' : Daemon σ) : Prop :=
  ∃ neighbors timers lots sink transmissions sent sendErrors investigations,
    d' = { d with
      neighbors := neighbors
      timers := timers
      lots := lots
      sink := sink
      transmissions := transmissions
      metrics := { d.metrics with sent := sent, sendErrors := sendErrors, investigations := investigations } } ∧
    neighbors.directory = d.neighbors.directory ∧ timers.sleep = d.timers.sleep

namespace Tends

theorem refl (d : Daemon σ) : Tends d d := ⟨_, _, _, _, _, _, _, _, rfl, rfl, rfl⟩

theorem trans {d₁ d₂ d₃ : Daemon σ} (h₁ : Tends d₁ d₂) (h₂ : Tends d₂ d₃) : Tends d₁ d₃ := by
  obtain ⟨_, _, _, _, _, _, _, _, rfl, hd₁, hs₁⟩ := h₁
  obtain ⟨_, _, _, _, _, _, _, _, rfl, hd₂, hs₂⟩ := h₂
  exact ⟨_, _, _, _, _, _, _, _, rfl, hd₂.trans hd₁, hs₂.trans hs₁⟩

theorem still {d d' : Daemon σ} (h : Tends d d') : Still d d' := by
  obtain ⟨_, _, _, _, _, _, _, _, rfl, hd, hs⟩ := h
  exact ⟨⟨rfl, rfl, rfl, hs⟩, rfl, hd⟩

end Tends

theorem Sends.tends {d d' : Daemon σ} (h : Sends d d') : Tends d d' := by
  obtain ⟨_, _, _, _, rfl⟩ := h
  exact ⟨_, _, _, _, _, _, _, _, rfl, rfl, rfl⟩

theorem settle_tends (d : Daemon σ) (n : Neighbor) : Tends d (d.settle n) := by
  rw [settle_eq]
  exact ⟨_, _, _, _, _, _, _, _, rfl, NeighborTable.directory_settle _ _, rfl⟩

theorem await_tends (d : Daemon σ) (n : Neighbor) (delay : Nat) (task : Alarm) (liveness : Liveness) :
    Tends d (d.await n delay task liveness) :=
  ⟨_, _, _, _, _, _, _, _, rfl, NeighborTable.directory_arm _ _ _ _, rfl⟩

theorem setClock_tends (d : Daemon σ) (ref : NeighborRef) (clock : Int32) :
    Tends d { d with neighbors := d.neighbors.setClock ref clock } :=
  ⟨_, _, _, _, _, _, _, _, rfl, NeighborTable.directory_setClock _ _ _, rfl⟩

theorem giveUp_tends (d : Daemon σ) (ref : NeighborRef) (timer : TimerId) : Tends d (d.giveUp ref timer) := by
  rcases giveUp_cases d ref timer with ⟨n, -, he⟩ | he <;> rw [he]
  · exact settle_tends d n
  · exact .refl d

theorem notePing_tends (d : Daemon σ) (sender : HwAddr) (clock : Int32) : Tends d (d.notePing sender clock) := by
  unfold notePing
  split
  · exact .refl d
  · rename_i n _
    have hc := setClock_tends d n.ref clock
    dsimp only
    split
    · exact hc.trans (settle_tends _ n)
    · exact hc

theorem noteAck_tends (d : Daemon σ) (sender : HwAddr) (clock : Int32) : Tends d (d.noteAck sender clock) := by
  unfold noteAck
  split
  · exact .refl d
  · split
    · exact .refl d
    · exact (settle_tends d _).trans (setClock_tends _ _ clock)

theorem processMonitor_tends (d : Daemon σ) (sender : HwAddr) (p : Monitor) :
    Tends d (d.processMonitor sender p).2 := by
  unfold processMonitor
  split
  · exact .refl d
  · split
    · exact .refl d
    · split
      · exact (notePing_tends d sender p.clock).trans (sendAck_sends _ sender).tends
      · exact noteAck_tends d sender p.clock

theorem ping_tends (d : Daemon σ) (n : Neighbor) : Tends d (d.ping n).2 := by
  rw [ping_eq]
  have ha := await_tends d n (millis d.config.ackTimeout) (.ackDue n.ref) .awaitingAck
  have ht := ha.trans (transmit_sends (d.awaitAck n) (some n.hwaddr) (d.pingTo n.hwaddr)).tends
  split
  all_goals
    rename_i d' he
    rw [he] at ht
  · exact ht
  · exact ht.trans (giveUp_tends d' _ _)

theorem pingTick_tends (d : Daemon σ) : Tends d d.pingTick.2 := by
  unfold pingTick
  have hl : ∀ lots, Tends d { d with lots := lots } := fun _ => ⟨_, _, _, _, _, _, _, _, rfl, rfl, rfl⟩
  split
  · exact hl _
  · exact (hl _).trans (ping_tends _ _)

theorem escalate_tends (d : Daemon σ) (n : Neighbor) : Tends d (d.escalate n) := by
  have ha : Tends d (d.awaitAnswer n) := await_tends d n _ _ _
  rw [escalate_eq]
  refine ha.trans (.trans ?_ (askRelays_sends _ _ _).tends)
  exact ⟨_, _, _, _, _, _, _, _, rfl, rfl, rfl⟩

theorem onAckTimeout_tends (d : Daemon σ) (ref : NeighborRef) (timer : TimerId) :
    Tends d (d.onAckTimeout ref timer) := by
  unfold onAckTimeout
  split
  · split
    · exact escalate_tends d _
    · exact .refl d
  · exact .refl d

theorem settleAll_tends : ∀ (ns : List Neighbor) (d : Daemon σ), Tends d (d.settleAll ns)
  | [], d => .refl d
  | n :: ns, d => (settle_tends d n).trans (settleAll_tends ns _)

/-! ## Counters and periodic timers -/

theorem judge_still (d : Daemon σ) (answer : Except Error Unit) : Still d (d.judge answer).2 := by
  unfold judge
  split
  · exact .refl d
  · dsimp only
    split <;> exact ⟨⟨rfl, rfl, rfl, rfl⟩, rfl, rfl⟩

theorem recordEvicted_still (d : Daemon σ) :
    Still d { d with metrics := d.metrics.recordEvicted }.reportNeighbors :=
  ⟨⟨rfl, rfl, rfl, rfl⟩, rfl, rfl⟩

theorem every_still (d : Daemon σ) (seconds : Nat) (task : Alarm) : Still d (d.every seconds task) := by
  refine ⟨⟨rfl, rfl, rfl, ?_⟩, rfl, rfl⟩
  unfold every Timers.repeating
  dsimp only
  split <;> rfl

theorem shutdown_still (d : Daemon σ) : Still d d.shutdown := by
  have hc : Still d d.cancelPeriodic := ⟨⟨rfl, rfl, rfl, by rw [cancelPeriodic, Timers.foldl_cancel_eq]⟩, rfl, rfl⟩
  exact hc.trans (settleAll_tends _ _).still

/-! ## The host -/

theorem heed_sameHost (d : Daemon σ) : ∀ news, SameHost d (d.heed news)
  | .hosts _ => ⟨rfl, rfl, rfl, rfl⟩
  | .ping sender clock => (notePing_tends d sender clock).still.toSameHost
  | .ack sender clock => (noteAck_tends d sender clock).still.toSameHost
  | .nothing | .probe .. | .expiry .. | .shutdown => .refl d

theorem register_sameHost (d : Daemon σ) (a : HwAddr) : SameHost d (d.register a (d.etherXid a)) :=
  have hm : SameHost d (d.meet [a]) := ⟨rfl, rfl, rfl, rfl⟩
  hm.trans (register_aside d a).sameHost

section
variable [RouteTable σ]

theorem learn_sameHost (d : Daemon σ) (sender : HwAddr) (a : Announce) : SameHost d (d.learn sender a) := by
  have hi := (installRoute_outward d (d.etherXid sender) none).aside.sameHost
  have hr := register_sameHost (d.installRoute (d.etherXid sender) none).2 sender
  rw [hi.etherXid] at hr
  exact (hi.trans hr).trans (installPrefixes_outward (d.etherXid sender) a.xids _).aside.sameHost

theorem onInvestigationTimeout_sameHost (d : Daemon σ) (ref : NeighborRef) (timer : TimerId) :
    SameHost d (d.onInvestigationTimeout ref timer) := by
  rw [onInvestigationTimeout_eq]
  split
  · rename_i n _
    have hn : SameHost d { d with neighbors := d.neighbors.depart n } := ⟨rfl, rfl, rfl, rfl⟩
    exact hn.trans (dismiss_aside d n).sameHost
  · exact .refl d

theorem expire_sameHost (d : Daemon σ) (t : Timer Alarm) : SameHost d (d.expire t) := by
  unfold expire
  split
  · exact (tryAnnounce_outward d).aside.sameHost
  · exact (pingTick_tends d).still.toSameHost
  · exact (onAckTimeout_tends d _ _).still.toSameHost
  · exact onInvestigationTimeout_sameHost d _ _
  · exact .refl d

variable {d₀ d d' : Daemon σ}

theorem Step.sameHost {e : Event} : Step d e d' → SameHost d d'
  | .frame _ sender bytes => (heed_sameHost d _).trans (handleFrame_aside d sender bytes).sameHost
  | .pingTick _ => (pingTick_tends d).still.toSameHost
  | .announce _ => (announce_outward d).aside.sameHost
  | .tryAnnounce _ => (tryAnnounce_outward d).aside.sameHost
  | .start _ =>
    ((announce_outward d).aside.sameHost.trans (every_still _ _ _).toSameHost).trans (every_still _ _ _).toSameHost
  | .shutdown _ => (shutdown_still d).toSameHost
  | .expiry (t := t) _ =>
    have hf : SameHost d { d with timers := d.timers.fire t } := ⟨rfl, rfl, rfl, rfl⟩
    hf.trans (expire_sameHost _ t)
  | .pass _ => ⟨rfl, rfl, rfl, rfl⟩
  | .surroundings _ _ _ => ⟨rfl, rfl, rfl, rfl⟩

theorem Run.sameHost {l : List (Moment σ)} (h : Run d₀ l d) : SameHost d₀ d := by
  induction h with
  | nil => exact .refl d₀
  | snoc _ hs ih => exact ih.trans hs.sameHost

end

/-! ## Dumps of routes held in memory -/

/-- Routes held in memory can always be read, and reading changes nothing. -/
theorem dumpRoutes_eq (d : Daemon MemoryRoutes) (table : TableId) (filter : RouteFilter) :
    d.dumpRoutes table filter =
      (some (d.routes.dump table filter), { d with metrics := d.metrics.recordRouteLatency 0 }) :=
  rfl

theorem announce_still (d : Daemon MemoryRoutes) : Still d d.announce.2 := by
  refine (announce_outward d).still ?_
  unfold announce
  rw [dumpRoutes_eq]
  dsimp only
  split
  · exact (transmit_sends _ _ _).routes
  · exact (broadcastAll_sends _ _).routes

theorem tryAnnounce_still (d : Daemon MemoryRoutes) : Still d d.tryAnnounce := by
  have hs : Still d d.shouldAnnounce.2 := (shouldAnnounce_outward d).still rfl
  unfold tryAnnounce
  split
  all_goals
    rename_i d' he
    rw [he] at hs
  · exact hs.trans (announce_still d')
  · exact hs

theorem sendNeighborList_still (d : Daemon MemoryRoutes) (dest : HwAddr) : Still d (d.sendNeighborList dest).2 := by
  refine (sendNeighborList_outward d dest).still ?_
  unfold sendNeighborList
  rw [dumpRoutes_eq]
  dsimp only
  rw [dumpRoutes_eq]
  exact (transmit_sends _ _ _).routes

theorem replyTo_still (d : Daemon MemoryRoutes) (sender : HwAddr) : Still d (d.replyTo sender) := by
  have ht : Still d d.myTurn.2 := (myTurn_outward d).still rfl
  unfold replyTo
  split
  all_goals
    rename_i d' he
    rw [he] at ht
  · exact ht.trans (sendNeighborList_still d' sender)
  · exact ht

theorem processInvestigation_still (d : Daemon MemoryRoutes) (sender : HwAddr) (p : Investigation) :
    Still d (d.processInvestigation sender p).2 := by
  unfold processInvestigation
  split
  · exact .refl d
  · split
    · exact .refl d
    · split
      · exact (sendAck_sends d p.src).still.trans (announce_still _)
      · split
        · exact (relayInvestigation_sends d p).still
        · exact .refl d

theorem start_still (d : Daemon MemoryRoutes) : Still d d.start :=
  ((announce_still d).trans (every_still _ _ _)).trans (every_still _ _ _)

end Daemon

end Neighborhood
