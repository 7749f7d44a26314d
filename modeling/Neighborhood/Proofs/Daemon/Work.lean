import Mathlib.Logic.Relation
import Neighborhood.Proofs.Daemon.Still

/-!
# The elementary acts of a daemon

* `Daemon.Act` — a packet is tried to be sent, the route table is asked for something, a host gets an entry, or states,
  timers, counters and draws change
* `Daemon.Work` — any number of such acts; every function of a daemon that counts no frame, no investigation and no
  eviction has a lemma here

What holds of every elementary act and can be put together holds of work (`Daemon.Work.le`), and what every elementary
act keeps, work keeps (`Daemon.Work.keeps`).
-/

namespace Neighborhood

namespace Daemon

variable {σ : Type} [RouteTable σ]

inductive Act (d : Daemon σ) : Daemon σ → Prop
  | transmit (dest : Option HwAddr) (packet : Packet) : Act d (d.transmit dest packet).2
  | install (dst : Xid) (gateway : Option Xid) : Act d (d.installRoute dst gateway).2
  | withdraw (dst : Xid) : Act d (d.withdrawRoute dst).2
  | dump (table : TableId) (filter : RouteFilter) : Act d (d.dumpRoutes table filter).2
  | register (a : HwAddr) (identity : Xid) : Act d (d.register a identity)
  /-- Only changes of states, timers, counters and draws; the neighbors are the same hosts. -/
  | tend (neighbors : NeighborTable) (timers : Timers Alarm) (periodic : List TimerId) (counters : PrefixCounters)
      (draws : Draws UInt64) (lots : Draws Nat) : neighbors.directory = d.neighbors.directory →
      Act d { d with
        neighbors := neighbors
        timers := timers
        periodic := periodic
        counters := counters
        draws := draws
        lots := lots }

/-- Some acts, one after another. -/
def Work : Daemon σ → Daemon σ → Prop := Relation.ReflTransGen Act

namespace Work

variable {d d₁ d₂ d₃ : Daemon σ}

theorem refl (d : Daemon σ) : Work d d := Relation.ReflTransGen.refl

theorem trans (h₁ : Work d₁ d₂) (h₂ : Work d₂ d₃) : Work d₁ d₃ := Relation.ReflTransGen.trans h₁ h₂

/-- What holds of every act, and can be put together, holds of work. -/
theorem le {R : Daemon σ → Daemon σ → Prop} (hrefl : ∀ d, R d d) (htrans : ∀ {d₁ d₂ d₃}, R d₁ d₂ → R d₂ d₃ → R d₁ d₃)
    (hact : ∀ {d d'}, Act d d' → R d d') (h : Work d₁ d₂) : R d₁ d₂ := by
  induction h with
  | refl => exact hrefl _
  | tail _ ha ih => exact htrans ih (hact ha)

/-- What every act keeps, work keeps. -/
theorem keeps {P : Daemon σ → Prop} (hact : ∀ {d d'}, Act d d' → P d → P d') (h : Work d₁ d₂) : P d₁ → P d₂ :=
  h.le (fun _ h => h) (fun h₁ h₂ h => h₂ (h₁ h)) hact

end Work

theorem Act.work {d d' : Daemon σ} (h : Act d d') : Work d d' := .single h

/-! ## Sending -/

theorem transmit_work (d : Daemon σ) (dest : Option HwAddr) (packet : Packet) :
    Work d (d.transmit dest packet).2 :=
  (Act.transmit dest packet).work

theorem broadcastAll_work : ∀ (ps : List Packet) (d : Daemon σ), Work d (d.broadcastAll ps).2
  | [], d => .refl d
  | p :: ps, d => (transmit_work d none p).trans (broadcastAll_work ps _)

theorem askRelays_work (suspect : HwAddr) : ∀ (relays : List Neighbor) (d : Daemon σ),
    Work d (d.askRelays suspect relays)
  | [], d => .refl d
  | _ :: relays, d => (transmit_work d _ _).trans (askRelays_work suspect relays _)

theorem relayInvestigation_work (d : Daemon σ) (p : Investigation) : Work d (d.relayInvestigation p) := by
  unfold relayInvestigation
  split
  · exact .refl d
  · exact transmit_work d _ _

/-! ## Routes -/

theorem withdrawRoutes_work : ∀ (dsts : List Xid) (d : Daemon σ), Work d (d.withdrawRoutes dsts)
  | [], d => .refl d
  | dst :: dsts, _ => (Act.withdraw dst).work.trans (withdrawRoutes_work dsts _)

theorem installPrefixes_work (gateway : Xid) : ∀ (ids : List Identifier) (d : Daemon σ),
    Work d (d.installPrefixes gateway ids)
  | [], d => .refl d
  | _ :: ids, _ => (Act.install _ _).work.trans (installPrefixes_work gateway ids _)

theorem withdrawNeighbor_work (d : Daemon σ) (identity : Xid) : Work d (d.withdrawNeighbor identity) := by
  unfold withdrawNeighbor
  have hd := Act.work (.dump .main { dstType := some d.types.ad, gwType := some d.types.ether, gw := some identity }
    : Act d _)
  dsimp only
  split
  · rename_i routes d' he
    rw [he] at hd
    exact (hd.trans (withdrawRoutes_work _ d')).trans (Act.withdraw identity).work
  · rename_i d' he
    rw [he] at hd
    exact hd.trans (Act.withdraw identity).work

/-! ## Announces, lists and answers -/

theorem setCounters_work (d : Daemon σ) (counters : PrefixCounters) (draws : Draws UInt64) :
    Work d { d with counters := counters, draws := draws } :=
  (Act.tend d.neighbors d.timers d.periodic counters draws d.lots rfl).work

theorem announce_work (d : Daemon σ) : Work d d.announce.2 := by
  unfold announce
  have hd := Act.work (.dump .own (.destinations d.types.ad) : Act d _)
  split
  · rename_i d' he
    rw [he] at hd
    exact hd
  · rename_i own d' he
    rw [he] at hd
    have hc := hd.trans (setCounters_work d' (d'.counters.setOwn (UInt32.ofNat own.length)) d'.draws)
    dsimp only
    split
    · exact hc.trans (transmit_work _ _ _)
    · exact hc.trans (broadcastAll_work _ _)

theorem tryAnnounce_work (d : Daemon σ) : Work d d.tryAnnounce := by
  unfold tryAnnounce
  have hs : Work d d.shouldAnnounce.2 := setCounters_work d _ _
  split
  all_goals
    rename_i d' he
    rw [he] at hs
  · exact hs.trans (announce_work d')
  · exact hs

theorem sendNeighborList_work (d : Daemon σ) (dest : HwAddr) : Work d (d.sendNeighborList dest).2 := by
  unfold sendNeighborList
  have h₁ := Act.work (.dump .main (.destinations d.types.ether) : Act d _)
  split
  · rename_i d₁ he
    rw [he] at h₁
    exact h₁
  · rename_i onLink d₁ he
    rw [he] at h₁
    have h₂ := (h₁.trans (setCounters_work d₁ (d₁.counters.setDiscovered (UInt32.ofNat onLink.length)) d₁.draws)).trans
      (Act.dump .main { dstType := some d₁.types.ad, gwType := some d₁.types.ether }).work
    dsimp only
    split
    · rename_i d₂ he₂
      rw [he₂] at h₂
      exact h₂
    · rename_i prefixes d₂ he₂
      rw [he₂] at h₂
      exact h₂.trans (transmit_work d₂ _ _)

theorem replyTo_work (d : Daemon σ) (sender : HwAddr) : Work d (d.replyTo sender) := by
  have ht : Work d d.myTurn.2 := setCounters_work d _ _
  unfold replyTo
  split
  all_goals
    rename_i d' he
    rw [he] at ht
  · exact ht.trans (sendNeighborList_work d' sender)
  · exact ht

theorem acceptAnnounce_work (d : Daemon σ) (sender : HwAddr) (a : Announce) : Work d (d.acceptAnnounce sender a) := by
  have hlearn : Work d (d.learn sender a) :=
    ((Act.install _ _).work.trans (Act.register _ _).work).trans (installPrefixes_work _ _ _)
  rw [acceptAnnounce_eq]
  exact (hlearn.trans (replyTo_work _ sender)).trans (setCounters_work _ _ _)

theorem acceptRecord_work (d : Daemon σ) (r : NeighborRecord) : Work d (d.acceptRecord r) := by
  unfold acceptRecord
  split
  · split
    · exact .refl d
    · exact ((Act.install _ _).work.trans (Act.install _ _).work).trans (Act.register _ _).work
  · exact .refl d

theorem acceptRecords_work : ∀ (rs : List NeighborRecord) (d : Daemon σ), Work d (d.acceptRecords rs)
  | [], d => .refl d
  | r :: rs, d => (acceptRecord_work d r).trans (acceptRecords_work rs _)

theorem processInvestigation_work (d : Daemon σ) (sender : HwAddr) (p : Investigation) :
    Work d (d.processInvestigation sender p).2 := by
  unfold processInvestigation
  split
  · exact .refl d
  · split
    · exact .refl d
    · split
      · exact (transmit_work d _ _).trans (announce_work _)
      · split
        · exact relayInvestigation_work d p
        · exact .refl d

/-! ## Probes -/

theorem setTimers_work (d : Daemon σ) (timers : Timers Alarm) (periodic : List TimerId) :
    Work d { d with timers := timers, periodic := periodic } :=
  (Act.tend d.neighbors timers periodic d.counters d.draws d.lots rfl).work

theorem setLots_work (d : Daemon σ) (lots : Draws Nat) : Work d { d with lots := lots } :=
  (Act.tend d.neighbors d.timers d.periodic d.counters d.draws lots rfl).work

theorem setClock_work (d : Daemon σ) (ref : NeighborRef) (clock : Int32) :
    Work d { d with neighbors := d.neighbors.setClock ref clock } :=
  (Act.tend _ d.timers d.periodic d.counters d.draws d.lots (NeighborTable.directory_setClock _ _ _)).work

theorem settle_work (d : Daemon σ) (n : Neighbor) : Work d (d.settle n) := by
  rw [settle_eq]
  exact (Act.tend _ _ d.periodic d.counters d.draws d.lots (NeighborTable.directory_settle _ _)).work

theorem await_work (d : Daemon σ) (n : Neighbor) (delay : Nat) (task : Alarm) (liveness : Liveness) :
    Work d (d.await n delay task liveness) :=
  (Act.tend _ _ d.periodic d.counters d.draws d.lots (NeighborTable.directory_arm _ _ _ _)).work

theorem notePing_work (d : Daemon σ) (sender : HwAddr) (clock : Int32) : Work d (d.notePing sender clock) := by
  unfold notePing
  split
  · exact .refl d
  · rename_i n _
    have hc := setClock_work d n.ref clock
    dsimp only
    split
    · exact hc.trans (settle_work _ n)
    · exact hc

theorem noteAck_work (d : Daemon σ) (sender : HwAddr) (clock : Int32) : Work d (d.noteAck sender clock) := by
  unfold noteAck
  split
  · exact .refl d
  · split
    · exact .refl d
    · exact (settle_work d _).trans (setClock_work _ _ clock)

theorem processMonitor_work (d : Daemon σ) (sender : HwAddr) (p : Monitor) :
    Work d (d.processMonitor sender p).2 := by
  unfold processMonitor
  split
  · exact .refl d
  · split
    · exact .refl d
    · split
      · exact (notePing_work d sender p.clock).trans (transmit_work _ _ _)
      · exact noteAck_work d sender p.clock

theorem giveUp_work (d : Daemon σ) (ref : NeighborRef) (timer : TimerId) : Work d (d.giveUp ref timer) := by
  rcases giveUp_cases d ref timer with ⟨n, -, he⟩ | he <;> rw [he]
  · exact settle_work d n
  · exact .refl d

theorem ping_work (d : Daemon σ) (n : Neighbor) : Work d (d.ping n).2 := by
  rw [ping_eq]
  have ha : Work d (d.awaitAck n) := await_work d n _ _ _
  have ht := ha.trans (transmit_work (d.awaitAck n) (some n.hwaddr) (d.pingTo n.hwaddr))
  split
  all_goals
    rename_i d' he
    rw [he] at ht
  · exact ht
  · exact ht.trans (giveUp_work d' _ _)

theorem pingTick_work (d : Daemon σ) : Work d d.pingTick.2 := by
  unfold pingTick
  split
  · exact setLots_work d _
  · exact (setLots_work d _).trans (ping_work _ _)

/-! ## Start and shutdown -/

theorem every_work (d : Daemon σ) (seconds : Nat) (task : Alarm) : Work d (d.every seconds task) :=
  setTimers_work d _ _

theorem start_work (d : Daemon σ) : Work d d.start :=
  ((announce_work d).trans (every_work _ _ _)).trans (every_work _ _ _)

theorem settleAll_work : ∀ (ns : List Neighbor) (d : Daemon σ), Work d (d.settleAll ns)
  | [], d => .refl d
  | n :: ns, d => (settle_work d n).trans (settleAll_work ns _)

theorem shutdown_work (d : Daemon σ) : Work d d.shutdown :=
  (setTimers_work d _ _).trans (settleAll_work _ _)

/-! ## Frames -/

theorem process_work (d : Daemon σ) (sender : HwAddr) : ∀ p, Work d (d.process sender p).2
  | .announce a => by
    simp only [process, processAnnounce]
    split
    · exact .refl d
    · exact acceptAnnounce_work d sender a
  | .neighborList l => by
    simp only [process, processNeighborList]
    split
    · exact .refl d
    · exact acceptRecords_work l.neighbors d
  | .monitor p => processMonitor_work d sender p
  | .investigation p => processInvestigation_work d sender p

end Daemon

end Neighborhood
