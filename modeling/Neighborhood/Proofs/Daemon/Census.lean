import Neighborhood.Proofs.Daemon.Receipt
import Neighborhood.Proofs.Daemon.Regular
import Neighborhood.Proofs.Daemon.Work

/-!
# The counts of neighbors and of frames that arrive

* `Daemon.Census` — the neighbors that were added are evicted or have entries, and the gauge shows how many have
* `Daemon.Step.census` — this holds of every state of a run
* `Daemon.Step.received` — a frame is counted as received or holds no packet, and counts as malformed if it is found at
  fault; nothing else is counted
-/

namespace Neighborhood

namespace Tally

/-- All kinds together. -/
def total (t : Tally) : Nat := (Packet.Kind.all.map t).foldl (· + ·) 0

theorem total_increment (t : Tally) (kind : Packet.Kind) : (t.increment kind).total = t.total + 1 := by
  cases kind <;> simp [total, Packet.Kind.all, increment] <;> omega

end Tally

namespace Daemon

variable {σ : Type} {d d' d₀ : Daemon σ}

/-! ## Population -/

/-- The neighbors that were added are evicted or have entries, and the gauge shows how many have. -/
structure Census (d : Daemon σ) : Prop where
  population : d.metrics.added = d.metrics.evicted + d.neighbors.size
  gauge : d.metrics.neighbors = d.neighbors.size

theorem IsFresh.census (h : d.IsFresh) : d.Census := by
  constructor <;> rw [h.metrics, h.neighbors] <;> rfl

namespace Census

variable (h : d.Census)
include h

theorem congr (hadded : d'.metrics.added = d.metrics.added) (hevicted : d'.metrics.evicted = d.metrics.evicted)
    (hgauge : d'.metrics.neighbors = d.metrics.neighbors) (hsize : d'.neighbors.size = d.neighbors.size) :
    d'.Census where
  population := by rw [hadded, hevicted, hsize, h.population]
  gauge := by rw [hgauge, hsize, h.gauge]

theorem outward (ho : Outward d d') : d'.Census := by
  obtain ⟨_, _, _, _, _, _, _, _, _, rfl⟩ := ho
  exact h.congr rfl rfl rfl rfl

theorem tends (ht : Tends d d') : d'.Census := by
  obtain ⟨_, _, _, _, _, _, _, _, rfl, hd, -⟩ := ht
  exact h.congr rfl rfl rfl (NeighborTable.size_eq_of_directory hd)

theorem register (a : HwAddr) (identity : Xid) : (d.register a identity).Census := by
  unfold Daemon.register
  cases hg : d.neighbors.get? a with
  | some n =>
    rw [NeighborTable.getOrCreate_of_some hg]
    exact h
  | none =>
    rw [NeighborTable.getOrCreate_of_none hg]
    have hp := h.population
    constructor
    · simp only [reportNeighbors, Metrics.reportNeighbors, Metrics.recordAdded, NeighborTable.size, List.length_append,
        List.length_singleton] at hp ⊢
      omega
    · rfl

theorem judge (answer : Except Error Unit) : (d.judge answer).2.Census := by
  unfold Daemon.judge
  split
  · exact h
  · dsimp only
    split
    · exact h.congr rfl rfl rfl rfl
    · exact h

variable [RouteTable σ]

theorem act (ha : Act d d') : d'.Census := by
  cases ha with
  | transmit dest packet => exact h.outward (transmit_sends d dest packet).outward
  | install dst gateway => exact h.outward (installRoute_outward d dst gateway)
  | withdraw dst => exact h.outward (withdrawRoute_outward d dst)
  | dump table filter => exact h.outward (dumpRoutes_outward d table filter)
  | register a identity => exact h.register a identity
  | tend _ _ _ _ _ _ hd => exact h.congr rfl rfl rfl (NeighborTable.size_eq_of_directory hd)

theorem work (hw : Work d d') : d'.Census := hw.keeps (fun ha h => h.act ha) h

theorem handleFrame (sender : HwAddr) (bytes : List UInt8) : (d.handleFrame sender bytes).2.Census := by
  unfold Daemon.handleFrame
  split
  · exact h.judge _
  · rename_i packet _
    have hr : Census { d with metrics := d.metrics.recordReceived packet.kind } := h.congr rfl rfl rfl rfl
    exact (hr.work (process_work _ sender packet)).judge _

/-- Whoever is evicted was in the table. -/
theorem onInvestigationTimeout (hw : d.neighbors.WellFormed) (ref : NeighborRef) (timer : TimerId) :
    (d.onInvestigationTimeout ref timer).Census := by
  rw [onInvestigationTimeout_eq]
  cases hx : d.neighbors.expired? ref timer with
  | none => exact h
  | some n =>
    have hsize := NeighborTable.size_depart hw (hw.expired?_eq_some_iff.1 hx).1
    have hp := h.population
    obtain ⟨_, _, _, _, _, _, _, _, _, he⟩ :=
      withdrawNeighbor_outward { d with neighbors := d.neighbors.depart n } n.identity
    dsimp only
    rw [dismiss, he]
    constructor
    · simp only [reportNeighbors, Metrics.reportNeighbors, Metrics.recordEvicted]
      omega
    · rfl

theorem expire (hw : d.neighbors.WellFormed) (t : Timer Alarm) : (d.expire t).Census := by
  unfold Daemon.expire
  split
  · exact h.work (tryAnnounce_work d)
  · exact h.work (pingTick_work d)
  · exact h.tends (onAckTimeout_tends d _ _)
  · exact h.onInvestigationTimeout hw _ _
  · exact h

end Census

section
variable [RouteTable σ]

theorem Step.census (hr : d.Regular) (h : d.Census) {e : Event} : Step d e d' → d'.Census
  | .frame _ sender bytes => h.handleFrame sender bytes
  | .pingTick _ => h.work (pingTick_work d)
  | .announce _ => h.work (announce_work d)
  | .tryAnnounce _ => h.work (tryAnnounce_work d)
  | .start _ => h.work (start_work d)
  | .shutdown _ => h.work (shutdown_work d)
  | .expiry (t := t) _ =>
    have hf : Census { d with timers := d.timers.fire t } := h.congr rfl rfl rfl rfl
    hf.expire hr.neighbors t
  | .pass _ => h.congr rfl rfl rfl rfl
  | .surroundings _ _ _ => h.congr rfl rfl rfl rfl

/-! ## Frames -/

theorem onInvestigationTimeout_receipts (d : Daemon σ) (ref : NeighborRef) (timer : TimerId) :
    SameReceipts d (d.onInvestigationTimeout ref timer) := by
  rw [onInvestigationTimeout_eq]
  split
  · rename_i n _
    have hn : SameReceipts d { d with neighbors := d.neighbors.depart n } := ⟨rfl, rfl⟩
    exact (hn.trans (withdrawNeighbor_outward _ n.identity).receipts).trans ⟨rfl, rfl⟩
  · exact .refl d

theorem expire_receipts (d : Daemon σ) (t : Timer Alarm) : SameReceipts d (d.expire t) := by
  unfold expire
  split
  · exact (tryAnnounce_outward d).receipts
  · exact (pingTick_tends d).receipts
  · exact (onAckTimeout_tends d _ _).receipts
  · exact onInvestigationTimeout_receipts d _ _
  · exact .refl d

/-- Frames are counted when they arrive, and at no other time. -/
theorem Step.receipts {e : Event} (he : ∀ sender bytes, e ≠ .frame sender bytes) : Step d e d' → SameReceipts d d'
  | .frame _ sender bytes => absurd rfl (he sender bytes)
  | .pingTick _ => (pingTick_tends d).receipts
  | .announce _ => (announce_outward d).receipts
  | .tryAnnounce _ => (tryAnnounce_outward d).receipts
  | .start _ => (announce_outward d).receipts.trans ⟨rfl, rfl⟩
  | .shutdown _ =>
    have hc : SameReceipts d d.cancelPeriodic := ⟨rfl, rfl⟩
    hc.trans (settleAll_tends _ _).receipts
  | .expiry (t := t) _ =>
    have hf : SameReceipts d { d with timers := d.timers.fire t } := ⟨rfl, rfl⟩
    hf.trans (expire_receipts _ t)
  | .pass _ => ⟨rfl, rfl⟩
  | .surroundings _ _ _ => ⟨rfl, rfl⟩

end

namespace Moment

def isFrame (m : Moment σ) : Bool :=
  match m.event with
  | .frame _ _ => true
  | _ => false

/-- A frame arrives that holds no packet. -/
def isUndecoded (m : Moment σ) : Bool :=
  match m.event with
  | .frame _ bytes => !(Packet.decode bytes).isOk
  | _ => false

/-- A frame arrives and is found at fault. -/
def isFaulty [RouteTable σ] (m : Moment σ) : Bool :=
  match m.event with
  | .frame sender bytes => !(m.before.handleFrame sender bytes).1.isOk
  | _ => false

end Moment

section
variable [RouteTable σ]

theorem Step.received {e : Event} (hs : Step d e d') :
    d'.metrics.received.total + [(⟨d, e, d'⟩ : Moment σ)].countP Moment.isUndecoded =
      d.metrics.received.total + [(⟨d, e, d'⟩ : Moment σ)].countP Moment.isFrame ∧
    d'.metrics.malformed = d.metrics.malformed + [(⟨d, e, d'⟩ : Moment σ)].countP Moment.isFaulty := by
  by_cases he : ∃ sender bytes, e = .frame sender bytes
  · obtain ⟨sender, bytes, rfl⟩ := he
    cases hs
    have hanswer : (d.handleFrame sender bytes).1 = .ok () ∨ ∃ e, (d.handleFrame sender bytes).1 = .error e := by
      cases (d.handleFrame sender bytes).1 with
      | ok => exact .inl rfl
      | error e => exact .inr ⟨e, rfl⟩
    have hundecoded : Moment.isUndecoded (⟨d, .frame sender bytes, (d.handleFrame sender bytes).2⟩ : Moment σ) =
        !(Packet.decode bytes).isOk := rfl
    have hfaulty : Moment.isFaulty (⟨d, .frame sender bytes, (d.handleFrame sender bytes).2⟩ : Moment σ) =
        !(d.handleFrame sender bytes).1.isOk := rfl
    rw [List.countP_singleton, List.countP_singleton, List.countP_singleton, hundecoded, hfaulty]
    rcases hanswer with ha | ⟨e, ha⟩
    · obtain ⟨p, hp, hreceived, hmalformed⟩ := handleFrame_ok ha
      rw [ha, hp, hreceived, hmalformed, Tally.total_increment]
      exact ⟨rfl, rfl⟩
    · rw [ha]
      obtain ⟨cause, -, hp, hd⟩ | ⟨cause, p, -, hp, hd⟩ := handleFrame_error ha
      · rw [hp, hd]
        exact ⟨rfl, rfl⟩
      · rw [hp, hd]
        exact ⟨Tally.total_increment _ _, rfl⟩
  · have hsame := hs.receipts fun sender bytes hf => he ⟨sender, bytes, hf⟩
    rw [hsame.received, hsame.malformed]
    cases e with
    | frame sender bytes => exact absurd ⟨sender, bytes, rfl⟩ he
    | pingTick | announce | tryAnnounce | start | shutdown | expiry | pass | surroundings => exact ⟨rfl, rfl⟩

end

end Daemon

end Neighborhood
