import Neighborhood.Proofs.Daemon.Books
import Neighborhood.Proofs.Daemon.Census
import Neighborhood.Proofs.Daemon.MapRoutes
import Neighborhood.Proofs.Daemon.Spent
import Neighborhood.Proofs.Daemon.Watch
import Neighborhood.Proofs.Suspects

/-!
# The counts of a daemon balance

* `Daemon.Pursues` — an investigation that there is or that begins goes on, or it has ended with an eviction or with a
  recovery
* `Daemon.Step.pursues` — this holds of every step
* `Daemon.Step.recovered` — a recovery is due to an ack, to a ping or to shutdown
* `Daemon.Balanced`, `Daemon.Run.balanced` — all balances, throughout a run
-/

namespace Neighborhood

namespace Daemon

variable {σ : Type} {d d' d₀ : Daemon σ}

/-! ## Investigations -/

/-- The counts of investigations and evictions are the same. -/
structure SameCases (d d' : Daemon σ) : Prop where
  investigations : d'.metrics.investigations = d.metrics.investigations
  evicted : d'.metrics.evicted = d.metrics.evicted

namespace SameCases

theorem refl (d : Daemon σ) : SameCases d d := ⟨rfl, rfl⟩

theorem trans {d₁ d₂ d₃ : Daemon σ} (h₁ : SameCases d₁ d₂) (h₂ : SameCases d₂ d₃) : SameCases d₁ d₃ where
  investigations := h₂.investigations.trans h₁.investigations
  evicted := h₂.evicted.trans h₁.evicted

end SameCases

theorem Outward.cases (h : Outward d d') : SameCases d d' := by
  obtain ⟨_, _, _, _, _, _, _, _, _, rfl⟩ := h
  exact ⟨rfl, rfl⟩

theorem judge_cases (d : Daemon σ) (answer : Except Error Unit) : SameCases d (d.judge answer).2 := by
  unfold judge
  split
  · exact .refl d
  · dsimp only
    split <;> exact ⟨rfl, rfl⟩

theorem register_cases (d : Daemon σ) (a : HwAddr) (identity : Xid) : SameCases d (d.register a identity) := by
  unfold register
  split <;> exact ⟨rfl, rfl⟩

section
variable [RouteTable σ]

theorem Act.cases : Act d d' → SameCases d d'
  | .transmit dest packet => (transmit_sends d dest packet).outward.cases
  | .install dst gateway => (installRoute_outward d dst gateway).cases
  | .withdraw dst => (withdrawRoute_outward d dst).cases
  | .dump table filter => (dumpRoutes_outward d table filter).cases
  | .register a identity => register_cases d a identity
  | .tend _ _ _ _ _ _ _ => ⟨rfl, rfl⟩

theorem Work.cases (h : Work d d') : SameCases d d' :=
  h.le SameCases.refl SameCases.trans Act.cases

theorem handleFrame_cases (d : Daemon σ) (sender : HwAddr) (bytes : List UInt8) :
    SameCases d (d.handleFrame sender bytes).2 := by
  unfold handleFrame
  split
  · exact judge_cases d _
  · rename_i packet _
    have hcount : SameCases d { d with metrics := d.metrics.recordReceived packet.kind } := ⟨rfl, rfl⟩
    exact (hcount.trans (process_work _ sender packet).cases).trans (judge_cases _ _)

end

/-- An investigation that there is or that begins goes on, or it has ended with an eviction or with a recovery. -/
def Pursues (d d' : Daemon σ) : Prop :=
  d'.metrics.investigations + d.metrics.evicted + d.neighbors.suspects =
    d.metrics.investigations + d'.metrics.evicted + (d.neighbors.recovered d'.neighbors).length + d'.neighbors.suspects

theorem SameCases.pursues (h : SameCases d d')
    (hs : (d.neighbors.recovered d'.neighbors).length + d'.neighbors.suspects = d.neighbors.suspects) :
    Pursues d d' := by
  rw [Pursues, h.investigations, h.evicted]
  omega

theorem SameCases.pursues_of_neighbors (h : SameCases d d') (hw : d.neighbors.WellFormed)
    (hn : d'.neighbors = d.neighbors) : Pursues d d' :=
  h.pursues (NeighborTable.recovered_calmed hw (.of_entries (congrArg _ hn)))

theorem notePing_calmed (d : Daemon σ) (sender : HwAddr) (clock : Int32) :
    d.neighbors.Calmed (d.notePing sender clock).neighbors := by
  unfold notePing
  split
  · exact .of_entries rfl
  · rename_i n _
    have hc := NeighborTable.Calmed.setClock d.neighbors n.ref clock
    dsimp only
    split
    · rw [settle_eq]
      exact hc.trans (.settle _ n.ref)
    · exact hc

theorem noteAck_calmed (d : Daemon σ) (sender : HwAddr) (clock : Int32) :
    d.neighbors.Calmed (d.noteAck sender clock).neighbors := by
  unfold noteAck
  split
  · exact .of_entries rfl
  · rename_i n _
    split
    · exact .of_entries rfl
    · rw [settle_eq]
      exact (NeighborTable.Calmed.settle d.neighbors n.ref).trans (.setClock _ n.ref clock)

theorem recovered_heed (h : d.neighbors.WellFormed) : ∀ news,
    (d.neighbors.recovered (d.heed news).neighbors).length + (d.heed news).neighbors.suspects = d.neighbors.suspects
  | .hosts l => NeighborTable.recovered_introduce h d.etherXid l
  | .ping sender clock => NeighborTable.recovered_calmed h (notePing_calmed d sender clock)
  | .ack sender clock => NeighborTable.recovered_calmed h (noteAck_calmed d sender clock)
  | .nothing | .probe .. | .expiry .. | .shutdown => NeighborTable.recovered_calmed h (.of_entries rfl)

theorem escalate_counts (d : Daemon σ) (n : Neighbor) :
    (d.escalate n).metrics.investigations = d.metrics.investigations + 1 ∧
    (d.escalate n).metrics.evicted = d.metrics.evicted := by
  obtain ⟨_, hs⟩ := escalate_sends d n
  exact ⟨hs.outward.cases.investigations, hs.outward.cases.evicted⟩

section
variable [RouteTable σ]

theorem onInvestigationTimeout_counts {n : Neighbor} {ref : NeighborRef} {timer : TimerId}
    (hx : d.neighbors.expired? ref timer = some n) :
    (d.onInvestigationTimeout ref timer).metrics.investigations = d.metrics.investigations ∧
    (d.onInvestigationTimeout ref timer).metrics.evicted = d.metrics.evicted + 1 := by
  have hw := (withdrawNeighbor_outward { d with neighbors := d.neighbors.depart n } n.identity).cases
  rw [onInvestigationTimeout_of_expired hx]
  exact ⟨hw.investigations, congrArg Nat.succ hw.evicted⟩

namespace Regular

variable (h : d.Regular)
include h

/-- Nobody under investigation is pinged, and a ping brings nobody under investigation. -/
theorem pursues_pingTick : Pursues d d.pingTick.2 := by
  refine (pingTick_work d).cases.pursues ?_
  rcases pingTick_cases h.neighbors h.timers with ⟨n, hm, hi, -, ha⟩ | ⟨-, k, ha⟩
  · rw [ha.neighbors]
    exact NeighborTable.recovered_arm h.neighbors hm (Neighbor.isSuspect_of_idle hi) _ _
  · exact NeighborTable.recovered_calmed h.neighbors (.of_entries (congrArg _ ha.neighbors))

theorem pursues_expire {t : Timer Alarm} (ht : d.timers.soonest? = some t) :
    Pursues d ({ d with timers := d.timers.fire t }.expire t) := by
  cases h.fires ht with
  | ackDue n hm hn hlive htask _ ha =>
    have he := expire_ackDue (d := { d with timers := d.timers.fire t }) h.neighbors hm hlive hn.timer? htask
    have hs : n.isSuspect = false := by rw [Neighbor.isSuspect, hlive]; rfl
    have hcount := escalate_counts { d with timers := d.timers.fire t } n
    have harm : (d.neighbors.recovered ((d.later t.due).awaitAnswer n).neighbors).length +
        ((d.later t.due).awaitAnswer n).neighbors.suspects = d.neighbors.suspects + 1 :=
      NeighborTable.recovered_arm h.neighbors hm hs _ _
    rw [Pursues, ha.neighbors, he, hcount.1, hcount.2]
    dsimp only
    omega
  | answerDue n hm hn hlive htask _ ha =>
    have hx : d.neighbors.expired? n.ref t.id = some n :=
      h.neighbors.expired?_eq_some_iff.2 ⟨hm, rfl, hlive, hn.timer?⟩
    have he := expire_investigationDue (d := { d with timers := d.timers.fire t }) htask
    have hs : n.isSuspect = true := Neighbor.isSuspect_iff.2 hlive
    have hcount := onInvestigationTimeout_counts (d := { d with timers := d.timers.fire t }) hx
    have hleave : (d.neighbors.recovered ((d.later t.due).leave n).neighbors).length +
        ((d.later t.due).leave n).neighbors.suspects + 1 = d.neighbors.suspects :=
      NeighborTable.recovered_depart h.neighbors hm hs
    rw [Pursues, ha.neighbors, he, hcount.1, hcount.2]
    dsimp only
    omega
  | announce _ htask _ ha =>
    have hcases := (tryAnnounce_work { d with timers := d.timers.fire t }).cases
    rw [← expire_announce htask] at hcases
    exact SameCases.pursues_of_neighbors ⟨hcases.investigations, hcases.evicted⟩ h.neighbors ha.neighbors
  | ping hp _ _ he =>
    rw [he]
    exact (h.fire ht hp).pursues_pingTick

end Regular

theorem Step.pursues (hr : d.Regular) {e : Event} : Step d e d' → Pursues d d'
  | .frame _ sender bytes => by
    refine (handleFrame_cases d sender bytes).pursues ?_
    rw [(handleFrame_aside d sender bytes).neighbors]
    exact recovered_heed hr.neighbors _
  | .pingTick _ => hr.pursues_pingTick
  | .announce _ => (announce_work d).cases.pursues_of_neighbors hr.neighbors (announce_outward d).aside.neighbors
  | .tryAnnounce _ =>
    (tryAnnounce_work d).cases.pursues_of_neighbors hr.neighbors (tryAnnounce_outward d).aside.neighbors
  | .start _ => (start_work d).cases.pursues_of_neighbors hr.neighbors (announce_outward d).aside.neighbors
  | .shutdown _ => by
    refine (shutdown_work d).cases.pursues (NeighborTable.recovered_calmed hr.neighbors ⟨_, .settled, ?_⟩)
    rw [hr.neighbors_shutdown]
  | .expiry ht => hr.pursues_expire ht
  | .pass _ | .surroundings _ _ _ => SameCases.pursues_of_neighbors ⟨rfl, rfl⟩ hr.neighbors rfl

/-- An investigation that is over without an eviction was ended by a sign of life or by shutdown. -/
theorem Step.recovered (hr : d.Regular) {e : Event} (hs : Step d e d') {n : Neighbor}
    (hn : n ∈ d.neighbors.recovered d'.neighbors) : (∃ clock, d.news e = .ack n.hwaddr clock) ∨
      (∃ clock, d.news e = .ping n.hwaddr clock) ∨ d.news e = .shutdown := by
  obtain ⟨hm, hn⟩ := List.mem_filter.1 hn
  rw [Bool.and_eq_true, Neighbor.isSuspect_iff, Option.any_eq_true] at hn
  obtain ⟨hl, m, hg, hcalm⟩ := hn
  have hbefore : d.watch n.hwaddr = some ⟨n.clock, .awaitingInvestigativeAck, n.timer?⟩ := by
    rw [← hl]
    exact NeighborTable.watch_self hr.neighbors hm
  have hafter : d'.watch n.hwaddr = some m.watch := congrArg (Option.map Neighbor.watch) hg
  rw [hs.watch_eq hr, hbefore] at hafter
  rcases Signal.next_of_awaitingInvestigativeAck hafter with ⟨hstill, -⟩ | ⟨c, hack⟩ | ⟨c, hping⟩ | hdown
  · have hsus : m.isSuspect = true := Neighbor.isSuspect_iff.2 hstill
    rw [hsus] at hcalm
    cases hcalm
  · exact .inl ⟨c, News.eq_ack_of_signal hack⟩
  · exact .inr (.inl ⟨c, News.eq_ping_of_signal hping⟩)
  · exact .inr (.inr (News.eq_shutdown_of_signal hdown))

end

/-! ## All balances -/

namespace Moment

/-- The entries whose investigation the event ends without an eviction. -/
def recovered (m : Moment σ) : List Neighbor :=
  m.before.neighbors.recovered m.after.neighbors

/-- The frames that the sink takes during the event. -/
def accepted (m : Moment σ) : List SentFrame :=
  match m.event with
  | .surroundings _ _ => []
  | _ => m.after.sink.frames.drop m.before.sink.frames.length

theorem accepted_eq {m : Moment σ} (h : ∀ sink clock, m.event ≠ .surroundings sink clock) :
    m.accepted = m.after.sink.frames.drop m.before.sink.frames.length := by
  unfold accepted
  split
  · rename_i he
    exact absurd he (h _ _)
  · rfl

end Moment

section
variable [RouteTable σ] {l : List (Moment σ)}

/-- What the counts of `d` say about the moments that have led to it. -/
structure Balanced (l : List (Moment σ)) (d : Daemon σ) : Prop where
  population : d.metrics.added = d.metrics.evicted + d.neighbors.size
  gauge : d.metrics.neighbors = d.neighbors.size
  received : d.metrics.received.total + l.countP Moment.isUndecoded = l.countP Moment.isFrame
  malformed : d.metrics.malformed = l.countP Moment.isFaulty
  /-- An event of the daemon adds to the frames in the sink. -/
  kept : ∀ m ∈ l, (∀ sink clock, m.event ≠ .surroundings sink clock) →
    m.after.sink.frames = m.before.sink.frames ++ m.accepted
  sent : ∀ kind, d.metrics.sent kind = (l.flatMap Moment.accepted).countP (SentFrame.hasKind kind)
  sendErrors : d.metrics.sendErrors = d.transmissions.countP Transmission.failed
  latency : d.metrics.routeLatency.count = (l.flatMap Moment.answers).length
  routeErrors : d.metrics.routeErrors = (l.flatMap Moment.answers).count false
  investigations : d.metrics.investigations =
    d.metrics.evicted + (l.flatMap Moment.recovered).length + d.neighbors.suspects
  /-- Recoveries are due to acks, pings and shutdown. -/
  recoveries : ∀ m ∈ l, ∀ n ∈ m.recovered, (∃ clock, m.news = .ack n.hwaddr clock) ∨
    (∃ clock, m.news = .ping n.hwaddr clock) ∨ m.news = .shutdown

/-- What one event adds to the counts of sent packets, of failures and of requests. -/
structure Moment.Booked (m : Moment σ) : Prop where
  kept : (∀ sink clock, m.event ≠ .surroundings sink clock) →
    m.after.sink.frames = m.before.sink.frames ++ m.accepted
  sent : ∀ kind, m.after.metrics.sent kind = m.before.metrics.sent kind + m.accepted.countP (SentFrame.hasKind kind)
  sendErrors : ∃ tried, m.after.transmissions = tried ++ m.before.transmissions ∧
    m.after.metrics.sendErrors = m.before.metrics.sendErrors + tried.countP Transmission.failed
  latency : m.after.metrics.routeLatency.count = m.before.metrics.routeLatency.count + m.answers.length
  routeErrors : m.after.metrics.routeErrors = m.before.metrics.routeErrors + m.answers.count false

theorem Step.booked {e : Event} (hs : Step d e d') : Moment.Booked ⟨d, e, d'⟩ := by
  by_cases he : ∃ sink clock, e = .surroundings sink clock
  · obtain ⟨sink, clock, rfl⟩ := he
    cases hs
    exact ⟨fun h => absurd rfl (h sink clock), fun _ => rfl, ⟨[], rfl, rfl⟩, rfl, rfl⟩
  · have he : ∀ sink clock, e ≠ .surroundings sink clock := fun sink clock h => he ⟨sink, clock, h⟩
    -- the same event with a ledger around the table
    obtain ⟨⟨frames, hframes, hsent⟩, htried, answers, hanswers, hlatency, herrors⟩ := hs.recorded.books he
    have hd : d' = (d.recorded.react e).mapRoutes Ledger.table := hs.eq_react.trans (react_recorded d e).symm
    subst hd
    have hm : Moment.answers ⟨d, e, (d.recorded.react e).mapRoutes Ledger.table⟩ = answers := hanswers
    have ha : Moment.accepted ⟨d, e, (d.recorded.react e).mapRoutes Ledger.table⟩ = frames := by
      rw [Moment.accepted_eq he]
      exact (congrArg (List.drop _) hframes).trans List.drop_left
    refine ⟨fun _ => ?_, fun kind => ?_, htried, ?_, ?_⟩
    · rw [ha]
      exact hframes
    · rw [ha]
      exact hsent kind
    · rw [hm]
      exact hlatency
    · rw [hm]
      exact herrors

/-- Before anything has happened all counts are zero. -/
theorem Balanced.nil (h : d.IsFresh) : Balanced [] d where
  population := h.census.population
  gauge := h.census.gauge
  received := by rw [h.metrics]; rfl
  malformed := by rw [h.metrics]; rfl
  kept := fun _ hm => absurd hm List.not_mem_nil
  sent := fun kind => by rw [h.metrics]; rfl
  sendErrors := by rw [h.metrics, h.transmissions]; rfl
  latency := by rw [h.metrics]; rfl
  routeErrors := by rw [h.metrics]; rfl
  investigations := by rw [h.metrics, h.neighbors]; rfl
  recoveries := fun _ hm => absurd hm List.not_mem_nil

/-- One more moment keeps all balances. -/
theorem Balanced.snoc (hr : d.Regular) (h : Balanced l d) {e : Event} (hs : Step d e d') :
    Balanced (l ++ [⟨d, e, d'⟩]) d' := by
  have hcensus := hs.census hr ⟨h.population, h.gauge⟩
  have hreceived := hs.received
  have hbooked := hs.booked
  have hpursues := hs.pursues hr
  constructor
  · exact hcensus.population
  · exact hcensus.gauge
  · have hold := h.received
    rw [List.countP_append, List.countP_append]
    omega
  · rw [List.countP_append, ← h.malformed]
    exact hreceived.2
  · intro m hm
    rcases List.mem_append.1 hm with hm | hm
    · exact h.kept m hm
    · obtain rfl := List.mem_singleton.1 hm
      exact hbooked.kept
  · intro kind
    rw [List.flatMap_append, List.countP_append, ← h.sent, List.flatMap_singleton]
    exact hbooked.sent kind
  · obtain ⟨tried, htried, hcount⟩ := hbooked.sendErrors
    dsimp only at htried hcount
    rw [htried, hcount, List.countP_append, h.sendErrors, Nat.add_comm]
  · rw [List.flatMap_append, List.length_append, ← h.latency, List.flatMap_singleton]
    exact hbooked.latency
  · rw [List.flatMap_append, List.count_append, ← h.routeErrors, List.flatMap_singleton]
    exact hbooked.routeErrors
  · have hold := h.investigations
    have hnew : Moment.recovered ⟨d, e, d'⟩ = d.neighbors.recovered d'.neighbors := rfl
    rw [Pursues] at hpursues
    rw [List.flatMap_append, List.length_append, List.flatMap_singleton, hnew]
    omega
  · intro m hm
    rcases List.mem_append.1 hm with hm | hm
    · exact h.recoveries m hm
    · obtain rfl := List.mem_singleton.1 hm
      exact fun n hn => hs.recovered hr hn

/-- After every event of every run the counts balance. -/
theorem Run.balanced (h₀ : d₀.IsFresh) (h : Run d₀ l d) : Balanced l d := by
  induction h with
  | nil => exact .nil h₀
  | snoc hr hs ih => exact ih.snoc (hr.regular h₀) hs

/-- No ack comes in time, a frame arrives that holds no packet, the sink refuses an announce, and the other host answers
at last. -/
def vindicated : Daemon MemoryRoutes :=
  let d := (((pinged 5).advance 5000).handleFrame peer [1]).2
  let d := { d with sink := { failing := true }, clock := 0 }.announce.2
  (d.handleFrame peer [1, 4, 6, 0, 0, 0, 0, 9, 2, 0, 0, 0, 0, 2, 2, 0, 0, 0, 0, 1]).2

/-- The counts show one faulty frame, one failed attempt and one investigation, which has ended with a recovery. -/
theorem balanced_of_vindicated : ∃ l, Run (lone 5) l vindicated ∧ Balanced l vindicated ∧
    vindicated.metrics.investigations = 1 ∧ (l.flatMap Moment.recovered).length = 1 ∧
    vindicated.metrics.malformed = 1 ∧ l.countP Moment.isFaulty = 1 ∧
    vindicated.metrics.sendErrors = 1 ∧ vindicated.transmissions.countP Transmission.failed = 1 := by
  obtain ⟨l, h⟩ := run_pinged 5
  obtain ⟨l', h', -⟩ := h.advance (lone_isFresh 5) 5000
  have hrefused := ((h'.snoc (.frame _ peer [1])).snoc (.surroundings _ { failing := true } 0)).snoc (.announce _)
  have hrun := hrefused.snoc (.frame _ peer [1, 4, 6, 0, 0, 0, 0, 9, 2, 0, 0, 0, 0, 2, 2, 0, 0, 0, 0, 1])
  have hb := Run.balanced (lone_isFresh 5) hrun
  have hinvestigations : vindicated.metrics.investigations = 1 := by decide
  have hevicted : vindicated.metrics.evicted = 0 := by decide
  have hsuspects : vindicated.neighbors.suspects = 0 := by decide
  have hmalformed : vindicated.metrics.malformed = 1 := by decide
  have hfailed : vindicated.metrics.sendErrors = 1 := by decide
  refine ⟨_, hrun, hb, hinvestigations, ?_, hmalformed, hb.malformed.symm.trans hmalformed, hfailed,
    hb.sendErrors.symm.trans hfailed⟩
  have hall : vindicated.metrics.investigations = vindicated.metrics.evicted + _ + vindicated.neighbors.suspects :=
    hb.investigations
  omega

end

end Daemon

end Neighborhood
