import Neighborhood.Proofs.Daemon.Regular

/-!
# Deadlines that are over

* `Daemon.Step.fresh_le` — numbers of timers are never given back
* `Daemon.Spent` — the number of a deadline that is over; it stays so (`Run.spent`), and whatever deadline a run has taken
  off is over (`Run.spent_of_gone`)
* `Daemon.Regular.onAckTimeout_ne_iff`, `Daemon.Regular.onInvestigationTimeout_ne_iff` — which deadlines change anything
* `Daemon.LateRun.undisturbed` — deadlines that are over may pass late anywhere in a run, and the run is the same
-/

namespace Neighborhood

namespace Daemon

variable {σ : Type} {d d' d₀ : Daemon σ}

/-! ## Numbers of timers -/

theorem fresh_heed (d : Daemon σ) (news : News) : (d.heed news).timers.fresh = d.timers.fresh := by
  have hs : ∀ (d : Daemon σ) (n : Neighbor), (d.settle n).timers.fresh = d.timers.fresh := by
    intro d n
    rw [settle_eq]
    rfl
  cases news with
  | ping sender clock =>
    simp only [heed, notePing]
    split
    · rfl
    · split
      · rw [hs]
      · rfl
  | ack sender clock =>
    simp only [heed, noteAck]
    split
    · rfl
    · split
      · rfl
      · rw [hs]
  | nothing | hosts | probe | expiry | shutdown => rfl

theorem fresh_shutdown (d : Daemon σ) : d.shutdown.timers.fresh = d.timers.fresh := by
  rw [shutdown_eq]

theorem fresh_le_every (d : Daemon σ) (seconds : Nat) (task : Alarm) :
    d.timers.fresh ≤ (d.every seconds task).timers.fresh := by
  simp only [every, Timers.repeating]
  split <;> exact Nat.le_succ _

theorem Regular.fresh_le_pingTick (h : d.Regular) : d.timers.fresh ≤ d.pingTick.2.timers.fresh := by
  rcases pingTick_cases h.neighbors h.timers with ⟨n, -, -, -, ha⟩ | ⟨-, k, ha⟩
  · rw [ha.timers]
    exact Nat.le_succ _
  · rw [ha.timers]
    exact Nat.le_add_right _ _

section
variable [RouteTable σ]

theorem Regular.fresh_le_expire (h : d.Regular) {t : Timer Alarm} (ht : d.timers.soonest? = some t) :
    d.timers.fresh ≤ ({ d with timers := d.timers.fire t }.expire t).timers.fresh := by
  cases h.fires ht with
  | ackDue n _ _ _ _ _ ha =>
    rw [ha.timers]
    exact Nat.le_succ _
  | answerDue n _ _ _ _ _ ha => exact Nat.le_of_eq (congrArg Timers.fresh ha.timers).symm
  | announce _ _ _ ha => exact Nat.le_of_eq (congrArg Timers.fresh ha.timers).symm
  | ping hp _ _ he =>
    rw [he]
    exact (h.fire ht hp).fresh_le_pingTick

/-- Numbers of timers are never given back. -/
theorem Step.fresh_le (h : d.Regular) {e : Event} : Step d e d' → d.timers.fresh ≤ d'.timers.fresh
  | .frame _ sender bytes =>
    Nat.le_of_eq ((congrArg Timers.fresh (handleFrame_aside d sender bytes).timers).trans (fresh_heed d _)).symm
  | .pingTick _ => h.fresh_le_pingTick
  | .announce _ => Nat.le_of_eq (congrArg Timers.fresh (announce_outward d).aside.timers).symm
  | .tryAnnounce _ => Nat.le_of_eq (congrArg Timers.fresh (tryAnnounce_outward d).aside.timers).symm
  | .start _ => by
    rw [← (announce_outward d).aside.timers]
    exact Nat.le_trans (fresh_le_every _ _ _) (fresh_le_every _ _ _)
  | .shutdown _ => Nat.le_of_eq (fresh_shutdown d).symm
  | .expiry ht => h.fresh_le_expire ht
  | .pass _ => Nat.le_refl _
  | .surroundings _ _ _ => Nat.le_refl _

end

/-! ## Deadlines that are over -/

/-- The number was given to a timer, and no deadline has it any more. -/
structure Spent (d : Daemon σ) (timer : TimerId) : Prop where
  given : timer.serial < d.timers.fresh
  ended : ∀ t ∈ d.timers.pending, t.period = none → t.id ≠ timer

variable {timer : TimerId}

section
variable [RouteTable σ]

theorem Step.spent (h : d.Regular) {e : Event} (hs : Step d e d') (ht : d.Spent timer) : d'.Spent timer where
  given := Nat.lt_of_lt_of_le ht.given (hs.fresh_le h)
  ended t hmem hp := by
    rcases hs.pending_of_once h hmem hp with hold | hnew
    · exact ht.ended t hold hp
    · rintro rfl
      rw [hnew] at ht
      exact Nat.lt_irrefl _ ht.given

/-- A deadline that is over never comes back. -/
theorem Run.spent (h₀ : d₀.Regular) (ht : d₀.Spent timer) {l : List (Moment σ)} (h : Run d₀ l d) :
    d.Regular ∧ d.Spent timer := by
  induction h with
  | nil => exact ⟨h₀, ht⟩
  | snoc _ hs ih => exact ⟨hs.regular ih.1, hs.spent ih.1 ih.2⟩

/-- A deadline that a step takes off is over. -/
theorem Step.spent_of_gone (h : d.Regular) {e : Event} (hs : Step d e d') {t : Timer Alarm}
    (ht : t ∈ d.timers.pending) (hgone : t ∉ d'.timers.pending) : d'.Spent t.id where
  given := Nat.lt_of_lt_of_le (h.timers.ids_lt t ht) (hs.fresh_le h)
  ended u hu hp he := by
    rcases hs.pending_of_once h hu hp with hold | hnew
    · rw [h.timers.eq_of_id hold ht he] at hu
      exact hgone hu
    · exact h.timers.id_ne_fresh ht (he.symm.trans hnew)

/-- Whatever deadline has been taken off in a run, because it has passed or has been cancelled or replaced, is over. -/
theorem Run.spent_of_gone (h₀ : d₀.IsFresh) {l : List (Moment σ)} (h : Run d₀ l d) {m : Moment σ} (hm : m ∈ l)
    {t : Timer Alarm} (ht : t ∈ m.before.timers.pending) (hgone : t ∉ m.after.timers.pending) : d.Spent t.id := by
  induction h with
  | nil => cases hm
  | snoc hr hs ih =>
    have hreg := hr.regular h₀
    rcases List.mem_append.1 hm with hm | hm
    · exact hs.spent hreg (ih hm)
    · obtain rfl := List.mem_singleton.1 hm
      exact hs.spent_of_gone hreg ht hgone

end

/-! ## Deadlines that pass late -/

/-- Nobody holds a deadline that is over. -/
theorem Regular.timer?_ne_of_spent (h : d.Regular) (ht : d.Spent timer) {n : Neighbor}
    (hn : n ∈ d.neighbors.entries) : n.timer? ≠ some timer := by
  intro hh
  -- the entry would have a deadline with this number
  obtain ⟨t, hmem, ha⟩ := h.paired.deadline n hn ((h.neighbors.bounded_of_mem hn).1 (by rw [hh]; rfl))
  rw [ha.timer?, Option.some.injEq] at hh
  exact ht.ended t hmem ha.1 hh

theorem escalate_sends (d : Daemon σ) (n : Neighbor) : ∃ lots, Sends
    { d.awaitAnswer n with metrics := (d.awaitAnswer n).metrics.recordInvestigation, lots := lots } (d.escalate n) := by
  rw [escalate_eq]
  exact ⟨_, askRelays_sends _ _ _⟩

theorem escalate_ne (d : Daemon σ) (n : Neighbor) : d.escalate n ≠ d := by
  intro he
  obtain ⟨_, _, _, _, _, hs⟩ := escalate_sends d n
  exact Nat.succ_ne_self d.metrics.investigations (congrArg (·.metrics.investigations) (hs.symm.trans he))

/-- The deadline of an ack changes something just if the entry awaits an ack by this very deadline. -/
theorem Regular.onAckTimeout_ne_iff (h : d.Regular) {ref : NeighborRef} :
    d.onAckTimeout ref timer ≠ d ↔
      ∃ n ∈ d.neighbors.entries, n.ref = ref ∧ n.liveness = .awaitingAck ∧ n.timer? = some timer := by
  unfold onAckTimeout
  cases hf : d.neighbors.find? ref with
  | none =>
    refine iff_of_false (not_not_intro rfl) ?_
    rintro ⟨n, hn, hr, -⟩
    cases hf.symm.trans (h.neighbors.find?_eq_some_iff.2 ⟨List.mem_append_left _ hn, hr⟩)
  | some n =>
    obtain ⟨hn, hr⟩ := h.neighbors.find?_eq_some_iff.1 hf
    dsimp only
    by_cases hl : n.liveness = .awaitingAck ∧ n.timer? = some timer
    · rw [if_pos (by simpa [Neighbor.ownsTimer] using hl)]
      refine iff_of_true (escalate_ne d n) ⟨n, ?_, hr, hl⟩
      -- from an entry that has left nothing is awaited
      refine (List.mem_append.1 hn).resolve_right fun hd => ?_
      cases hl.1.symm.trans (Neighbor.isIdle_iff.1 (h.neighbors.departed_idle n hd))
    · rw [if_neg (by simpa [Neighbor.ownsTimer] using hl)]
      refine iff_of_false (not_not_intro rfl) ?_
      rintro ⟨m, hm, hmr, hml⟩
      rw [h.neighbors.eq_of_ref (List.mem_append_left _ hm) hn (hmr.trans hr.symm)] at hml
      exact hl hml

theorem Regular.onAckTimeout_of_spent (h : d.Regular) (ht : d.Spent timer) (ref : NeighborRef) :
    d.onAckTimeout ref timer = d := by
  by_contra hne
  obtain ⟨n, hn, -, -, hh⟩ := h.onAckTimeout_ne_iff.1 hne
  exact h.timer?_ne_of_spent ht hn hh

section
variable [RouteTable σ]

/-- The deadline of an investigation changes something just if the table's entry is under the investigation that this
very deadline bounds. -/
theorem Regular.onInvestigationTimeout_ne_iff (h : d.Regular) {ref : NeighborRef} :
    d.onInvestigationTimeout ref timer ≠ d ↔
      ∃ n ∈ d.neighbors.entries, n.ref = ref ∧ n.liveness = .awaitingInvestigativeAck ∧ n.timer? = some timer := by
  rw [onInvestigationTimeout_eq]
  cases hx : d.neighbors.expired? ref timer with
  | none =>
    refine iff_of_false (not_not_intro rfl) ?_
    rintro ⟨n, hn⟩
    cases hx.symm.trans (h.neighbors.expired?_eq_some_iff.2 hn)
  | some n =>
    refine iff_of_true (fun he => ?_) ⟨n, h.neighbors.expired?_eq_some_iff.1 hx⟩
    dsimp only [dismiss] at he
    obtain ⟨_, _, _, _, _, _, _, _, _, hw⟩ :=
      withdrawNeighbor_outward { d with neighbors := d.neighbors.depart n } n.identity
    rw [hw] at he
    exact Nat.succ_ne_self d.metrics.evicted (congrArg (·.metrics.evicted) he)

/-- A deadline that is over evicts nobody, should it pass late. -/
theorem Regular.onInvestigationTimeout_of_spent (h : d.Regular) (ht : d.Spent timer) (ref : NeighborRef) :
    d.onInvestigationTimeout ref timer = d := by
  by_contra hne
  obtain ⟨n, hn, -, -, hh⟩ := h.onInvestigationTimeout_ne_iff.1 hne
  exact h.timer?_ne_of_spent ht hn hh

/-! ## Runs in which deadlines pass late -/

/-- Of some entry, or of one that never was, a deadline that is over is taken to pass. -/
inductive PassesLate (d : Daemon σ) : Daemon σ → Prop
  | ack (ref : NeighborRef) {timer : TimerId} : d.Spent timer → PassesLate d (d.onAckTimeout ref timer)
  | answer (ref : NeighborRef) {timer : TimerId} : d.Spent timer → PassesLate d (d.onInvestigationTimeout ref timer)

/-- `LateRun d₀ l d`: the moments `l` lead from `d₀` to `d`, with deadlines that pass late anywhere in between. -/
inductive LateRun (d₀ : Daemon σ) : List (Moment σ) → Daemon σ → Prop
  | nil : LateRun d₀ [] d₀
  | snoc {l : List (Moment σ)} {d d' : Daemon σ} {e : Event} :
      LateRun d₀ l d → Step d e d' → LateRun d₀ (l ++ [⟨d, e, d'⟩]) d'
  | late {l : List (Moment σ)} {d d' : Daemon σ} : LateRun d₀ l d → PassesLate d d' → LateRun d₀ l d'

theorem Regular.eq_of_passesLate (h : d.Regular) : PassesLate d d' → d' = d
  | .ack ref ht => h.onAckTimeout_of_spent ht ref
  | .answer ref ht => h.onInvestigationTimeout_of_spent ht ref

variable {l : List (Moment σ)}

/-- Without the deadlines that pass late a run is the same. -/
theorem LateRun.run (h₀ : d₀.IsFresh) (h : LateRun d₀ l d) : Run d₀ l d := by
  induction h with
  | nil => exact .nil
  | snoc _ hs ih => exact ih.snoc hs
  | late _ hl ih =>
    rw [(ih.regular h₀).eq_of_passesLate hl]
    exact ih

/-- A deadline changes something just if it is the one that bounds what is awaited from an entry of the table; whatever
deadline has been taken off in a run is over; and what is over may pass as late and as often as it likes, the run is the
same. -/
theorem LateRun.undisturbed (h₀ : d₀.IsFresh) (h : LateRun d₀ l d) :
    Run d₀ l d ∧
    (∀ ref timer, d.onAckTimeout ref timer ≠ d ↔
      ∃ n ∈ d.neighbors.entries, n.ref = ref ∧ n.liveness = .awaitingAck ∧ n.timer? = some timer) ∧
    (∀ ref timer, d.onInvestigationTimeout ref timer ≠ d ↔
      ∃ n ∈ d.neighbors.entries, n.ref = ref ∧ n.liveness = .awaitingInvestigativeAck ∧ n.timer? = some timer) ∧
    ∀ m ∈ l, ∀ t ∈ m.before.timers.pending, t ∉ m.after.timers.pending → d.Spent t.id := by
  have hrun := h.run h₀
  have hreg := hrun.regular h₀
  exact ⟨hrun, fun _ _ => hreg.onAckTimeout_ne_iff, fun _ _ => hreg.onInvestigationTimeout_ne_iff,
    fun _ hm _ ht hgone => hrun.spent_of_gone h₀ hm ht hgone⟩

/-- The other host is pinged, and its ack arrives. -/
def answered : Daemon MemoryRoutes :=
  ((pinged 5).handleFrame peer [1, 4, 6, 0, 0, 0, 0, 9, 2, 0, 0, 0, 0, 2, 2, 0, 0, 0, 0, 1]).2

/-- The deadline of the ack would have mattered before the ack. After it, it passes late, and the run is the same. -/
theorem undisturbed_of_answered : ∃ l, LateRun (lone 5) l (answered.onAckTimeout ⟨0⟩ ⟨1⟩) ∧
    Run (lone 5) l (answered.onAckTimeout ⟨0⟩ ⟨1⟩) ∧ (pinged 5).onAckTimeout ⟨0⟩ ⟨1⟩ ≠ pinged 5 := by
  have hping : LateRun (lone 5) _ (pinged 5) :=
    (LateRun.nil.snoc (.frame _ peer [1, 1, 0, 6, 2, 0, 0, 0, 0, 2])).snoc (.pingTick _)
  have hspent : answered.Spent ⟨1⟩ := ⟨by decide, fun t ht _ => by cases ht⟩
  have hlate : LateRun (lone 5) _ _ :=
    (hping.snoc (.frame _ peer [1, 4, 6, 0, 0, 0, 0, 9, 2, 0, 0, 0, 0, 2, 2, 0, 0, 0, 0, 1])).late (.ack ⟨0⟩ hspent)
  obtain ⟨-, hack, -, -⟩ := LateRun.undisturbed (lone_isFresh 5) hping
  obtain ⟨hrun, -⟩ := LateRun.undisturbed (lone_isFresh 5) hlate
  exact ⟨_, hlate, hrun, (hack ⟨0⟩ ⟨1⟩).2 ⟨_, List.mem_singleton_self _, by decide, by decide, by decide⟩⟩

end

end Daemon

end Neighborhood
