import Neighborhood.Proofs.Daemon.Advance

/-!
# Quiet after shutdown

* `Daemon.Listed` — shutdown knows every timer that repeats; every step keeps this (`Step.listed`, `Run.listed`)
* `Daemon.Regular.shutdown_eq_of_listed` — so shutdown leaves no timer at all, and changes nothing else of a daemon but
  what is awaited
* `Daemon.Rests`, `Daemon.Run.rests` — without timers nothing happens unasked
* `Daemon.Run.quiet_after_shutdown` — both, in every state that a run leads to
-/

namespace Neighborhood

/-- The daemon is not asked for anything: a timer fires, time passes, or the surroundings change. -/
def Event.Unprompted : Event → Prop
  | .expiry _ | .pass _ | .surroundings _ _ => True
  | .frame _ _ | .pingTick | .announce | .tryAnnounce | .start | .shutdown => False

namespace Daemon

variable {σ : Type} {d d' d₀ : Daemon σ}

/-! ## Timers that repeat -/

/-- Every timer that repeats is among those that shutdown cancels. -/
def Listed (d : Daemon σ) : Prop :=
  ∀ t ∈ d.timers.pending, t.period ≠ none → t.id ∈ d.periodic

theorem IsFresh.listed (h : d.IsFresh) : d.Listed := by
  intro t ht
  rw [h.pending] at ht
  cases ht

namespace Listed

variable (h : d.Listed)
include h

/-- No timer that repeats is new, and the list is the same. -/
theorem mono (hp : d'.periodic = d.periodic)
    (ht : ∀ t ∈ d'.timers.pending, t.period ≠ none → t ∈ d.timers.pending) : d'.Listed := by
  intro t hm hr
  rw [hp]
  exact h t (ht t hm hr) hr

theorem aside (ha : Aside d d') : d'.Listed :=
  h.mono ha.periodic fun t ht _ => by rwa [ha.timers] at ht

theorem later (limit : Nat) : (d.later limit).Listed := h

theorem leave (n : Neighbor) : (d.leave n).Listed :=
  h.mono rfl fun _ ht _ => (Timers.mem_pending_release.1 ht).1

/-- A new deadline does not repeat. -/
theorem await (hr : d.Regular) {n : Neighbor} (hm : n ∈ d.neighbors.entries) (delay : Nat) (task : Alarm)
    (liveness : Liveness) : (d.await n delay task liveness).Listed := by
  refine h.mono rfl fun t ht hp => ?_
  rcases (hr.mem_pending_await hm).1 ht with rfl | ht
  · exact absurd rfl hp
  · exact (Timers.mem_pending_release.1 ht).1

/-- The next turn of a timer has the number of the turn before. -/
theorem fire (hr : d.Regular) {t : Timer Alarm} (ht : d.timers.soonest? = some t) :
    Listed { d with timers := d.timers.fire t } := by
  intro u hu hp
  rcases (Timers.mem_pending_fire hr.timers (Timers.soonest?_mem ht)).1 hu with ⟨hu, -⟩ | hu
  · exact h u hu hp
  · obtain ⟨hid, hperiod, -⟩ := Timers.again_same hu
    rw [hid]
    exact h t (Timers.soonest?_mem ht) (hperiod ▸ hp)

/-- A new timer that repeats is put on the list. -/
theorem every (seconds : Nat) (task : Alarm) : (d.every seconds task).Listed := by
  intro t ht hp
  simp only [Daemon.every, Timers.repeating] at ht ⊢
  split at ht
  · exact List.mem_append_left _ (h t ht hp)
  · rename_i hpos
    rw [if_neg hpos]
    rcases List.mem_append.1 ht with ht | ht
    · exact List.mem_append_left _ (h t ht hp)
    · rw [List.mem_singleton.1 ht]
      exact List.mem_append_right _ (List.mem_singleton_self _)

theorem pingTick (hr : d.Regular) : d.pingTick.2.Listed := by
  rcases pingTick_cases hr.neighbors hr.timers with ⟨n, hm, -, -, ha⟩ | ⟨-, k, ha⟩
  · exact (h.await hr hm _ _ _).aside ha
  · exact aside (d := { d with timers := { d.timers with fresh := d.timers.fresh + k } }) h ha

theorem shutdown : d.shutdown.Listed := by
  intro t ht hp
  obtain ⟨⟨ht, hid⟩, -⟩ := mem_pending_shutdown.1 ht
  exact absurd (h t ht hp) hid

section
variable [RouteTable σ]

theorem expire (hr : d.Regular) {t : Timer Alarm} (ht : d.timers.soonest? = some t) :
    Listed ({ d with timers := d.timers.fire t }.expire t) := by
  cases hr.fires ht with
  | ackDue n hm _ _ _ _ ha => exact ((h.later t.due).await (hr.later_soonest ht) hm _ _ _).aside ha
  | answerDue n _ _ _ _ _ ha => exact ((h.later t.due).leave n).aside ha
  | announce _ _ _ ha => exact (h.fire hr ht).aside ha
  | ping hp _ _ he =>
    rw [he]
    exact (h.fire hr ht).pingTick (hr.fire ht hp)

end

end Listed

theorem periodic_heed (d : Daemon σ) (news : News) : (d.heed news).periodic = d.periodic := by
  cases news with
  | ping sender clock =>
    simp only [heed, notePing, settle_eq]
    split
    · rfl
    · split <;> rfl
  | ack sender clock =>
    simp only [heed, noteAck, settle_eq]
    split
    · rfl
    · split <;> rfl
  | nothing | hosts | probe | expiry | shutdown => rfl

section
variable [RouteTable σ]

theorem Step.listed (hr : d.Regular) (h : d.Listed) {e : Event} : Step d e d' → d'.Listed
  | .frame _ sender bytes => by
    have hheed : (d.heed (.ofFrame d.link sender bytes)).Listed :=
      h.mono (periodic_heed d _) fun _ ht _ => pending_heed _ ht
    exact hheed.aside (handleFrame_aside d sender bytes)
  | .pingTick _ => h.pingTick hr
  | .announce _ => h.aside (announce_outward d).aside
  | .tryAnnounce _ => h.aside (tryAnnounce_outward d).aside
  | .start _ => ((h.aside (announce_outward d).aside).every _ _).every _ _
  | .shutdown _ => h.shutdown
  | .expiry ht => h.expire hr ht
  | .pass _ => h
  | .surroundings _ _ _ => h

theorem Run.listed (h₀ : d₀.IsFresh) {l : List (Moment σ)} (h : Run d₀ l d) : d.Listed := by
  induction h with
  | nil => exact h₀.listed
  | snoc hr hs ih => exact hs.listed (hr.regular h₀) ih

end

/-! ## Shutdown -/

/-- Every timer repeats, and is on the list, or is the deadline of an entry: shutdown cancels them all. -/
theorem Regular.pending_shutdown (hr : d.Regular) (h : d.Listed) : d.shutdown.timers.pending = [] := by
  refine List.eq_nil_iff_forall_not_mem.2 fun t ht => ?_
  obtain ⟨⟨ht, hid⟩, hheld⟩ := mem_pending_shutdown.1 ht
  by_cases hp : t.period = none
  · obtain ⟨n, hn, ha⟩ := hr.exists_holder ht hp
    exact hheld n hn ha.timer?
  · exact hid (h t ht hp)

/-- Shutdown takes off all timers and gives up all that is awaited. Everything else stays. -/
theorem Regular.shutdown_eq_of_listed (hr : d.Regular) (h : d.Listed) : d.shutdown =
    { d with
      neighbors := { d.neighbors with entries := d.neighbors.entries.map Neighbor.settled }
      timers := { d.timers with pending := [] }
      periodic := [] } := by
  have hn := hr.neighbors_shutdown
  have hp := hr.pending_shutdown h
  rw [shutdown_eq] at hn hp ⊢
  dsimp only at hn hp
  rw [hn, hp]

/-! ## Without timers -/

/-- Time has passed and the surroundings have changed, and no more. -/
def Rests (d d' : Daemon σ) : Prop :=
  ∃ now sink clock, d' = { d with timers := { d.timers with now := now }, sink := sink, clock := clock }

namespace Rests

theorem refl (d : Daemon σ) : Rests d d := ⟨_, _, _, rfl⟩

theorem trans {d₁ d₂ d₃ : Daemon σ} (h₁ : Rests d₁ d₂) (h₂ : Rests d₂ d₃) : Rests d₁ d₃ := by
  obtain ⟨_, _, _, rfl⟩ := h₁
  obtain ⟨_, _, _, rfl⟩ := h₂
  exact ⟨_, _, _, rfl⟩

theorem pending {d d' : Daemon σ} (h : Rests d d') : d'.timers.pending = d.timers.pending := by
  obtain ⟨_, _, _, rfl⟩ := h
  rfl

end Rests

section
variable [RouteTable σ]

/-- Where no timer is set, nothing happens unasked. -/
theorem Step.rests (h : d.timers.pending = []) {e : Event} (he : e.Unprompted) : Step d e d' → Rests d d'
  | .expiry ht => by
    have hm := Timers.soonest?_mem ht
    rw [h] at hm
    cases hm
  | .pass _ => ⟨_, _, _, rfl⟩
  | .surroundings _ _ _ => ⟨_, _, _, rfl⟩

theorem Run.rests (h₀ : d₀.timers.pending = []) {l : List (Moment σ)} (h : Run d₀ l d)
    (hl : ∀ m ∈ l, m.event.Unprompted) : Rests d₀ d := by
  induction h with
  | nil => exact .refl d₀
  | snoc _ hs ih =>
    have hr := ih fun m hm => hl m (List.mem_append_left _ hm)
    have he := hl _ (List.mem_append_right _ (List.mem_singleton_self _))
    exact hr.trans (hs.rests (hr.pending.trans h₀) he)

theorem advance_of_no_timers (h : d.timers.pending = []) (ms : Nat) :
    d.advance ms = { d with timers := { d.timers with now := d.timers.now + ms } } := by
  have hload : d.firings (d.timers.now + ms) = 0 := by
    rw [firings, Timers.load, h, Timers.loadOf]
  rw [advance, advanceTo, hload, fireDue, Timers.passTo, Nat.max_eq_right (Nat.le_add_right _ _)]

/-- However long one waits, and in however many turns. -/
theorem foldl_advance_of_no_timers : ∀ (waits : List Nat) {d : Daemon σ}, d.timers.pending = [] →
    waits.foldl advance d = { d with timers := { d.timers with now := waits.foldl (· + ·) d.timers.now } }
  | [], _, _ => rfl
  | ms :: waits, d, h => by
    rw [List.foldl_cons, advance_of_no_timers h ms]
    exact foldl_advance_of_no_timers waits h

/-- Shutdown removes no entry and no route; it leaves every entry idle, without a timer and with the clock it had. From
then on, for as long as nobody asks for anything, time passes and nothing else happens: no frame is sent and none is
tried to be sent, no neighbor is escalated or evicted, and the table, the routes and the counts stay. -/
theorem Run.quiet_after_shutdown (h₀ : d₀.IsFresh) {l : List (Moment σ)} (h : Run d₀ l d) :
    d.shutdown =
      { d with
        neighbors := { d.neighbors with entries := d.neighbors.entries.map Neighbor.settled }
        timers := { d.timers with pending := [] }
        periodic := [] } ∧
    (∀ n ∈ d.shutdown.neighbors.entries, n.isIdle = true ∧ n.timer? = none) ∧
    (∀ waits : List Nat, waits.foldl Daemon.advance d.shutdown =
      { d.shutdown with
        timers := { d.shutdown.timers with now := waits.foldl (· + ·) d.shutdown.timers.now } }) ∧
    ∀ l' d', Run d.shutdown l' d' → (∀ m ∈ l', m.event.Unprompted) → Rests d.shutdown d' := by
  have hr := h.regular h₀
  have hl := h.listed h₀
  have hp := hr.pending_shutdown hl
  refine ⟨hr.shutdown_eq_of_listed hl, ?_, fun waits => foldl_advance_of_no_timers waits hp, fun _ _ h' => h'.rests hp⟩
  rw [hr.neighbors_shutdown]
  intro n hn
  obtain ⟨m, -, rfl⟩ := List.mem_map.1 hn
  exact ⟨rfl, rfl⟩

/-- The daemon has been started twice, and the ack of its probe is missing. -/
def escalated : Daemon MemoryRoutes := (pinged 5).start.start.advance 5000

/-- Four periodic timers and the deadline of an investigation are off, and nothing more is said. -/
theorem quiet_after_shutdown_of_escalated : ∃ l, Run (lone 5) l escalated ∧
    escalated.timers.pending.length = 5 ∧
    escalated.neighbors.entries.map (fun n => (n.liveness, n.timer?)) = [(.awaitingInvestigativeAck, some ⟨6⟩)] ∧
    escalated.shutdown.timers.pending = [] ∧
    ∀ ms, (escalated.shutdown.advance ms).transmissions = escalated.transmissions := by
  obtain ⟨l, h⟩ := run_pinged 5
  obtain ⟨l', h', -⟩ := ((h.snoc (.start _)).snoc (.start _)).advance (lone_isFresh 5) 5000
  obtain ⟨hs, -, hw, -⟩ := Run.quiet_after_shutdown (lone_isFresh 5) h'
  refine ⟨_, h', by decide, by decide, congrArg (·.timers.pending) hs, fun ms => ?_⟩
  exact (congrArg (·.transmissions) (hw [ms])).trans (congrArg (·.transmissions) hs)

end

end Daemon

end Neighborhood
