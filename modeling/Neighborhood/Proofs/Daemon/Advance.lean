import Neighborhood.Proofs.Daemon.Regular

/-!
# Letting time pass

* `Daemon.Regular.firings_expire_lt` — a timer that fires uses up more of the firings that are due than it adds
* `Daemon.Run.fireDue`, `Daemon.Run.advance` — letting time pass goes on with a run, every timer that is due firing in
  a moment of its own
-/

namespace Neighborhood

namespace Daemon

variable {σ : Type} {d : Daemon σ} {limit : Nat}

/-! ## The firings that are due -/

theorem followUps_pos (task : Alarm) : 0 < followUps task := by
  unfold followUps
  split <;> decide

theorem Aside.firings_eq {d' : Daemon σ} (h : Aside d d') (limit : Nat) : d'.firings limit = d.firings limit := by
  rw [firings, firings, h.timers]

/-- A new deadline adds what follows it, and takes away the deadline that it replaces. -/
theorem firings_await_le (d : Daemon σ) (n : Neighbor) (delay : Nat) (task : Alarm) (liveness : Liveness) :
    (d.await n delay task liveness).firings limit ≤
      (d.timers.release n.timer?).load followUps limit + followUps task := by
  refine Nat.le_trans ?_ (Timers.load_once_le followUps limit delay task)
  simp only [firings, await, ← Timers.release_once_release d.timers]
  exact Timers.load_le_of_sublist _ _ List.filter_sublist

namespace Regular

variable (h : d.Regular)
include h

theorem firings_pingTick_le : d.pingTick.2.firings limit ≤ d.firings limit + 2 := by
  rcases pingTick_cases h.neighbors h.timers with ⟨n, -, -, -, ha⟩ | ⟨-, k, ha⟩
  · rw [ha.firings_eq]
    refine Nat.le_trans (firings_await_le d n _ _ _) (Nat.add_le_add_right ?_ _)
    exact Timers.load_le_of_sublist _ _ List.filter_sublist
  · rw [ha.firings_eq]
    exact Nat.le_add_right _ _

/-- A deadline that passes is let go. -/
theorem release_eq_fire {n : Neighbor} {t : Timer Alarm} (ht : t ∈ d.timers.pending) (ha : n.Awaits t) :
    (d.later t.due).timers.release n.timer? = d.timers.fire t := by
  rw [ha.timer?, Timers.fire_eq_release h.timers ht ha.1]
  rfl

variable [RouteTable σ] {t : Timer Alarm}

/-- A timer that fires uses up more of the firings that are due than it adds. -/
theorem firings_expire_lt (ht : d.timers.soonest? = some t) (hd : t.due ≤ limit) :
    ({ d with timers := d.timers.fire t }.expire t).firings limit < d.firings limit := by
  have htm := Timers.soonest?_mem ht
  have hw : d.firings limit = (d.timers.fire t).load followUps limit + followUps t.task :=
    (Timers.load_fire h.timers htm hd).symm
  rw [hw]
  cases h.fires ht with
  | ackDue n _ hn _ htask _ ha =>
    rw [ha.firings_eq, htask, ← h.release_eq_fire htm hn]
    exact Nat.lt_succ_of_le (firings_await_le (d.later t.due) n _ _ _)
  | answerDue n _ hn _ htask _ ha =>
    rw [ha.firings_eq, htask, ← h.release_eq_fire htm hn]
    exact Nat.lt_succ_self _
  | announce _ htask _ ha =>
    rw [ha.firings_eq, htask]
    exact Nat.lt_succ_self _
  | ping hp htask _ he =>
    rw [he, htask]
    exact Nat.lt_succ_of_le (h.fire ht hp).firings_pingTick_le

end Regular

/-! ## Runs -/

section
variable [RouteTable σ] {d₀ : Daemon σ} {l : List (Moment σ)}

/-- The timers that are due fire one after another, and as many are expected as do. -/
theorem Run.fireDue (h₀ : d₀.IsFresh) (limit : Nat) : ∀ (fuel : Nat) {d : Daemon σ} {l : List (Moment σ)}, Run d₀ l d →
    d.firings limit ≤ fuel → ∃ l', Run d₀ (l ++ l') (Daemon.fireDue limit fuel d) ∧
      (∀ m ∈ l', ∃ t, m.event = .expiry t) ∧ ∀ t ∈ (Daemon.fireDue limit fuel d).timers.pending, limit < t.due
  | 0, d, l, h, hw => by
    refine ⟨[], by rwa [List.append_nil], by simp, fun t ht => ?_⟩
    exact Timers.not_due_of_load followUps_pos (Nat.eq_zero_of_le_zero hw) ht
  | fuel + 1, d, l, h, hw => by
    unfold Daemon.fireDue
    split
    · rename_i hn
      exact ⟨[], by rwa [List.append_nil], by simp, fun t ht => Timers.next?_eq_none hn ht⟩
    · rename_i t ts hn
      obtain ⟨hs, hd, rfl⟩ := Timers.next?_eq_some hn
      have hlt := (h.regular h₀).firings_expire_lt hs hd
      obtain ⟨l', hr, he, hp⟩ := Run.fireDue h₀ limit fuel (h.snoc (.expiry hs)) (by omega)
      refine ⟨_ :: l', by simpa using hr, ?_, hp⟩
      intro m hm
      rcases List.mem_cons.1 hm with rfl | hm
      · exact ⟨t, rfl⟩
      · exact he m hm

/-- Letting time pass goes on with a run: every timer that is due in it fires, when it is due, and then the time that is
left passes. -/
theorem Run.advance (h₀ : d₀.IsFresh) (h : Run d₀ l d) (ms : Nat) :
    ∃ l', Run d₀ (l ++ l') (d.advance ms) ∧
      (∀ m ∈ l', (∃ t, m.event = .expiry t) ∨ m.event = .pass (d.timers.now + ms)) ∧
      ∀ t ∈ (d.advance ms).timers.pending, d.timers.now + ms < t.due := by
  obtain ⟨l', hr, he, hp⟩ := h.fireDue h₀ (d.timers.now + ms) _ (Nat.le_refl _)
  have hr' := hr.snoc (.pass fun t ht => Nat.le_of_lt (hp t ht))
  rw [List.append_assoc] at hr'
  refine ⟨_, hr', fun m hm => ?_, hp⟩
  rcases List.mem_append.1 hm with hm | hm
  · exact .inl (he m hm)
  · rw [List.mem_singleton.1 hm]
    exact .inr rfl

end

end Daemon

end Neighborhood
