import Mathlib.Data.List.Nodup
import Neighborhood.Timer

/-!
# Timers that are set

* `Sleep.Punctual` — a runtime on which timers fire when they are due
* `Timers.WellFormed` — numbers are used once, turns take time, and no timer is overdue; every operation keeps this
  (`set_wellFormed`, `release_wellFormed`, `passTo_wellFormed`), and so does the firing of the timer that is due first
  (`fire_wellFormed`)
* `Timers.foldl_cancel_eq`, `Timers.foldl_release_eq` — several timers are cancelled or let go at once
* `Timers.mem_pending_fire` — what is pending after a timer has fired
* `Timers.load` — a bound on the work that is due; firing a timer uses some of it up (`load_fire`)
-/

namespace Neighborhood

/-- Sleeps of length `delay` that begin by the time `limit` are over when they should be. -/
def Sleep.Punctual (s : Sleep) (delay limit : Nat) : Prop :=
  ∀ now ≤ limit, s.ends now delay = now + delay

theorem Sleep.exact_punctual (delay limit : Nat) : Sleep.exact.Punctual delay limit := fun _ _ => rfl

namespace Timers

variable {α : Type} {ts : Timers α}

/-! ## The timer that is due first -/

theorem foldl_sooner_mem : ∀ (l : List (Timer α)) (a : Timer α), l.foldl sooner a = a ∨ l.foldl sooner a ∈ l
  | [], _ => .inl rfl
  | b :: l, a => by
    simp only [List.foldl_cons, List.mem_cons]
    rcases foldl_sooner_mem l (sooner a b) with h | h
    · rw [h, sooner]
      split
      · exact .inr (.inl rfl)
      · exact .inl rfl
    · exact .inr (.inr h)

theorem foldl_sooner_le : ∀ (l : List (Timer α)) (a : Timer α),
    (l.foldl sooner a).due ≤ a.due ∧ ∀ u ∈ l, (l.foldl sooner a).due ≤ u.due
  | [], _ => by simp
  | b :: l, a => by
    obtain ⟨ha, hl⟩ := foldl_sooner_le l (sooner a b)
    have hab : (sooner a b).due ≤ a.due ∧ (sooner a b).due ≤ b.due := by
      unfold sooner; split <;> omega
    simp only [List.foldl_cons, List.mem_cons, forall_eq_or_imp]
    exact ⟨by omega, by omega, hl⟩

theorem soonest?_mem {t : Timer α} (h : ts.soonest? = some t) : t ∈ ts.pending := by
  unfold soonest? at h
  split at h
  · cases h
  · rename_i a rest hp
    cases h
    rw [hp, List.mem_cons]
    exact foldl_sooner_mem rest a

theorem soonest?_le {t u : Timer α} (h : ts.soonest? = some t) (hu : u ∈ ts.pending) : t.due ≤ u.due := by
  unfold soonest? at h
  split at h
  · cases h
  · rename_i a rest hp
    cases h
    rw [hp, List.mem_cons] at hu
    rcases hu with rfl | hu
    · exact (foldl_sooner_le rest u).1
    · exact (foldl_sooner_le rest a).2 u hu

theorem soonest?_eq_none (h : ts.soonest? = none) : ts.pending = [] := by
  unfold soonest? at h
  split at h
  · assumption
  · cases h

theorem next?_eq_some {limit : Nat} {t : Timer α} {ts' : Timers α} (h : ts.next? limit = some (t, ts')) :
    ts.soonest? = some t ∧ t.due ≤ limit ∧ ts' = ts.fire t := by
  unfold next? at h
  split at h
  · split at h
    · cases h
      exact ⟨by assumption, by assumption, rfl⟩
    · cases h
  · cases h

theorem next?_eq_none {limit : Nat} (h : ts.next? limit = none) {u : Timer α} (hu : u ∈ ts.pending) :
    limit < u.due := by
  unfold next? at h
  split at h
  · rename_i t hs
    split at h
    · cases h
    · have := soonest?_le hs hu
      omega
  · rename_i hs
    rw [soonest?_eq_none hs] at hu
    cases hu

/-! ## Well-formed timers -/

/-- Numbers are used once, turns take time, and no timer is overdue. -/
structure WellFormed (ts : Timers α) : Prop where
  ids : (ts.pending.map (·.id)).Nodup
  ids_lt : ∀ t ∈ ts.pending, t.id.serial < ts.fresh
  period_pos : ∀ t ∈ ts.pending, t.period ≠ some 0
  not_overdue : ∀ t ∈ ts.pending, ts.now ≤ t.due

theorem WellFormed.of_nil (h : ts.pending = []) : ts.WellFormed := by
  constructor <;> simp [h]

/-- The number of a timer tells it from all others. -/
theorem WellFormed.eq_of_id (h : ts.WellFormed) {t u : Timer α} (ht : t ∈ ts.pending) (hu : u ∈ ts.pending)
    (hid : t.id = u.id) : t = u :=
  List.inj_on_of_nodup_map h.ids ht hu hid

/-- The next number is no timer's yet. -/
theorem WellFormed.id_ne_fresh (h : ts.WellFormed) {t : Timer α} (ht : t ∈ ts.pending) : t.id ≠ ⟨ts.fresh⟩ := by
  intro hid
  have hlt := h.ids_lt t ht
  rw [hid] at hlt
  exact Nat.lt_irrefl _ hlt

theorem set_wellFormed (h : ts.WellFormed) {due : Nat} {period : Option Nat} {task : α} (hp : period ≠ some 0)
    (hd : ts.now ≤ due) : (ts.set due period task).2.WellFormed where
  ids := by
    simp only [set, List.map_append, List.map_cons, List.map_nil, List.nodup_append, List.mem_map,
      List.mem_singleton]
    refine ⟨h.ids, by simp, ?_⟩
    rintro _ ⟨t, ht, rfl⟩ _ rfl
    exact h.id_ne_fresh ht
  ids_lt t ht := by
    simp only [set, List.mem_append, List.mem_singleton] at ht ⊢
    rcases ht with ht | rfl
    · exact Nat.lt_succ_of_lt (h.ids_lt t ht)
    · exact Nat.lt_succ_self _
  period_pos t ht := by
    simp only [set, List.mem_append, List.mem_singleton] at ht
    rcases ht with ht | rfl
    · exact h.period_pos t ht
    · exact hp
  not_overdue t ht := by
    simp only [set, List.mem_append, List.mem_singleton] at ht ⊢
    rcases ht with ht | rfl
    · exact h.not_overdue t ht
    · exact hd

theorem once_wellFormed (h : ts.WellFormed) (delay : Nat) (task : α) : (ts.once delay task).2.WellFormed :=
  set_wellFormed h nofun (ts.sleep.le_ends _ _)

/-- Fewer timers, and perhaps numbers that were passed over. -/
theorem WellFormed.of_sublist (h : ts.WellFormed) {us : Timers α} (hs : us.pending.Sublist ts.pending)
    (hf : ts.fresh ≤ us.fresh) (hn : us.now = ts.now) : us.WellFormed where
  ids := h.ids.sublist (hs.map _)
  ids_lt t ht := Nat.lt_of_lt_of_le (h.ids_lt t (hs.subset ht)) hf
  period_pos t ht := h.period_pos t (hs.subset ht)
  not_overdue t ht := by rw [hn]; exact h.not_overdue t (hs.subset ht)

theorem repeating_wellFormed (h : ts.WellFormed) (period : Nat) (task : α) :
    (ts.repeating period task).2.WellFormed := by
  unfold repeating
  split
  · exact h.of_sublist (List.Sublist.refl _) (Nat.le_succ _) rfl
  · rename_i hp
    exact set_wellFormed h (by simpa using hp) (Nat.le_add_right _ _)

theorem passTo_wellFormed (h : ts.WellFormed) {limit : Nat} (hl : ∀ t ∈ ts.pending, limit ≤ t.due) :
    (ts.passTo limit).WellFormed where
  ids := h.ids
  ids_lt := h.ids_lt
  period_pos := h.period_pos
  not_overdue t ht := Nat.max_le.2 ⟨h.not_overdue t ht, hl t ht⟩

/-- The timer that someone holds, if it does, never fires. -/
def release (ts : Timers α) (held : Option TimerId) : Timers α :=
  { ts with pending := ts.pending.filter fun t => held ≠ some t.id }

theorem mem_pending_release {held : Option TimerId} {t : Timer α} :
    t ∈ (ts.release held).pending ↔ t ∈ ts.pending ∧ held ≠ some t.id := by
  simp [release]

theorem release_none (ts : Timers α) : ts.release none = ts := by
  simp [release]

theorem release_some (ts : Timers α) (id : TimerId) : ts.release (some id) = ts.cancel id := by
  simp [release, cancel, eq_comm]

theorem release_wellFormed (h : ts.WellFormed) (held : Option TimerId) : (ts.release held).WellFormed :=
  h.of_sublist List.filter_sublist (Nat.le_refl _) rfl

/-- A new timer that is cancelled at once leaves no trace but its number. -/
theorem release_once (h : ts.WellFormed) (delay : Nat) (task : α) :
    (ts.once delay task).2.release (some ⟨ts.fresh⟩) = { ts with fresh := ts.fresh + 1 } := by
  have hold : ∀ t ∈ ts.pending, some (⟨ts.fresh⟩ : TimerId) ≠ some t.id := by
    intro t ht he
    exact h.id_ne_fresh ht (Option.some.inj he).symm
  simp only [release, once, set, List.filter_append]
  rw [List.filter_eq_self.2 fun t ht => decide_eq_true (hold t ht)]
  simp

/-! ## Several timers at once -/

/-- Several timers are cancelled, one after another. -/
theorem foldl_cancel_eq : ∀ (ids : List TimerId) (ts : Timers α),
    ids.foldl cancel ts = { ts with pending := ts.pending.filter (·.id ∉ ids) }
  | [], ts => by simp
  | id :: ids, ts => by
    rw [List.foldl_cons, foldl_cancel_eq ids]
    simp only [cancel, List.filter_filter, List.mem_cons, not_or, Bool.decide_and, Bool.and_comm]

/-- Several holders let their timers go, one after another. -/
theorem foldl_release_eq {β : Type} (held : β → Option TimerId) : ∀ (l : List β) (ts : Timers α),
    l.foldl (fun ts b => ts.release (held b)) ts =
      { ts with pending := ts.pending.filter fun t => ∀ b ∈ l, held b ≠ some t.id }
  | [], ts => by simp
  | b :: l, ts => by
    rw [List.foldl_cons, foldl_release_eq held l]
    simp only [release, List.filter_filter, List.forall_mem_cons, Bool.decide_and, Bool.and_comm]

/-! ## Firing -/

/-- The place of the timer that fires is taken by what remains of it. -/
theorem fire_pending (h : ts.WellFormed) {t : Timer α} (ht : t ∈ ts.pending) :
    ∃ l₁ l₂, ts.pending = l₁ ++ t :: l₂ ∧ (ts.fire t).pending = l₁ ++ (again t).toList ++ l₂ := by
  obtain ⟨l₁, l₂, hl⟩ := List.append_of_mem ht
  have hids := h.ids
  rw [hl, List.map_append, List.map_cons, List.nodup_append] at hids
  have hkeep : ∀ l : List (Timer α), (∀ u ∈ l, u.id ≠ t.id) →
      l.filterMap (fun u => if u.id = t.id then again u else some u) = l := by
    intro l hne
    rw [List.filterMap_congr fun u hu => if_neg (hne u hu), List.filterMap_some]
  have h₁ : ∀ u ∈ l₁, u.id ≠ t.id := fun u hu => hids.2.2 _ (List.mem_map_of_mem hu) _ List.mem_cons_self
  have h₂ : ∀ u ∈ l₂, u.id ≠ t.id := fun u hu he =>
    (List.nodup_cons.1 hids.2.1).1 (he ▸ List.mem_map_of_mem (f := Timer.id) hu)
  refine ⟨l₁, l₂, hl, ?_⟩
  simp only [fire, hl, List.filterMap_append, List.filterMap_cons, if_true, hkeep l₁ h₁, hkeep l₂ h₂]
  cases again t <;> simp

/-- Only the time at which it is due tells the next turn of a timer from the one before. -/
theorem again_same {t u : Timer α} (h : again t = some u) :
    u.id = t.id ∧ u.period = t.period ∧ u.task = t.task := by
  obtain ⟨_, _, rfl⟩ := Option.map_eq_some_iff.1 h
  exact ⟨rfl, rfl, rfl⟩

theorem mem_pending_fire (h : ts.WellFormed) {t : Timer α} (ht : t ∈ ts.pending) {u : Timer α} :
    u ∈ (ts.fire t).pending ↔ u ∈ ts.pending ∧ u.id ≠ t.id ∨ again t = some u := by
  simp only [fire, List.mem_filterMap]
  constructor
  · rintro ⟨v, hv, hu⟩
    split at hu
    · rename_i hid
      rw [h.eq_of_id hv ht hid] at hu
      exact .inr hu
    · rename_i hid
      cases hu
      exact .inl ⟨hv, hid⟩
  · rintro (⟨hu, hid⟩ | hu)
    · exact ⟨u, hu, if_neg hid⟩
    · exact ⟨t, ht, by rw [if_pos rfl, hu]⟩

/-- A timer that fires once is gone afterwards. -/
theorem fire_once (h : ts.WellFormed) {t : Timer α} (ht : t ∈ ts.pending) (hp : t.period = none) :
    (ts.fire t).pending = ts.pending.filter (·.id ≠ t.id) := by
  simp only [fire, ← List.filterMap_eq_filter]
  refine List.filterMap_congr fun u hu => ?_
  by_cases hid : u.id = t.id
  · rw [h.eq_of_id hu ht hid]
    simp [again, hp, Option.guard]
  · simp [hid, Option.guard]

/-- When a timer that fires once fires, it is as if the time had passed and it had been let go. -/
theorem fire_eq_release (h : ts.WellFormed) {t : Timer α} (ht : t ∈ ts.pending) (hp : t.period = none) :
    ts.fire t = (ts.passTo t.due).release (some t.id) := by
  have hf : (ts.fire t).pending = ((ts.passTo t.due).release (some t.id)).pending := by
    rw [fire_once h ht hp]
    exact List.filter_congr fun u _ => by simp [eq_comm]
  exact congrArg (fun l => Timers.mk (max ts.now t.due) ts.fresh l ts.sleep) hf

theorem release_once_release (ts : Timers α) (held : Option TimerId) (delay : Nat) (task : α) :
    ((ts.release held).once delay task).2.release held = (ts.once delay task).2.release held := by
  simp [release, once, set, List.filter_append]

theorem fire_wellFormed (h : ts.WellFormed) {t : Timer α} (ht : ts.soonest? = some t) : (ts.fire t).WellFormed := by
  have hm := soonest?_mem ht
  have hnow : (ts.fire t).now = t.due := Nat.max_eq_right (h.not_overdue t hm)
  constructor
  · obtain ⟨l₁, l₂, hl, hf⟩ := fire_pending h hm
    have hids := h.ids
    rw [hl] at hids
    rw [hf]
    cases ha : again t with
    | none =>
      refine hids.sublist (List.Sublist.map _ ?_)
      simp
    | some u =>
      simp only [Option.toList_some, List.append_assoc, List.singleton_append, List.map_append, List.map_cons,
        (again_same ha).1] at hids ⊢
      exact hids
  all_goals
    intro u hu
    rcases (mem_pending_fire h hm).1 hu with ⟨hu, -⟩ | hu
  · exact h.ids_lt u hu
  · rw [(again_same hu).1]
    exact h.ids_lt t hm
  · exact h.period_pos u hu
  · rw [(again_same hu).2.1]
    exact h.period_pos t hm
  · rw [hnow]
    exact soonest?_le ht hu
  · obtain ⟨p, hp, rfl⟩ := Option.map_eq_some_iff.1 hu
    rw [hnow]
    exact Nat.le_add_right _ _

/-! ## The work that is due -/

theorem loadOf_append (weight : α → Nat) (limit : Nat) : ∀ l₁ l₂ : List (Timer α),
    loadOf weight limit (l₁ ++ l₂) = loadOf weight limit l₁ + loadOf weight limit l₂
  | [], l₂ => by simp [loadOf]
  | t :: l₁, l₂ => by
    rw [List.cons_append, loadOf, loadOf, loadOf_append weight limit l₁ l₂, Nat.add_assoc]

/-- A timer has one turn less to come after it has fired. -/
theorem turnsOf_again {limit : Nat} {t u : Timer α} (hd : t.due ≤ limit) (hp : t.period ≠ some 0)
    (ha : again t = some u) : turnsOf limit u + 1 = turnsOf limit t := by
  obtain ⟨p, hp', rfl⟩ := Option.map_eq_some_iff.1 ha
  have hpos : 0 < p := Nat.pos_of_ne_zero fun h0 => hp (h0 ▸ hp')
  simp only [turnsOf, hp', if_pos hd]
  split
  · rename_i hle
    have hdiv : (limit - t.due) / p = (limit - t.due - p) / p + 1 := Nat.div_eq_sub_div hpos (by omega)
    rw [hdiv, show limit - (t.due + p) = limit - t.due - p by omega]
    omega
  · rw [Nat.div_eq_of_lt (by omega)]

theorem load_fire (h : ts.WellFormed) {weight : α → Nat} {limit : Nat} {t : Timer α} (ht : t ∈ ts.pending)
    (hd : t.due ≤ limit) : (ts.fire t).load weight limit + weight t.task = ts.load weight limit := by
  obtain ⟨l₁, l₂, hl, hf⟩ := fire_pending h ht
  simp only [load, hl, hf, loadOf_append, loadOf]
  cases ha : again t with
  | none =>
    have hp : t.period = none := Option.map_eq_none_iff.1 ha
    have h1 : turnsOf limit t = 1 := by simp [turnsOf, hd, hp]
    simp only [Option.toList_none, loadOf, h1]
    omega
  | some u =>
    have := turnsOf_again hd (h.period_pos t ht) ha
    simp only [Option.toList_some, loadOf, (again_same ha).2.2, ← this, Nat.mul_add]
    omega

/-- A timer that fires once adds its weight at most. -/
theorem load_once_le (weight : α → Nat) (limit delay : Nat) (task : α) :
    (ts.once delay task).2.load weight limit ≤ ts.load weight limit + weight task := by
  have hle : turnsOf limit (⟨⟨ts.fresh⟩, ts.sleep.ends ts.now delay, none, task⟩ : Timer α) ≤ 1 := by
    simp only [turnsOf]
    split <;> omega
  have := Nat.mul_le_mul_left (weight task) hle
  simp only [load, once, set, loadOf_append, loadOf]
  omega

theorem load_le_of_sublist {us : Timers α} (weight : α → Nat) (limit : Nat)
    (hs : us.pending.Sublist ts.pending) : us.load weight limit ≤ ts.load weight limit := by
  unfold load
  generalize us.pending = l₁, ts.pending = l₂ at hs
  induction hs with
  | slnil => exact Nat.le_refl _
  | cons t _ ih => simp only [loadOf]; omega
  | cons_cons t _ ih => simp only [loadOf]; omega

theorem not_due_of_load {weight : α → Nat} {limit : Nat} (hw : ∀ a, 0 < weight a) (h0 : ts.load weight limit = 0)
    {t : Timer α} (ht : t ∈ ts.pending) : limit < t.due := by
  obtain ⟨l₁, l₂, hl⟩ := List.append_of_mem ht
  simp only [load, hl, loadOf_append, loadOf] at h0
  have h : weight t.task * turnsOf limit t = 0 := by omega
  rcases Nat.mul_eq_zero.1 h with h | h
  · exact absurd h (Nat.pos_iff_ne_zero.1 (hw _))
  · unfold turnsOf at h
    split at h
    · split at h <;> simp at h
    · omega

end Timers

end Neighborhood
