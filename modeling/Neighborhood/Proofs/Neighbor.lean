import Mathlib.Data.List.Nodup
import Neighborhood.Neighbor

/-!
# The table of neighbors

* `Neighbor.Bounded` — a timer is held just while something is awaited
* `NeighborTable.WellFormed` — one entry for an address and one for a number, all of them bounded, and nothing is awaited
  from entries that have left; every operation keeps this
* `NeighborTable.get?_eq_some_iff`, `NeighborTable.find?_eq_some_iff` — look-ups as membership
* `NeighborTable.introduce` — entries for all hosts of a list (`get?_introduce_of_mem`), in whatever order
  (`map_get?_introduce`)
* `NeighborTable.get?_update`, `NeighborTable.get?_depart` — look-ups after a change of one entry
* `NeighborTable.foldl_settle_eq`, `NeighborTable.settleEntries_eq` — several entries are settled at once
* `NeighborTable.arm_eq`, `NeighborTable.idleExcept_arm` — who else is idle when something is awaited from an entry
* `NeighborTable.directory` — the addresses and identities, which only arrivals and departures change
-/

namespace Neighborhood

namespace Neighbor

variable {n : Neighbor}

theorem isIdle_iff : n.isIdle = true ↔ n.liveness = .idle := by
  rw [isIdle, decide_eq_true_eq]

theorem isIdle_eq_false_iff : n.isIdle = false ↔ n.liveness ≠ .idle := by
  rw [isIdle, decide_eq_false_iff_not]

theorem ownsTimer_iff {timer : TimerId} : n.ownsTimer timer = true ↔ n.timer? = some timer := by
  rw [ownsTimer, decide_eq_true_eq]

/-- The neighbor holds a timer just if something is awaited from it. -/
def Bounded (n : Neighbor) : Prop := n.timer?.isSome = true ↔ n.isIdle = false

theorem armed_bounded (n : Neighbor) {liveness : Liveness} (hb : liveness ≠ .idle) (timer : TimerId) :
    (n.armed liveness timer).Bounded :=
  iff_of_true rfl (isIdle_eq_false_iff.2 hb)

theorem settled_bounded (n : Neighbor) : n.settled.Bounded :=
  iff_of_false (by simp [settled]) (by simp [settled, isIdle])

namespace Bounded

variable (h : n.Bounded)
include h

theorem timer?_of_idle (hi : n.isIdle = true) : n.timer? = none := by
  refine Option.not_isSome_iff_eq_none.1 fun hs => ?_
  rw [h.mp hs] at hi
  cases hi

theorem settled_of_idle (hi : n.isIdle = true) : n.settled = n := by
  rw [settled, ← isIdle_iff.1 hi, ← h.timer?_of_idle hi]

end Bounded

end Neighbor

namespace NeighborTable

variable {t : NeighborTable}

/-- One entry for an address, one for a number, timers held just while something is awaited, and nothing awaited from
entries that have left. -/
structure WellFormed (t : NeighborTable) : Prop where
  refs : ((t.entries ++ t.departed).map (·.ref)).Nodup
  refs_lt : ∀ n ∈ t.entries ++ t.departed, n.ref.serial < t.fresh
  hwaddrs : (t.entries.map (·.hwaddr)).Nodup
  bounded : ∀ n ∈ t.entries ++ t.departed, n.Bounded
  departed_idle : ∀ n ∈ t.departed, n.isIdle = true

theorem empty_wellFormed : ({} : NeighborTable).WellFormed := by
  constructor <;> simp

/-! ## Look-ups -/

/-- The look-up by a key that no two members share. -/
theorem find?_key_eq_some_iff {β : Type} [DecidableEq β] {key : Neighbor → β} {l : List Neighbor}
    (hl : (l.map key).Nodup) {k : β} {n : Neighbor} : l.find? (fun m => key m = k) = some n ↔ n ∈ l ∧ key n = k := by
  constructor
  · intro hf
    exact ⟨List.mem_of_find?_eq_some hf, by simpa using List.find?_some hf⟩
  · rintro ⟨hn, rfl⟩
    cases hf : l.find? (fun m => key m = key n) with
    | none => simpa using List.find?_eq_none.1 hf n hn
    | some m =>
      have hm : key m = key n := by simpa using List.find?_some hf
      rw [List.inj_on_of_nodup_map hl (List.mem_of_find?_eq_some hf) hn hm]

namespace WellFormed

variable (h : t.WellFormed) {n m : Neighbor}
include h

theorem eq_of_ref (hn : n ∈ t.entries ++ t.departed) (hm : m ∈ t.entries ++ t.departed) (he : n.ref = m.ref) :
    n = m :=
  List.inj_on_of_nodup_map h.refs hn hm he

theorem eq_of_entry_ref (hn : n ∈ t.entries) (hm : m ∈ t.entries) (he : n.ref = m.ref) : n = m :=
  h.eq_of_ref (List.mem_append_left _ hn) (List.mem_append_left _ hm) he

theorem eq_of_hwaddr (hn : n ∈ t.entries) (hm : m ∈ t.entries) (he : n.hwaddr = m.hwaddr) : n = m :=
  List.inj_on_of_nodup_map h.hwaddrs hn hm he

theorem bounded_of_mem (hn : n ∈ t.entries) : n.Bounded := h.bounded n (List.mem_append_left _ hn)

/-- No departed entry has the number of an entry of the table. -/
theorem departed_ref_ne (hn : n ∈ t.entries) (hm : m ∈ t.departed) : m.ref ≠ n.ref := by
  intro he
  have hd := h.refs
  rw [List.map_append, List.nodup_append] at hd
  exact hd.2.2 _ (List.mem_map_of_mem hn) _ (List.mem_map_of_mem hm) he.symm

theorem get?_eq_some_iff {a : HwAddr} : t.get? a = some n ↔ n ∈ t.entries ∧ n.hwaddr = a :=
  find?_key_eq_some_iff h.hwaddrs

theorem find?_eq_some_iff {ref : NeighborRef} :
    t.find? ref = some n ↔ n ∈ t.entries ++ t.departed ∧ n.ref = ref :=
  find?_key_eq_some_iff h.refs

/-- The entry that an expired timer evicts. -/
theorem expired?_eq_some_iff {ref : NeighborRef} {timer : TimerId} :
    t.expired? ref timer = some n ↔
      n ∈ t.entries ∧ n.ref = ref ∧ n.liveness = .awaitingInvestigativeAck ∧ n.timer? = some timer := by
  constructor
  · intro he
    refine ⟨List.mem_of_find?_eq_some he, ?_⟩
    simpa [Neighbor.ownsTimer, and_assoc] using List.find?_some he
  · rintro ⟨hn, rfl, hl, ht⟩
    cases he : t.expired? n.ref timer with
    | none => simpa [Neighbor.ownsTimer, hl, ht] using List.find?_eq_none.1 he n hn
    | some m =>
      have hm := List.find?_some he
      simp only [Bool.and_eq_true, decide_eq_true_eq] at hm
      rw [h.eq_of_entry_ref (List.mem_of_find?_eq_some he) hn hm.1.1]

end WellFormed

theorem pick?_mem {lots : Draws Nat} {n : Neighbor} (h : (t.pick? lots).1 = some n) :
    n ∈ t.entries ∧ n.isIdle = true := by
  have hm : n ∈ t.idle := by
    unfold pick? Draws.pick? at h
    split at h
    · cases h
    · exact List.mem_of_getElem? h
  simpa [idle] using hm

/-! ## New entries -/

/-- The entry that `getOrCreate` makes. -/
def newcomer (t : NeighborTable) (a : HwAddr) (identity : Xid) : Neighbor :=
  { ref := ⟨t.fresh⟩, hwaddr := a, identity := identity }

theorem getOrCreate_of_some {a : HwAddr} {n : Neighbor} (hg : t.get? a = some n) (identity : Xid) :
    t.getOrCreate a identity = ((n, false), t) := by
  simp only [getOrCreate, hg]

theorem getOrCreate_of_none {a : HwAddr} (hg : t.get? a = none) (identity : Xid) :
    t.getOrCreate a identity = ((t.newcomer a identity, true),
      { t with entries := t.entries ++ [t.newcomer a identity], fresh := t.fresh + 1 }) := by
  simp only [getOrCreate, hg, newcomer]

theorem getOrCreate_wellFormed (h : t.WellFormed) (a : HwAddr) (identity : Xid) :
    (t.getOrCreate a identity).2.WellFormed := by
  cases hg : t.get? a with
  | some n =>
    rw [getOrCreate_of_some hg]
    exact h
  | none =>
    rw [getOrCreate_of_none hg]
    have hd := h.refs
    rw [List.map_append, List.nodup_append] at hd
    constructor
    · have hnew : ∀ m ∈ t.entries ++ t.departed, m.ref ≠ ⟨t.fresh⟩ := by
        intro m hm he
        have := h.refs_lt m hm
        rw [he] at this
        exact Nat.lt_irrefl _ this
      simp only [List.append_assoc, List.singleton_append, List.map_append, List.map_cons]
      rw [List.perm_middle.nodup_iff, List.nodup_cons, ← List.map_append]
      refine ⟨?_, h.refs⟩
      rw [List.mem_map]
      rintro ⟨m, hm, he⟩
      exact hnew m hm he
    · intro m hm
      simp only [List.mem_append, List.mem_singleton] at hm
      rcases hm with (hm | rfl) | hm
      · exact Nat.lt_succ_of_lt (h.refs_lt m (List.mem_append_left _ hm))
      · exact Nat.lt_succ_self _
      · exact Nat.lt_succ_of_lt (h.refs_lt m (List.mem_append_right _ hm))
    · simp only [List.map_append, List.map_cons, List.map_nil, List.nodup_append, List.mem_map, List.mem_singleton]
      refine ⟨h.hwaddrs, by simp, ?_⟩
      rintro _ ⟨m, hm, rfl⟩ _ rfl he
      simpa [newcomer, he] using List.find?_eq_none.1 hg m hm
    · intro m hm
      simp only [List.mem_append, List.mem_singleton] at hm
      rcases hm with (hm | rfl) | hm
      · exact h.bounded_of_mem hm
      · exact iff_of_false (by simp [newcomer]) (by simp [newcomer, Neighbor.isIdle])
      · exact h.bounded m (List.mem_append_right _ hm)
    · exact h.departed_idle

/-- Entries for all hosts of a list, those that have none getting a new one. -/
def introduce (identity : HwAddr → Xid) : NeighborTable → List HwAddr → NeighborTable
  | t, [] => t
  | t, a :: hosts => introduce identity (t.getOrCreate a (identity a)).2 hosts

theorem introduce_wellFormed (identity : HwAddr → Xid) : ∀ {t : NeighborTable} (hosts : List HwAddr),
    t.WellFormed → (t.introduce identity hosts).WellFormed
  | _, [], h => h
  | _, a :: hosts, h => introduce_wellFormed identity hosts (getOrCreate_wellFormed h a (identity a))

theorem introduce_append (identity : HwAddr → Xid) : ∀ (t : NeighborTable) (l₁ l₂ : List HwAddr),
    t.introduce identity (l₁ ++ l₂) = (t.introduce identity l₁).introduce identity l₂
  | _, [], _ => rfl
  | _, _ :: l₁, l₂ => introduce_append identity _ l₁ l₂

theorem get?_getOrCreate_of_some {a b : HwAddr} {n : Neighbor} (hg : t.get? b = some n) (identity : Xid) :
    (t.getOrCreate a identity).2.get? b = some n := by
  cases ha : t.get? a with
  | some m => rw [getOrCreate_of_some ha, hg]
  | none =>
    rw [getOrCreate_of_none ha]
    simp only [get?, List.find?_append] at hg ⊢
    rw [hg]
    rfl

theorem get?_getOrCreate_of_none {a b : HwAddr} (hg : t.get? b = none) (identity : Xid) :
    (t.getOrCreate a identity).2.get? b = if a = b then some (t.newcomer a identity) else none := by
  cases ha : t.get? a with
  | some m =>
    rw [getOrCreate_of_some ha, hg, if_neg]
    rintro rfl
    rw [ha] at hg
    cases hg
  | none =>
    rw [getOrCreate_of_none ha]
    simp only [get?, List.find?_append] at hg ⊢
    rw [hg]
    by_cases hab : a = b <;> simp [newcomer, hab]

/-- Entries that exist stay as they are. -/
theorem get?_introduce_of_some (identity : HwAddr → Xid) {b : HwAddr} {n : Neighbor} :
    ∀ {t : NeighborTable} (hosts : List HwAddr), t.get? b = some n → (t.introduce identity hosts).get? b = some n
  | _, [], hg => hg
  | _, _ :: hosts, hg => get?_introduce_of_some identity hosts (get?_getOrCreate_of_some hg _)

theorem get?_introduce_of_not_mem (identity : HwAddr → Xid) {b : HwAddr} :
    ∀ {t : NeighborTable} (hosts : List HwAddr), t.get? b = none → b ∉ hosts →
      (t.introduce identity hosts).get? b = none
  | _, [], hg, _ => hg
  | _, a :: hosts, hg, hb => by
    rw [List.mem_cons, not_or] at hb
    refine get?_introduce_of_not_mem identity hosts ?_ hb.2
    rw [get?_getOrCreate_of_none hg, if_neg fun he => hb.1 he.symm]

/-- A host of the list without an entry gets one from which nothing is awaited. -/
theorem get?_introduce_of_mem (identity : HwAddr → Xid) {b : HwAddr} :
    ∀ {t : NeighborTable} (hosts : List HwAddr), t.get? b = none → b ∈ hosts →
      ∃ ref, (t.introduce identity hosts).get? b = some { ref := ref, hwaddr := b, identity := identity b }
  | t, a :: hosts, hg, hb => by
    by_cases hab : a = b
    · subst hab
      refine ⟨⟨t.fresh⟩, get?_introduce_of_some identity hosts ?_⟩
      rw [get?_getOrCreate_of_none hg, if_pos rfl]
      rfl
    · refine get?_introduce_of_mem identity hosts ?_ ((List.mem_cons.1 hb).resolve_left fun he => hab he.symm)
      rw [get?_getOrCreate_of_none hg, if_neg hab]

theorem get?_introduce_ne_none_iff (identity : HwAddr → Xid) {t : NeighborTable} {hosts : List HwAddr} {b : HwAddr} :
    (t.introduce identity hosts).get? b ≠ none ↔ t.get? b ≠ none ∨ b ∈ hosts := by
  cases hg : t.get? b with
  | some n =>
    rw [get?_introduce_of_some identity hosts hg]
    exact iff_of_true (Option.some_ne_none n) (.inl (Option.some_ne_none n))
  | none =>
    by_cases hb : b ∈ hosts
    · obtain ⟨_, he⟩ := get?_introduce_of_mem identity hosts hg hb
      rw [he]
      exact iff_of_true (Option.some_ne_none _) (.inr hb)
    · rw [get?_introduce_of_not_mem identity hosts hg hb]
      simp [hb]

/-- Hosts that all have entries get no others. -/
theorem introduce_eq_self (identity : HwAddr → Xid) {t : NeighborTable} : ∀ {hosts : List HwAddr},
    (∀ a ∈ hosts, t.get? a ≠ none) → t.introduce identity hosts = t
  | [], _ => rfl
  | a :: hosts, h => by
    obtain ⟨n, hn⟩ := Option.ne_none_iff_exists'.1 (h a List.mem_cons_self)
    rw [introduce, getOrCreate_of_some hn]
    exact introduce_eq_self identity fun b hb => h b (List.mem_cons_of_mem _ hb)

theorem introduce_twice (identity : HwAddr → Xid) (t : NeighborTable) (hosts : List HwAddr) :
    (t.introduce identity hosts).introduce identity hosts = t.introduce identity hosts :=
  introduce_eq_self identity fun _ ha => (get?_introduce_ne_none_iff identity).2 (.inr ha)

/-- But for its number, the entry for an address does not depend on the order in which hosts were introduced. -/
theorem map_get?_introduce {β : Type} {f : Neighbor → β} (hf : ∀ n ref, f { n with ref := ref } = f n)
    (identity : HwAddr → Xid) (t : NeighborTable) (hosts : List HwAddr) (b : HwAddr) :
    ((t.introduce identity hosts).get? b).map f = ((t.get? b).map f).or
      (if b ∈ hosts then some (f { ref := ⟨0⟩, hwaddr := b, identity := identity b }) else none) := by
  cases hg : t.get? b with
  | some n =>
    rw [get?_introduce_of_some identity hosts hg]
    rfl
  | none =>
    by_cases hb : b ∈ hosts
    · obtain ⟨ref, he⟩ := get?_introduce_of_mem identity hosts hg hb
      rw [he, if_pos hb]
      exact congrArg some (hf { ref := ⟨0⟩, hwaddr := b, identity := identity b } ref)
    · rw [get?_introduce_of_not_mem identity hosts hg hb, if_neg hb]
      rfl

/-! ## Changes of one entry -/

section Update

variable {f : Neighbor → Neighbor}

theorem mem_updateIn {ref : NeighborRef} {l : List Neighbor} {m : Neighbor} :
    m ∈ updateIn ref f l ↔ ∃ n ∈ l, m = if n.ref = ref then f n else n := by
  simp only [updateIn, List.mem_map, eq_comm]

/-- A quantity that `f` keeps is kept throughout a list. -/
theorem map_updateIn {β : Type} {g : Neighbor → β} (hg : ∀ n, g (f n) = g n) (ref : NeighborRef)
    (l : List Neighbor) : (updateIn ref f l).map g = l.map g := by
  simp only [updateIn, List.map_map]
  refine List.map_congr_left fun n _ => ?_
  simp only [Function.comp]
  split
  · exact hg n
  · rfl

variable (hr : ∀ n, (f n).ref = n.ref) (ha : ∀ n, (f n).hwaddr = n.hwaddr)

include ha in
theorem get?_update (t : NeighborTable) (ref : NeighborRef) (a : HwAddr) :
    (t.update ref f).get? a = (t.get? a).map fun n => if n.ref = ref then f n else n := by
  simp only [get?, update, updateIn, List.find?_map]
  congr 2
  funext n
  simp only [Function.comp]
  split <;> simp [ha]

include ha in
/-- The look-up of the changed entry. -/
theorem get?_update_self (h : t.WellFormed) {n : Neighbor} (hn : n ∈ t.entries) :
    (t.update n.ref f).get? n.hwaddr = some (f n) := by
  rw [get?_update ha, h.get?_eq_some_iff.2 ⟨hn, rfl⟩, Option.map_some, if_pos rfl]

include ha in
/-- The look-up of another entry. -/
theorem get?_update_other (h : t.WellFormed) {n : Neighbor} (hn : n ∈ t.entries) {a : HwAddr} (hne : n.hwaddr ≠ a) :
    (t.update n.ref f).get? a = t.get? a := by
  rw [get?_update ha]
  cases hg : t.get? a with
  | none => rfl
  | some m =>
    obtain ⟨hm, rfl⟩ := h.get?_eq_some_iff.1 hg
    rw [Option.map_some, if_neg]
    intro he
    exact hne (congrArg _ (h.eq_of_entry_ref hm hn he)).symm

include hr ha in
theorem update_wellFormed (h : t.WellFormed) {n : Neighbor} (hn : n ∈ t.entries) (hb : (f n).Bounded) :
    (t.update n.ref f).WellFormed := by
  have hall : (t.update n.ref f).entries ++ (t.update n.ref f).departed =
      updateIn n.ref f (t.entries ++ t.departed) := by
    simp [update, updateIn]
  constructor
  · rw [hall, map_updateIn hr]
    exact h.refs
  · intro m hm
    rw [hall] at hm
    obtain ⟨m₀, hm₀, rfl⟩ := mem_updateIn.1 hm
    split
    · rw [hr]
      exact h.refs_lt m₀ hm₀
    · exact h.refs_lt m₀ hm₀
  · simp only [update, map_updateIn ha]
    exact h.hwaddrs
  · intro m hm
    rw [hall] at hm
    obtain ⟨m₀, hm₀, rfl⟩ := mem_updateIn.1 hm
    split
    · rename_i he
      rw [h.eq_of_ref hm₀ (List.mem_append_left _ hn) he]
      exact hb
    · exact h.bounded m₀ hm₀
  · intro m hm
    obtain ⟨m₀, hm₀, rfl⟩ := mem_updateIn.1 hm
    rw [if_neg (h.departed_ref_ne hn hm₀)]
    exact h.departed_idle m₀ hm₀

theorem mem_entries_update (h : t.WellFormed) {n m : Neighbor} (hn : n ∈ t.entries) :
    m ∈ (t.update n.ref f).entries ↔ m ∈ t.entries ∧ m.ref ≠ n.ref ∨ m = f n := by
  simp only [update, mem_updateIn]
  constructor
  · rintro ⟨m₀, hm₀, rfl⟩
    split
    · rename_i he
      rw [h.eq_of_entry_ref hm₀ hn he]
      exact .inr rfl
    · rename_i he
      exact .inl ⟨hm₀, he⟩
  · rintro (⟨hm, he⟩ | rfl)
    · exact ⟨m, hm, (if_neg he).symm⟩
    · exact ⟨n, hn, (if_pos rfl).symm⟩

theorem mem_entries_update_self (h : t.WellFormed) {n : Neighbor} (hn : n ∈ t.entries) :
    f n ∈ (t.update n.ref f).entries :=
  (mem_entries_update h hn).2 (.inr rfl)

end Update

section
variable (h : t.WellFormed) {n : Neighbor} (hn : n ∈ t.entries)
include h hn

theorem arm_wellFormed {liveness : Liveness} (hb : liveness ≠ .idle) (timer : TimerId) :
    (t.arm n.ref liveness timer).WellFormed :=
  update_wellFormed (f := (·.armed liveness timer)) (fun _ => rfl) (fun _ => rfl) h hn (n.armed_bounded hb timer)

theorem settle_wellFormed : (t.settle n.ref).WellFormed :=
  update_wellFormed (f := Neighbor.settled) (fun _ => rfl) (fun _ => rfl) h hn n.settled_bounded

theorem setClock_wellFormed (clock : Int32) : (t.setClock n.ref clock).WellFormed := by
  have hb : n.Bounded := h.bounded_of_mem hn
  exact update_wellFormed (f := fun m => { m with clock := clock }) (fun _ => rfl) (fun _ => rfl) h hn hb

end

/-- The change of an entry's state leaves all others alone, those that have left included. -/
theorem arm_eq (h : t.WellFormed) {n : Neighbor} (hn : n ∈ t.entries) (liveness : Liveness) (timer : TimerId) :
    t.arm n.ref liveness timer =
      { t with entries := t.entries.map fun m => if m = n then n.armed liveness timer else m } := by
  have he : updateIn n.ref (·.armed liveness timer) t.entries =
      t.entries.map fun m => if m = n then n.armed liveness timer else m := by
    refine List.map_congr_left fun m hm => ?_
    by_cases hr : m.ref = n.ref
    · obtain rfl := h.eq_of_entry_ref hm hn hr
      simp
    · rw [if_neg hr, if_neg fun he => hr (congrArg _ he)]
  have hd : updateIn n.ref (·.armed liveness timer) t.departed = t.departed :=
    (List.map_congr_left fun m hm => if_neg (h.departed_ref_ne hn hm)).trans (List.map_id _)
  rw [arm, update, he, hd]

/-- Who else is idle does not depend on the state of the one. -/
theorem idleExcept_arm (h : t.WellFormed) {n : Neighbor} (hn : n ∈ t.entries) (liveness : Liveness) (timer : TimerId) :
    (t.arm n.ref liveness timer).idleExcept n.hwaddr = t.entries.filter fun m => m.isIdle ∧ m ≠ n := by
  have hne : ∀ m ∈ t.entries, m ≠ n → m.hwaddr ≠ n.hwaddr := fun m hm hne he => hne (h.eq_of_hwaddr hm hn he)
  rw [arm_eq h hn, idleExcept, idle, List.filter_filter, List.filter_map]
  have hf : t.entries.filter ((fun m => decide (m.hwaddr ≠ n.hwaddr) && m.isIdle) ∘
      fun m => if m = n then n.armed liveness timer else m) =
      t.entries.filter fun m => m.isIdle ∧ m ≠ n := by
    refine List.filter_congr fun m hm => ?_
    by_cases he : m = n
    · simp [he, Neighbor.armed]
    · simp [he, hne m hm he]
  rw [hf]
  refine (List.map_congr_left fun m hm => if_neg ?_).trans (List.map_id _)
  simp only [List.mem_filter, decide_eq_true_eq] at hm
  exact hm.2.2

/-- The entry whose state has changed is found by its number. -/
theorem find?_arm (h : t.WellFormed) {n : Neighbor} (hn : n ∈ t.entries) {liveness : Liveness}
    (hb : liveness ≠ .idle) (timer : TimerId) :
    (t.arm n.ref liveness timer).find? n.ref = some (n.armed liveness timer) :=
  (arm_wellFormed h hn hb timer).find?_eq_some_iff.2
    ⟨List.mem_append_left _ (mem_entries_update_self h hn), rfl⟩

/-- A settled entry that shows another clock, and the other entries. -/
theorem get?_setClock_settle (h : t.WellFormed) {n : Neighbor} (hn : n ∈ t.entries) (clock : Int32) :
    ((t.settle n.ref).setClock n.ref clock).get? n.hwaddr = some { n.settled with clock := clock } ∧
      ∀ b, b ≠ n.hwaddr → ((t.settle n.ref).setClock n.ref clock).get? b = t.get? b := by
  have hs := settle_wellFormed h hn
  have hm : n.settled ∈ (t.settle n.ref).entries := mem_entries_update_self h hn
  have hf : ∀ m : Neighbor, { m with clock := clock }.hwaddr = m.hwaddr := fun _ => rfl
  refine ⟨get?_update_self hf hs hm, fun b hb => ?_⟩
  exact (get?_update_other hf hs hm hb.symm).trans
    (get?_update_other (f := Neighbor.settled) (fun _ => rfl) h hn hb.symm)

/-- Where nothing was awaited, giving up at once leaves no trace. -/
theorem settle_arm (h : t.WellFormed) {n : Neighbor} (hn : n ∈ t.entries) (hi : n.isIdle = true)
    (liveness : Liveness) (timer : TimerId) : (t.arm n.ref liveness timer).settle n.ref = t := by
  have hsame : ∀ l : List Neighbor, (∀ m ∈ l, m.ref = n.ref → m = n) →
      updateIn n.ref Neighbor.settled (updateIn n.ref (·.armed liveness timer) l) = l := by
    intro l hl
    simp only [updateIn, List.map_map]
    refine (List.map_congr_left fun m hm => ?_).trans (List.map_id l)
    by_cases he : m.ref = n.ref
    · have hself := (h.bounded_of_mem hn).settled_of_idle hi
      rw [hl m hm he]
      simpa [Neighbor.settled, Neighbor.armed] using hself
    · simp [he]
  have he := hsame t.entries fun m hm he => h.eq_of_entry_ref hm hn he
  have hd := hsame t.departed fun m hm he => absurd he (h.departed_ref_ne hn hm)
  simp only [settle, arm, update, he, hd]

/-- The entries with the numbers of a list are settled, one after another. -/
theorem foldl_settle_eq : ∀ (ns : List Neighbor) (t : NeighborTable),
    ns.foldl (fun t n => t.settle n.ref) t =
      { t with
        entries := t.entries.map fun m => if m.ref ∈ ns.map (·.ref) then m.settled else m
        departed := t.departed.map fun m => if m.ref ∈ ns.map (·.ref) then m.settled else m }
  | [], t => by simp
  | n :: ns, t => by
    have hone : ∀ l : List Neighbor,
        (updateIn n.ref Neighbor.settled l).map (fun m => if m.ref ∈ ns.map (·.ref) then m.settled else m) =
          l.map fun m => if m.ref ∈ (n :: ns).map (·.ref) then m.settled else m := by
      intro l
      rw [updateIn, List.map_map]
      refine List.map_congr_left fun m _ => ?_
      by_cases he : m.ref = n.ref
      · by_cases hm : n.ref ∈ ns.map (·.ref) <;> simp [he, hm, Neighbor.settled]
      · simp [he]
    rw [List.foldl_cons, foldl_settle_eq ns]
    simp only [settle, update, hone]

/-- When all entries of a table are settled, those that have left stay as they are. -/
theorem settleEntries_eq (h : t.WellFormed) : t.entries.foldl (fun t n => t.settle n.ref) t =
    { t with entries := t.entries.map Neighbor.settled } := by
  have he : t.entries.map (fun m => if m.ref ∈ t.entries.map (·.ref) then m.settled else m) =
      t.entries.map Neighbor.settled :=
    List.map_congr_left fun m hm => if_pos (List.mem_map_of_mem hm)
  have hd : t.departed.map (fun m => if m.ref ∈ t.entries.map (·.ref) then m.settled else m) = t.departed := by
    refine (List.map_congr_left fun m hm => if_neg ?_).trans (List.map_id _)
    rw [List.mem_map]
    rintro ⟨n, hn, hr⟩
    exact h.departed_ref_ne hn hm hr.symm
  rw [foldl_settle_eq, he, hd]

/-! ## Departures -/

theorem mem_entries_depart {n m : Neighbor} : m ∈ (t.depart n).entries ↔ m ∈ t.entries ∧ m.ref ≠ n.ref := by
  simp [depart]

theorem entries_depart (h : t.WellFormed) {n : Neighbor} (hn : n ∈ t.entries) :
    (t.depart n).entries = t.entries.erase n := by
  have hnodup : t.entries.Nodup := .of_map _ h.hwaddrs
  rw [hnodup.erase_eq_filter]
  refine List.filter_congr fun m hm => ?_
  rw [Bool.eq_iff_iff, decide_eq_true_eq, bne_iff_ne]
  exact not_congr ⟨h.eq_of_entry_ref hm hn, congrArg _⟩

theorem size_depart (h : t.WellFormed) {n : Neighbor} (hn : n ∈ t.entries) : (t.depart n).size + 1 = t.size := by
  rw [size, size, entries_depart h hn, (List.perm_cons_erase hn).length_eq, List.length_cons]

theorem depart_wellFormed (h : t.WellFormed) {n : Neighbor} (hn : n ∈ t.entries) : (t.depart n).WellFormed := by
  have hd := h.refs
  rw [List.map_append, List.nodup_append] at hd
  constructor
  · simp only [depart, List.map_append, List.map_cons, List.nodup_append, List.nodup_cons, List.mem_cons,
      List.mem_map]
    refine ⟨hd.1.sublist (List.filter_sublist.map _), ⟨?_, hd.2.1⟩, ?_⟩
    · rintro ⟨m, hm, he⟩
      exact h.departed_ref_ne hn hm he
    · rintro _ ⟨m, hm, rfl⟩ _ (rfl | ⟨m', hm', rfl⟩) he
      · exact (mem_entries_depart.1 hm).2 he
      · exact h.departed_ref_ne (mem_entries_depart.1 hm).1 hm' he.symm
  · intro m hm
    simp only [depart, List.mem_append, List.mem_cons] at hm
    rcases hm with hm | rfl | hm
    · exact h.refs_lt m (List.mem_append_left _ (List.mem_filter.1 hm).1)
    · exact h.refs_lt n (List.mem_append_left _ hn)
    · exact h.refs_lt m (List.mem_append_right _ hm)
  · exact h.hwaddrs.sublist (List.filter_sublist.map _)
  · intro m hm
    simp only [depart, List.mem_append, List.mem_cons] at hm
    rcases hm with hm | rfl | hm
    · exact h.bounded_of_mem (List.mem_filter.1 hm).1
    · exact n.settled_bounded
    · exact h.bounded m (List.mem_append_right _ hm)
  · intro m hm
    rcases List.mem_cons.1 hm with rfl | hm
    · rfl
    · exact h.departed_idle m hm

theorem get?_depart_self (h : t.WellFormed) {n : Neighbor} (hn : n ∈ t.entries) :
    (t.depart n).get? n.hwaddr = none := by
  refine List.find?_eq_none.2 fun m hm => ?_
  obtain ⟨hm, hr⟩ := mem_entries_depart.1 hm
  intro ha
  exact hr (congrArg _ (h.eq_of_hwaddr hm hn (by simpa using ha)))

theorem get?_depart_other (h : t.WellFormed) {n : Neighbor} (hn : n ∈ t.entries) {a : HwAddr} (hne : n.hwaddr ≠ a) :
    (t.depart n).get? a = t.get? a := by
  have hd := depart_wellFormed h hn
  ext m
  rw [hd.get?_eq_some_iff, h.get?_eq_some_iff, mem_entries_depart]
  constructor
  · rintro ⟨⟨hm, -⟩, rfl⟩
    exact ⟨hm, rfl⟩
  · rintro ⟨hm, rfl⟩
    exact ⟨⟨hm, fun he => hne (congrArg _ (h.eq_of_entry_ref hm hn he)).symm⟩, rfl⟩

/-! ## Who is in the table -/

/-- The addresses of the neighbors with the identities under which routes know them. -/
def directory (t : NeighborTable) : List (HwAddr × Xid) :=
  t.entries.map fun n => (n.hwaddr, n.identity)

theorem size_eq_of_directory {t' : NeighborTable} (h : t'.directory = t.directory) : t'.size = t.size := by
  have hl := congrArg List.length h
  rwa [directory, directory, List.length_map, List.length_map] at hl

/-- Who has an entry. -/
theorem get?_ne_none_iff {a : HwAddr} : t.get? a ≠ none ↔ a ∈ t.directory.map (·.1) := by
  rw [Ne, get?, List.find?_eq_none, directory, List.map_map, List.mem_map]
  simp

/-- A change of one entry that keeps its address and its identity. -/
theorem directory_update {f : Neighbor → Neighbor} (hf : ∀ n, ((f n).hwaddr, (f n).identity) = (n.hwaddr, n.identity))
    (t : NeighborTable) (ref : NeighborRef) : (t.update ref f).directory = t.directory :=
  map_updateIn (g := fun n : Neighbor => (n.hwaddr, n.identity)) hf ref t.entries

theorem directory_arm (t : NeighborTable) (ref : NeighborRef) (liveness : Liveness) (timer : TimerId) :
    (t.arm ref liveness timer).directory = t.directory :=
  directory_update (f := (·.armed liveness timer)) (fun _ => rfl) t ref

theorem directory_settle (t : NeighborTable) (ref : NeighborRef) : (t.settle ref).directory = t.directory :=
  directory_update (f := Neighbor.settled) (fun _ => rfl) t ref

theorem directory_setClock (t : NeighborTable) (ref : NeighborRef) (clock : Int32) :
    (t.setClock ref clock).directory = t.directory :=
  directory_update (f := fun m => { m with clock := clock }) (fun _ => rfl) t ref

/-- Whoever has no entry gets one, with the given identity. -/
theorem mem_directory_getOrCreate {a : HwAddr} {x : Xid} {p : HwAddr × Xid} :
    p ∈ (t.getOrCreate a x).2.directory ↔ p ∈ t.directory ∨ t.get? a = none ∧ p = (a, x) := by
  cases hg : t.get? a with
  | some n => simp [getOrCreate_of_some hg]
  | none => simp [getOrCreate_of_none hg, directory, newcomer, eq_comm]

theorem mem_directory_introduce {identity : HwAddr → Xid} {p : HwAddr × Xid} :
    ∀ {t : NeighborTable} (hosts : List HwAddr), p ∈ (t.introduce identity hosts).directory →
      p ∈ t.directory ∨ p.2 = identity p.1
  | _, [], hp => .inl hp
  | t, a :: hosts, hp => by
    rcases mem_directory_introduce hosts hp with hp | hp
    · refine (mem_directory_getOrCreate.1 hp).imp_right ?_
      rintro ⟨-, rfl⟩
      rfl
    · exact .inr hp

theorem mem_directory_depart (h : t.WellFormed) {n : Neighbor} (hn : n ∈ t.entries) {p : HwAddr × Xid} :
    p ∈ (t.depart n).directory ↔ p ∈ t.directory ∧ p.1 ≠ n.hwaddr := by
  simp only [directory, List.mem_map, mem_entries_depart]
  constructor
  · rintro ⟨m, ⟨hm, hne⟩, rfl⟩
    exact ⟨⟨m, hm, rfl⟩, fun he => hne (congrArg _ (h.eq_of_hwaddr hm hn he))⟩
  · rintro ⟨⟨m, hm, rfl⟩, hne⟩
    exact ⟨m, ⟨hm, fun he => hne (congrArg Neighbor.hwaddr (h.eq_of_entry_ref hm hn he))⟩, rfl⟩

end NeighborTable

end Neighborhood
