import Neighborhood.Proofs.Daemon.Acts

/-!
# References to entries

Whoever has been given an entry may keep its number, and use it when the entry has left the table, and even when another
entry has been made for the same address since.

* `TableOp`, `NeighborTable.after` — what can be done to a table, and the table after all of it
* `NeighborTable.Numbered` — every number that was given out belongs to one entry, in the table or departed; every
  operation keeps this (`Numbered.apply`)
* `NeighborTable.Gone` — an entry that has left stays away (`Gone.apply`)
* `NeighborTable.Expired`, `NeighborTable.Evicts` — which entry an eviction removes, and what it leaves alone
* `NeighborTable.consistent_after` — what look-ups and evictions by kept references can and cannot do
* `Daemon.WithdrawsOnce` — an eviction withdraws the routes of the entry that leaves, and nothing else does
-/

namespace Neighborhood

/-- What can be done to a table, by address or by the number of an entry. -/
inductive TableOp where
  | getOrCreate (hwaddr : HwAddr) (identity : Xid)
  | get (hwaddr : HwAddr)
  | remove (hwaddr : HwAddr)
  | arm (ref : NeighborRef) (liveness : Liveness) (timer : TimerId) (busy : liveness ≠ .idle)
  | settle (ref : NeighborRef)
  | setClock (ref : NeighborRef) (clock : Int32)
  | evict (ref : NeighborRef) (timer : TimerId)

namespace NeighborTable

def apply (t : NeighborTable) : TableOp → NeighborTable
  | .getOrCreate hwaddr identity => (t.getOrCreate hwaddr identity).2
  | .get _ => t
  | .remove hwaddr => (t.remove hwaddr).2
  | .arm ref liveness timer _ => t.arm ref liveness timer
  | .settle ref => t.settle ref
  | .setClock ref clock => t.setClock ref clock
  | .evict ref timer => (t.evict ref timer (fun _ a => a) ()).2.1

/-- The table after these operations, first to last. -/
def after (ops : List TableOp) : NeighborTable :=
  ops.foldl apply {}

variable {t t' : NeighborTable} {n m : Neighbor} {ref : NeighborRef} {timer : TimerId}

theorem after_append (ops ops' : List TableOp) : after (ops ++ ops') = ops'.foldl apply (after ops) :=
  List.foldl_append

/-! ## Numbers -/

/-- Every number below the next belongs to one entry, in the table or departed, and every address to one entry of the
table at most; whoever holds a timer is awaited. Departed entries may be awaited. -/
structure Numbered (t : NeighborTable) : Prop where
  serials : ((t.entries ++ t.departed).map (·.ref.serial)).Perm (List.range t.fresh)
  hwaddrs : (t.entries.map (·.hwaddr)).Nodup
  bounded : ∀ n ∈ t.entries ++ t.departed, n.Bounded

/-- The table as it would be if nothing were awaited from departed entries. -/
def calm (t : NeighborTable) : NeighborTable :=
  { t with departed := t.departed.map Neighbor.settled }

theorem numbered_empty : ({} : NeighborTable).Numbered := by
  constructor <;> simp

namespace Numbered

variable (h : t.Numbered)
include h

theorem refs : ((t.entries ++ t.departed).map (·.ref)).Nodup := by
  have hs := h.serials.nodup_iff.2 List.nodup_range
  exact .of_map NeighborRef.serial (by rwa [List.map_map])

theorem serial_lt (hn : n ∈ t.entries ++ t.departed) : n.ref.serial < t.fresh :=
  List.mem_range.1 (h.serials.mem_iff.1 (List.mem_map.2 ⟨n, hn, rfl⟩))

/-- What is known of well-formed tables holds here as far as it is about the entries of the table. -/
theorem calm_wellFormed : t.calm.WellFormed := by
  have hmap : ∀ l : List Neighbor, (l.map Neighbor.settled).map (·.ref) = l.map (·.ref) := by simp [Neighbor.settled]
  have hrefs := h.refs
  constructor
  · rw [calm, List.map_append, hmap, ← List.map_append]
    exact hrefs
  · intro n hn
    rcases List.mem_append.1 hn with hn | hn
    · exact h.serial_lt (List.mem_append_left _ hn)
    · obtain ⟨m, hm, rfl⟩ := List.mem_map.1 hn
      exact h.serial_lt (n := m) (List.mem_append_right _ hm)
  · exact h.hwaddrs
  · intro n hn
    rcases List.mem_append.1 hn with hn | hn
    · exact h.bounded n (List.mem_append_left _ hn)
    · obtain ⟨m, -, rfl⟩ := List.mem_map.1 hn
      exact m.settled_bounded
  · intro n hn
    obtain ⟨m, -, rfl⟩ := List.mem_map.1 hn
    rfl

/-! ### Look-ups -/

theorem get?_eq_some_iff {a : HwAddr} : t.get? a = some n ↔ n ∈ t.entries ∧ n.hwaddr = a := by
  have hg : t.get? a = t.calm.get? a := rfl
  rw [hg]
  exact h.calm_wellFormed.get?_eq_some_iff

theorem find?_eq_some_iff : t.find? ref = some n ↔ n ∈ t.entries ++ t.departed ∧ n.ref = ref :=
  find?_key_eq_some_iff h.refs

theorem expired?_eq_some_iff : t.expired? ref timer = some n ↔
    n ∈ t.entries ∧ n.ref = ref ∧ n.liveness = .awaitingInvestigativeAck ∧ n.timer? = some timer := by
  have he : t.expired? ref timer = t.calm.expired? ref timer := rfl
  rw [he]
  exact h.calm_wellFormed.expired?_eq_some_iff

/-! ### Operations -/

theorem getOrCreate (a : HwAddr) (identity : Xid) : (t.getOrCreate a identity).2.Numbered := by
  cases hg : t.get? a with
  | some n =>
    rw [getOrCreate_of_some hg]
    exact h
  | none =>
    have hw := getOrCreate_wellFormed h.calm_wellFormed a identity
    have hc : t.calm.get? a = none := hg
    rw [getOrCreate_of_none hc] at hw
    rw [getOrCreate_of_none hg]
    refine ⟨?_, hw.hwaddrs, fun n hn => ?_⟩
    · rw [List.range_succ, List.append_assoc, List.singleton_append, List.map_append, List.map_cons]
      refine List.perm_middle.trans (List.perm_append_singleton _ _ |>.symm.trans ?_)
      rw [← List.map_append]
      exact h.serials.append_right _
    · rcases List.mem_append.1 hn with hn | hn
      · exact hw.bounded n (List.mem_append_left _ hn)
      · exact h.bounded n (List.mem_append_right _ hn)

/-- A change of one entry that keeps its number and its address, and keeps it bounded. -/
theorem update {f : Neighbor → Neighbor} (hf : ∀ n, (f n).ref = n.ref) (ha : ∀ n, (f n).hwaddr = n.hwaddr)
    (hb : ∀ n, n.Bounded → (f n).Bounded) (ref : NeighborRef) : (t.update ref f).Numbered := by
  have hs : ∀ l, (updateIn ref f l).map (·.ref.serial) = l.map (·.ref.serial) :=
    map_updateIn (g := (·.ref.serial)) (fun n => congrArg _ (hf n)) ref
  constructor
  · simp only [NeighborTable.update, List.map_append, hs]
    rw [← List.map_append]
    exact h.serials
  · simp only [NeighborTable.update, map_updateIn ha]
    exact h.hwaddrs
  · intro n hn
    simp only [NeighborTable.update, updateIn, ← List.map_append] at hn
    obtain ⟨m, hm, rfl⟩ := List.mem_map.1 hn
    split
    · exact hb m (h.bounded m hm)
    · exact h.bounded m hm

theorem entries_depart (hn : n ∈ t.entries) : (t.depart n).entries = t.entries.erase n :=
  NeighborTable.entries_depart h.calm_wellFormed hn

theorem depart (hn : n ∈ t.entries) : (t.depart n).Numbered where
  serials := by
    have hp : ((t.entries.erase n) ++ n :: t.departed).Perm (t.entries ++ t.departed) :=
      List.perm_middle.trans ((List.perm_cons_erase hn).symm.append_right t.departed)
    rw [h.entries_depart hn]
    have hm := hp.map (·.ref.serial)
    rw [List.map_append] at hm ⊢
    exact hm.trans h.serials
  hwaddrs := (depart_wellFormed h.calm_wellFormed hn).hwaddrs
  bounded m hm := by
    simp only [NeighborTable.depart, List.mem_append, List.mem_cons] at hm
    rcases hm with hm | rfl | hm
    · exact h.bounded m (List.mem_append_left _ (List.mem_filter.1 hm).1)
    · exact n.settled_bounded
    · exact h.bounded m (List.mem_append_right _ hm)

theorem remove (a : HwAddr) : (t.remove a).2.Numbered := by
  unfold NeighborTable.remove
  split
  · rename_i n hg
    exact h.depart (h.get?_eq_some_iff.1 hg).1
  · exact h

theorem evict (ref : NeighborRef) (timer : TimerId) : (t.evict ref timer (fun _ a => a) ()).2.1.Numbered := by
  unfold NeighborTable.evict
  split
  · rename_i n he
    exact h.depart (h.expired?_eq_some_iff.1 he).1
  · exact h

theorem apply : ∀ op, (t.apply op).Numbered
  | .getOrCreate a identity => h.getOrCreate a identity
  | .get _ => h
  | .remove a => h.remove a
  | .arm ref liveness timer busy =>
    h.update (f := (·.armed liveness timer)) (fun _ => rfl) (fun _ => rfl) (fun n _ => n.armed_bounded busy timer) ref
  | .settle ref =>
    h.update (f := Neighbor.settled) (fun _ => rfl) (fun _ => rfl) (fun n _ => n.settled_bounded) ref
  | .setClock ref clock =>
    h.update (f := fun m => { m with clock := clock }) (fun _ => rfl) (fun _ => rfl) (fun _ hb => hb) ref
  | .evict ref timer => h.evict ref timer

theorem foldl_apply (ops : List TableOp) : (ops.foldl NeighborTable.apply t).Numbered := by
  induction ops generalizing t with
  | nil => exact h
  | cons op ops ih => exact ih (h.apply op)

end Numbered

theorem numbered_after (ops : List TableOp) : (after ops).Numbered :=
  numbered_empty.foldl_apply ops

/-! ## Entries that have left -/

/-- The number was given out, and no entry of the table has it. -/
def Gone (t : NeighborTable) (ref : NeighborRef) : Prop :=
  ref.serial < t.fresh ∧ ∀ n ∈ t.entries, n.ref ≠ ref

namespace Gone

variable (h : t.Gone ref)
include h

theorem update {f : Neighbor → Neighbor} (hf : ∀ n, (f n).ref = n.ref) (r : NeighborRef) : (t.update r f).Gone ref := by
  refine ⟨h.1, fun n hn => ?_⟩
  obtain ⟨m, hm, rfl⟩ := mem_updateIn.1 hn
  split
  · rw [hf]
    exact h.2 m hm
  · exact h.2 m hm

theorem depart (n : Neighbor) : (t.depart n).Gone ref :=
  ⟨h.1, fun m hm => h.2 m (mem_entries_depart.1 hm).1⟩

/-- A new entry gets a number that no entry has had. -/
theorem getOrCreate (a : HwAddr) (identity : Xid) : (t.getOrCreate a identity).2.Gone ref := by
  cases hg : t.get? a with
  | some n =>
    rw [getOrCreate_of_some hg]
    exact h
  | none =>
    rw [getOrCreate_of_none hg]
    refine ⟨Nat.lt_succ_of_lt h.1, fun n hn => ?_⟩
    rcases List.mem_append.1 hn with hn | hn
    · exact h.2 n hn
    · rw [List.mem_singleton.1 hn]
      rintro rfl
      exact Nat.lt_irrefl _ h.1

theorem remove (a : HwAddr) : (t.remove a).2.Gone ref := by
  unfold NeighborTable.remove
  split
  · exact h.depart _
  · exact h

theorem evict (r : NeighborRef) (timer : TimerId) : (t.evict r timer (fun _ a => a) ()).2.1.Gone ref := by
  unfold NeighborTable.evict
  split
  · exact h.depart _
  · exact h

theorem apply : ∀ op, (t.apply op).Gone ref
  | .getOrCreate a identity => h.getOrCreate a identity
  | .get _ => h
  | .remove a => h.remove a
  | .arm r liveness timer _ => h.update (f := (·.armed liveness timer)) (fun _ => rfl) r
  | .settle r => h.update (f := Neighbor.settled) (fun _ => rfl) r
  | .setClock r clock => h.update (f := fun m => { m with clock := clock }) (fun _ => rfl) r
  | .evict r timer => h.evict r timer

theorem foldl_apply (ops : List TableOp) : (ops.foldl NeighborTable.apply t).Gone ref := by
  induction ops generalizing t with
  | nil => exact h
  | cons op ops ih => exact ih (h.apply op)

end Gone

theorem fresh_le_apply (t : NeighborTable) (op : TableOp) : t.fresh ≤ (t.apply op).fresh := by
  cases op with
  | getOrCreate a identity =>
    simp only [apply, getOrCreate]
    split
    · exact Nat.le_refl _
    · exact Nat.le_succ _
  | remove a =>
    simp only [apply, remove]
    split <;> exact Nat.le_refl _
  | evict ref timer =>
    simp only [apply, evict]
    split <;> exact Nat.le_refl _
  | get | arm | settle | setClock => exact Nat.le_refl _

theorem fresh_le_foldl_apply : ∀ (ops : List TableOp) (t : NeighborTable), t.fresh ≤ (ops.foldl apply t).fresh
  | [], _ => Nat.le_refl _
  | op :: ops, t => Nat.le_trans (fresh_le_apply t op) (fresh_le_foldl_apply ops (t.apply op))

/-! ## Evictions -/

/-- The number is that of the table's entry for an address, and the timer bounds the investigation of it. -/
def Expired (t : NeighborTable) (ref : NeighborRef) (timer : TimerId) (n : Neighbor) : Prop :=
  t.find? ref = some n ∧ t.get? n.hwaddr = some n ∧ n.liveness = .awaitingInvestigativeAck ∧ n.timer? = some timer

/-- The entry `n` has left the table, idle and without a timer, and all other entries, in the table and departed, are as
they were. -/
structure Evicts (t : NeighborTable) (n : Neighbor) (t' : NeighborTable) : Prop where
  entries : t'.entries = t.entries.erase n
  self : t'.find? n.ref = some n.settled
  others : ∀ ref, ref ≠ n.ref → t'.find? ref = t.find? ref
  vacant : t'.get? n.hwaddr = none
  elsewhere : ∀ a, a ≠ n.hwaddr → t'.get? a = t.get? a
  fresh : t'.fresh = t.fresh

namespace Numbered

variable (h : t.Numbered)
include h

theorem expired_iff : t.Expired ref timer n ↔ t.expired? ref timer = some n := by
  rw [Expired, h.expired?_eq_some_iff, h.find?_eq_some_iff, h.get?_eq_some_iff, List.mem_append]
  constructor
  · rintro ⟨⟨-, hr⟩, ⟨hn, -⟩, hl⟩
    exact ⟨hn, hr, hl⟩
  · rintro ⟨hn, hr, hl⟩
    exact ⟨⟨.inl hn, hr⟩, ⟨hn, rfl⟩, hl⟩

theorem find?_depart_self (hn : n ∈ t.entries) : (t.depart n).find? n.ref = some n.settled :=
  (h.depart hn).find?_eq_some_iff.2 ⟨List.mem_append_right _ List.mem_cons_self, rfl⟩

theorem find?_depart_other (hn : n ∈ t.entries) (hne : ref ≠ n.ref) : (t.depart n).find? ref = t.find? ref := by
  ext m
  rw [(h.depart hn).find?_eq_some_iff, h.find?_eq_some_iff, List.mem_append, List.mem_append, mem_entries_depart]
  refine and_congr_left ?_
  rintro rfl
  refine or_congr (and_iff_left hne) (List.mem_cons.trans (or_iff_right ?_))
  rintro rfl
  exact hne rfl

theorem evicts_depart (hn : n ∈ t.entries) : t.Evicts n (t.depart n) where
  entries := h.entries_depart hn
  self := h.find?_depart_self hn
  others _ hne := h.find?_depart_other hn hne
  vacant := get?_depart_self h.calm_wellFormed hn
  elsewhere _ hne := get?_depart_other h.calm_wellFormed hn hne.symm
  fresh := rfl

theorem expired?_eq_none (he : ∀ n, ¬t.Expired ref timer n) : t.expired? ref timer = none :=
  Option.eq_none_iff_forall_ne_some.2 fun n hn => he n (h.expired_iff.2 hn)

variable {α : Type}

theorem evict_of_expired (he : t.Expired ref timer n) (withdraw : Neighbor → α → α) (a : α) :
    t.evict ref timer withdraw a = (true, t.depart n, withdraw n.settled a) := by
  simp only [NeighborTable.evict, h.expired_iff.1 he]

theorem evict_of_not_expired (he : ∀ n, ¬t.Expired ref timer n) (withdraw : Neighbor → α → α) (a : α) :
    t.evict ref timer withdraw a = (false, t, a) := by
  simp only [NeighborTable.evict, h.expired?_eq_none he]

end Numbered

/-! ## All operations -/

/-- What holds of a table after these operations, and of kept references to its entries. -/
structure Consistent (ops : List TableOp) : Prop where
  /-- One entry for an address at most, -/
  hwaddrs : ((after ops).entries.map (·.hwaddr)).Nodup
  /-- and it carries the address. -/
  get_iff : ∀ a n, (after ops).get? a = some n ↔ n ∈ (after ops).entries ∧ n.hwaddr = a
  /-- Every number that was given out belongs to one entry, in the table or departed. -/
  serials : (((after ops).entries ++ (after ops).departed).map (·.ref.serial)).Perm (List.range (after ops).fresh)
  getOrCreate : ∀ a identity n, (after ops).get? a = some n →
    (after ops).getOrCreate a identity = ((n, false), after ops)
  /-- An entry that was in the table and is not is never found by address again. -/
  gone : ∀ earlier since ref, ops = earlier ++ since → (∃ n ∈ (after earlier).entries, n.ref = ref) →
    (∀ n ∈ (after ops).entries, n.ref ≠ ref) → ∀ later a n, (after (ops ++ later)).get? a = some n → n.ref ≠ ref
  timer_iff : ∀ n ∈ (after ops).entries ++ (after ops).departed, n.timer?.isSome = true ↔ n.isIdle = false
  /-- An entry whose deadline passes leaves, and `withdraw` is applied once, to the entry as it then is; -/
  evicts : ∀ ref timer n, (after ops).Expired ref timer n → ∃ t', (after ops).Evicts n t' ∧
    ∀ {α : Type} (withdraw : Neighbor → α → α) (a : α),
      (after ops).evict ref timer withdraw a = (true, t', withdraw n.settled a)
  /-- with any other reference or timer the table stays as it is, and `withdraw` is not applied. -/
  stale : ∀ ref timer, (∀ n, ¬(after ops).Expired ref timer n) → ∀ {α : Type} (withdraw : Neighbor → α → α) (a : α),
    (after ops).evict ref timer withdraw a = (false, after ops, a)

theorem consistent (ops : List TableOp) : Consistent ops := by
  have h := numbered_after ops
  refine
    { hwaddrs := h.hwaddrs
      get_iff := fun _ _ => h.get?_eq_some_iff
      serials := h.serials
      getOrCreate := fun _ identity _ hg => getOrCreate_of_some hg identity
      gone := ?_
      timer_iff := h.bounded
      evicts := fun _ _ n he => ⟨_, h.evicts_depart (h.get?_eq_some_iff.1 he.2.1).1, h.evict_of_expired he⟩
      stale := fun _ _ he _ => h.evict_of_not_expired he }
  rintro earlier since _ rfl ⟨n, hn, rfl⟩ hout later a m hm
  have hlt := (numbered_after earlier).serial_lt (List.mem_append_left _ hn)
  have hle := fresh_le_foldl_apply since (after earlier)
  rw [← after_append] at hle
  have hgone : (after (earlier ++ since)).Gone n.ref := ⟨Nat.lt_of_lt_of_le hlt hle, hout⟩
  have hlater := hgone.foldl_apply later
  rw [← after_append] at hlater
  exact hlater.2 m ((numbered_after _).get?_eq_some_iff.1 hm).1

end NeighborTable

/-! ## Withdrawals -/

section
variable {σ : Type} [RouteTable σ]

/-- If an entry leaves when the deadline `timer` passes, its host's routes are withdrawn, once and by its identity, and
the eviction is counted and reported; otherwise nothing happens. -/
structure Daemon.WithdrawsOnce (d : Daemon σ) (ref : NeighborRef) (timer : TimerId) : Prop where
  evicts : ∀ n, d.neighbors.Expired ref timer n → ∃ t', d.neighbors.Evicts n t' ∧
    d.onInvestigationTimeout ref timer =
      { d.withdrawNeighbor n.identity with
        neighbors := t'
        metrics := (d.withdrawNeighbor n.identity).metrics.recordEvicted }.reportNeighbors
  stale : (∀ n, ¬d.neighbors.Expired ref timer n) → d.onInvestigationTimeout ref timer = d

theorem Daemon.withdrawsOnce {d : Daemon σ} (h : d.neighbors.Numbered) (ref : NeighborRef) (timer : TimerId) :
    d.WithdrawsOnce ref timer where
  evicts n he := by
    refine ⟨_, h.evicts_depart (h.get?_eq_some_iff.1 he.2.1).1, ?_⟩
    rw [onInvestigationTimeout_of_expired (h.expired_iff.1 he), dismiss, withdrawNeighbor_neighbors]
  stale he := by
    rw [onInvestigationTimeout_eq, h.expired?_eq_none he]

/-- Whatever has been done to a table by address and by kept references, look-ups find no entry that has left, and an
eviction by a kept reference removes the entry that is meant or none. -/
theorem NeighborTable.consistent_after (ops : List TableOp) : Consistent ops ∧
    ∀ (d : Daemon σ) ref timer, { d with neighbors := after ops }.WithdrawsOnce ref timer :=
  ⟨consistent ops, fun _ => Daemon.withdrawsOnce (numbered_after ops)⟩

end

/-- The entry for an address is removed and another is made for it, and both are awaited from then on. -/
def TableOp.replacement : List TableOp :=
  [.getOrCreate Daemon.peer default, .remove Daemon.peer, .getOrCreate Daemon.peer default,
    .arm ⟨0⟩ .awaitingInvestigativeAck ⟨1⟩ (by decide), .arm ⟨1⟩ .awaitingInvestigativeAck ⟨2⟩ (by decide)]

/-- The deadline of the entry that was removed evicts nobody, and that of the other evicts the other. -/
theorem NeighborTable.consistent_of_replacement : Consistent TableOp.replacement ∧
    ((after TableOp.replacement).entries ++ (after TableOp.replacement).departed).map
      (fun n => (n.ref.serial, n.hwaddr, n.timer?)) = [(1, Daemon.peer, some ⟨2⟩), (0, Daemon.peer, some ⟨1⟩)] ∧
    (after TableOp.replacement).evict ⟨0⟩ ⟨1⟩ (fun n l => n.identity :: l) [] =
      (false, after TableOp.replacement, []) ∧
    ((after TableOp.replacement).evict ⟨1⟩ ⟨2⟩ (fun n l => n.identity :: l) []).2.2 = [default] ∧
    { Daemon.lone 5 with neighbors := after TableOp.replacement }.WithdrawsOnce ⟨1⟩ ⟨2⟩ := by
  obtain ⟨hc, hw⟩ := consistent_after (σ := MemoryRoutes) TableOp.replacement
  exact ⟨hc, by decide, by decide, by decide, hw (Daemon.lone 5) ⟨1⟩ ⟨2⟩⟩

end Neighborhood
