import Neighborhood.Proofs.Neighbor

/-!
# Neighbors under investigation

* `NeighborTable.suspects` — how many entries are under investigation
* `NeighborTable.recovered` — the entries whose investigation is over in a later table, without having left it
* `NeighborTable.recovered_map`, `NeighborTable.recovered_introduce`, `NeighborTable.recovered_depart` — whoever is no
  longer under investigation has recovered or left
* `NeighborTable.Calmed` — changes after which nobody is under investigation who was not before
-/

namespace Neighborhood

namespace Neighbor

def isSuspect (n : Neighbor) : Bool := n.liveness = .awaitingInvestigativeAck

variable {n : Neighbor}

theorem isSuspect_iff : n.isSuspect = true ↔ n.liveness = .awaitingInvestigativeAck := by
  rw [isSuspect, decide_eq_true_eq]

theorem isSuspect_of_idle (h : n.isIdle = true) : n.isSuspect = false := by
  rw [isSuspect, isIdle_iff.1 h]
  rfl

/-- A change of entries that keeps addresses and brings nobody under investigation. -/
structure Calms (g : Neighbor → Neighbor) : Prop where
  hwaddr : ∀ n, (g n).hwaddr = n.hwaddr
  isSuspect : ∀ n, (g n).isSuspect = true → n.isSuspect = true

namespace Calms

theorem settled : Calms Neighbor.settled := ⟨fun _ => rfl, fun _ h => by cases h⟩

theorem setClock (clock : Int32) : Calms fun n => { n with clock := clock } := ⟨fun _ => rfl, fun _ h => h⟩

theorem comp {f g : Neighbor → Neighbor} (hf : Calms f) (hg : Calms g) : Calms (f ∘ g) where
  hwaddr n := (hf.hwaddr (g n)).trans (hg.hwaddr n)
  isSuspect n h := hg.isSuspect n (hf.isSuspect (g n) h)

/-- Only the entry with one number changes. -/
theorem at_ref {f : Neighbor → Neighbor} (hf : Calms f) (ref : NeighborRef) :
    Calms fun n => if n.ref = ref then f n else n where
  hwaddr n := by
    split
    · exact hf.hwaddr n
    · rfl
  isSuspect n h := by
    split at h
    · exact hf.isSuspect n h
    · exact h

end Calms

end Neighbor

namespace NeighborTable

variable {t t' : NeighborTable}

def suspects (t : NeighborTable) : Nat := t.entries.countP Neighbor.isSuspect

/-- The entries under investigation whose hosts have entries in `t'` that are not. -/
def recovered (t t' : NeighborTable) : List Neighbor :=
  t.entries.filter fun n => n.isSuspect && (t'.get? n.hwaddr).any (!·.isSuspect)

/-- Of an entry that stays as it is nothing is counted. -/
theorem recovered_eq_nil
    (h : ∀ n ∈ t.entries, n.isSuspect = true → t'.get? n.hwaddr = some n ∨ t'.get? n.hwaddr = none) :
    t.recovered t' = [] := by
  refine List.filter_eq_nil_iff.2 fun n hn => ?_
  intro hr
  rw [Bool.and_eq_true] at hr
  rcases h n hn hr.1 with he | he
  · simp [he, hr.1] at hr
  · simp [he] at hr

/-- Members with the first property and members with the second, counted by those that have only one of them. -/
theorem countP_only_add (p q : Neighbor → Bool) : ∀ l : List Neighbor,
    l.countP (fun n => p n && !q n) + l.countP q = l.countP p + l.countP (fun n => !p n && q n)
  | [] => rfl
  | n :: l => by
    have ih := countP_only_add p q l
    simp only [List.countP_cons]
    cases p n <;> cases q n <;> simp <;> omega

/-- Entries that change and keep their addresses: whoever was under investigation still is or has recovered, and
whoever is now was before or has just come to be. -/
theorem recovered_map (h : t.WellFormed) {g : Neighbor → Neighbor} (hg : ∀ n, (g n).hwaddr = n.hwaddr)
    (he : t'.entries = t.entries.map g) : (t.recovered t').length + t'.suspects =
      t.suspects + t.entries.countP fun n => !n.isSuspect && (g n).isSuspect := by
  have hget : ∀ n ∈ t.entries, t'.get? n.hwaddr = some (g n) := by
    intro n hn
    have ht : t.get? n.hwaddr = some n := h.get?_eq_some_iff.2 ⟨hn, rfl⟩
    rw [get?, he, List.find?_map]
    simp only [Function.comp_def, hg]
    rw [← get?, ht]
    rfl
  have hr : t.recovered t' = t.entries.filter fun n => n.isSuspect && !(g n).isSuspect :=
    List.filter_congr fun n hn => by simp [hget n hn]
  rw [hr, ← List.countP_eq_length_filter, suspects, he, List.countP_map]
  exact countP_only_add Neighbor.isSuspect (fun n => (g n).isSuspect) t.entries

/-- The entries are at their places with their addresses, and nobody has come under investigation. -/
def Calmed (t t' : NeighborTable) : Prop := ∃ g, Neighbor.Calms g ∧ t'.entries = t.entries.map g

namespace Calmed

theorem of_entries (he : t'.entries = t.entries) : t.Calmed t' :=
  ⟨id, ⟨fun _ => rfl, fun _ h => h⟩, by rw [he, List.map_id]⟩

theorem trans {t₁ t₂ t₃ : NeighborTable} : t₁.Calmed t₂ → t₂.Calmed t₃ → t₁.Calmed t₃ := by
  rintro ⟨f, hf, he⟩ ⟨g, hg, he'⟩
  exact ⟨g ∘ f, hg.comp hf, by rw [he', he, List.map_map]⟩

theorem update (t : NeighborTable) {f : Neighbor → Neighbor} (hf : Neighbor.Calms f) (ref : NeighborRef) :
    t.Calmed (t.update ref f) :=
  ⟨_, hf.at_ref ref, rfl⟩

theorem settle (t : NeighborTable) (ref : NeighborRef) : t.Calmed (t.settle ref) := update t .settled ref

theorem setClock (t : NeighborTable) (ref : NeighborRef) (clock : Int32) : t.Calmed (t.setClock ref clock) :=
  update t (.setClock clock) ref

end Calmed

theorem recovered_calmed (h : t.WellFormed) (hc : t.Calmed t') :
    (t.recovered t').length + t'.suspects = t.suspects := by
  obtain ⟨g, hg, he⟩ := hc
  rw [recovered_map h hg.hwaddr he, List.countP_eq_zero.2, Nat.add_zero]
  intro n _
  cases hs : (g n).isSuspect with
  | false => simp
  | true => simp [hg.isSuspect n hs]

/-- One entry that is not under investigation gets another state. -/
theorem recovered_arm (h : t.WellFormed) {n : Neighbor} (hn : n ∈ t.entries) (hs : n.isSuspect = false)
    (liveness : Liveness) (timer : TimerId) :
    (t.recovered (t.arm n.ref liveness timer)).length + (t.arm n.ref liveness timer).suspects =
      t.suspects + if (n.armed liveness timer).isSuspect = true then 1 else 0 := by
  have hone : t.entries.countP (fun m => m.ref = n.ref) = 1 := by
    have hd := h.refs
    rw [List.map_append, List.nodup_append] at hd
    have hc := List.count_eq_one_of_mem hd.1 (List.mem_map_of_mem (f := Neighbor.ref) hn)
    rw [List.count, List.countP_map] at hc
    exact hc
  rw [recovered_map h (g := fun m => if m.ref = n.ref then m.armed liveness timer else m) (fun m => ?_) rfl]
  · congr 1
    split
    · rename_i hsus
      rw [← hone]
      refine List.countP_congr fun m hm => ?_
      by_cases he : m.ref = n.ref
      · rw [h.eq_of_entry_ref hm hn he]
        simp [hs, hsus]
      · cases hm : m.isSuspect <;> simp [he, hm]
    · rename_i hsus
      refine List.countP_eq_zero.2 fun m hm => ?_
      by_cases he : m.ref = n.ref
      · rw [h.eq_of_entry_ref hm hn he]
        simp [hsus]
      · cases hm : m.isSuspect <;> simp [he, hm]
  · split <;> rfl

theorem suspects_introduce (identity : HwAddr → Xid) : ∀ (hosts : List HwAddr) (t : NeighborTable),
    (t.introduce identity hosts).suspects = t.suspects
  | [], _ => rfl
  | a :: hosts, t => by
    rw [introduce, suspects_introduce identity hosts]
    cases hg : t.get? a with
    | some n => rw [getOrCreate_of_some hg]
    | none =>
      rw [getOrCreate_of_none hg]
      simp [suspects, newcomer, Neighbor.isSuspect]

/-- New entries are not under investigation. -/
theorem recovered_introduce (h : t.WellFormed) (identity : HwAddr → Xid) (hosts : List HwAddr) :
    (t.recovered (t.introduce identity hosts)).length + (t.introduce identity hosts).suspects = t.suspects := by
  rw [suspects_introduce, recovered_eq_nil, List.length_nil, Nat.zero_add]
  intro n hn _
  exact .inl (get?_introduce_of_some identity hosts (h.get?_eq_some_iff.2 ⟨hn, rfl⟩))

/-- Whoever leaves has not recovered. -/
theorem recovered_depart (h : t.WellFormed) {n : Neighbor} (hn : n ∈ t.entries) (hs : n.isSuspect = true) :
    (t.recovered (t.depart n)).length + (t.depart n).suspects + 1 = t.suspects := by
  have hcount : t.suspects = (t.depart n).suspects + 1 := by
    rw [suspects, suspects, entries_depart h hn, (List.perm_cons_erase hn).countP_eq, List.countP_cons, if_pos hs]
  rw [hcount, recovered_eq_nil, List.length_nil, Nat.zero_add]
  intro m hm _
  by_cases he : n.hwaddr = m.hwaddr
  · rw [← he]
    exact .inr (get?_depart_self h hn)
  · rw [get?_depart_other h hn he]
    exact .inl (h.get?_eq_some_iff.2 ⟨hm, rfl⟩)

end NeighborTable

end Neighborhood
