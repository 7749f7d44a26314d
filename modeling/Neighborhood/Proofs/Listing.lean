import Mathlib.Data.List.Induction
import Mathlib.Data.List.Nodup
import Neighborhood.Daemon.Discovery

/-!
# What stands in neighbor lists

* `Gathers` — records ascend by prefix, and each names the hosts that have been seen behind its prefix, each once; one
  more host keeps this (`Gathers.addHost`)
* `Gathers.eq_of_xid` — no two records have the same prefix
* `listNeighbors_gathers` — the hosts of a record are those behind the gateways of the routes to the prefix
* `mem_listNeighbors` — every host of a record is the one behind the gateway of a route to the prefix
* `hostBehind?_eq_some_iff` — which gateways have a host behind them
-/

namespace Neighborhood

variable {p q : Identifier} {host a : HwAddr} {r : NeighborRecord} {records : List NeighborRecord}

namespace Identifier

variable {x y z : Identifier}

theorem eq_of_compare_eq (h : compare x y = .eq) : x = y :=
  ext_bytes (Std.compare_eq_iff_eq.1 h)

theorem compare_self (x : Identifier) : compare x x = .eq :=
  @Std.ReflCmp.compare_self (List UInt8) compare _ x.bytes

theorem lt_trans (h₁ : compare x y = .lt) (h₂ : compare y z = .lt) : compare x z = .lt :=
  @Std.TransCmp.lt_trans (List UInt8) compare _ x.bytes y.bytes z.bytes h₁ h₂

theorem lt_of_gt (h : compare x y = .gt) : compare y x = .lt :=
  @Std.OrientedCmp.lt_of_gt (List UInt8) compare _ x.bytes y.bytes h

end Identifier

/-! ## One more host -/

/-- A record has the new prefix, or a prefix that a record had before. -/
theorem xid_of_mem_addHost : ∀ {records : List NeighborRecord}, r ∈ addHost p host records →
    r.xid = p ∨ ∃ s ∈ records, s.xid = r.xid
  | [], hr => by
    rw [addHost, List.mem_singleton] at hr
    exact .inl (congrArg _ hr)
  | s :: records, hr => by
    unfold addHost at hr
    split at hr
    · rcases List.mem_cons.1 hr with rfl | hr
      · exact .inl rfl
      · exact .inr ⟨r, hr, rfl⟩
    · rcases List.mem_cons.1 hr with rfl | hr
      · refine .inr ⟨s, List.mem_cons_self, ?_⟩
        split <;> rfl
      · exact .inr ⟨r, List.mem_cons_of_mem _ hr, rfl⟩
    · rcases List.mem_cons.1 hr with rfl | hr
      · exact .inr ⟨r, List.mem_cons_self, rfl⟩
      · refine (xid_of_mem_addHost hr).imp_right ?_
        rintro ⟨t, ht, he⟩
        exact ⟨t, List.mem_cons_of_mem _ ht, he⟩

/-- Afterwards the host stands where it is put, and the others stand where they stood. -/
theorem exists_addHost_iff : ∀ {records : List NeighborRecord},
    (∃ r ∈ addHost p host records, r.xid = q ∧ a ∈ r.hwaddrs) ↔
      q = p ∧ a = host ∨ ∃ r ∈ records, r.xid = q ∧ a ∈ r.hwaddrs
  | [] => by simp [addHost, eq_comm]
  | s :: records => by
    unfold addHost
    split
    · simp only [List.mem_cons, exists_eq_or_imp, List.not_mem_nil, or_false, eq_comm (a := q)]
    · rename_i hc
      obtain rfl := Identifier.eq_of_compare_eq hc
      simp only [List.mem_cons, exists_eq_or_imp, ← or_assoc]
      refine or_congr_left ?_
      split
      · rename_i hmem
        refine ⟨.inr, ?_⟩
        rintro (⟨rfl, rfl⟩ | h)
        · exact ⟨rfl, hmem⟩
        · exact h
      · rw [List.mem_append, List.mem_singleton, and_or_left, or_comm, eq_comm (a := q)]
    · have ih : (∃ r ∈ addHost p host records, r.xid = q ∧ a ∈ r.hwaddrs) ↔
          q = p ∧ a = host ∨ ∃ r ∈ records, r.xid = q ∧ a ∈ r.hwaddrs := exists_addHost_iff
      simp only [List.mem_cons, exists_eq_or_imp, ih]
      exact or_left_comm

/-- The records ascend by prefix, each names its hosts once, and a host stands in the record of a prefix just if it has
been seen behind it. -/
structure Gathers (seen : Identifier → HwAddr → Prop) (records : List NeighborRecord) : Prop where
  ascending : records.Pairwise fun r s => compare r.xid s.xid = .lt
  nonempty : ∀ r ∈ records, r.hwaddrs ≠ []
  once : ∀ r ∈ records, r.hwaddrs.Nodup
  host_iff : ∀ q a, (∃ r ∈ records, r.xid = q ∧ a ∈ r.hwaddrs) ↔ seen q a

theorem Gathers.nil : Gathers (fun _ _ => False) [] := ⟨.nil, by simp, by simp, by simp⟩

theorem ascending_addHost (host : HwAddr) : ∀ {records : List NeighborRecord},
    records.Pairwise (fun r s => compare r.xid s.xid = .lt) →
      (addHost p host records).Pairwise fun r s => compare r.xid s.xid = .lt
  | [], _ => List.pairwise_singleton _ _
  | s :: records, h => by
    obtain ⟨hs, hrest⟩ := List.pairwise_cons.1 h
    unfold addHost
    split
    · rename_i hc
      refine List.pairwise_cons.2 ⟨fun t ht => ?_, h⟩
      rcases List.mem_cons.1 ht with rfl | ht
      · exact hc
      · exact Identifier.lt_trans hc (hs t ht)
    · refine List.pairwise_cons.2 ⟨fun t ht => ?_, hrest⟩
      split
      · exact hs t ht
      · exact hs t ht
    · rename_i hc
      refine List.pairwise_cons.2 ⟨fun t ht => ?_, ascending_addHost host hrest⟩
      rcases xid_of_mem_addHost ht with he | ⟨u, hu, he⟩
      · rw [he]
        exact Identifier.lt_of_gt hc
      · rw [← he]
        exact hs u hu

/-- The hosts of each record are still named once, and there is at least one. -/
theorem hosts_addHost : ∀ {records : List NeighborRecord}, (∀ s ∈ records, s.hwaddrs ≠ [] ∧ s.hwaddrs.Nodup) →
    ∀ r ∈ addHost p host records, r.hwaddrs ≠ [] ∧ r.hwaddrs.Nodup
  | [], _, r, hr => by
    rw [addHost, List.mem_singleton] at hr
    simp [hr]
  | s :: records, h, r, hr => by
    obtain ⟨hs, hrest⟩ := List.forall_mem_cons.1 h
    unfold addHost at hr
    split at hr
    · rcases List.mem_cons.1 hr with rfl | hr
      · simp
      · exact h r hr
    · rcases List.mem_cons.1 hr with rfl | hr
      · split
        · exact hs
        · rename_i hnew
          refine ⟨List.append_ne_nil_of_left_ne_nil hs.1 _, List.nodup_append.2 ⟨hs.2, by simp, ?_⟩⟩
          rintro b hb _ hb' rfl
          rw [List.mem_singleton.1 hb'] at hb
          exact hnew hb
      · exact hrest r hr
    · rcases List.mem_cons.1 hr with rfl | hr
      · exact hs
      · exact hosts_addHost hrest r hr

theorem Gathers.addHost {seen : Identifier → HwAddr → Prop} (h : Gathers seen records) (p : Identifier) (host : HwAddr) :
    Gathers (fun q a => q = p ∧ a = host ∨ seen q a) (addHost p host records) where
  ascending := ascending_addHost host h.ascending
  nonempty r hr := (hosts_addHost (fun s hs => ⟨h.nonempty s hs, h.once s hs⟩) r hr).1
  once r hr := (hosts_addHost (fun s hs => ⟨h.nonempty s hs, h.once s hs⟩) r hr).2
  host_iff q a := exists_addHost_iff.trans (or_congr_right (h.host_iff q a))

theorem Gathers.congr {seen seen' : Identifier → HwAddr → Prop} (h : Gathers seen records)
    (he : ∀ q a, seen q a ↔ seen' q a) : Gathers seen' records :=
  { h with host_iff := fun q a => (h.host_iff q a).trans (he q a) }

/-- No two records have the same prefix. -/
theorem Gathers.eq_of_xid {seen : Identifier → HwAddr → Prop} (h : Gathers seen records)
    {s : NeighborRecord} (hr : r ∈ records) (hs : s ∈ records) (he : r.xid = s.xid) : r = s := by
  have hd : (records.map (·.xid)).Nodup := by
    rw [List.Nodup, List.pairwise_map]
    refine h.ascending.imp fun hlt he => ?_
    rw [he, Identifier.compare_self] at hlt
    cases hlt
  exact List.inj_on_of_nodup_map hd hr hs he

/-- A record names one host if only one has been seen behind its prefix. -/
theorem Gathers.hwaddrs_eq {seen : Identifier → HwAddr → Prop} (h : Gathers seen records) (hr : r ∈ records)
    (honly : ∀ a, seen r.xid a → a = host) : r.hwaddrs = [host] := by
  have hall : ∀ a ∈ r.hwaddrs, a = host := fun a ha => honly a ((h.host_iff _ a).1 ⟨r, hr, rfl, ha⟩)
  have hne := h.nonempty r hr
  have hd := h.once r hr
  match hl : r.hwaddrs with
  | [] => exact absurd hl hne
  | [a] =>
    rw [hall a (by rw [hl]; exact List.mem_cons_self)]
  | a :: b :: rest =>
    rw [hl] at hall hd
    refine absurd ?_ (List.nodup_cons.1 hd).1
    rw [hall a List.mem_cons_self, ← hall b (List.mem_cons_of_mem _ List.mem_cons_self)]
    exact List.mem_cons_self

/-! ## The whole list -/

/-- The last route adds a host if there is one behind its gateway. -/
theorem listNeighbors_concat (link : LocalLink) (onLink l : List Route) (s : Route) :
    (listNeighbors link onLink (l ++ [s])).neighbors =
      (s.gateway.bind (hostBehind? link onLink)).elim (listNeighbors link onLink l).neighbors fun host =>
        addHost s.dst.id host (listNeighbors link onLink l).neighbors := by
  simp only [listNeighbors, List.foldl_append, List.foldl_cons, List.foldl_nil]
  cases s.gateway.bind (hostBehind? link onLink) <;> rfl

/-- The hosts of a record are those behind the gateways of the routes to its prefix. -/
theorem listNeighbors_gathers (link : LocalLink) (onLink prefixes : List Route) :
    Gathers (fun p a => ∃ s ∈ prefixes, s.dst.id = p ∧ s.gateway.bind (hostBehind? link onLink) = some a)
      (listNeighbors link onLink prefixes).neighbors := by
  induction prefixes using List.reverseRecOn with
  | nil => exact Gathers.nil.congr fun _ _ => by simp
  | append_singleton l s ih =>
    rw [listNeighbors_concat]
    cases hg : s.gateway.bind (hostBehind? link onLink) with
    | none => exact ih.congr fun q a => by simp [or_and_right, exists_or, hg]
    | some host =>
      refine (ih.addHost s.dst.id host).congr fun q a => ?_
      simp only [List.mem_append, List.mem_singleton, or_and_right, exists_or, exists_eq_left, hg, Option.some.injEq,
        eq_comm (a := q), eq_comm (a := a)]
      exact or_comm

/-- Every host of a record is the one behind the gateway of a route to the prefix. -/
theorem mem_listNeighbors {link : LocalLink} {onLink prefixes : List Route}
    (hr : r ∈ (listNeighbors link onLink prefixes).neighbors) (ha : a ∈ r.hwaddrs) :
    ∃ s ∈ prefixes, s.dst.id = r.xid ∧ s.gateway.bind (hostBehind? link onLink) = some a :=
  ((listNeighbors_gathers link onLink prefixes).host_iff r.xid a).1 ⟨r, hr, rfl, ha⟩

/-- A host behind a gateway has the address that the gateway shows, and a route on the link leads to the gateway. -/
theorem hostBehind?_eq_some_iff {link : LocalLink} {onLink : List Route} {gateway : Xid} :
    hostBehind? link onLink gateway = some a ↔
      (∃ r ∈ onLink, r.dst = gateway ∧ r.gateway = none) ∧ gateway.etherIndex = link.ifindex ∧
        gateway.etherHwAddr? link.hwaddr.length = some a := by
  unfold hostBehind?
  by_cases h : onLink.any fun r => r.dst = gateway && r.gateway.isNone && r.dst.etherIndex = link.ifindex
  · rw [if_pos h]
    obtain ⟨r, hr, he⟩ := List.any_eq_true.1 h
    simp only [Bool.and_eq_true, decide_eq_true_eq, Option.isNone_iff_eq_none] at he
    obtain ⟨⟨rfl, hn⟩, hi⟩ := he
    exact ⟨fun ha => ⟨⟨r, hr, rfl, hn⟩, hi, ha⟩, fun ha => ha.2.2⟩
  · rw [if_neg h]
    refine iff_of_false (by simp) ?_
    rintro ⟨⟨r, hr, rfl, hn⟩, hi, -⟩
    exact h (List.any_eq_true.2 ⟨r, hr, by simp [hn, hi]⟩)

theorem etherHwAddr?_of_hostBehind? {link : LocalLink} {onLink : List Route} {gateway : Xid}
    (h : hostBehind? link onLink gateway = some a) : gateway.etherHwAddr? link.hwaddr.length = some a :=
  (hostBehind?_eq_some_iff.1 h).2.2

end Neighborhood
