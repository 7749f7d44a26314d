import Mathlib.Data.List.Nodup
import Neighborhood.Principal
import Neighborhood.Route.Memory

/-!
# Routes held in memory

* `MemoryRoutes.mem_mainRoutes_add`, `MemoryRoutes.routes_del` — the routes after a request
* `MemoryRoutes.destinations` — what the main routes lead to
* `MemoryRoutes.Simple` — one main route for a destination; every request keeps this
* `MemoryRoutes.Simple.mem_dump_through` — the prefixes that a dump shows behind an identity
* `MemoryRoutes.routesTo`, `MemoryRoutes.addAll` — the routes to one destination, and the last of many additions for it
  (`routesTo_addAll`)
* `MemoryRoutes.Built` — the tables that come about by adding and withdrawing routes
* `MemoryRoutes.Serves` — the main routes lead to given identities, and through them to prefixes, and nowhere else;
  kept when an identity comes (`Serves.meet`), when a prefix is routed through one (`Serves.through`), and when an
  identity goes with all that depends on it (`Serves.without`)
-/

namespace Neighborhood

/-- The route is the main route to an identity, or the one to a prefix through it. -/
def Route.dependsOn (ad : XidType) (x : Xid) (r : Route) : Bool :=
  r.table = .main && (r.dst = x || (r.dst.type = ad && r.gateway = some x))

namespace RouteFilter

variable {f : RouteFilter} {type : XidType} {r : Route}

theorem type_of_accepts (hf : f.dstType = some type) (h : f.accepts r = true) : r.dst.type = type := by
  rw [accepts, Bool.and_eq_true, hf] at h
  exact (of_decide_eq_true h.1).symm

theorem accepts_destinations : (destinations type).accepts r = true ↔ r.dst.type = type := by
  unfold accepts destinations
  cases r.gateway <;> simp [holds, eq_comm]

end RouteFilter

namespace MemoryRoutes

variable {m m' : MemoryRoutes} {dst x : Xid} {gateway : Option Xid} {r : Route}

/-! ## Requests -/

theorem mem_mainRoutes : r ∈ m.mainRoutes ↔ r ∈ m.routes ∧ r.table = .main := by
  simp [mainRoutes]

theorem mem_dump {table : TableId} {f : RouteFilter} :
    r ∈ m.dump table f ↔ r ∈ m.routes ∧ r.table = table ∧ f.accepts r = true := by
  simp [dump]

theorem mainRoutes_add (m : MemoryRoutes) (dst : Xid) (gateway : Option Xid) :
    (m.add dst gateway).mainRoutes = m.mainRoutes.filter (·.dst ≠ dst) ++ [⟨.main, dst, gateway⟩] := by
  simp only [mainRoutes, add, List.filter_append, List.filter_filter]
  congr 1
  refine List.filter_congr fun r _ => ?_
  by_cases hr : r.table = .main <;> simp [leadsTo, hr]

theorem mem_mainRoutes_add : r ∈ (m.add dst gateway).mainRoutes ↔
    r ∈ m.mainRoutes ∧ r.dst ≠ dst ∨ r = ⟨.main, dst, gateway⟩ := by
  simp [mainRoutes_add]

/-- What the main routes lead to. -/
def destinations (m : MemoryRoutes) : List Xid := m.mainRoutes.map (·.dst)

/-- A new route to a destination takes the place of the old one, and of no other. -/
theorem mem_destinations_add : x ∈ (m.add dst gateway).destinations ↔ x ∈ m.destinations ∨ x = dst := by
  simp only [destinations, List.mem_map, mem_mainRoutes_add]
  constructor
  · rintro ⟨r, ⟨hr, -⟩ | rfl, rfl⟩
    · exact .inl ⟨r, hr, rfl⟩
    · exact .inr rfl
  · by_cases he : x = dst
    · exact fun _ => ⟨_, .inr rfl, he.symm⟩
    · rintro (⟨r, hr, rfl⟩ | hx)
      · exact ⟨r, .inl ⟨hr, he⟩, rfl⟩
      · exact absurd hx he

/-- The way to a destination, if all main routes to it go one way. -/
theorem get?_eq_some_of_mem (hx : x ∈ m.destinations) (hg : ∀ r ∈ m.mainRoutes, r.dst = x → r.gateway = gateway) :
    m.get? x = some ⟨.main, x, gateway⟩ := by
  obtain ⟨r, hr, rfl⟩ := List.mem_map.1 hx
  cases hf : m.get? r.dst with
  | none => simpa [leadsTo, (mem_mainRoutes.1 hr).2] using List.find?_eq_none.1 hf r (mem_mainRoutes.1 hr).1
  | some s =>
    have hs : s.table = .main ∧ s.dst = r.dst := by simpa [leadsTo] using List.find?_some hf
    have hsg := hg s (mem_mainRoutes.2 ⟨List.mem_of_find?_eq_some hf, hs.1⟩) hs.2
    rw [← hs.1, ← hs.2, ← hsg]

theorem mem_ownRoutes : r ∈ m.ownRoutes ↔ r ∈ m.routes ∧ r.table = .own := by
  simp [ownRoutes]

/-- Own prefixes stay while main routes are dropped. -/
theorem ownRoutes_filter {keeps : Route → Bool} (hm : m'.routes = m.routes.filter keeps)
    (hown : ∀ r, r.table = .own → keeps r = true) : m'.ownRoutes = m.ownRoutes := by
  rw [ownRoutes, ownRoutes, hm, List.filter_filter]
  refine List.filter_congr fun r _ => ?_
  by_cases hr : r.table = .own
  · simp [hr, hown r hr]
  · simp [hr]

theorem ownRoutes_add (m : MemoryRoutes) (dst : Xid) (gateway : Option Xid) :
    (m.add dst gateway).ownRoutes = m.ownRoutes := by
  have hf : (⟨m.routes.filter (!leadsTo dst ·)⟩ : MemoryRoutes).ownRoutes = m.ownRoutes :=
    ownRoutes_filter rfl fun r hr => by simp [leadsTo, hr]
  rw [ownRoutes, add, List.filter_append]
  exact (List.append_nil _).trans hf

/-- A withdrawal that fails would have removed nothing. -/
theorem routes_del (m : MemoryRoutes) (dst : Xid) :
    (RouteTable.del m dst).2.routes = m.routes.filter (!leadsTo dst ·) := by
  simp only [RouteTable.del, del?]
  by_cases ha : m.routes.any (leadsTo dst) = true
  · rw [if_pos ha]
  · rw [if_neg ha]
    simp only [List.any_eq_true, not_exists, not_and, Bool.not_eq_true] at ha
    symm
    rw [List.filter_eq_self]
    intro r hr
    rw [ha r hr]
    rfl

/-! ## One main route for a destination -/

def Simple (m : MemoryRoutes) : Prop := (m.mainRoutes.map (·.dst)).Nodup

namespace Simple

theorem eq_of_dst (h : m.Simple) {r s : Route} (hr : r ∈ m.mainRoutes) (hs : s ∈ m.mainRoutes) (he : r.dst = s.dst) :
    r = s :=
  List.inj_on_of_nodup_map h hr hs he

theorem of_sublist (h : m.Simple) (hs : m'.routes.Sublist m.routes) : m'.Simple :=
  List.Nodup.sublist ((hs.filter _).map _) h

theorem add (h : m.Simple) (dst : Xid) (gateway : Option Xid) : (m.add dst gateway).Simple := by
  rw [Simple, mainRoutes_add, List.map_append, List.nodup_append]
  refine ⟨List.Nodup.sublist (List.filter_sublist.map _) h, by simp, ?_⟩
  rintro _ hd _ hd'
  simp only [List.mem_map, List.mem_filter, decide_eq_true_eq] at hd
  obtain ⟨r, ⟨-, hne⟩, rfl⟩ := hd
  simp only [List.map_cons, List.map_nil, List.mem_singleton] at hd'
  rw [hd']
  exact hne

/-- A dump of the prefixes behind an identity shows the destinations of the routes through it. -/
theorem mem_dump_through (h : m.Simple) (hr : r ∈ m.mainRoutes) {types : PrincipalTypes} (hx : x.type = types.ether) :
    r.dst ∈ (m.dump .main { dstType := some types.ad, gwType := some types.ether, gw := some x }).map (·.dst) ↔
      r.dst.type = types.ad ∧ r.gateway = some x := by
  have hacc : ∀ s : Route, RouteFilter.accepts
      { dstType := some types.ad, gwType := some types.ether, gw := some x } s = true ↔
        s.dst.type = types.ad ∧ s.gateway = some x := by
    intro s
    cases hg : s.gateway with
    | none => simp [RouteFilter.accepts, hg]
    | some g =>
      simp only [RouteFilter.accepts, RouteFilter.holds, hg, Bool.and_eq_true, decide_eq_true_eq, Option.some.injEq]
      constructor
      · rintro ⟨hd, -, hgx⟩
        exact ⟨hd.symm, hgx.symm⟩
      · rintro ⟨hd, rfl⟩
        exact ⟨hd.symm, hx.symm, rfl⟩
  simp only [List.mem_map, mem_dump, hacc]
  constructor
  · rintro ⟨s, ⟨hs, ht, ha⟩, he⟩
    rwa [← h.eq_of_dst (mem_mainRoutes.2 ⟨hs, ht⟩) hr he]
  · intro ha
    exact ⟨r, ⟨(mem_mainRoutes.1 hr).1, (mem_mainRoutes.1 hr).2, ha⟩, rfl⟩

end Simple

/-! ## The routes to one destination -/

/-- The main routes to a destination, in order. -/
def routesTo (m : MemoryRoutes) (x : Xid) : List Route := m.mainRoutes.filter (·.dst = x)

theorem mem_routesTo : r ∈ m.routesTo x ↔ r ∈ m.mainRoutes ∧ r.dst = x := by
  simp [routesTo]

theorem get?_eq_head? (m : MemoryRoutes) (x : Xid) : m.get? x = (m.routesTo x).head? := by
  rw [routesTo, mainRoutes, List.filter_filter, List.head?_filter, get?]
  congr 1
  funext r
  rw [leadsTo, Bool.and_comm]

theorem routesTo_add_self (m : MemoryRoutes) (x : Xid) (gateway : Option Xid) :
    (m.add x gateway).routesTo x = [⟨.main, x, gateway⟩] := by
  simp [routesTo, mainRoutes_add, List.filter_filter]

theorem routesTo_add_of_ne (m : MemoryRoutes) (gateway : Option Xid) (h : dst ≠ x) :
    (m.add dst gateway).routesTo x = m.routesTo x := by
  simp only [routesTo, mainRoutes_add, List.filter_append, List.filter_filter]
  rw [List.filter_singleton, decide_eq_false h]
  refine (List.append_nil _).trans (List.filter_congr fun r _ => ?_)
  by_cases hr : r.dst = x
  · simp [hr, h.symm]
  · simp [hr]

/-! ### Many routes, one after another -/

/-- Routes are added in order, each given by its destination and its gateway. -/
def addAll : MemoryRoutes → List (Xid × Option Xid) → MemoryRoutes
  | m, [] => m
  | m, w :: ws => (m.add w.1 w.2).addAll ws

theorem addAll_append : ∀ (ws ws' : List (Xid × Option Xid)) (m : MemoryRoutes),
    m.addAll (ws ++ ws') = (m.addAll ws).addAll ws'
  | [], _, _ => rfl
  | w :: ws, ws', m => addAll_append ws ws' (m.add w.1 w.2)

theorem Simple.addAll : ∀ {m : MemoryRoutes}, m.Simple → ∀ ws, (m.addAll ws).Simple
  | _, h, [] => h
  | _, h, w :: ws => (h.add w.1 w.2).addAll ws

/-- The last addition for a destination says how it is routed; without one nothing has changed. -/
theorem routesTo_addAll (x : Xid) : ∀ (ws : List (Xid × Option Xid)) (m : MemoryRoutes), (m.addAll ws).routesTo x =
    (ws.filter (·.1 = x)).getLast?.elim (m.routesTo x) fun w => [⟨.main, x, w.2⟩]
  | [], _ => rfl
  | w :: ws, m => by
    rw [addAll, routesTo_addAll x ws]
    by_cases hw : w.1 = x
    · rw [List.filter_cons_of_pos (by simpa using hw), List.getLast?_cons, ← hw, routesTo_add_self]
      cases (ws.filter (·.1 = w.1)).getLast? <;> rfl
    · rw [List.filter_cons_of_neg (by simpa using hw), routesTo_add_of_ne m w.2 hw]

/-- A destination for which nothing is added is routed as before. -/
theorem routesTo_addAll_of_forall_ne {ws : List (Xid × Option Xid)} (h : ∀ w ∈ ws, w.1 ≠ x) (m : MemoryRoutes) :
    (m.addAll ws).routesTo x = m.routesTo x := by
  have hnil : ws.filter (·.1 = x) = [] := List.filter_eq_nil_iff.2 fun w hw => by simpa using h w hw
  rw [routesTo_addAll, hnil]
  rfl

/-- If all that is added for a destination goes one way, the destination is routed this way. -/
theorem routesTo_addAll_of_forall_eq {ws : List (Xid × Option Xid)} (hx : ∃ w ∈ ws, w.1 = x)
    (h : ∀ w ∈ ws, w.1 = x → w.2 = gateway) (m : MemoryRoutes) : (m.addAll ws).routesTo x = [⟨.main, x, gateway⟩] := by
  rw [routesTo_addAll]
  cases hl : (ws.filter (·.1 = x)).getLast? with
  | none =>
    obtain ⟨w, hw, he⟩ := hx
    simpa [he] using List.filter_eq_nil_iff.1 (List.getLast?_eq_none_iff.1 hl) w hw
  | some w =>
    have hw := List.mem_of_getLast? hl
    simp only [List.mem_filter, decide_eq_true_eq] at hw
    rw [Option.elim, h w hw.1 hw.2]

/-- A main route is an old one or has been added. -/
theorem mem_mainRoutes_addAll : ∀ {ws : List (Xid × Option Xid)} {m : MemoryRoutes}, r ∈ (m.addAll ws).mainRoutes →
    r ∈ m.mainRoutes ∨ ∃ w ∈ ws, r = ⟨.main, w.1, w.2⟩
  | [], _, hr => .inl hr
  | w :: ws, m, hr => by
    have hr : r ∈ ((m.add w.1 w.2).addAll ws).mainRoutes := hr
    rcases mem_mainRoutes_addAll hr with hr | ⟨u, hu, rfl⟩
    · rcases mem_mainRoutes_add.1 hr with ⟨hr, -⟩ | rfl
      · exact .inl hr
      · exact .inr ⟨w, List.mem_cons_self, rfl⟩
    · exact .inr ⟨u, List.mem_cons_of_mem _ hu, rfl⟩

/-- Whatever has been added for a destination, the destination is routed. -/
theorem exists_mem_mainRoutes_addAll {ws : List (Xid × Option Xid)} {w : Xid × Option Xid} (hw : w ∈ ws)
    (m : MemoryRoutes) : ∃ r ∈ (m.addAll ws).mainRoutes, r.dst = w.1 := by
  have hne : ws.filter (·.1 = w.1) ≠ [] := List.ne_nil_of_mem (List.mem_filter.2 ⟨hw, by simp⟩)
  obtain ⟨u, hu⟩ := Option.ne_none_iff_exists'.1 fun hl => hne (List.getLast?_eq_none_iff.1 hl)
  have hr : ⟨.main, w.1, u.2⟩ ∈ (m.addAll ws).routesTo w.1 := by
    rw [routesTo_addAll, hu]
    exact List.mem_singleton_self _
  exact ⟨_, mem_routesTo.1 hr⟩

/-- To add the same once more changes no route. -/
theorem routesTo_addAll_twice (m : MemoryRoutes) (ws : List (Xid × Option Xid)) (x : Xid) :
    ((m.addAll ws).addAll ws).routesTo x = (m.addAll ws).routesTo x := by
  simp only [routesTo_addAll]
  cases (ws.filter (·.1 = x)).getLast? <;> rfl

/-- Additions that do not contradict each other may be made in either order. -/
theorem routesTo_addAll_comm {ws ws' : List (Xid × Option Xid)} (h : ∀ w ∈ ws, ∀ w' ∈ ws', w.1 = w'.1 → w.2 = w'.2)
    (m : MemoryRoutes) (x : Xid) : ((m.addAll ws).addAll ws').routesTo x = ((m.addAll ws').addAll ws).routesTo x := by
  simp only [routesTo_addAll]
  cases hl : (ws.filter (·.1 = x)).getLast? with
  | none => rfl
  | some w =>
    cases hl' : (ws'.filter (·.1 = x)).getLast? with
    | none => rfl
    | some w' =>
      have hw := List.mem_of_getLast? hl
      have hw' := List.mem_of_getLast? hl'
      simp only [List.mem_filter, decide_eq_true_eq] at hw hw'
      simp only [Option.elim, h w hw.1 w' hw'.1 (hw.2.trans hw'.2.symm)]

/-! ## Tables that come about by requests -/

/-- The tables that come about by adding and withdrawing routes. -/
inductive Built : MemoryRoutes → Prop
  | empty : Built {}
  | addOwn {m : MemoryRoutes} (dst : Xid) : Built m → Built (m.addOwn dst)
  | add {m : MemoryRoutes} (dst : Xid) (gateway : Option Xid) : Built m → Built (m.add dst gateway)
  | del {m : MemoryRoutes} (dst : Xid) : Built m → Built (RouteTable.del m dst).2

theorem mainRoutes_addOwn (m : MemoryRoutes) (dst : Xid) : (m.addOwn dst).mainRoutes = m.mainRoutes := by
  simp [mainRoutes, addOwn]

/-- No destination has two main routes in them. -/
theorem Built.simple (h : m.Built) : m.Simple := by
  induction h with
  | empty => exact List.nodup_nil
  | @addOwn m dst _ ih =>
    rw [Simple, mainRoutes_addOwn]
    exact ih
  | add dst gateway _ ih => exact ih.add dst gateway
  | @del m dst _ ih =>
    refine ih.of_sublist ?_
    rw [routes_del]
    exact List.filter_sublist

theorem Built.addAll : ∀ {m : MemoryRoutes}, m.Built → ∀ ws, (m.addAll ws).Built
  | _, h, [] => h
  | _, h, w :: ws => (h.add w.1 w.2).addAll ws

/-! ## Routes to identities and through them -/

/-- Every identity has its route on the link, and every other main route leads to a prefix through one of them. -/
structure Serves (m : MemoryRoutes) (types : PrincipalTypes) (ids : List Xid) : Prop where
  type_eq : ∀ x ∈ ids, x.type = types.ether
  simple : m.Simple
  direct : ∀ x ∈ ids, ⟨.main, x, none⟩ ∈ m.mainRoutes
  sound : ∀ r ∈ m.mainRoutes, r.gateway = none ∧ r.dst ∈ ids ∨
    r.dst.type = types.ad ∧ ∃ x ∈ ids, r.gateway = some x

namespace Serves

variable {types : PrincipalTypes} {ids ids' : List Xid}

theorem of_empty (h : m.mainRoutes = []) : m.Serves types [] where
  type_eq := nofun
  simple := by simp [Simple, h]
  direct := nofun
  sound := by simp [h]

/-- The order of the identities does not matter. -/
theorem congr (h : m.Serves types ids) (he : ∀ x, x ∈ ids' ↔ x ∈ ids) : m.Serves types ids' where
  type_eq x hx := h.type_eq x ((he x).1 hx)
  simple := h.simple
  direct x hx := h.direct x ((he x).1 hx)
  sound r hr := (h.sound r hr).imp (fun hd => ⟨hd.1, (he _).2 hd.2⟩) fun ⟨ht, x, hx, hg⟩ => ⟨ht, x, (he x).2 hx, hg⟩

theorem meet (h : m.Serves types ids) (hx : x.type = types.ether) : (m.add x none).Serves types (x :: ids) where
  type_eq y hy := by
    rcases List.mem_cons.1 hy with rfl | hy
    · exact hx
    · exact h.type_eq y hy
  simple := h.simple.add x none
  direct y hy := by
    by_cases he : y = x
    · exact mem_mainRoutes_add.2 (.inr (by rw [he]))
    · exact mem_mainRoutes_add.2 (.inl ⟨h.direct y ((List.mem_cons.1 hy).resolve_left he), he⟩)
  sound r hr := by
    rcases mem_mainRoutes_add.1 hr with ⟨hr, -⟩ | rfl
    · refine (h.sound r hr).imp (fun hd => ⟨hd.1, List.mem_cons_of_mem _ hd.2⟩) ?_
      rintro ⟨ht, y, hy, hg⟩
      exact ⟨ht, y, List.mem_cons_of_mem _ hy, hg⟩
    · exact .inl ⟨rfl, List.mem_cons_self⟩

theorem through (h : m.Serves types ids) (ht : types.ad ≠ types.ether) (hx : x ∈ ids) (hd : dst.type = types.ad) :
    (m.add dst (some x)).Serves types ids where
  type_eq := h.type_eq
  simple := h.simple.add dst (some x)
  direct y hy := by
    refine mem_mainRoutes_add.2 (.inl ⟨h.direct y hy, ?_⟩)
    rintro rfl
    exact ht (hd.symm.trans (h.type_eq _ hy))
  sound r hr := by
    rcases mem_mainRoutes_add.1 hr with ⟨hr, -⟩ | rfl
    · exact h.sound r hr
    · exact .inr ⟨hd, x, hx, rfl⟩

/-- An identity goes, and so does all that depends on it. -/
theorem without (h : m.Serves types ids) (hm : m'.routes = m.routes.filter (!·.dependsOn types.ad x))
    (he : ∀ y, y ∈ ids' ↔ y ∈ ids ∧ y ≠ x) : m'.Serves types ids' := by
  have hmem : ∀ r, r ∈ m'.mainRoutes ↔ r ∈ m.mainRoutes ∧ r.dependsOn types.ad x = false := by
    intro r
    simp only [mem_mainRoutes, hm, List.mem_filter, Bool.not_eq_true']
    exact and_right_comm
  constructor
  · exact fun y hy => h.type_eq y ((he y).1 hy).1
  · refine h.simple.of_sublist ?_
    rw [hm]
    exact List.filter_sublist
  · intro y hy
    obtain ⟨hy, hne⟩ := (he y).1 hy
    refine (hmem _).2 ⟨h.direct y hy, ?_⟩
    simp [Route.dependsOn, hne]
  · intro r hr
    obtain ⟨hr, hd⟩ := (hmem r).1 hr
    have htable := (mem_mainRoutes.1 hr).2
    simp only [Route.dependsOn, htable, decide_true, Bool.true_and, Bool.or_eq_false_iff, decide_eq_false_iff_not,
      Bool.and_eq_false_iff] at hd
    rcases h.sound r hr with ⟨hg, hi⟩ | ⟨had, y, hy, hg⟩
    · exact .inl ⟨hg, (he _).2 ⟨hi, hd.1⟩⟩
    · refine .inr ⟨had, y, (he y).2 ⟨hy, ?_⟩, hg⟩
      rintro rfl
      rcases hd.2 with hn | hn
      · exact hn had
      · exact hn hg

/-- The routes to hosts are those to the identities, one for each. -/
theorem perm_direct (h : m.Serves types ids) (ht : types.ad ≠ types.ether) (hids : ids.Nodup) :
    (m.mainRoutes.filter (·.dst.type = types.ether)).Perm (ids.map fun x => ⟨.main, x, none⟩) := by
  have hinj : ∀ x ∈ ids, ∀ y ∈ ids, (⟨.main, x, none⟩ : Route) = ⟨.main, y, none⟩ → x = y :=
    fun _ _ _ _ he => congrArg Route.dst he
  have hmain : m.mainRoutes.Nodup := .of_map _ h.simple
  refine (List.perm_ext_iff_of_nodup (hmain.filter _) (hids.map_on hinj)).2 fun r => ?_
  simp only [List.mem_filter, decide_eq_true_eq, List.mem_map]
  constructor
  · rintro ⟨hr, hty⟩
    rcases h.sound r hr with ⟨hg, hi⟩ | ⟨had, -⟩
    · refine ⟨r.dst, hi, ?_⟩
      rw [← (mem_mainRoutes.1 hr).2, ← hg]
    · exact absurd (had.symm.trans hty) ht
  · rintro ⟨x, hx, rfl⟩
    exact ⟨h.direct x hx, h.type_eq x hx⟩

theorem through_of_type_ne (h : m.Serves types ids) (hr : r ∈ m.mainRoutes) (hty : r.dst.type ≠ types.ether) :
    r.dst.type = types.ad ∧ ∃ x ∈ ids, r.gateway = some x :=
  (h.sound r hr).resolve_left fun hd => hty (h.type_eq _ hd.2)

end Serves

end MemoryRoutes

end Neighborhood
