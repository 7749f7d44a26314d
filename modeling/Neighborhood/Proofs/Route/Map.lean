import Mathlib.Data.List.Induction
import Neighborhood.Proofs.Route

/-!
# Routes held in memory are a map and a list

* `OrderedMap` — a map that lists its entries in the order of insertion
* `RouteMap` — such a map from destinations to gateways, and beside it the list of the own XIDs
* `RouteCall`, `RouteMap.serve`, `MemoryRoutes.serve` — what can be asked of routes, and how either kind answers
* `RouteMap.Pictures.serve` — after each call both answer the same and hold the same
* `RouteMap.get?_after_eq_some_iff` — a destination has the gateway that was last added for it, unless it was withdrawn
  since
* `MemoryRoutes.serveAll_mirrors` — all this of the routes in memory, after any calls
-/

namespace Neighborhood

/-! ## Maps in order of insertion -/

/-- Entries in the order of insertion, no two of them for one key. -/
structure OrderedMap (κ α : Type) where
  entries : List (κ × α) := []
  nodup : (entries.map (·.1)).Nodup := by exact List.nodup_nil

namespace OrderedMap

variable {κ α : Type} [DecidableEq κ] (m : OrderedMap κ α) {k k' : κ} {a : α}

def get? (k : κ) : Option α := (m.entries.find? (·.1 = k)).map (·.2)

def erase (k : κ) : OrderedMap κ α where
  entries := m.entries.filter (·.1 ≠ k)
  nodup := m.nodup.sublist (List.filter_sublist.map _)

/-- A key that has an entry loses it, and the new one stands at the end. -/
def insert (k : κ) (a : α) : OrderedMap κ α where
  entries := (m.erase k).entries ++ [(k, a)]
  nodup := by
    rw [List.map_append, List.nodup_append]
    refine ⟨(m.erase k).nodup, List.nodup_singleton _, ?_⟩
    rintro _ hk _ hk' rfl
    obtain ⟨e, he, rfl⟩ := List.mem_map.1 hk
    have hne := (List.mem_filter.1 he).2
    simp_all

theorem get?_eq_some_iff : m.get? k = some a ↔ (k, a) ∈ m.entries := by
  constructor
  · intro h
    obtain ⟨e, he, rfl⟩ := Option.map_eq_some_iff.1 h
    have hk : e.1 = k := by simpa using List.find?_some he
    rw [← hk]
    exact List.mem_of_find?_eq_some he
  · intro h
    cases hf : m.entries.find? (·.1 = k) with
    | none => simpa using List.find?_eq_none.1 hf _ h
    | some e =>
      have hk : e.1 = k := by simpa using List.find?_some hf
      rw [get?, hf, List.inj_on_of_nodup_map m.nodup (List.mem_of_find?_eq_some hf) h hk]
      rfl

theorem get?_erase_self : (m.erase k).get? k = none := by
  rw [Option.eq_none_iff_forall_ne_some]
  intro a h
  rw [get?_eq_some_iff] at h
  simpa using (List.mem_filter.1 h).2

theorem get?_erase_of_ne (h : k' ≠ k) : (m.erase k).get? k' = m.get? k' := by
  refine Option.ext fun a => ?_
  simp [get?_eq_some_iff, erase, h]

theorem get?_insert_self : (m.insert k a).get? k = some a := by
  rw [get?_eq_some_iff]
  exact List.mem_append_right _ (List.mem_singleton_self _)

theorem get?_insert_of_ne (h : k' ≠ k) : (m.insert k a).get? k' = m.get? k' := by
  refine Option.ext fun a => ?_
  simp [get?_eq_some_iff, insert, erase, h]

end OrderedMap

/-! ## Calls -/

/-- What can be asked of routes that are held in memory. -/
inductive RouteCall where
  | addOwn (dst : Xid)
  | add (dst : Xid) (gateway : Option Xid)
  | del (dst : Xid)
  | get (dst : Xid)
  | dump (table : TableId) (filter : RouteFilter)
deriving DecidableEq

inductive RouteReply where
  | done
  | refused (cause : Error)
  | found (route? : Option Route)
  | listed (routes : List Route)
deriving DecidableEq

/-- The answers to some calls, one after another, and what is held after them. -/
def serveAll {σ : Type} (serve : σ → RouteCall → RouteReply × σ) : σ → List RouteCall → List RouteReply × σ
  | s, [] => ([], s)
  | s, c :: cs =>
    let rest := serveAll serve (serve s c).2 cs
    ((serve s c).1 :: rest.1, rest.2)

theorem serveAll_concat {σ : Type} (serve : σ → RouteCall → RouteReply × σ) (c : RouteCall) :
    ∀ (cs : List RouteCall) (s : σ),
      (serveAll serve s (cs ++ [c])).2 = (serve (serveAll serve s cs).2 c).2
  | [], _ => rfl
  | c' :: cs, s => serveAll_concat serve c cs (serve s c').2

/-- The call adds a route to the destination, or withdraws it. -/
def RouteCall.touches (dst : Xid) : RouteCall → Bool
  | add dst' _ | del dst' => dst' = dst
  | addOwn _ | get _ | dump _ _ => false

/-- The XID that is added to the own ones. -/
def RouteCall.own? : RouteCall → Option Xid
  | addOwn dst => some dst
  | add _ _ | del _ | get _ | dump _ _ => none

/-! ## A map and a list -/

/-- The own XIDs in the order in which they came, and the gateways of the other destinations. -/
structure RouteMap where
  own : List Xid := []
  ways : OrderedMap Xid (Option Xid) := {}

/-- The conditions of a filter that are present hold; the type of the gateway matters only if there is a gateway. -/
structure RouteFilter.Admits (f : RouteFilter) (r : Route) : Prop where
  dstType : ∀ type, f.dstType = some type → r.dst.type = type
  gwType : ∀ type, f.gwType = some type → ∀ g, r.gateway = some g → g.type = type
  gw : ∀ g, f.gw = some g → r.gateway = some g

theorem RouteFilter.holds_iff {α : Type} [DecidableEq α] {condition : Option α} {a : α} :
    holds condition a = true ↔ ∀ wanted, condition = some wanted → a = wanted := by
  cases condition with
  | none => exact ⟨fun _ _ h => absurd h (by simp), fun _ => rfl⟩
  | some wanted => simp [holds, eq_comm]

theorem RouteFilter.accepts_iff {f : RouteFilter} {r : Route} : f.accepts r = true ↔ f.Admits r := by
  rw [accepts, Bool.and_eq_true, holds_iff]
  cases hg : r.gateway with
  | none =>
    rw [Option.isNone_iff_eq_none]
    constructor
    · rintro ⟨hd, hn⟩
      exact ⟨hd, fun _ _ _ h => absurd (hg.symm.trans h) (by simp), fun g h => absurd (hn.symm.trans h) (by simp)⟩
    · intro h
      refine ⟨h.dstType, Option.eq_none_iff_forall_ne_some.2 fun g hgw => ?_⟩
      exact absurd (hg.symm.trans (h.gw g hgw)) (by simp)
  | some g =>
    rw [Bool.and_eq_true, holds_iff, holds_iff]
    constructor
    · rintro ⟨hd, ht, hw⟩
      refine ⟨hd, fun type h g' hg' => ?_, fun g' h => hg.trans (congrArg some (hw g' h))⟩
      cases hg.symm.trans hg'
      exact ht type h
    · intro h
      exact ⟨h.dstType, fun type ht => h.gwType type ht g hg, fun g' hw => Option.some.inj (hg.symm.trans (h.gw g' hw))⟩

namespace RouteMap

variable (b : RouteMap)

/-- The routes of a table, in order. -/
def listing : TableId → List Route
  | .own => b.own.map fun dst => ⟨.own, dst, none⟩
  | .main => b.ways.entries.map fun way => ⟨.main, way.1, way.2⟩

def serve (b : RouteMap) : RouteCall → RouteReply × RouteMap
  | .addOwn dst => (.done, { b with own := b.own ++ [dst] })
  | .add dst gateway => (.done, { b with ways := b.ways.insert dst gateway })
  | .del dst =>
    match b.ways.get? dst with
    | some _ => (.done, { b with ways := b.ways.erase dst })
    | none => (.refused (.route s!"no route to {dst}"), b)
  | .get dst => (.found ((b.ways.get? dst).map fun gateway => ⟨.main, dst, gateway⟩), b)
  | .dump table filter => (.listed ((b.listing table).filter filter.accepts), b)

theorem serve_own (c : RouteCall) : (b.serve c).2.own = b.own ++ c.own?.toList := by
  cases c with
  | addOwn dst => rfl
  | del dst =>
    simp only [serve]
    cases b.ways.get? dst <;> exact (List.append_nil _).symm
  | add dst gateway | get dst | dump table filter => exact (List.append_nil _).symm

theorem serve_get?_of_not_touches {c : RouteCall} {dst : Xid} (h : c.touches dst = false) :
    (b.serve c).2.ways.get? dst = b.ways.get? dst := by
  cases c with
  | add dst' gateway => exact b.ways.get?_insert_of_ne (Ne.symm (by simpa [RouteCall.touches] using h))
  | del dst' =>
    simp only [serve]
    cases b.ways.get? dst' with
    | some _ => exact b.ways.get?_erase_of_ne (Ne.symm (by simpa [RouteCall.touches] using h))
    | none => rfl
  | addOwn dst' | get dst' | dump table filter => rfl

theorem serve_get?_del (dst : Xid) : (b.serve (.del dst)).2.ways.get? dst = none := by
  cases hg : b.ways.get? dst with
  | some g => simp [serve, hg, b.ways.get?_erase_self]
  | none => simp [serve, hg]

end RouteMap

/-! ## After any calls -/

namespace RouteMap

/-- What is held after some calls, nothing being held before. -/
def after (calls : List RouteCall) : RouteMap := (serveAll serve {} calls).2

theorem after_concat (calls : List RouteCall) (c : RouteCall) : after (calls ++ [c]) = ((after calls).serve c).2 :=
  serveAll_concat serve c calls {}

/-- The last call that concerns a destination adds a gateway for it. -/
def Leads (calls : List RouteCall) (dst : Xid) (gateway : Option Xid) : Prop :=
  ∃ before later, calls = before ++ .add dst gateway :: later ∧ ∀ c ∈ later, c.touches dst = false

theorem leads_concat {calls : List RouteCall} {c : RouteCall} {dst : Xid} {gateway : Option Xid} :
    Leads (calls ++ [c]) dst gateway ↔ c = .add dst gateway ∨ c.touches dst = false ∧ Leads calls dst gateway := by
  constructor
  · rintro ⟨before, later, he, hl⟩
    rcases List.eq_nil_or_concat later with rfl | ⟨later, c', rfl⟩
    · exact .inl (List.singleton_inj.1 (List.append_inj' he rfl).2)
    · rw [List.concat_eq_append, ← List.cons_append, ← List.append_assoc] at he
      obtain ⟨rfl, hc⟩ := List.append_inj' he rfl
      obtain rfl := List.singleton_inj.1 hc
      rw [List.concat_eq_append, List.forall_mem_append, List.forall_mem_singleton] at hl
      exact .inr ⟨hl.2, before, later, rfl, hl.1⟩
  · rintro (rfl | ⟨hc, before, later, rfl, hl⟩)
    · exact ⟨calls, [], rfl, List.forall_mem_nil _⟩
    · refine ⟨before, later ++ [c], by rw [List.append_assoc, List.cons_append], ?_⟩
      rw [List.forall_mem_append, List.forall_mem_singleton]
      exact ⟨hl, hc⟩

/-- A destination has the gateway that was last added for it, unless it was withdrawn since. -/
theorem get?_after_eq_some_iff (dst : Xid) (gateway : Option Xid) (calls : List RouteCall) :
    (after calls).ways.get? dst = some gateway ↔ Leads calls dst gateway := by
  induction calls using List.reverseRecOn with
  | nil =>
    have hn : ¬ Leads [] dst gateway := by
      rintro ⟨before, later, he, -⟩
      simp at he
    exact iff_of_false (by simp [after, serveAll, OrderedMap.get?]) hn
  | append_singleton calls c ih =>
    rw [after_concat, leads_concat, ← ih]
    cases ht : c.touches dst with
    | false =>
      have hc : c ≠ .add dst gateway := by
        rintro rfl
        simp [RouteCall.touches] at ht
      simp [serve_get?_of_not_touches _ ht, hc]
    | true =>
      -- the call is about this destination, so it decides alone
      cases c with
      | add dst' gateway' =>
        obtain rfl : dst' = dst := by simpa [RouteCall.touches] using ht
        simp [serve, OrderedMap.get?_insert_self]
      | del dst' =>
        obtain rfl : dst' = dst := by simpa [RouteCall.touches] using ht
        simp [serve_get?_del]
      | addOwn dst' | get dst' | dump table filter => cases ht

/-- The own XIDs are those that were added, in order. -/
theorem own_after (calls : List RouteCall) : (after calls).own = calls.filterMap RouteCall.own? := by
  induction calls using List.reverseRecOn with
  | nil => rfl
  | append_singleton calls c ih =>
    rw [after_concat, serve_own, ih, List.filterMap_append]
    cases c <;> rfl

end RouteMap

/-! ## Routes in memory -/

/-- What a request to change routes is answered with. -/
def RouteReply.ofChange : Except Error Unit → RouteReply
  | .ok () => done
  | .error e => refused e

/-- What a dump is answered with. -/
def RouteReply.ofDump : Except Error (List Route) → RouteReply
  | .ok routes => listed routes
  | .error e => refused e

def MemoryRoutes.serve (m : MemoryRoutes) : RouteCall → RouteReply × MemoryRoutes
  | .addOwn dst => (.done, m.addOwn dst)
  | .add dst gateway => (RouteTable.add m dst gateway).map .ofChange id
  | .del dst => (RouteTable.del m dst).map .ofChange id
  | .get dst => (.found (m.get? dst), m)
  | .dump table filter => (RouteTable.dump m table filter).map .ofDump id

namespace MemoryRoutes

variable (m : MemoryRoutes) (dst : Xid)

/-- The routes of a table, in order. -/
def listing (table : TableId) : List Route := m.routes.filter (·.table = table)

theorem get?_eq_find?_mainRoutes : m.get? dst = m.mainRoutes.find? (·.dst = dst) := by
  rw [mainRoutes, List.find?_filter, get?]
  congr 1
  funext r
  simp [leadsTo]

theorem get?_isSome_iff : (m.get? dst).isSome ↔ dst ∈ m.destinations := by
  rw [get?_eq_find?_mainRoutes, List.find?_isSome, destinations, List.mem_map]
  simp

theorem any_leadsTo : m.routes.any (leadsTo dst) = (m.get? dst).isSome := by
  rw [get?, Bool.eq_iff_iff, List.find?_isSome, List.any_eq_true]

theorem dump_eq (table : TableId) (filter : RouteFilter) :
    m.dump table filter = (m.listing table).filter filter.accepts := by
  rw [listing, List.filter_filter, dump]
  exact List.filter_congr fun r _ => Bool.and_comm _ _

theorem listing_addOwn : (m.addOwn dst).listing .own = m.listing .own ++ [⟨.own, dst, none⟩] := by
  simp [listing, addOwn]

theorem mainRoutes_del : (RouteTable.del m dst).2.mainRoutes = m.mainRoutes.filter (·.dst ≠ dst) := by
  rw [mainRoutes, routes_del, mainRoutes, List.filter_filter, List.filter_filter]
  refine List.filter_congr fun r _ => ?_
  by_cases hr : r.table = .main <;> simp [leadsTo, hr]

theorem ownRoutes_del : (RouteTable.del m dst).2.ownRoutes = m.ownRoutes :=
  ownRoutes_filter (routes_del m dst) fun r hr => by simp [leadsTo, hr]

/-- A withdrawal succeeds just if there is a route to withdraw. -/
theorem del_of_mem (h : dst ∈ m.destinations) : (RouteTable.del m dst).1 = .ok () := by
  have ha : m.routes.any (leadsTo dst) = true := by rw [any_leadsTo, get?_isSome_iff]; exact h
  simp [RouteTable.del, del?, ha]

theorem del_of_not_mem (h : dst ∉ m.destinations) :
    RouteTable.del m dst = (.error (.route s!"no route to {dst}"), m) := by
  have ha : m.routes.any (leadsTo dst) = false := by
    rw [any_leadsTo, Bool.eq_false_iff, ne_eq, get?_isSome_iff]
    exact h
  simp [RouteTable.del, del?, ha]

end MemoryRoutes

/-! ## Both do the same -/

namespace RouteMap

/-- The routes of memory are those of the map and the list, in the same order. -/
def Pictures (b : RouteMap) (m : MemoryRoutes) : Prop := ∀ table, m.listing table = b.listing table

variable {b : RouteMap} {m : MemoryRoutes}

theorem Pictures.get? (h : b.Pictures m) (dst : Xid) :
    m.get? dst = (b.ways.get? dst).map fun gateway => ⟨.main, dst, gateway⟩ := by
  have hm : m.mainRoutes = b.listing .main := h .main
  rw [MemoryRoutes.get?_eq_find?_mainRoutes, hm, listing, List.find?_map, OrderedMap.get?, Option.map_map]
  refine Option.map_congr fun way hway => ?_
  have hd : way.1 = dst := by simpa using List.find?_some hway
  simp [hd]

theorem Pictures.mem_destinations_iff (h : b.Pictures m) {dst : Xid} :
    dst ∈ m.destinations ↔ (b.ways.get? dst).isSome := by
  rw [← MemoryRoutes.get?_isSome_iff, h.get?, Option.isSome_map]

/-- A call is answered alike, and what is held afterwards is the same. -/
theorem Pictures.serve (h : b.Pictures m) (c : RouteCall) :
    (m.serve c).1 = (b.serve c).1 ∧ (b.serve c).2.Pictures (m.serve c).2 := by
  have hown : m.ownRoutes = b.listing .own := h .own
  have hmain : m.mainRoutes = b.listing .main := h .main
  cases c with
  | addOwn dst =>
    refine ⟨rfl, fun table => ?_⟩
    cases table with
    | own =>
      show (m.addOwn dst).listing .own = _
      rw [m.listing_addOwn, h .own]
      simp [listing, RouteMap.serve]
    | main => exact (m.mainRoutes_addOwn dst).trans hmain
  | add dst gateway =>
    refine ⟨rfl, fun table => ?_⟩
    cases table with
    | own => exact (m.ownRoutes_add dst gateway).trans hown
    | main =>
      refine (m.mainRoutes_add dst gateway).trans ?_
      rw [hmain]
      simp [listing, RouteMap.serve, OrderedMap.insert, OrderedMap.erase, List.filter_map, Function.comp_def]
  | del dst =>
    cases hg : b.ways.get? dst with
    | none =>
      have hd : dst ∉ m.destinations := by rw [h.mem_destinations_iff, hg]; simp
      simp only [MemoryRoutes.serve, m.del_of_not_mem dst hd, RouteMap.serve, hg]
      exact ⟨rfl, h⟩
    | some g =>
      have hd : dst ∈ m.destinations := by rw [h.mem_destinations_iff, hg]; rfl
      have ha : (m.serve (.del dst)).1 = .done := congrArg RouteReply.ofChange (m.del_of_mem dst hd)
      have hb : b.serve (.del dst) = (.done, { b with ways := b.ways.erase dst }) := by
        simp only [RouteMap.serve, hg]
      rw [ha, hb]
      refine ⟨rfl, fun table => ?_⟩
      cases table with
      | own => exact (m.ownRoutes_del dst).trans hown
      | main =>
        refine (m.mainRoutes_del dst).trans ?_
        rw [hmain]
        simp [listing, OrderedMap.erase, List.filter_map, Function.comp_def]
  | get dst => exact ⟨congrArg RouteReply.found (h.get? dst), h⟩
  | dump table filter =>
    refine ⟨congrArg RouteReply.listed ?_, h⟩
    rw [m.dump_eq, h table]

/-- So it is for many calls. -/
theorem Pictures.serveAll : ∀ (calls : List RouteCall) {b : RouteMap} {m : MemoryRoutes}, b.Pictures m →
    (Neighborhood.serveAll MemoryRoutes.serve m calls).1 = (Neighborhood.serveAll RouteMap.serve b calls).1 ∧
      (Neighborhood.serveAll RouteMap.serve b calls).2.Pictures (Neighborhood.serveAll MemoryRoutes.serve m calls).2
  | [], _, _, h => ⟨rfl, h⟩
  | c :: cs, _, _, h => by
    have hc := h.serve c
    have hrest := serveAll cs hc.2
    exact ⟨congrArg₂ List.cons hc.1 hrest.1, hrest.2⟩

end RouteMap

namespace MemoryRoutes

/-- What some calls have made of the routes, and what one more call makes of them. -/
structure Keeps (calls : List RouteCall) (m : MemoryRoutes) : Prop where
  /-- No destination has two main routes. -/
  simple : m.Simple
  own_eq : m.ownRoutes = (calls.filterMap RouteCall.own?).map fun dst => ⟨.own, dst, none⟩
  get?_eq_some_iff : ∀ dst r, m.get? dst = some r ↔
    ∃ gateway, r = ⟨.main, dst, gateway⟩ ∧ RouteMap.Leads calls dst gateway
  addOwn : ∀ dst, (m.addOwn dst).ownRoutes = m.ownRoutes ++ [⟨.own, dst, none⟩] ∧
    (m.addOwn dst).mainRoutes = m.mainRoutes
  /-- The new route stands at the end, and an old one to its destination is gone. -/
  add : ∀ dst gateway, (m.add dst gateway).mainRoutes = m.mainRoutes.filter (·.dst ≠ dst) ++ [⟨.main, dst, gateway⟩] ∧
    (m.add dst gateway).ownRoutes = m.ownRoutes
  del_of_mem : ∀ dst ∈ m.destinations, (RouteTable.del m dst).1 = .ok () ∧
    (RouteTable.del m dst).2.mainRoutes = m.mainRoutes.filter (·.dst ≠ dst) ∧
    (RouteTable.del m dst).2.ownRoutes = m.ownRoutes
  del_of_not_mem : ∀ dst ∉ m.destinations,
    RouteTable.del m dst = (.error (.route s!"no route to {dst}"), m)
  dump : ∀ table filter, ∃ shows : Route → Bool, (∀ r, shows r = true ↔ filter.Admits r) ∧
    RouteTable.dump m table filter = (.ok ((m.listing table).filter shows), m)

/-- Whatever calls are made, the routes in memory answer as the map and the list do, and hold what these hold. -/
theorem serveAll_mirrors (calls : List RouteCall) :
    (serveAll serve {} calls).1 = (serveAll RouteMap.serve {} calls).1 ∧
    (RouteMap.after calls).Pictures (serveAll serve {} calls).2 ∧
    Keeps calls (serveAll serve {} calls).2 := by
  have hempty : RouteMap.Pictures {} {} := fun table => by cases table <;> rfl
  obtain ⟨hanswers, hpictures⟩ := hempty.serveAll calls
  refine ⟨hanswers, hpictures, ?_⟩
  generalize (serveAll serve {} calls).2 = m at hpictures
  have hown : m.ownRoutes = (RouteMap.after calls).listing .own := hpictures .own
  have hmain : m.mainRoutes = (RouteMap.after calls).listing .main := hpictures .main
  constructor
  · rw [Simple, hmain, RouteMap.listing, List.map_map]
    exact (RouteMap.after calls).ways.nodup
  · rw [hown, RouteMap.listing, RouteMap.own_after]
  · intro dst r
    rw [RouteMap.Pictures.get? hpictures, Option.map_eq_some_iff]
    refine exists_congr fun gateway => ?_
    rw [← RouteMap.get?_after_eq_some_iff, and_comm, eq_comm (b := r)]
    rfl
  · exact fun dst => ⟨m.listing_addOwn dst, m.mainRoutes_addOwn dst⟩
  · exact fun dst gateway => ⟨m.mainRoutes_add dst gateway, m.ownRoutes_add dst gateway⟩
  · exact fun dst hd => ⟨m.del_of_mem dst hd, m.mainRoutes_del dst, m.ownRoutes_del dst⟩
  · exact fun dst hd => m.del_of_not_mem dst hd
  · exact fun table filter => ⟨filter.accepts, fun r => RouteFilter.accepts_iff,
      congrArg (fun routes => (Except.ok routes, m)) (m.dump_eq table filter)⟩

/-- An XID that is owned twice and routed besides: withdrawing its route leaves both entries, a second withdrawal
fails, and a route that is added again stands behind the other one. -/
example :
    let x : Xid := ⟨⟨16⟩, .replicate 1⟩
    let y : Xid := ⟨⟨16⟩, .replicate 2⟩
    let m := (serveAll serve {} [.addOwn x, .add x none, .addOwn x, .add y none, .add x (some y)]).2
    m.mainRoutes = [⟨.main, y, none⟩, ⟨.main, x, some y⟩] ∧
      (m.serve (.del x)).2.ownRoutes = [⟨.own, x, none⟩, ⟨.own, x, none⟩] ∧
      ((m.serve (.del x)).2.serve (.del x)).1 ≠ .done := by
  decide

end MemoryRoutes

end Neighborhood
