import Neighborhood.Proofs.Daemon.Regular
import Neighborhood.Proofs.Daemon.Still
import Neighborhood.Proofs.Packet.Layout
import Neighborhood.Proofs.Route
import Neighborhood.Proofs.Xid

/-!
# Routes and neighbors

* `Daemon.withdrawNeighbor_routes` — an eviction withdraws what depends on the neighbor and nothing else
* `Daemon.Routed` — every neighbor has the identity of its address, and the main routes lead to these identities and to
  prefixes through them; every step keeps this (`Step.routed`)
* `Daemon.Run.routesMatch` — in every run the routes to hosts are those of the neighbors, one for each, and every other
  route is one to a prefix behind a neighbor
-/

namespace Neighborhood

namespace Daemon

/-! ## Requests -/

section
variable {σ : Type}

theorem register_routes (d : Daemon σ) (a : HwAddr) (x : Xid) : (d.register a x).routes = d.routes := by
  unfold register
  split <;> rfl

theorem noteRequest_routes {α : Type} (d : Daemon σ) (answer : Except Error α) :
    (d.noteRequest answer).routes = d.routes := by
  unfold noteRequest
  cases answer <;> rfl

end

/-- A withdrawal that fails has nothing to withdraw. -/
theorem withdrawRoute_routes (d : Daemon MemoryRoutes) (dst : Xid) :
    (d.withdrawRoute dst).2.routes.routes = d.routes.routes.filter (!MemoryRoutes.leadsTo dst ·) := by
  rw [← MemoryRoutes.routes_del]
  exact congrArg _ (noteRequest_routes _ _)

theorem withdrawRoutes_routes : ∀ (dsts : List Xid) (d : Daemon MemoryRoutes), (d.withdrawRoutes dsts).routes.routes =
    d.routes.routes.filter fun r => !(r.table = .main && r.dst ∈ dsts)
  | [], d => by simp [withdrawRoutes]
  | dst :: dsts, d => by
    rw [withdrawRoutes, withdrawRoutes_routes dsts, withdrawRoute_routes, List.filter_filter]
    refine List.filter_congr fun r _ => ?_
    by_cases ht : r.table = .main <;> simp [MemoryRoutes.leadsTo, ht, Bool.and_comm]

/-- An eviction withdraws the route to the neighbor and those to what a dump shows behind it. -/
theorem withdrawNeighbor_filter (d : Daemon MemoryRoutes) (x : Xid) : (d.withdrawNeighbor x).routes.routes =
    d.routes.routes.filter fun r => !MemoryRoutes.leadsTo x r && !(r.table = .main && r.dst ∈ (d.routes.dump .main
      { dstType := some d.types.ad, gwType := some d.types.ether, gw := some x }).map (·.dst)) := by
  unfold withdrawNeighbor
  dsimp only
  rw [dumpRoutes_eq]
  dsimp only
  rw [withdrawRoute_routes, withdrawRoutes_routes, List.filter_filter]

/-- An eviction withdraws the route to the neighbor and those to the prefixes behind it. -/
theorem withdrawNeighbor_routes {d : Daemon MemoryRoutes} (h : d.routes.Simple) {x : Xid}
    (hx : x.type = d.types.ether) :
    (d.withdrawNeighbor x).routes.routes = d.routes.routes.filter (!·.dependsOn d.types.ad x) := by
  rw [withdrawNeighbor_filter]
  refine List.filter_congr fun r hr => ?_
  by_cases ht : r.table = .main
  · have hd := h.mem_dump_through (MemoryRoutes.mem_mainRoutes.2 ⟨hr, ht⟩) hx
    simp only [MemoryRoutes.leadsTo, Route.dependsOn, ht, hd, decide_true, Bool.true_and, Bool.not_or,
      Bool.decide_and]
  · simp [MemoryRoutes.leadsTo, Route.dependsOn, ht]

/-! ## Neighbors and their identities -/

section
variable {σ : Type}

/-- The identities of the neighbors. -/
def identities (d : Daemon σ) : List Xid := d.neighbors.directory.map (·.2)

/-- Neighbors are known by the identities of their addresses, which are as long as the address of this host. -/
def Known (d : Daemon σ) : Prop :=
  ∀ p ∈ d.neighbors.directory, p.2 = d.etherXid p.1 ∧ p.1.length = d.link.hwaddr.length

namespace Known

variable {d d' : Daemon σ} {a : HwAddr} (h : d.Known)
include h

theorem sameHost (hs : SameHost d d') (hd : ∀ p ∈ d'.neighbors.directory, p ∈ d.neighbors.directory) : d'.Known := by
  intro p hp
  rw [hs.etherXid, hs.link]
  exact h p (hd p hp)

theorem aside (ha : Aside d d') : d'.Known :=
  h.sameHost ha.sameHost fun _ hp => by rwa [← ha.neighbors]

/-- An identity belongs to one address. -/
theorem eq_of_identity {p q : HwAddr × Xid} (hp : p ∈ d.neighbors.directory) (hq : q ∈ d.neighbors.directory)
    (he : p.2 = q.2) : p.1 = q.1 := by
  obtain ⟨hpx, hpl⟩ := h p hp
  obtain ⟨hqx, hql⟩ := h q hq
  rw [hpx, hqx] at he
  exact (Xid.ether_inj (hpl.trans hql.symm)).1 he

theorem nodup_identities (hw : d.neighbors.WellFormed) : d.identities.Nodup := by
  rw [identities, NeighborTable.directory, List.map_map]
  have hn : d.neighbors.entries.Nodup := .of_map _ hw.hwaddrs
  refine hn.map_on fun n hn m hm he => ?_
  exact hw.eq_of_hwaddr hn hm (h.eq_of_identity (List.mem_map_of_mem hn) (List.mem_map_of_mem hm) he)

/-- Whether the host had an entry or not, it has one with its identity afterwards. -/
theorem mem_directory_register {p : HwAddr × Xid} : p ∈ (d.register a (d.etherXid a)).neighbors.directory ↔
    p = (a, d.etherXid a) ∨ p ∈ d.neighbors.directory := by
  rw [(register_aside d a).neighbors]
  refine NeighborTable.mem_directory_getOrCreate.trans (or_comm.trans ⟨.imp_left And.right, ?_⟩)
  rintro (rfl | hp)
  · cases hg : d.neighbors.get? a with
    | none => exact .inl ⟨rfl, rfl⟩
    | some n =>
      have hn : (n.hwaddr, n.identity) ∈ d.neighbors.directory :=
        List.mem_map_of_mem (List.mem_of_find?_eq_some hg)
      have ha : n.hwaddr = a := by simpa using List.find?_some hg
      rw [← ha, ← (h _ hn).1]
      exact .inr hn
  · exact .inr hp

theorem register (hl : a.length = d.link.hwaddr.length) : (d.register a (d.etherXid a)).Known := by
  intro p hp
  rw [(register_sameHost d a).etherXid, (register_sameHost d a).link]
  rcases h.mem_directory_register.1 hp with rfl | hp
  · exact ⟨rfl, hl⟩
  · exact h p hp

theorem mem_identities_register {x : Xid} : x ∈ (d.register a (d.etherXid a)).identities ↔
    x ∈ d.etherXid a :: d.identities := by
  simp only [identities, List.mem_map, List.mem_cons, h.mem_directory_register]
  constructor
  · rintro ⟨p, rfl | hp, rfl⟩
    · exact .inl rfl
    · exact .inr ⟨p, hp, rfl⟩
  · rintro (rfl | ⟨p, hp, rfl⟩)
    · exact ⟨_, .inl rfl, rfl⟩
    · exact ⟨p, .inr hp, rfl⟩

end Known

end

/-! ## The invariant -/

/-- Neighbors are known by the identities of their addresses, and the main routes lead to these identities and to
prefixes through them. -/
structure Routed (d : Daemon MemoryRoutes) : Prop where
  types : d.types.ad ≠ d.types.ether
  known : d.Known
  serves : d.routes.Serves d.types d.identities

theorem IsFresh.routed {d : Daemon MemoryRoutes} (h : d.IsFresh) (ht : d.types.ad ≠ d.types.ether)
    (hm : d.routes.mainRoutes = []) : d.Routed where
  types := ht
  known := by simp [Known, h.neighbors, NeighborTable.directory]
  serves := by
    rw [identities, h.neighbors]
    exact .of_empty hm

/-- A host gets an entry once its identity is routed to. -/
theorem Known.routed_register {d : Daemon MemoryRoutes} (h : d.Known) (ht : d.types.ad ≠ d.types.ether) {a : HwAddr}
    (hl : a.length = d.link.hwaddr.length) (hs : d.routes.Serves d.types (d.etherXid a :: d.identities)) :
    (d.register a (d.etherXid a)).Routed where
  types := by
    rw [(register_sameHost d a).types]
    exact ht
  known := h.register hl
  serves := by
    rw [register_routes, (register_sameHost d a).types]
    exact hs.congr fun _ => h.mem_identities_register

namespace Routed

variable {d d' : Daemon MemoryRoutes} (h : d.Routed)
include h

theorem still (hs : Still d d') : d'.Routed where
  types := by
    rw [hs.types]
    exact h.types
  known := h.known.sameHost hs.toSameHost fun _ hp => by rwa [← hs.directory]
  serves := by
    rw [identities, hs.directory, hs.routes, hs.types]
    exact h.serves

/-! ### Arrivals -/

/-- A prefix is routed through a neighbor. -/
theorem route {x : Xid} (hx : x ∈ d.identities) (id : Identifier) :
    (d.installRoute (d.adXid id) (some x)).2.Routed where
  types := h.types
  known := h.known
  serves := h.serves.through h.types hx rfl

theorem installPrefixes {x : Xid} (hx : x ∈ d.identities) (ids : List Identifier) :
    (d.installPrefixes x ids).Routed := by
  induction ids generalizing d with
  | nil => exact h
  | cons id ids ih => exact ih (h.route hx id) hx

theorem acceptAnnounce {sender : HwAddr} (hl : sender.length = d.link.hwaddr.length) (a : Announce) :
    (d.acceptAnnounce sender a).Routed := by
  have hi : Known (d.installRoute (d.etherXid sender) none).2 := h.known
  have hx : (d.installRoute (d.etherXid sender) none).2.etherXid sender = d.etherXid sender := rfl
  have hr := hi.routed_register h.types hl (h.serves.meet rfl)
  have hlearn := hr.installPrefixes (hi.mem_identities_register.2 List.mem_cons_self) a.xids
  rw [hx] at hlearn
  rw [acceptAnnounce_eq]
  exact (hlearn.still (replyTo_still (d.learn sender a) sender)).still ⟨⟨rfl, rfl, rfl, rfl⟩, rfl, rfl⟩

theorem acceptRecord {r : NeighborRecord} (hl : ∀ a ∈ r.hwaddrs, a.length = d.link.hwaddr.length) :
    (d.acceptRecord r).Routed := by
  unfold Daemon.acceptRecord
  split
  · rename_i a ha
    split
    · exact h
    · have hi : Known ((d.installRoute (d.etherXid a) none).2.installRoute (d.adXid r.xid) (some (d.etherXid a))).2 :=
        h.known
      have hs : ((d.routes.add (d.etherXid a) none).add (d.adXid r.xid) (some (d.etherXid a))).Serves d.types
          (d.etherXid a :: d.identities) := (h.serves.meet rfl).through h.types List.mem_cons_self rfl
      refine hi.routed_register h.types (hl a ?_) hs
      rw [ha]
      exact List.mem_cons_self
  · exact h

theorem acceptRecords {rs : List NeighborRecord}
    (hl : ∀ r ∈ rs, ∀ a ∈ r.hwaddrs, a.length = d.link.hwaddr.length) : (d.acceptRecords rs).Routed := by
  induction rs generalizing d with
  | nil => exact h
  | cons r rs ih =>
    refine ih (h.acceptRecord (hl r List.mem_cons_self)) fun s hs a ha => ?_
    rw [(acceptRecord_aside d r).link]
    exact hl s (List.mem_cons_of_mem _ hs) a ha

theorem process {sender : HwAddr} (hl : sender.length = d.link.hwaddr.length) {bytes : List UInt8} :
    ∀ {p : Packet}, Packet.decode bytes = .ok p → (d.process sender p).2.Routed
  | .announce a, _ => by
    simp only [Daemon.process, processAnnounce]
    split
    · exact h
    · exact h.acceptAnnounce hl a
  | .neighborList l, hp => by
    simp only [Daemon.process, processNeighborList]
    split
    · exact h
    · rename_i hlen
      refine h.acceptRecords fun r hr a ha => ?_
      -- all addresses of a list that is read have the length that it declares
      rw [← Decidable.not_not.1 hlen]
      exact ((Packet.cleared_of_decode hp).1.fits.2 r hr).2 a ha
  | .monitor p, _ => h.still (processMonitor_tends d sender p).still
  | .investigation p, _ => h.still (processInvestigation_still d sender p)

theorem handleFrame {sender : HwAddr} (hl : sender.length = d.link.hwaddr.length) (bytes : List UInt8) :
    (d.handleFrame sender bytes).2.Routed := by
  unfold Daemon.handleFrame
  split
  · exact h.still (judge_still d _)
  · rename_i p hp
    have hr : Routed { d with metrics := d.metrics.recordReceived p.kind } := h.still ⟨⟨rfl, rfl, rfl, rfl⟩, rfl, rfl⟩
    exact (hr.process hl hp).still (judge_still _ _)

/-! ### Departures -/

/-- Whoever leaves takes along the routes that depend on it, and no others. -/
theorem depart (hw : d.neighbors.WellFormed) {n : Neighbor} (hn : n ∈ d.neighbors.entries) :
    Routed ({ d with neighbors := d.neighbors.depart n }.withdrawNeighbor n.identity) := by
  have ha := (withdrawNeighbor_outward { d with neighbors := d.neighbors.depart n } n.identity).aside
  have hp : (n.hwaddr, n.identity) ∈ d.neighbors.directory := List.mem_map_of_mem hn
  have hx : n.identity.type = d.types.ether := h.serves.type_eq _ (List.mem_map_of_mem hp)
  have hd : Known { d with neighbors := d.neighbors.depart n } :=
    h.known.sameHost ⟨rfl, rfl, rfl, rfl⟩ fun _ hq => ((NeighborTable.mem_directory_depart hw hn).1 hq).1
  have hids : ∀ y, y ∈ (d.neighbors.depart n).directory.map (·.2) ↔ y ∈ d.identities ∧ y ≠ n.identity := by
    intro y
    simp only [identities, List.mem_map, NeighborTable.mem_directory_depart hw hn]
    constructor
    · rintro ⟨q, ⟨hq, hne⟩, rfl⟩
      exact ⟨⟨q, hq, rfl⟩, fun he => hne (h.known.eq_of_identity hq hp he)⟩
    · rintro ⟨⟨q, hq, rfl⟩, hne⟩
      refine ⟨q, ⟨hq, fun he => hne ?_⟩, rfl⟩
      rw [(h.known q hq).1, he]
      exact (h.known _ hp).1.symm
  constructor
  · rw [ha.types]
    exact h.types
  · exact hd.aside ha
  · rw [ha.types, identities, ha.neighbors]
    have hs : d.routes.Simple := h.serves.simple
    exact h.serves.without
      (withdrawNeighbor_routes (d := { d with neighbors := d.neighbors.depart n }) hs hx) hids

theorem onInvestigationTimeout (hw : d.neighbors.WellFormed) (ref : NeighborRef) (timer : TimerId) :
    (d.onInvestigationTimeout ref timer).Routed := by
  rw [onInvestigationTimeout_eq]
  cases he : d.neighbors.expired? ref timer with
  | none => exact h
  | some n => exact (h.depart hw (hw.expired?_eq_some_iff.1 he).1).still (recordEvicted_still _)

theorem expire (hw : d.neighbors.WellFormed) (t : Timer Alarm) : (d.expire t).Routed := by
  unfold Daemon.expire
  split
  · exact h.still (tryAnnounce_still d)
  · exact h.still (pingTick_tends d).still
  · exact h.still (onAckTimeout_tends d _ _).still
  · exact h.onInvestigationTimeout hw _ _
  · exact h

end Routed

/-! ## Runs -/

variable {d₀ d d' : Daemon MemoryRoutes}

/-- Whatever happens, routes and neighbors belong together afterwards. -/
theorem Step.routed (h : d.Routed) (hw : d.neighbors.WellFormed) {e : Event}
    (hl : ∀ sender bytes, e = .frame sender bytes → sender.length = d.link.hwaddr.length) : Step d e d' → d'.Routed
  | .frame _ sender bytes => h.handleFrame (hl sender bytes rfl) bytes
  | .pingTick _ => h.still (pingTick_tends d).still
  | .announce _ => h.still (announce_still d)
  | .tryAnnounce _ => h.still (tryAnnounce_still d)
  | .start _ => h.still (start_still d)
  | .shutdown _ => h.still (shutdown_still d)
  | .expiry (t := t) _ =>
    have hf : Routed { d with timers := d.timers.fire t } := h.still ⟨⟨rfl, rfl, rfl, rfl⟩, rfl, rfl⟩
    hf.expire hw t
  | .pass _ => h.still ⟨⟨rfl, rfl, rfl, rfl⟩, rfl, rfl⟩
  | .surroundings _ _ _ => h.still ⟨⟨rfl, rfl, rfl, rfl⟩, rfl, rfl⟩

/-- The senders of all frames of a run have addresses of the length that this host's address has. -/
def LinkSenders {σ : Type} (d₀ : Daemon σ) (l : List (Moment σ)) : Prop :=
  ∀ m ∈ l, ∀ sender bytes, m.event = .frame sender bytes → sender.length = d₀.link.hwaddr.length

theorem Run.routed (h₀ : d₀.IsFresh) (ht : d₀.types.ad ≠ d₀.types.ether) (hm : d₀.routes.mainRoutes = [])
    {l : List (Moment MemoryRoutes)} (h : Run d₀ l d) (hl : LinkSenders d₀ l) : d.Routed := by
  induction h with
  | nil => exact h₀.routed ht hm
  | snoc hr hs ih =>
    refine hs.routed (ih fun m hm => hl m (List.mem_append_left _ hm)) (hr.regular h₀).neighbors ?_
    rintro sender bytes rfl
    rw [hr.sameHost.link]
    exact hl _ (List.mem_append_right _ List.mem_cons_self) sender bytes rfl

/-- The neighbors have the identities of their addresses, no two the same; the routes to hosts are those to the
neighbors, one for each; and every other main route leads to a prefix through a neighbor. -/
structure RoutesMatch (d : Daemon MemoryRoutes) : Prop where
  identity : ∀ n ∈ d.neighbors.entries, n.identity = d.etherXid n.hwaddr
  distinct : (d.neighbors.entries.map (·.identity)).Nodup
  direct : (d.routes.mainRoutes.filter (·.dst.type = d.types.ether)).Perm
    (d.neighbors.entries.map fun n => ⟨.main, n.identity, none⟩)
  through : ∀ r ∈ d.routes.mainRoutes, r.dst.type ≠ d.types.ether →
    r.dst.type = d.types.ad ∧ ∃ n ∈ d.neighbors.entries, r.gateway = some n.identity

theorem identities_eq (d : Daemon MemoryRoutes) : d.identities = d.neighbors.entries.map (·.identity) := by
  simp only [identities, NeighborTable.directory, List.map_map]
  rfl

/-- No eviction leaves a route behind, and no neighbor loses the route to it. -/
theorem Run.routesMatch (h₀ : d₀.IsFresh) (ht : d₀.types.ad ≠ d₀.types.ether) (hm : d₀.routes.mainRoutes = [])
    {l : List (Moment MemoryRoutes)} (h : Run d₀ l d) (hl : LinkSenders d₀ l) :
    SameHost d₀ d ∧ d.RoutesMatch := by
  have hr := h.routed h₀ ht hm hl
  have hd := hr.known.nodup_identities (h.regular h₀).neighbors
  have hdirect := hr.serves.perm_direct hr.types hd
  rw [identities_eq] at hd hdirect
  refine ⟨h.sameHost, fun n hn => (hr.known _ (List.mem_map_of_mem hn)).1, hd, ?_, fun r hmem hne => ?_⟩
  · rwa [List.map_map] at hdirect
  · obtain ⟨had, x, hx, hg⟩ := hr.serves.through_of_type_ne hmem hne
    rw [identities_eq, List.mem_map] at hx
    obtain ⟨n, hn, rfl⟩ := hx
    exact ⟨had, n, hn, hg⟩

/-- The lone host hears an announce of a prefix: there are a route to the other host and one through it. -/
theorem routesMatch_of_announced : ∃ l d, Run (lone 5) l d ∧ LinkSenders (lone 5) l ∧
    d.neighbors.entries.map (·.hwaddr) = [peer] ∧ d.routes.mainRoutes.length = 2 ∧
    SameHost (lone 5) d ∧ d.RoutesMatch := by
  have h : Run (lone 5) _ _ :=
    Run.nil.snoc (.frame _ peer ([1, 1, 1, 6, 2, 0, 0, 0, 0, 2] ++ List.replicate 20 7))
  refine ⟨_, _, h, ?senders, by decide, by decide, Run.routesMatch (lone_isFresh 5) (by decide) rfl h ?senders⟩
  rintro m hm sender bytes he
  rw [List.mem_singleton.1 hm] at he
  cases he
  rfl

end Daemon

end Neighborhood
