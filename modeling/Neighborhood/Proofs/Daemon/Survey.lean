import Neighborhood.Proofs.Daemon.Handover
import Neighborhood.Proofs.Link.Transfer

/-!
# What a host tells of its neighbors

* `LocalLink.Serves` — a host of the link is the gateway of a prefix
* `NeighborList.Surveys` — a list has these prefixes in order, and with each the addresses of its gateways, each once
  (`surveys_listNeighbors`)
* `Daemon.Shows` — both dumps for a list succeed; in memory they do (`Daemon.shows_memory`)
* `Daemon.sendNeighborList_informs` — the list goes out to one host if its counts fit into their bytes; if not, an
  error is counted
-/

namespace Neighborhood

/-! ## What is in a list -/

/-- A prefix is routed through a gateway that a route without gateway leads to, on the interface of the link. -/
def LocalLink.Serves (link : LocalLink) (types : PrincipalTypes) (main : List Route) (p : Identifier) (g : Xid) :
    Prop :=
  (∃ r ∈ main, r.dst = ⟨types.ad, p⟩ ∧ r.gateway = some g) ∧
    ∃ r ∈ main, r.dst = g ∧ r.gateway = none ∧ r.dst.type = types.ether ∧ r.dst.etherIndex = link.ifindex

/-- The bytes of an identity behind the interface index, as many as the addresses of the link have. -/
def LocalLink.addressBytes (link : LocalLink) (x : Xid) : List UInt8 :=
  (x.id.bytes.drop 4).take link.hwaddr.length

/-- The records ascend by prefix; there is one for every prefix behind a host of the link, with the addresses of all
gateways of the prefix, each once. -/
structure NeighborList.Surveys (l : NeighborList) (link : LocalLink) (types : PrincipalTypes) (main : List Route) :
    Prop where
  haddrLen : l.haddrLen.toNat = link.hwaddr.length
  ascending : l.neighbors.Pairwise fun r s => compare r.xid s.xid = .lt
  prefix_iff : ∀ p, (∃ r ∈ l.neighbors, r.xid = p) ↔ ∃ g, link.Serves types main p g
  host_iff : ∀ r ∈ l.neighbors, ∀ a, a ∈ r.hwaddrs ↔ ∃ g, link.Serves types main r.xid g ∧ a.bytes = link.addressBytes g
  once : ∀ r ∈ l.neighbors, r.hwaddrs.Nodup
  nonempty : ∀ r ∈ l.neighbors, r.hwaddrs ≠ []

section
variable {link : LocalLink} {types : PrincipalTypes} {main : List Route} {p : Identifier} {a : HwAddr}

/-- The routes to hosts, as a dump shows them. -/
def hostRoutes (types : PrincipalTypes) (main : List Route) : List Route :=
  main.filter (RouteFilter.destinations types.ether).accepts

/-- The routes to prefixes through hosts, as a dump shows them, those without a gateway included. -/
def prefixRoutes (types : PrincipalTypes) (main : List Route) : List Route :=
  main.filter (RouteFilter.accepts { dstType := some types.ad, gwType := some types.ether })

theorem exists_prefixRoute_iff : (∃ s ∈ prefixRoutes types main, s.dst.id = p ∧
    s.gateway.bind (hostBehind? link (hostRoutes types main)) = some a) ↔
      ∃ g, link.Serves types main p g ∧ a.bytes = link.addressBytes g := by
  have hshown : ∀ g, hostBehind? link (hostRoutes types main) g = some a ↔
      (∃ r ∈ main, r.dst = g ∧ r.gateway = none ∧ r.dst.type = types.ether ∧ r.dst.etherIndex = link.ifindex) ∧
        a.bytes = link.addressBytes g := by
    intro g
    rw [hostBehind?_eq_some_iff, Xid.etherHwAddr?_eq_some_iff]
    simp only [hostRoutes, List.mem_filter, RouteFilter.accepts_destinations]
    constructor
    · rintro ⟨⟨r, ⟨hr, ht⟩, rfl, hg⟩, hi, ha⟩
      exact ⟨⟨r, hr, rfl, hg, ht, hi⟩, ha⟩
    · rintro ⟨⟨r, hr, rfl, hg, ht, hi⟩, ha⟩
      exact ⟨⟨r, ⟨hr, ht⟩, rfl, hg⟩, hi, ha⟩
  constructor
  · rintro ⟨s, hs, rfl, hb⟩
    obtain ⟨hs, hacc⟩ := List.mem_filter.1 hs
    obtain ⟨g, hg, hb⟩ := Option.bind_eq_some_iff.1 hb
    obtain ⟨hhost, ha⟩ := (hshown g).1 hb
    have hty := RouteFilter.type_of_accepts rfl hacc
    exact ⟨g, ⟨⟨s, hs, by rw [← hty], hg⟩, hhost⟩, ha⟩
  · rintro ⟨g, ⟨⟨s, hs, hd, hg⟩, hhost⟩, ha⟩
    obtain ⟨r, -, rfl, -, ht, -⟩ := id hhost
    refine ⟨s, List.mem_filter.2 ⟨hs, ?_⟩, by rw [hd], ?_⟩
    · simp [RouteFilter.accepts, RouteFilter.holds, hd, hg, ht]
    · rw [hg, Option.bind_some]
      exact (hshown _).2 ⟨hhost, ha⟩

/-- Whatever the main routes are, a list surveys them. -/
theorem surveys_listNeighbors (link : LocalLink) (types : PrincipalTypes) (main : List Route) :
    (listNeighbors link (hostRoutes types main) (prefixRoutes types main)).Surveys link types main := by
  have hg := (listNeighbors_gathers link (hostRoutes types main) (prefixRoutes types main)).congr
    fun _ _ => exists_prefixRoute_iff
  have hhost : ∀ r ∈ (listNeighbors link (hostRoutes types main) (prefixRoutes types main)).neighbors, ∀ a,
      a ∈ r.hwaddrs ↔ ∃ g, link.Serves types main r.xid g ∧ a.bytes = link.addressBytes g := by
    refine fun r hr a => ⟨fun ha => (hg.host_iff _ _).1 ⟨r, hr, rfl, ha⟩, fun ha => ?_⟩
    obtain ⟨s, hs, he, ha⟩ := (hg.host_iff _ _).2 ha
    rwa [hg.eq_of_xid hr hs he.symm]
  refine ⟨Reader.toNat_ofNat_length link.hwaddr, hg.ascending, fun p => ⟨?_, ?_⟩, hhost, hg.once, hg.nonempty⟩
  · rintro ⟨r, hr, rfl⟩
    obtain ⟨a, ha⟩ := List.exists_mem_of_ne_nil _ (hg.nonempty r hr)
    obtain ⟨g, hs, -⟩ := (hhost r hr a).1 ha
    exact ⟨g, hs⟩
  · rintro ⟨g, hs⟩
    -- the gateway shows an address, so there is a host for the record
    have hlen := g.length_take_drop link.hwaddr
    let a : HwAddr := ⟨link.addressBytes g, hlen ▸ link.hwaddr.length_pos, hlen ▸ link.hwaddr.length_le⟩
    obtain ⟨r, hr, he, -⟩ := (hg.host_iff p a).2 ⟨g, hs, rfl⟩
    exact ⟨r, hr, he⟩

end

/-- All addresses of a list have the length that the list declares. -/
theorem NeighborList.Surveys.fits_iff {l : NeighborList} {link : LocalLink} {types : PrincipalTypes} {main : List Route}
    (h : l.Surveys link types main) : (Packet.neighborList l).Fits ↔
      l.neighbors.length ≤ 255 ∧ ∀ r ∈ l.neighbors, r.hwaddrs.length ≤ 255 := by
  refine and_congr_right fun _ => forall₂_congr fun r hr => and_iff_left fun a ha => ?_
  obtain ⟨g, -, hb⟩ := (h.host_iff r hr a).1 ha
  rw [h.haddrLen, HwAddr.length, hb]
  exact g.length_take_drop link.hwaddr

namespace Daemon

variable {σ : Type} [RouteTable σ] {d : Daemon σ} {main : List Route}

/-! ## A list that is sent -/

/-- Both dumps for a list succeed, and show the routes of `main` that are asked for. -/
def Shows (d : Daemon σ) (main : List Route) : Prop :=
  ∃ s s', RouteTable.dump d.routes .main (.destinations d.types.ether) = (.ok (hostRoutes d.types main), s) ∧
    RouteTable.dump s .main { dstType := some d.types.ad, gwType := some d.types.ether } =
      (.ok (prefixRoutes d.types main), s')

theorem shows_memory (d : Daemon MemoryRoutes) : d.Shows d.routes.mainRoutes := by
  have hdump : ∀ f : RouteFilter, d.routes.dump .main f = d.routes.mainRoutes.filter f.accepts := by
    intro f
    rw [MemoryRoutes.mainRoutes, List.filter_filter, MemoryRoutes.dump]
    exact List.filter_congr fun r _ => Bool.and_comm _ _
  refine ⟨d.routes, d.routes, ?_, ?_⟩
  all_goals
    rw [RouteTable.dump, MemoryRoutes.instRouteTable]
    simp only [hdump, hostRoutes, prefixRoutes]

theorem dumpRoutes_of_ok {table : TableId} {filter : RouteFilter} {routes : List Route} {s : σ}
    (h : RouteTable.dump d.routes table filter = (.ok routes, s)) : d.dumpRoutes table filter =
      (some routes, { d with routes := s, metrics := d.metrics.recordRouteLatency 0 }) := by
  simp only [dumpRoutes, h, noteRequest]
  rfl

/-- The host that a list is for is sent one list, of all hosts that the main routes lead to on the link. It is handed to
the sink if its counts fit into their bytes; otherwise this counts as an error. All routes to hosts are counted. -/
structure Informs (d : Daemon σ) (main : List Route) (dest : HwAddr) (l : NeighborList) (sent : Bool × Daemon σ) :
    Prop where
  surveys : l.Surveys d.link d.types main
  attempt : ∃ outcome,
    sent.2.transmissions = ⟨d.timers.now, some dest, .neighborList l, outcome⟩ :: d.transmissions
  handed : l.neighbors.length ≤ 255 ∧ (∀ r ∈ l.neighbors, r.hwaddrs.length ≤ 255) →
    ∃ frame, (Packet.neighborList l).encode = .ok frame ∧ sent.2.sink = (d.sink.send (some dest) frame).2 ∧
      sent.1 = (d.sink.send (some dest) frame).1.isOk
  excess : ¬(l.neighbors.length ≤ 255 ∧ ∀ r ∈ l.neighbors, r.hwaddrs.length ≤ 255) →
    sent.1 = false ∧ sent.2.sink = d.sink ∧ sent.2.metrics.sendErrors = d.metrics.sendErrors + 1
  discovered : sent.2.counters.discovered = UInt32.ofNat (main.filter (·.dst.type = d.types.ether)).length

/-- What is sent are the main routes, as both dumps have shown them. -/
theorem exists_sendNeighborList_eq (h : d.Shows main) (dest : HwAddr) : ∃ s metrics,
    metrics.sendErrors = d.metrics.sendErrors ∧ d.sendNeighborList dest =
      { d with
        routes := s
        metrics := metrics
        counters := d.counters.setDiscovered (UInt32.ofNat (hostRoutes d.types main).length) }.transmit (some dest)
        (.neighborList (listNeighbors d.link (hostRoutes d.types main) (prefixRoutes d.types main))) := by
  obtain ⟨s, s', h₁, h₂⟩ := h
  refine ⟨s', (d.metrics.recordRouteLatency 0).recordRouteLatency 0, rfl, ?_⟩
  unfold sendNeighborList
  rw [dumpRoutes_of_ok h₁]
  dsimp only
  rw [dumpRoutes_of_ok (d := { d with routes := s, metrics := _, counters := _ }) h₂]
  rfl

/-- However the main routes have come about, a host that a list is for is told exactly what they say. -/
theorem sendNeighborList_informs (h : d.Shows main) (dest : HwAddr) :
    ∃ l, Informs d main dest l (d.sendNeighborList dest) := by
  obtain ⟨s, metrics, hm, he⟩ := exists_sendNeighborList_eq h dest
  have hs := surveys_listNeighbors d.link d.types main
  refine ⟨listNeighbors d.link (hostRoutes d.types main) (prefixRoutes d.types main), ?_⟩
  rw [he]
  refine ⟨hs, exists_transmissions_transmit _ _ _, fun hcounts => ?_, fun hcounts => ?_, ?_⟩
  · have hfits := hs.fits_iff.2 hcounts
    refine ⟨_, Packet.encode_eq_ok_iff.2 ⟨hfits, rfl⟩, ?_, ?_⟩
    · rw [transmit_of_fits _ _ hfits, noteTransmission_sink]
    · rw [transmit_of_fits _ _ hfits, noteTransmission_fst]
      cases (d.sink.send (some dest) _).1 <;> rfl
  · obtain ⟨e, hnone⟩ := transmit_of_not_fits _ (some dest) fun hfits => hcounts (hs.fits_iff.1 hfits)
    rw [hnone]
    exact ⟨rfl, rfl, congrArg (· + 1) hm⟩
  · obtain ⟨_, _, _, _, hsends⟩ := transmit_sends (σ := σ) _ (some dest) (.neighborList _)
    rw [hsends]
    have hhosts : hostRoutes d.types main = main.filter (·.dst.type = d.types.ether) := by
      refine List.filter_congr fun r _ => ?_
      rw [Bool.eq_iff_iff, RouteFilter.accepts_destinations, decide_eq_true_eq]
    rw [← hhosts]
    rfl

/-- A host with a prefix behind each of two others: a record tells of the first prefix, and both routes to hosts are
counted. -/
theorem informs_of_informant : ∃ l,
    Informs informant informant.routes.mainRoutes peer l (informant.sendNeighborList peer) ∧
    (∃ r ∈ l.neighbors, r.xid = .replicate 7) ∧ (informant.sendNeighborList peer).2.counters.discovered = 2 := by
  obtain ⟨l, h⟩ := sendNeighborList_informs (shows_memory informant) peer
  refine ⟨l, h, (h.surveys.prefix_iff (.replicate 7)).2 ⟨.ether ⟨18⟩ 3 third, ?_, ?_⟩, h.discovered.trans (by decide)⟩
  · exact ⟨⟨.main, ⟨⟨16⟩, .replicate 7⟩, some (.ether ⟨18⟩ 3 third)⟩, by decide, rfl, rfl⟩
  · exact ⟨⟨.main, .ether ⟨18⟩ 3 third, none⟩, by decide, rfl, rfl, rfl, rfl⟩

end Daemon

end Neighborhood
