import Neighborhood.Proofs.Daemon.Speech
import Neighborhood.Proofs.Daemon.Teaching
import Neighborhood.Proofs.Listing

/-!
# What a list hands on

A list says which prefixes its host reaches through which hosts of the link. Whoever reads it derives the identities of
these hosts anew, with the index that the interface has on its side.

* `Daemon.Reaches` — a prefix is routed through a host that is on the link
* `Daemon.mem_teachings_hostList` — what a list teaches another host is all that its sender reaches through others
* `Daemon.HandsOn` — what one host reaches another routes in the same way, and the other routes are as before
* `Daemon.sendNeighborList_handsOn` — a list that is sent and heard does this
-/

namespace Neighborhood

/-- The address that an identity shows has the length that is asked for. -/
theorem Xid.length_of_etherHwAddr? {x : Xid} {n : Nat} {a : HwAddr} (h : x.etherHwAddr? n = some a) : a.length = n := by
  unfold etherHwAddr? at h
  split at h
  · rename_i hn
    unfold HwAddr.ofBytes? at h
    split at h
    · cases h
      have hlen := x.id.length_eq
      simp only [HwAddr.maxLength] at hn
      simp only [HwAddr.length, List.length_take, List.length_drop]
      omega
    · cases h
  · cases h

namespace Daemon

/-! ## What a host reaches -/

/-- A prefix is routed through a gateway that a route on the link leads to, on the interface of the link, and the gateway
shows the address of the host. -/
def Reaches (d : Daemon MemoryRoutes) (p : Identifier) (host : HwAddr) : Prop :=
  ∃ g, ⟨.main, d.adXid p, some g⟩ ∈ d.routes.mainRoutes ∧ ⟨.main, g, none⟩ ∈ d.routes.mainRoutes ∧
    g.type = d.types.ether ∧ g.etherIndex = d.link.ifindex ∧ g.etherHwAddr? d.link.hwaddr.length = some host

/-- The list that a host sends. -/
def hostList (d : Daemon MemoryRoutes) : NeighborList :=
  listNeighbors d.link (d.routes.dump .main (.destinations d.types.ether))
    (d.routes.dump .main { dstType := some d.types.ad, gwType := some d.types.ether })

variable {a b d : Daemon MemoryRoutes} {p : Identifier} {host : HwAddr}

/-- A host reaches what the two dumps for its list show. -/
theorem reaches_iff : d.Reaches p host ↔
    ∃ s ∈ d.routes.dump .main { dstType := some d.types.ad, gwType := some d.types.ether }, s.dst.id = p ∧
      s.gateway.bind (hostBehind? d.link (d.routes.dump .main (.destinations d.types.ether))) = some host := by
  constructor
  · rintro ⟨g, hp, hg, hty, hi, ha⟩
    have hp' := MemoryRoutes.mem_mainRoutes.1 hp
    have hg' := MemoryRoutes.mem_mainRoutes.1 hg
    refine ⟨_, MemoryRoutes.mem_dump.2 ⟨hp'.1, rfl, ?_⟩, rfl,
      hostBehind?_eq_some_iff.2 ⟨⟨⟨.main, g, none⟩, ?_, rfl, rfl⟩, hi, ha⟩⟩
    · simp [RouteFilter.accepts, RouteFilter.holds, adXid, hty]
    · exact MemoryRoutes.mem_dump.2 ⟨hg'.1, rfl, RouteFilter.accepts_destinations.2 hty⟩
  · rintro ⟨⟨table, dst, gateway⟩, hs, rfl, hb⟩
    obtain ⟨hs, rfl, hacc⟩ := MemoryRoutes.mem_dump.1 hs
    obtain ⟨g, rfl, hb⟩ := Option.bind_eq_some_iff.1 hb
    obtain ⟨⟨⟨table, _, _⟩, hr, rfl, rfl⟩, hi, ha⟩ := hostBehind?_eq_some_iff.1 hb
    obtain ⟨hr, rfl, hty⟩ := MemoryRoutes.mem_dump.1 hr
    have had : dst = d.adXid dst.id := by
      have hty := RouteFilter.type_of_accepts rfl hacc
      cases dst
      cases hty
      rfl
    refine ⟨_, MemoryRoutes.mem_mainRoutes.2 ⟨had ▸ hs, rfl⟩, MemoryRoutes.mem_mainRoutes.2 ⟨hr, rfl⟩,
      RouteFilter.accepts_destinations.1 hty, hi, ha⟩

/-- With one route for a destination, a prefix is reached through one host. -/
theorem Reaches.unique (hs : d.routes.Simple) {host' : HwAddr} (h : d.Reaches p host) (h' : d.Reaches p host') :
    host' = host := by
  obtain ⟨g, hp, -, -, -, ha⟩ := h
  obtain ⟨g', hp', -, -, -, ha'⟩ := h'
  obtain rfl : g' = g := Option.some.inj (congrArg Route.gateway (hs.eq_of_dst hp' hp rfl))
  exact Option.some.inj (ha'.symm.trans ha)

theorem Reaches.length_eq (h : d.Reaches p host) : host.length = d.link.hwaddr.length := by
  obtain ⟨g, -, -, -, -, ha⟩ := h
  exact Xid.length_of_etherHwAddr? ha

/-- What the list of a host teaches another is all that the host reaches through hosts other than that one. -/
theorem mem_teachings_hostList (hs : a.routes.Simple) (hl : a.link.hwaddr.length = b.link.hwaddr.length)
    {t : Teaching} : t ∈ (Packet.neighborList a.hostList).teachings b.link a.link.hwaddr ↔
      ∃ p, a.Reaches p t.host ∧ t.host ≠ b.link.hwaddr ∧ t.prefixes = [p] := by
  have hg := listNeighbors_gathers a.link (a.routes.dump .main (.destinations a.types.ether))
    (a.routes.dump .main { dstType := some a.types.ad, gwType := some a.types.ether })
  have hlen : a.hostList.haddrLen.toNat = b.link.hwaddr.length := (Reader.toNat_ofNat_length a.link.hwaddr).trans hl
  simp only [Packet.teachings]
  rw [if_pos hlen, List.mem_flatMap]
  simp only [NeighborRecord.mem_teachings]
  constructor
  · rintro ⟨r, hr, ha, hne, hp⟩
    exact ⟨r.xid, reaches_iff.2 ((hg.host_iff _ _).1 ⟨r, hr, rfl, ha ▸ List.mem_cons_self⟩), hne, hp⟩
  · rintro ⟨p, hreach, hne, hp⟩
    obtain ⟨r, hr, rfl, hmem⟩ := (hg.host_iff _ _).2 (reaches_iff.1 hreach)
    exact ⟨r, hr, hg.hwaddrs_eq hr fun h hseen => hreach.unique hs (reaches_iff.2 hseen), hne, hp⟩

/-! ## What the other host does -/

/-- What `a` reaches through hosts other than `b`, `b` routes in the same way in the state `b'`, and it knows these hosts.
Of what `a` reaches through `b` nothing is installed, and all other routes are those of `b`. -/
structure HandsOn (a b b' : Daemon MemoryRoutes) : Prop where
  known : ∀ {p host}, a.Reaches p host → host ≠ b.link.hwaddr → b'.neighbors.get? host ≠ none
  direct : ∀ {p host}, a.Reaches p host → host ≠ b.link.hwaddr →
    b'.routes.routesTo (b.etherXid host) = [⟨.main, b.etherXid host, none⟩]
  through : ∀ {p host}, a.Reaches p host → host ≠ b.link.hwaddr →
    b'.routes.routesTo (b.adXid p) = [⟨.main, b.adXid p, some (b.etherXid host)⟩]
  self : ∀ {p}, a.Reaches p b.link.hwaddr →
    b'.routes.routesTo (b.adXid p) = b.routes.routesTo (b.adXid p) ∧
    b'.routes.routesTo (b.etherXid b.link.hwaddr) = b.routes.routesTo (b.etherXid b.link.hwaddr)
  others : ∀ x, (∀ p host, a.Reaches p host → host ≠ b.link.hwaddr → x ≠ b.adXid p ∧ x ≠ b.etherXid host) →
    b'.routes.routesTo x = b.routes.routesTo x

/-- To learn what the list of `a` teaches is to take over what `a` reaches. -/
theorem Learns.handsOn {b' : Daemon MemoryRoutes} (hs : a.routes.Simple)
    (hl : a.link.hwaddr.length = b.link.hwaddr.length) (ht : b.types.ad ≠ b.types.ether)
    (h : Learns b ((Packet.neighborList a.hostList).teachings b.link a.link.hwaddr) b') : HandsOn a b b' := by
  have hothers : ∀ x, (∀ p host, a.Reaches p host → host ≠ b.link.hwaddr → x ≠ b.adXid p ∧ x ≠ b.etherXid host) →
      b'.routes.routesTo x = b.routes.routesTo x := by
    intro x hx
    rw [h.routes]
    refine MemoryRoutes.routesTo_addAll_of_forall_ne (fun w hw he => ?_) _
    obtain ⟨t, hmem, hw⟩ := List.mem_flatMap.1 hw
    obtain ⟨p, hreach, hne, hp⟩ := (mem_teachings_hostList hs hl).1 hmem
    obtain ⟨hnp, hnh⟩ := hx p t.host hreach hne
    rcases mem_additions.1 hw with rfl | ⟨id, hid, rfl⟩
    · exact hnh he.symm
    · rw [hp, List.mem_singleton] at hid
      rw [hid] at he
      exact hnp he.symm
  have hmem : ∀ {p host}, a.Reaches p host → host ≠ b.link.hwaddr →
      ⟨host, [p]⟩ ∈ (Packet.neighborList a.hostList).teachings b.link a.link.hwaddr :=
    fun {p _} hreach hne => (mem_teachings_hostList hs hl).2 ⟨p, hreach, hne, rfl⟩
  refine ⟨fun hreach hne => ?_, fun hreach hne => ?_, fun {p host} hreach hne => ?_, fun {p} hreach => ?_, hothers⟩
  · exact (h.known _).2 (.inr (List.mem_map.2 ⟨_, hmem hreach hne, rfl⟩))
  · rw [h.routes]
    exact routesTo_host ht (hmem hreach hne) b.routes
  · rw [h.routes]
    refine routesTo_prefix ht (hmem hreach hne) (List.mem_singleton_self p) (fun u hu hid => ?_) b.routes
    obtain ⟨q, hreach', -, hq⟩ := (mem_teachings_hostList hs hl).1 hu
    rw [hq, List.mem_singleton] at hid
    exact hreach.unique hs (hid ▸ hreach')
  · refine ⟨hothers _ fun q host hreach' hne => ⟨?_, ?_⟩, hothers _ fun q host hreach' hne => ⟨?_, ?_⟩⟩
    · intro he
      obtain rfl : p = q := congrArg Xid.id he
      exact hne (hreach.unique hs hreach')
    · exact fun he => ht (congrArg Xid.type he)
    · exact fun he => ht (congrArg Xid.type he).symm
    · exact fun he => hne ((Xid.ether_inj (hreach'.length_eq.trans hl).symm).1 he).symm

/-! ## A list that is sent and heard -/

/-- The list goes out like any packet, from a host whose counters have changed. -/
theorem sendNeighborList_eq (d : Daemon MemoryRoutes) (dest : HwAddr) : ∃ d' : Daemon MemoryRoutes, d'.sink = d.sink ∧
    d.sendNeighborList dest = d'.transmit (some dest) (.neighborList d.hostList) := by
  unfold sendNeighborList
  rw [dumpRoutes_eq]
  dsimp only
  rw [dumpRoutes_eq]
  refine ⟨_, ?_, rfl⟩
  rfl

/-- If a list leaves for another host, and the other host hears it, the other host takes over what its sender reaches: it
derives the identities with its own interface, and leaves all other routes alone. -/
theorem sendNeighborList_handsOn (hs : a.routes.Simple) (hl : a.link.hwaddr.length = b.link.hwaddr.length)
    (hne : a.link.hwaddr ≠ b.link.hwaddr) (ht : b.types.ad ≠ b.types.ether)
    (hsent : (a.sendNeighborList b.link.hwaddr).1 = true) :
    ∃ frame, (a.sendNeighborList b.link.hwaddr).2.sink.frames = a.sink.frames ++ [⟨some b.link.hwaddr, frame⟩] ∧
      (b.handleFrame a.link.hwaddr frame).1 = .ok () ∧ HandsOn a b (b.handleFrame a.link.hwaddr frame).2 := by
  obtain ⟨d, hsink, he⟩ := sendNeighborList_eq a b.link.hwaddr
  rw [he, transmit_fst] at hsent
  obtain ⟨frame, hencode, hframes⟩ := transmit_frames d (some b.link.hwaddr) hsent
  have hspeech : Speech a.link (some b.link.hwaddr, .neighborList a.hostList) := .neighborList b.link.hwaddr rfl
  have hdecode := hspeech.decode_eq hencode
  refine ⟨frame, ?_, handleFrame_of_speech hspeech hdecode hl.symm hne.symm, ?_⟩
  · rw [he, hframes, hsink]
  · have hlearns := handleFrame_learns b a.link.hwaddr frame
    rw [taughtByFrame, hdecode] at hlearns
    exact hlearns.handsOn hs hl ht

/-! ### Hosts with different interfaces -/

/-- A host on its third interface, which routes one prefix through a third host and one through the other. -/
def informant : Daemon MemoryRoutes where
  __ := lone 5
  link := { ifindex := 3, hwaddr := .ethernet 2 0 0 0 0 1 }
  routes := ({} : MemoryRoutes).addAll
    [(.ether ⟨18⟩ 3 third, none), (.ether ⟨18⟩ 3 peer, none),
      (⟨⟨16⟩, .replicate 7⟩, some (.ether ⟨18⟩ 3 third)),
      (⟨⟨16⟩, .replicate 8⟩, some (.ether ⟨18⟩ 3 peer))]

/-- The other host, on its first interface. -/
def listener : Daemon MemoryRoutes :=
  { lone 5 with link := { ifindex := 1, hwaddr := peer } }

/-- The other host routes the first prefix through the third host, whose identity it derives with its own interface, and
it has no route for the second prefix. -/
theorem sendNeighborList_handsOn_of_informant : ∃ frame,
    (informant.sendNeighborList peer).2.sink.frames = [⟨some peer, frame⟩] ∧
    (listener.handleFrame informant.link.hwaddr frame).2.routes.routesTo ⟨⟨16⟩, .replicate 7⟩ =
      [⟨.main, ⟨⟨16⟩, .replicate 7⟩, some (.ether ⟨18⟩ 1 third)⟩] ∧
    (listener.handleFrame informant.link.hwaddr frame).2.routes.routesTo ⟨⟨16⟩, .replicate 8⟩ = [] := by
  obtain ⟨frame, hframes, -, hands⟩ := sendNeighborList_handsOn (a := informant) (b := listener)
    (by unfold MemoryRoutes.Simple; decide) rfl (by decide) (by decide) (by decide)
  refine ⟨frame, hframes, hands.through (p := .replicate 7) ?_ (by decide), (hands.self (p := .replicate 8) ?_).1⟩
  · exact ⟨.ether ⟨18⟩ 3 third, by decide, by decide, rfl, rfl, rfl⟩
  · exact ⟨.ether ⟨18⟩ 3 peer, by decide, by decide, rfl, rfl, rfl⟩

end Daemon

end Neighborhood
