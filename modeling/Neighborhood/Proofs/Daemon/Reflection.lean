import Neighborhood.Proofs.Daemon.Teaching

/-!
# A host that takes itself for a neighbor

Records that name this host are passed over, and announces of its address are refused. But an announce is entered under
the address that its frame comes from, whatever address it announces, and nothing compares that one with the address of
this host.

* `Daemon.hear` — frames are handled one after another
* `Daemon.Selfless` — the host is no neighbor of its own, and no route leads to its identity or through it
* `Daemon.Reflects` — the frames that break this
* `Daemon.selfless_hear_iff` — the host stays selfless just as long as it hears none of them
* `Daemon.not_selfless_of_echo` — a frame that breaks it
-/

namespace Neighborhood

namespace Daemon

/-! ## Frames that are handled one after another -/

/-- The frames are handled in order, each with the address that it comes from. -/
def hear {σ : Type} [RouteTable σ] : Daemon σ → List (HwAddr × List UInt8) → Daemon σ
  | d, [] => d
  | d, f :: fs => (d.handleFrame f.1 f.2).2.hear fs

theorem hear_learns : ∀ (fs : List (HwAddr × List UInt8)) (d : Daemon MemoryRoutes),
    Learns d (fs.flatMap fun f => taughtByFrame d.link f.1 f.2) (d.hear fs)
  | [], d => .of_still (.refl d)
  | f :: fs, d => by
    have hf := handleFrame_learns d f.1 f.2
    have ih := hear_learns fs (d.handleFrame f.1 f.2).2
    rw [hf.link] at ih
    exact hf.trans ih

/-! ## Hosts that do not know themselves -/

/-- The host is no neighbor of its own, and no route leads to its identity or through it. -/
structure Selfless (d : Daemon MemoryRoutes) : Prop where
  stranger : d.neighbors.get? d.link.hwaddr = none
  dst : ∀ r ∈ d.routes.mainRoutes, r.dst ≠ d.etherXid d.link.hwaddr
  gateway : ∀ r ∈ d.routes.mainRoutes, r.gateway ≠ some (d.etherXid d.link.hwaddr)

/-- The teaching is of this host, or of one that has the same identity, or of a prefix that is this identity. -/
def IsOfSelf {σ : Type} (d : Daemon σ) (t : Teaching) : Prop :=
  t.host.slot = d.link.hwaddr.slot ∨ ∃ id ∈ t.prefixes, d.adXid id = d.etherXid d.link.hwaddr

variable {d₀ d : Daemon MemoryRoutes}

/-- Of this host there is an addition for each teaching of it. -/
theorem IsOfSelf.exists_addition {t : Teaching} (h : d.IsOfSelf t) :
    ∃ w ∈ d.additions t, w.1 = d.etherXid d.link.hwaddr := by
  rcases h with hs | ⟨id, hid, he⟩
  · exact ⟨_, host_mem_additions d t, Xid.ether_eq_iff.2 ⟨rfl, rfl, hs⟩⟩
  · exact ⟨_, prefix_mem_additions d hid, he⟩

/-- No teaching of others adds anything that leads to this host or through it. -/
theorem ne_of_mem_additions {t : Teaching} (h : ¬ d.IsOfSelf t) {w : Xid × Option Xid} (hw : w ∈ d.additions t) :
    w.1 ≠ d.etherXid d.link.hwaddr ∧ w.2 ≠ some (d.etherXid d.link.hwaddr) := by
  have hhost : d.etherXid t.host ≠ d.etherXid d.link.hwaddr := fun he => h (.inl (Xid.ether_eq_iff.1 he).2.2)
  rcases mem_additions.1 hw with rfl | ⟨id, hid, rfl⟩
  · exact ⟨hhost, Option.some_ne_none _ |>.symm⟩
  · exact ⟨fun he => h (.inr ⟨id, hid, he⟩), fun he => hhost (Option.some.inj he)⟩

/-- What a host has learned that knew nobody is free of itself if it has been taught nothing of itself, and else not. -/
theorem Learns.selfless_iff {l : List Teaching} (h : Learns d₀ l d) (hn : d₀.neighbors = {})
    (hm : d₀.routes.mainRoutes = []) : d.Selfless ↔ ∀ t ∈ l, ¬ d₀.IsOfSelf t := by
  have hself : d.etherXid d.link.hwaddr = d₀.etherXid d₀.link.hwaddr := by rw [h.toSameHost.etherXid, h.link]
  constructor
  · intro hs t ht hof
    obtain ⟨w, hw, he⟩ := hof.exists_addition
    obtain ⟨r, hr, hd⟩ := MemoryRoutes.exists_mem_mainRoutes_addAll (List.mem_flatMap.2 ⟨t, ht, hw⟩) d₀.routes
    rw [← h.routes] at hr
    exact hs.dst r hr (hd.trans (he.trans hself.symm))
  · intro hall
    have hroutes : ∀ r ∈ d.routes.mainRoutes,
        r.dst ≠ d.etherXid d.link.hwaddr ∧ r.gateway ≠ some (d.etherXid d.link.hwaddr) := by
      intro r hr
      rw [h.routes] at hr
      rcases MemoryRoutes.mem_mainRoutes_addAll hr with hr | ⟨w, hw, rfl⟩
      · rw [hm] at hr
        cases hr
      · obtain ⟨t, ht, hw⟩ := List.mem_flatMap.1 hw
        rw [hself]
        exact ne_of_mem_additions (hall t ht) hw
    refine ⟨?_, fun r hr => (hroutes r hr).1, fun r hr => (hroutes r hr).2⟩
    by_contra hne
    rcases (h.known d.link.hwaddr).1 hne with hne | hmem
    · rw [hn] at hne
      exact hne rfl
    · obtain ⟨t, ht, he⟩ := List.mem_map.1 hmem
      exact hall t ht (.inl (by rw [he, h.link]))

/-! ## Frames that reflect -/

/-- The frames that make a host know itself: an announce that the rules let through from its own address, or from one that
fills a slot in the same way, and an announce or list of a prefix that is its own identity. -/
inductive Reflects {σ : Type} (d : Daemon σ) (sender : HwAddr) (bytes : List UInt8) : Prop
  | announce {a : Announce} : Packet.decode bytes = .ok (.announce a) → a.rejection? d.link sender = none →
      sender.slot = d.link.hwaddr.slot → Reflects d sender bytes
  | identity {t : Teaching} {id : Identifier} : t ∈ taughtByFrame d.link sender bytes → id ∈ t.prefixes →
      d.adXid id = d.etherXid d.link.hwaddr → Reflects d sender bytes

/-- A list never teaches of this host: its records name hosts with addresses of one length. -/
theorem slot_ne_of_listed {link : LocalLink} {sender : HwAddr} {bytes : List UInt8} {list : NeighborList} {t : Teaching}
    (hp : Packet.decode bytes = .ok (.neighborList list)) (ht : t ∈ (Packet.neighborList list).teachings link sender) :
    t.host.slot ≠ link.hwaddr.slot := by
  rw [Packet.teachings] at ht
  split at ht
  · rename_i hlen
    obtain ⟨r, hr, ht⟩ := List.mem_flatMap.1 ht
    obtain ⟨ha, hne, -⟩ := NeighborRecord.mem_teachings.1 ht
    have hl := ((Packet.cleared_of_decode hp).1.fits.2 r hr).2 t.host (ha ▸ List.mem_cons_self)
    exact fun hs => hne ((HwAddr.slot_inj (hl.trans hlen)).1 hs)
  · cases ht

theorem reflects_iff {sender : HwAddr} {bytes : List UInt8} :
    d.Reflects sender bytes ↔ ∃ t ∈ taughtByFrame d.link sender bytes, d.IsOfSelf t := by
  constructor
  · rintro (@⟨a, hp, hr, hs⟩ | ⟨ht, hid, he⟩)
    · rw [taughtByFrame_announce hp hr]
      exact ⟨_, List.mem_singleton_self _, .inl hs⟩
    · exact ⟨_, ht, .inr ⟨_, hid, he⟩⟩
  · rintro ⟨t, ht, hs | ⟨id, hid, he⟩⟩
    · unfold taughtByFrame at ht
      split at ht
      · rename_i p hp
        cases p with
        | announce a =>
          rw [Packet.teachings] at ht
          split at ht
          · rename_i hr
            rw [List.mem_singleton.1 ht] at hs
            exact .announce hp hr hs
          · cases ht
        | neighborList list => exact absurd hs (slot_ne_of_listed hp ht)
        | monitor | investigation => cases ht
      · cases ht
    · exact .identity ht hid he

/-- A host that knew nobody does not know itself as long as no frame reflects, and it knows itself if one does. -/
theorem selfless_hear_iff (h₀ : d₀.IsFresh) (hm : d₀.routes.mainRoutes = []) (fs : List (HwAddr × List UInt8)) :
    (d₀.hear fs).Selfless ↔ ∀ f ∈ fs, ¬ d₀.Reflects f.1 f.2 := by
  rw [(hear_learns fs d₀).selfless_iff h₀.neighbors hm]
  constructor
  · intro h f hf hr
    obtain ⟨t, ht, hof⟩ := reflects_iff.1 hr
    exact h t (List.mem_flatMap.2 ⟨f, hf, ht⟩) hof
  · intro h t ht hof
    obtain ⟨f, hf, ht⟩ := List.mem_flatMap.1 ht
    exact h f hf (reflects_iff.2 ⟨t, ht, hof⟩)

/-- An announce of the other host. -/
def greeting : List UInt8 := [1, 1, 0, 6, 2, 0, 0, 0, 0, 2]

theorem selfless_of_greeting : ((lone 5).hear [(peer, greeting)]).Selfless := by
  refine (selfless_hear_iff (lone_isFresh 5) rfl [(peer, greeting)]).2 (List.forall_mem_singleton.2 ?_)
  rw [reflects_iff]
  rintro ⟨t, ht, hs | ⟨id, hid, -⟩⟩
  · obtain rfl : t = ⟨peer, []⟩ := List.mem_singleton.1 ht
    exact absurd hs (by decide)
  · obtain rfl : t = ⟨peer, []⟩ := List.mem_singleton.1 ht
    cases hid

/-- The same announce in a frame that comes from the address of the host itself: the host becomes its own neighbor, with a
route to its own identity. -/
theorem not_selfless_of_echo : (lone 5).IsFresh ∧ (lone 5).routes.mainRoutes = [] ∧
    ((lone 5).hear [((lone 5).link.hwaddr, greeting)]).neighbors.get? (lone 5).link.hwaddr ≠ none ∧
    ⟨.main, (lone 5).etherXid (lone 5).link.hwaddr, none⟩ ∈
      ((lone 5).hear [((lone 5).link.hwaddr, greeting)]).routes.mainRoutes ∧
    ¬ ((lone 5).hear [((lone 5).link.hwaddr, greeting)]).Selfless :=
  ⟨lone_isFresh 5, rfl, by decide, by decide, fun h => absurd h.stranger (by decide)⟩

end Daemon

end Neighborhood
