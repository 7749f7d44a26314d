import Neighborhood.Proofs.Daemon.Lesson
import Neighborhood.Proofs.Daemon.Replies
import Neighborhood.Proofs.Listing

/-!
# What hosts tell is so

* `World` — which hosts are on a link and which prefixes they own
* `World.Tells`, `World.Truthful` — a packet, or the frame that is heard, says what is so
* `Daemon.Owns` — the own prefixes, which are what is announced (`mem_announces_iff`)
* `Daemon.Knows` — what a host has in its tables is so; kept by whatever tells what is so (`Knows.shifts`)
* `Daemon.Knows.utters_tells` — what a host says that knows what is so and hears what is so, is so
-/

namespace Neighborhood

/-- An announce that no rule refuses does not name this host. -/
theorem Announce.hwaddr_ne_of_rejection? {a : Announce} {link : LocalLink} {sender : HwAddr}
    (h : a.rejection? link sender = none) : a.hwaddr ≠ link.hwaddr := by
  intro he
  unfold rejection? at h
  rw [if_pos he] at h
  split at h
  · cases h
  · split at h <;> cases h

/-! ## What is so -/

/-- Which hosts are on a link, and which prefixes they own. -/
structure World where
  host : HwAddr → Prop
  owns : HwAddr → Identifier → Prop
  host_of_owns : ∀ {a id}, owns a id → host a

namespace World

/-- The packet of a host says what is so: it announces the host's own prefixes, or lists hosts that own theirs. -/
def Tells (w : World) (teller : HwAddr) : Packet → Prop
  | .announce a => a.hwaddr = teller ∧ ∀ id ∈ a.xids, w.owns teller id
  | .neighborList l => ∀ r ∈ l.neighbors, ∀ a ∈ r.hwaddrs, w.owns a r.xid
  | .monitor _ | .investigation _ => True

/-- A frame comes from a host on the link and says what is so. -/
def Truthful (w : World) (e : Event) : Prop :=
  ∀ sender bytes, e = .frame sender bytes → w.host sender ∧ ∀ p, Packet.decode bytes = .ok p → w.Tells sender p

/-- The host is another one on the link, and owns the prefix if there is one. -/
def Confirms (w : World) (link : LocalLink) (a : HwAddr) (id : Option Identifier) : Prop :=
  w.host a ∧ a ≠ link.hwaddr ∧ ∀ i, id = some i → w.owns a i

theorem Tells.confirms {w : World} {sender : HwAddr} {p : Packet} (h : w.Tells sender p) (hs : w.host sender)
    {link : LocalLink} {a : HwAddr} {id : Option Identifier} (ht : Told link sender p a id) : w.Confirms link a id := by
  cases ht with
  | announcer hr => exact ⟨hs, h.1 ▸ Announce.hwaddr_ne_of_rejection? hr, nofun⟩
  | announced hr hid =>
    refine ⟨hs, h.1 ▸ Announce.hwaddr_ne_of_rejection? hr, fun i hi => ?_⟩
    cases hi
    exact h.2 _ hid
  | listed hr ha hne =>
    have howns := h _ hr a (by rw [ha]; exact List.mem_cons_self)
    exact ⟨w.host_of_owns howns, hne, nofun⟩
  | listedPrefix hr ha hne =>
    have howns := h _ hr a (by rw [ha]; exact List.mem_cons_self)
    refine ⟨w.host_of_owns howns, hne, fun i hi => ?_⟩
    cases hi
    exact howns

end World

namespace Daemon

/-! ## Own prefixes -/

/-- The prefix is one of the host's own, under whatever type the host knows prefixes by. -/
def Owns (d : Daemon MemoryRoutes) (id : Identifier) : Prop :=
  ∃ r ∈ d.routes.ownRoutes, r.dst = d.adXid id

theorem owns_iff {d : Daemon MemoryRoutes} {id : Identifier} :
    d.Owns id ↔ ∃ r ∈ d.routes.dump .own (.destinations d.types.ad), r.dst.id = id := by
  have hmem : ∀ r : Route, r ∈ d.routes.dump .own (.destinations d.types.ad) ↔
      r ∈ d.routes.ownRoutes ∧ r.dst.type = d.types.ad := by
    intro r
    rw [MemoryRoutes.mem_dump, MemoryRoutes.mem_ownRoutes, RouteFilter.accepts_destinations, and_assoc]
  constructor
  · rintro ⟨r, hr, hd⟩
    exact ⟨r, (hmem r).2 ⟨hr, by rw [hd, adXid]⟩, by rw [hd, adXid]⟩
  · rintro ⟨r, hr, rfl⟩
    obtain ⟨hr, ht⟩ := (hmem r).1 hr
    exact ⟨r, hr, by rw [adXid, ← ht]⟩

/-- A host announces each of its own prefixes, and itself if it has none. -/
theorem mem_announces_iff {d : Daemon MemoryRoutes} {p : Packet} :
    p ∈ d.announces ↔ (∃ id, d.Owns id ∧ p = d.announcement [id]) ∨ (∀ id, ¬ d.Owns id) ∧ p = d.announcement [] := by
  simp only [owns_iff]
  unfold announces
  rw [dumpRoutes_eq]
  dsimp only
  generalize d.routes.dump .own (.destinations d.types.ad) = own
  cases own with
  | nil => simp
  | cons r rest =>
    have hsome : ¬ ∀ id, ¬ ∃ s ∈ r :: rest, s.dst.id = id := fun h => h _ ⟨r, List.mem_cons_self, rfl⟩
    rw [or_iff_left fun h => hsome h.1]
    simp [eq_comm]

theorem Owns.congr {d d' : Daemon MemoryRoutes} (hs : SameHost d d') (hr : d'.routes.ownRoutes = d.routes.ownRoutes)
    {id : Identifier} : d'.Owns id ↔ d.Owns id := by
  rw [Owns, Owns, hr, adXid, adXid, hs.types]

/-! ## What is known -/

/-- The tables say what is so: own prefixes are owned, neighbors are other hosts, and each prefix that is routed goes
through another host that owns it. -/
structure Knows (w : World) (d : Daemon MemoryRoutes) : Prop where
  types : d.types.ad ≠ d.types.ether
  length : ∀ a, w.host a → a.length = d.link.hwaddr.length
  own : ∀ id, d.Owns id → w.owns d.link.hwaddr id
  met : ∀ p ∈ d.neighbors.directory, w.host p.1 ∧ p.1 ≠ d.link.hwaddr
  through : ∀ r ∈ d.routes.mainRoutes, r.dst.type = d.types.ad →
    ∃ a, a ≠ d.link.hwaddr ∧ w.owns a r.dst.id ∧ r.gateway = some (d.etherXid a)

variable {w : World} {d d' : Daemon MemoryRoutes}

namespace Knows

variable (h : Knows w d)
include h

/-- What is new in the tables is so. -/
theorem of_new (hs : SameHost d d') (hown : d'.routes.ownRoutes = d.routes.ownRoutes)
    (hmet : ∀ p ∈ d'.neighbors.directory, p ∈ d.neighbors.directory ∨ w.host p.1 ∧ p.1 ≠ d.link.hwaddr)
    (hthrough : ∀ r ∈ d'.routes.mainRoutes, r.dst.type = d.types.ad → r ∈ d.routes.mainRoutes ∨
      ∃ a, a ≠ d.link.hwaddr ∧ w.owns a r.dst.id ∧ r.gateway = some (d.etherXid a)) : Knows w d' where
  types := by
    rw [hs.types]
    exact h.types
  length := by
    rw [hs.link]
    exact h.length
  own id hid := by
    rw [hs.link]
    exact h.own id ((Owns.congr hs hown).1 hid)
  met p hp := by
    rw [hs.link]
    exact (hmet p hp).elim (h.met p) fun hnew => hnew
  through r hr ht := by
    rw [hs.types] at ht
    rw [hs.link, hs.etherXid]
    exact (hthrough r hr ht).elim (fun hold => h.through r hold ht) fun hnew => hnew

theorem still (hs : Still d d') : Knows w d' :=
  h.of_new hs.toSameHost (by rw [hs.routes]) (fun p hp => .inl (hs.directory ▸ hp)) fun r hr _ => .inl (hs.routes ▸ hr)

theorem host (a : HwAddr) : Knows w (d.installRoute (d.etherXid a) none).2 := by
  refine h.of_new ⟨rfl, rfl, rfl, rfl⟩ (MemoryRoutes.ownRoutes_add _ _ _) (fun p hp => .inl hp) fun r hr ht => ?_
  rcases MemoryRoutes.mem_mainRoutes_add.1 hr with ⟨hr, -⟩ | rfl
  · exact .inl hr
  · exact absurd ht.symm h.types

theorem route {a : HwAddr} (hne : a ≠ d.link.hwaddr) {id : Identifier} (ha : w.owns a id) :
    Knows w (d.installRoute (d.adXid id) (some (d.etherXid a))).2 := by
  refine h.of_new ⟨rfl, rfl, rfl, rfl⟩ (MemoryRoutes.ownRoutes_add _ _ _) (fun p hp => .inl hp) fun r hr _ => ?_
  rcases MemoryRoutes.mem_mainRoutes_add.1 hr with ⟨hr, -⟩ | rfl
  · exact .inl hr
  · exact .inr ⟨a, hne, ha, rfl⟩

theorem entry {a : HwAddr} (ha : w.host a) (hne : a ≠ d.link.hwaddr) : Knows w (d.register a (d.etherXid a)) := by
  refine h.of_new (register_sameHost d a) (by rw [register_routes]) (fun p hp => ?_) fun r hr _ => .inl ?_
  · rw [(register_aside d a).neighbors] at hp
    rcases NeighborTable.mem_directory_getOrCreate.1 hp with hp | ⟨-, rfl⟩
    · exact .inl hp
    · exact .inr ⟨ha, hne⟩
  · rwa [register_routes] at hr

theorem absorbs {tells : HwAddr → Option Identifier → Prop} (ht : ∀ {a id}, tells a id → w.Confirms d.link a id)
    (ha : Absorbs tells d d') : Knows w d' := by
  induction ha with
  | refl => exact h
  | still _ hs ih => exact ih.still hs
  | @host _ a _ _ ih => exact ih.host a
  | route ha hid ih =>
    obtain ⟨-, hne, howns⟩ := ht hid
    rw [← ha.sameHost.link] at hne
    exact ih.route hne (howns _ rfl)
  | entry ha hn ih =>
    obtain ⟨hhost, hne, -⟩ := ht hn
    rw [← ha.sameHost.link] at hne
    exact ih.entry hhost hne

theorem loses {n : Neighbor} (hl : Loses d n d') : Knows w d' := by
  obtain ⟨keeps, hown, hroutes⟩ := hl.routes
  refine h.of_new hl.toSameHost (MemoryRoutes.ownRoutes_filter hroutes hown) (fun p hp => .inl ?_) fun r hr _ => .inl ?_
  · rw [hl.neighbors, NeighborTable.directory] at hp
    exact (List.filter_sublist.map _).subset hp
  · rw [MemoryRoutes.mem_mainRoutes, hroutes] at hr
    exact MemoryRoutes.mem_mainRoutes.2 ⟨(List.mem_filter.1 hr.1).1, hr.2⟩

/-- A host that hears what is so knows what is so. -/
theorem shifts {e : Event} (hs : Shifts d e d') (he : w.Truthful e) : Knows w d' := by
  cases hs with
  | absorbs ha =>
    obtain ⟨hs, hp⟩ := he _ _ rfl
    exact h.absorbs (fun ⟨p, hd, ht⟩ => (hp p hd).confirms hs ht) ha
  | loses hl => exact h.loses hl
  | still hs => exact h.still hs

/-! ## What is said -/

theorem announces_tells {p : Packet} (hp : p ∈ d.announces) : w.Tells d.link.hwaddr p := by
  rcases mem_announces_iff.1 hp with ⟨id, hid, rfl⟩ | ⟨-, rfl⟩
  · exact ⟨rfl, List.forall_mem_singleton.2 (h.own id hid)⟩
  · exact ⟨rfl, nofun⟩

/-- Every host of the list has the prefix under which it stands. -/
theorem listing_tells {list : NeighborList} (hl : d.listing? = some list) (teller : HwAddr) :
    w.Tells teller (.neighborList list) := by
  unfold listing? at hl
  rw [dumpRoutes_eq] at hl
  dsimp only at hl
  rw [dumpRoutes_eq] at hl
  cases hl
  intro r hr a ha
  obtain ⟨s, hs, hid, hg⟩ := mem_listNeighbors hr ha
  obtain ⟨hs, htable, haccepts⟩ := MemoryRoutes.mem_dump.1 hs
  obtain ⟨b, -, howns, hb⟩ := h.through s (MemoryRoutes.mem_mainRoutes.2 ⟨hs, htable⟩)
    (RouteFilter.type_of_accepts rfl haccepts)
  rw [hb] at hg
  -- the address that is read off the gateway is the one it was made of
  have hread := etherHwAddr?_of_hostBehind? hg
  rw [← h.length b (w.host_of_owns howns), etherXid, Xid.etherHwAddr?_ether] at hread
  rw [← Option.some.inj hread, ← hid]
  exact howns

theorem listingTo_tells {dest : HwAddr} {u : Utterance} (hu : u ∈ d.listingTo dest) : w.Tells d.link.hwaddr u.2 := by
  obtain ⟨list, hl, rfl⟩ := List.mem_map.1 hu
  exact h.listing_tells (Option.mem_toList.1 hl) _

/-- What a packet that says what is so moves a host to say, is so. -/
theorem reply_tells {sender : HwAddr} (hs : w.host sender) {p : Packet} (hp : w.Tells sender p) {u : Utterance}
    (hu : d.Reply sender p u) : w.Tells d.link.hwaddr u.2 := by
  cases hu with
  | @list a _ hr hu =>
    have hlearn : Absorbs (Told d.link sender (.announce a)) d (d.learn sender a) :=
      learn_absorbs d (.announcer hr) fun _ hid => .announced hr hid
    rw [← hlearn.sameHost.link]
    exact (h.absorbs (hp.confirms hs) hlearn).listingTo_tells hu
  | announce _ hq => exact h.announces_tells hq
  | ack | answer | probe => trivial

/-- A host that knows what is so and hears what is so says what is so. -/
theorem utters_tells {e : Event} {said : List Utterance} (hsaid : d.Utters e said) (he : w.Truthful e)
    {u : Utterance} (hu : u ∈ said) : w.Tells d.link.hwaddr u.2 := by
  cases hsaid with
  | nothing => cases hu
  | answers sender bytes =>
    obtain ⟨hs, hp⟩ := he sender bytes rfl
    obtain ⟨p, hd, hreply⟩ := Reply.of_mem_answers hu
    have hcount : Still d (d.counted p) := ⟨⟨rfl, rfl, rfl, rfl⟩, rfl, rfl⟩
    exact (h.still hcount).reply_tells hs (hp p hd) hreply
  | announces =>
    obtain ⟨p, hp, rfl⟩ := List.mem_map.1 hu
    exact h.announces_tells hp
  | ping =>
    rw [List.mem_singleton.1 hu]
    trivial
  | requests =>
    obtain ⟨relay, -, rfl⟩ := List.mem_map.1 hu
    trivial

end Knows

end Daemon

end Neighborhood
