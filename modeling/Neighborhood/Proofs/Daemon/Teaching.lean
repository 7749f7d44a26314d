import Neighborhood.Proofs.Daemon.Routed

/-!
# What packets teach

Announces and lists are all that routes and new entries come from. What they teach is one list, in order, and what a host
does about it is fixed by this list.

* `Teaching`, `Packet.teachings` — a host that is there with the prefixes behind it, as a packet tells it
* `Daemon.additions` — the routes that are added for one teaching
* `Daemon.Learns` — the routes of a list of teachings have been added in order, and their hosts have entries
* `Daemon.handleFrame_learns` — this, and nothing else, happens to routes and to who is known when a frame is handled
-/

namespace Neighborhood

/-- A host that is there, and prefixes that are behind it. -/
structure Teaching where
  host : HwAddr
  prefixes : List Identifier

/-- The one host of a record, unless it is this host, and the prefix of the record. -/
def NeighborRecord.teachings (link : LocalLink) (r : NeighborRecord) : List Teaching :=
  (r.hosts link).map fun a => ⟨a, [r.xid]⟩

/-- What a packet from `sender` teaches, in order. -/
def Packet.teachings (link : LocalLink) (sender : HwAddr) : Packet → List Teaching
  | .announce a => if a.rejection? link sender = none then [⟨sender, a.xids⟩] else []
  | .neighborList l =>
    if l.haddrLen.toNat = link.hwaddr.length then l.neighbors.flatMap (·.teachings link) else []
  | .monitor _ | .investigation _ => []

/-- What a frame teaches, if it is read. -/
def taughtByFrame (link : LocalLink) (sender : HwAddr) (bytes : List UInt8) : List Teaching :=
  match Packet.decode bytes with
  | .ok p => p.teachings link sender
  | .error _ => []

/-- An announce that the rules let through teaches of its sender. -/
theorem taughtByFrame_announce {link : LocalLink} {sender : HwAddr} {bytes : List UInt8} {a : Announce}
    (hp : Packet.decode bytes = .ok (.announce a)) (hr : a.rejection? link sender = none) :
    taughtByFrame link sender bytes = [⟨sender, a.xids⟩] := by
  rw [taughtByFrame, hp]
  simp only [Packet.teachings]
  rw [if_pos hr]

theorem NeighborRecord.map_host_teachings (link : LocalLink) (r : NeighborRecord) :
    (r.teachings link).map (·.host) = r.hosts link := by
  rw [teachings, List.map_map]
  exact List.map_id _

theorem map_host_teachings (link : LocalLink) (rs : List NeighborRecord) :
    (rs.flatMap (·.teachings link)).map (·.host) = rs.flatMap (·.hosts link) := by
  simp only [List.map_flatMap, NeighborRecord.map_host_teachings]

/-- A record teaches of its only host, which is another than this. -/
theorem NeighborRecord.mem_teachings {link : LocalLink} {r : NeighborRecord} {t : Teaching} :
    t ∈ r.teachings link ↔ r.hwaddrs = [t.host] ∧ t.host ≠ link.hwaddr ∧ t.prefixes = [r.xid] := by
  obtain ⟨host, prefixes⟩ := t
  obtain ⟨xid, hwaddrs⟩ := r
  match hwaddrs with
  | [a] =>
    by_cases ha : a = link.hwaddr
    · simp only [teachings, hosts, if_pos ha]
      refine iff_of_false List.not_mem_nil ?_
      rintro ⟨he, hne, -⟩
      cases he
      exact hne ha
    · simp only [teachings, hosts, if_neg ha, List.map_cons, List.map_nil, List.mem_singleton, Teaching.mk.injEq,
        List.cons.injEq, and_true]
      constructor
      · rintro ⟨rfl, rfl⟩
        exact ⟨rfl, ha, rfl⟩
      · rintro ⟨rfl, -, rfl⟩
        exact ⟨rfl, rfl⟩
  | [] | _ :: _ :: _ => simp [teachings, hosts]

namespace Daemon

variable {σ : Type}

/-- The routes that are added for what is taught: the one to the host, and then those to the prefixes through it. -/
def additions (d : Daemon σ) (t : Teaching) : List (Xid × Option Xid) :=
  (d.etherXid t.host, none) :: t.prefixes.map fun id => (d.adXid id, some (d.etherXid t.host))

theorem SameHost.adXid {d d' : Daemon σ} (h : SameHost d d') : d'.adXid = d.adXid := by
  funext id
  simp only [Daemon.adXid, h.types]

theorem SameHost.additions {d d' : Daemon σ} (h : SameHost d d') : d'.additions = d.additions := by
  funext t
  simp only [Daemon.additions, h.etherXid, h.adXid]

section
variable {d : Daemon σ} {t : Teaching} {w : Xid × Option Xid}

theorem mem_additions : w ∈ d.additions t ↔
    w = (d.etherXid t.host, none) ∨ ∃ id ∈ t.prefixes, w = (d.adXid id, some (d.etherXid t.host)) := by
  simp only [additions, List.mem_cons, List.mem_map, eq_comm]

theorem host_mem_additions (d : Daemon σ) (t : Teaching) : (d.etherXid t.host, none) ∈ d.additions t :=
  mem_additions.2 (.inl rfl)

theorem prefix_mem_additions (d : Daemon σ) {id : Identifier} (hid : id ∈ t.prefixes) :
    (d.adXid id, some (d.etherXid t.host)) ∈ d.additions t :=
  mem_additions.2 (.inr ⟨id, hid, rfl⟩)

/-- Prefixes and hosts have different types: what is added for an identity is the route on the link. -/
theorem snd_of_mem_additions (ht : d.types.ad ≠ d.types.ether) (hw : w ∈ d.additions t)
    (hty : w.1.type = d.types.ether) : w = (d.etherXid t.host, none) := by
  rcases mem_additions.1 hw with rfl | ⟨id, -, rfl⟩
  · rfl
  · exact absurd hty ht

/-- What is added for a prefix leads through the host of the teaching. -/
theorem eq_of_mem_additions (ht : d.types.ad ≠ d.types.ether) {id : Identifier} (hw : w ∈ d.additions t)
    (he : w.1 = d.adXid id) : id ∈ t.prefixes ∧ w = (d.adXid id, some (d.etherXid t.host)) := by
  rcases mem_additions.1 hw with rfl | ⟨id', hid, rfl⟩
  · exact absurd (congrArg Xid.type he).symm ht
  · obtain rfl : id' = id := congrArg Xid.id he
    exact ⟨hid, rfl⟩

/-- Whoever is taught of is on the link. -/
theorem routesTo_host (ht : d.types.ad ≠ d.types.ether) {l : List Teaching} (hmem : t ∈ l) (m : MemoryRoutes) :
    (m.addAll (l.flatMap d.additions)).routesTo (d.etherXid t.host) = [⟨.main, d.etherXid t.host, none⟩] := by
  refine MemoryRoutes.routesTo_addAll_of_forall_eq
    ⟨_, List.mem_flatMap.2 ⟨t, hmem, host_mem_additions d t⟩, rfl⟩ (fun w hw he => ?_) m
  obtain ⟨u, -, hwu⟩ := List.mem_flatMap.1 hw
  rw [snd_of_mem_additions ht hwu (congrArg Xid.type he)]

/-- A prefix is behind the host that is taught for it, if it is the only one. -/
theorem routesTo_prefix (ht : d.types.ad ≠ d.types.ether) {l : List Teaching} (hmem : t ∈ l) {id : Identifier}
    (hid : id ∈ t.prefixes) (honly : ∀ u ∈ l, id ∈ u.prefixes → u.host = t.host) (m : MemoryRoutes) :
    (m.addAll (l.flatMap d.additions)).routesTo (d.adXid id) =
      [⟨.main, d.adXid id, some (d.etherXid t.host)⟩] := by
  refine MemoryRoutes.routesTo_addAll_of_forall_eq
    ⟨_, List.mem_flatMap.2 ⟨t, hmem, prefix_mem_additions d hid⟩, rfl⟩ (fun w hw he => ?_) m
  obtain ⟨u, hu, hwu⟩ := List.mem_flatMap.1 hw
  obtain ⟨hidu, rfl⟩ := eq_of_mem_additions ht hwu he
  rw [honly u hu hidu]

end

/-! ## Learning -/

/-- What is taught is learned: its routes have been added in order, its hosts have entries, and nothing else has happened
to routes and to who is known. -/
structure Learns (d : Daemon MemoryRoutes) (l : List Teaching) (d' : Daemon MemoryRoutes) : Prop
    extends SameHost d d' where
  routes : d'.routes = d.routes.addAll (l.flatMap d.additions)
  known : ∀ a, d'.neighbors.get? a ≠ none ↔ d.neighbors.get? a ≠ none ∨ a ∈ l.map (·.host)

namespace Learns

variable {d d₁ d₂ : Daemon MemoryRoutes} {l l' : List Teaching}

theorem trans (h₁ : Learns d l d₁) (h₂ : Learns d₁ l' d₂) : Learns d (l ++ l') d₂ where
  toSameHost := h₁.toSameHost.trans h₂.toSameHost
  routes := by
    rw [h₂.routes, h₁.routes, h₁.toSameHost.additions, List.flatMap_append, MemoryRoutes.addAll_append]
  known a := by
    rw [h₂.known, h₁.known, List.map_append, List.mem_append, or_assoc]

theorem of_still (h : Still d d₁) : Learns d [] d₁ where
  toSameHost := h.toSameHost
  routes := h.routes
  known a := by
    rw [NeighborTable.get?_ne_none_iff, NeighborTable.get?_ne_none_iff, h.directory]
    simp

theorem still (h₁ : Learns d l d₁) (h₂ : Still d₁ d₂) : Learns d l d₂ := by
  have h := h₁.trans (of_still h₂)
  rwa [List.append_nil] at h

end Learns

theorem installPrefixes_routes (gateway : Xid) : ∀ (ids : List Identifier) (d : Daemon MemoryRoutes),
    (d.installPrefixes gateway ids).routes = d.routes.addAll (ids.map fun id => (d.adXid id, some gateway))
  | [], _ => rfl
  | id :: ids, d => installPrefixes_routes gateway ids (d.installRoute (d.adXid id) (some gateway)).2

theorem acceptAnnounce_routes (d : Daemon MemoryRoutes) (sender : HwAddr) (a : Announce) :
    (d.acceptAnnounce sender a).routes = d.routes.addAll (d.additions ⟨sender, a.xids⟩) := by
  have hs : SameHost d ((d.installRoute (d.etherXid sender) none).2.register sender (d.etherXid sender)) :=
    (installRoute_outward d _ _).aside.sameHost.trans (register_sameHost _ sender)
  have hlearn : (d.learn sender a).routes = _ := installPrefixes_routes (d.etherXid sender) a.xids _
  rw [register_routes, hs.adXid] at hlearn
  rw [acceptAnnounce_eq]
  exact (replyTo_still (d.learn sender a) sender).routes.trans hlearn

theorem acceptRecord_routes (d : Daemon MemoryRoutes) (r : NeighborRecord) :
    (d.acceptRecord r).routes = d.routes.addAll ((r.teachings d.link).flatMap d.additions) := by
  obtain ⟨xid, hwaddrs⟩ := r
  match hwaddrs with
  | [a] =>
    simp only [acceptRecord, NeighborRecord.teachings, NeighborRecord.hosts]
    split
    · rfl
    · rw [register_routes]
      rfl
  | [] | _ :: _ :: _ => rfl

theorem acceptRecords_routes : ∀ (rs : List NeighborRecord) (d : Daemon MemoryRoutes),
    (d.acceptRecords rs).routes = d.routes.addAll ((rs.flatMap (·.teachings d.link)).flatMap d.additions)
  | [], _ => rfl
  | r :: rs, d => by
    have ha := (acceptRecord_aside d r).sameHost
    have hs : SameHost d (d.acceptRecord r) := ⟨ha.config, ha.link, ha.types, ha.sleep⟩
    rw [acceptRecords, acceptRecords_routes rs, acceptRecord_routes, hs.link, hs.additions, List.flatMap_cons,
      List.flatMap_append, MemoryRoutes.addAll_append]

/-- An announce or a list gives entries to the hosts that it teaches of, and leaves other entries alone. -/
theorem processAnnounce_neighbors (d : Daemon MemoryRoutes) (sender : HwAddr) (a : Announce) :
    (d.processAnnounce sender a).2.neighbors =
      d.neighbors.introduce d.etherXid (((Packet.announce a).teachings d.link sender).map (·.host)) := by
  rw [(processAnnounce_aside d sender a).neighbors, News.ofPacket, Packet.teachings]
  split <;> rfl

theorem processNeighborList_neighbors (d : Daemon MemoryRoutes) (sender : HwAddr) (list : NeighborList) :
    (d.processNeighborList list).2.neighbors =
      d.neighbors.introduce d.etherXid (((Packet.neighborList list).teachings d.link sender).map (·.host)) := by
  rw [(processNeighborList_aside d sender list).neighbors, News.ofPacket, Packet.teachings]
  split
  · rw [map_host_teachings]
    rfl
  · rfl

theorem processAnnounce_routes (d : Daemon MemoryRoutes) (sender : HwAddr) (a : Announce) :
    (d.processAnnounce sender a).2.routes =
      d.routes.addAll (((Packet.announce a).teachings d.link sender).flatMap d.additions) := by
  simp only [processAnnounce, Packet.teachings]
  cases hr : a.rejection? d.link sender with
  | some cause => rfl
  | none =>
    rw [if_pos rfl, List.flatMap_singleton]
    exact acceptAnnounce_routes d sender a

theorem processNeighborList_routes (d : Daemon MemoryRoutes) (sender : HwAddr) (list : NeighborList) :
    (d.processNeighborList list).2.routes =
      d.routes.addAll (((Packet.neighborList list).teachings d.link sender).flatMap d.additions) := by
  simp only [processNeighborList, Packet.teachings]
  by_cases hl : list.haddrLen.toNat = d.link.hwaddr.length
  · rw [if_neg (not_not_intro hl), if_pos hl]
    exact acceptRecords_routes list.neighbors d
  · rw [if_pos hl, if_neg hl]
    rfl

theorem process_sameHost (d : Daemon MemoryRoutes) (sender : HwAddr) (p : Packet) :
    SameHost d (d.process sender p).2 :=
  (heed_sameHost d _).trans (process_aside d sender p).sameHost

theorem process_learns (d : Daemon MemoryRoutes) (sender : HwAddr) :
    ∀ p, Learns d (p.teachings d.link sender) (d.process sender p).2
  | .announce a => {
    toSameHost := process_sameHost d sender (.announce a)
    routes := processAnnounce_routes d sender a
    known := fun b => by
      rw [process, processAnnounce_neighbors, NeighborTable.get?_introduce_ne_none_iff] }
  | .neighborList list => {
    toSameHost := process_sameHost d sender (.neighborList list)
    routes := processNeighborList_routes d sender list
    known := fun b => by
      rw [process, processNeighborList_neighbors d sender, NeighborTable.get?_introduce_ne_none_iff] }
  | .monitor p => .of_still (processMonitor_tends d sender p).still
  | .investigation p => .of_still (processInvestigation_still d sender p)

/-- What a frame teaches is learned, and nothing else happens to routes and to who is known. -/
theorem handleFrame_learns (d : Daemon MemoryRoutes) (sender : HwAddr) (bytes : List UInt8) :
    Learns d (taughtByFrame d.link sender bytes) (d.handleFrame sender bytes).2 := by
  unfold handleFrame taughtByFrame
  cases Packet.decode bytes with
  | error e => exact .of_still (judge_still d _)
  | ok p =>
    have hc : Learns d [] { d with metrics := d.metrics.recordReceived p.kind } :=
      .of_still ⟨⟨rfl, rfl, rfl, rfl⟩, rfl, rfl⟩
    exact (hc.trans (process_learns _ sender p)).still (judge_still _ _)

end Daemon

end Neighborhood
