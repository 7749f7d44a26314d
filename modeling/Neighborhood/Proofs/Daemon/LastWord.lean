import Neighborhood.Proofs.Daemon.Teaching

/-!
# The last word counts

While nobody is evicted, neighbors and routes are a function of what announces and lists have taught, in order: whoever
was named is a neighbor, and a prefix is behind the host that was named last for it.

* `Daemon.Takes` — a host has processed a sequence of announces and lists, whatever else it has said and drawn meanwhile
* `Daemon.Takes.learned` — the routes and the entries that result
* `Daemon.LastWord` — the state in which a host is that knew nobody
* `Daemon.last_word_counts` — this; and a packet that is repeated changes nothing, and packets that name no common prefix
  may come in either order
-/

namespace Neighborhood

/-- Announces and lists teach where hosts and prefixes are; the other packets are probes. -/
def Packet.teaches : Packet → Bool
  | .announce _ | .neighborList _ => true
  | .monitor _ | .investigation _ => false

/-- The prefixes that a packet names, whether it is accepted or not. -/
def Packet.names : Packet → List Identifier
  | .announce a => a.xids
  | .neighborList l => l.neighbors.map (·.xid)
  | .monitor _ | .investigation _ => []

/-- Whatever prefix is taught is named. -/
theorem Packet.mem_names {link : LocalLink} {sender : HwAddr} {t : Teaching} {id : Identifier} (hid : id ∈ t.prefixes) :
    ∀ {p : Packet}, t ∈ p.teachings link sender → id ∈ p.names
  | .announce a, ht => by
    rw [teachings] at ht
    split at ht
    · rw [List.mem_singleton.1 ht] at hid
      exact hid
    · cases ht
  | .neighborList l, ht => by
    rw [teachings] at ht
    split at ht
    · obtain ⟨r, hr, ht⟩ := List.mem_flatMap.1 ht
      obtain ⟨-, -, hp⟩ := NeighborRecord.mem_teachings.1 ht
      rw [hp, List.mem_singleton] at hid
      rw [hid]
      exact List.mem_map_of_mem hr
    · cases ht

/-- What packets teach, each with its sender, one after another. -/
def taughtBy (link : LocalLink) (l : List (HwAddr × Packet)) : List Teaching :=
  l.flatMap fun q => q.2.teachings link q.1

theorem taughtBy_append (link : LocalLink) (l l' : List (HwAddr × Packet)) :
    taughtBy link (l ++ l') = taughtBy link l ++ taughtBy link l' :=
  List.flatMap_append

theorem taughtBy_singleton (link : LocalLink) (q : HwAddr × Packet) : taughtBy link [q] = q.2.teachings link q.1 :=
  List.flatMap_singleton _ _

theorem taughtBy_pair (link : LocalLink) (q q' : HwAddr × Packet) :
    taughtBy link [q, q'] = q.2.teachings link q.1 ++ q'.2.teachings link q'.1 := by
  rw [← taughtBy_singleton, ← taughtBy_singleton, ← taughtBy_append, List.singleton_append]

namespace Daemon

/-! ## Sequences of packets -/

/-- `Takes d₀ l d`: from `d₀` on, the announces and lists `l` have been processed, each with its sender, and between them
nothing has happened to neighbors, timers and routes. Whether lists were sent in answer, and what was drawn for this, is
left open. -/
inductive Takes (d₀ : Daemon MemoryRoutes) : List (HwAddr × Packet) → Daemon MemoryRoutes → Prop
  | nil : Takes d₀ [] d₀
  | packet {l : List (HwAddr × Packet)} {d : Daemon MemoryRoutes} {p : Packet} (sender : HwAddr) : Takes d₀ l d →
      p.teaches = true → Takes d₀ (l ++ [(sender, p)]) (d.process sender p).2
  | aside {l : List (HwAddr × Packet)} {d d' : Daemon MemoryRoutes} : Takes d₀ l d → Aside d d' →
      d'.routes = d.routes → Takes d₀ l d'

variable {d₀ d d' : Daemon MemoryRoutes} {l : List (HwAddr × Packet)}

/-- To process a packet is what a host does about the frame of it. -/
theorem Takes.frame {sender : HwAddr} {bytes : List UInt8} {p : Packet} (h : Takes d₀ l d)
    (hp : Packet.decode bytes = .ok p) (ht : p.teaches = true) :
    Takes d₀ (l ++ [(sender, p)]) (d.handleFrame sender bytes).2 := by
  unfold handleFrame
  rw [hp]
  have hc : Takes d₀ l { d with metrics := d.metrics.recordReceived p.kind } := h.aside ⟨rfl, rfl, rfl, rfl, rfl, rfl⟩ rfl
  exact (hc.packet sender ht).aside (judge_aside _ _) (judge_still _ _).routes

theorem process_neighbors (d : Daemon MemoryRoutes) (sender : HwAddr) : ∀ {p : Packet}, p.teaches = true →
    (d.process sender p).2.neighbors = d.neighbors.introduce d.etherXid ((p.teachings d.link sender).map (·.host))
  | .announce a, _ => processAnnounce_neighbors d sender a
  | .neighborList list, _ => processNeighborList_neighbors d sender list

/-- The routes of all that was taught have been added in order, and so have the entries of the hosts. -/
structure Learned (d₀ : Daemon MemoryRoutes) (l : List Teaching) (d : Daemon MemoryRoutes) : Prop
    extends SameHost d₀ d where
  routes : d.routes = d₀.routes.addAll (l.flatMap d₀.additions)
  neighbors : d.neighbors = d₀.neighbors.introduce d₀.etherXid (l.map (·.host))

theorem Takes.learned (h : Takes d₀ l d) : Learned d₀ (taughtBy d₀.link l) d := by
  induction h with
  | nil => exact ⟨.refl d₀, rfl, rfl⟩
  | @packet l d p sender _ ht ih =>
    have hp := process_learns d sender p
    have hs := ih.toSameHost
    rw [taughtBy_append, taughtBy_singleton, ← hs.link]
    refine ⟨hs.trans hp.toSameHost, ?_, ?_⟩
    · rw [hp.routes, ih.routes, hs.additions, List.flatMap_append, MemoryRoutes.addAll_append, ← hs.link]
    · rw [process_neighbors d sender ht, ih.neighbors, hs.etherXid, List.map_append, NeighborTable.introduce_append,
        ← hs.link]
  | aside _ ha hr ih =>
    exact ⟨ih.toSameHost.trans ha.sameHost, hr.trans ih.routes, ha.neighbors.trans ih.neighbors⟩

/-! ## The last word -/

/-- The last addition for a prefix is that of the last teaching that names it. -/
theorem getLast?_additions (ht : d.types.ad ≠ d.types.ether) (id : Identifier) : ∀ l : List Teaching,
    ((l.flatMap d.additions).filter (·.1 = d.adXid id)).getLast? =
      (l.filter (id ∈ ·.prefixes)).getLast?.map fun t => (d.adXid id, some (d.etherXid t.host))
  | [] => rfl
  | t :: l => by
    have hone : ((d.additions t).filter (·.1 = d.adXid id)).getLast? =
        if id ∈ t.prefixes then some (d.adXid id, some (d.etherXid t.host)) else none := by
      cases hl : ((d.additions t).filter (·.1 = d.adXid id)).getLast? with
      | none =>
        rw [if_neg]
        intro hid
        simpa using List.filter_eq_nil_iff.1 (List.getLast?_eq_none_iff.1 hl) _ (prefix_mem_additions d hid)
      | some w =>
        have hw := List.mem_of_getLast? hl
        simp only [List.mem_filter, decide_eq_true_eq] at hw
        obtain ⟨hid, rfl⟩ := eq_of_mem_additions ht hw.1 hw.2
        rw [if_pos hid]
    rw [List.flatMap_cons, List.filter_append, List.getLast?_append, hone, getLast?_additions ht id l]
    by_cases hid : id ∈ t.prefixes
    · rw [if_pos hid, List.filter_cons_of_pos (by simpa using hid), List.getLast?_cons]
      cases (l.filter (id ∈ ·.prefixes)).getLast? <;> rfl
    · rw [if_neg hid, List.filter_cons_of_neg (by simpa using hid), Option.or_none]

/-- What a host knows that has been taught `l` and knew nobody before: the hosts that were named are its neighbors, and
nothing is awaited of them; the routes to hosts are theirs; and a prefix is routed through the host of the last teaching
that names it. -/
structure LastWord (d₀ : Daemon MemoryRoutes) (l : List Teaching) (d : Daemon MemoryRoutes) : Prop
    extends SameHost d₀ d where
  distinct : (d.neighbors.entries.map (·.hwaddr)).Nodup
  known : ∀ a, d.neighbors.get? a ≠ none ↔ ∃ t ∈ l, t.host = a
  entries : ∀ n ∈ d.neighbors.entries,
    n.identity = d₀.etherXid n.hwaddr ∧ n.liveness = .idle ∧ n.timer? = none ∧ n.clock = 0
  simple : d.routes.Simple
  direct : ∀ r, r ∈ d.routes.mainRoutes ∧ r.dst.type = d₀.types.ether ↔
    ∃ t ∈ l, r = ⟨.main, d₀.etherXid t.host, none⟩
  last : ∀ id, d.routes.get? (d₀.adXid id) = (l.filter (id ∈ ·.prefixes)).getLast?.map fun t =>
    ⟨.main, d₀.adXid id, some (d₀.etherXid t.host)⟩

theorem Learned.lastWord {l : List Teaching} (h : Learned d₀ l d) (h₀ : d₀.IsFresh)
    (ht : d₀.types.ad ≠ d₀.types.ether) (hm : d₀.routes.mainRoutes = []) : LastWord d₀ l d := by
  have hw : d.neighbors.WellFormed := by
    rw [h.neighbors, h₀.neighbors]
    exact NeighborTable.introduce_wellFormed _ _ NeighborTable.empty_wellFormed
  have hknown : ∀ a, d.neighbors.get? a ≠ none ↔ ∃ t ∈ l, t.host = a := by
    intro a
    rw [h.neighbors, NeighborTable.get?_introduce_ne_none_iff, h₀.neighbors, List.mem_map]
    exact or_iff_right fun hne => hne rfl
  refine { h with distinct := hw.hwaddrs, known := hknown, entries := ?_, simple := ?_, direct := ?_, last := ?_ }
  · intro n hn
    have hg := hw.get?_eq_some_iff.2 ⟨hn, rfl⟩
    have hhost := List.mem_map.2 ((hknown n.hwaddr).1 (by rw [hg]; exact Option.some_ne_none n))
    rw [h.neighbors, h₀.neighbors] at hg
    obtain ⟨ref, hnew⟩ := NeighborTable.get?_introduce_of_mem d₀.etherXid (t := {}) (l.map (·.host)) rfl hhost
    have he := Option.some.inj (hg.symm.trans hnew)
    exact ⟨congrArg Neighbor.identity he, congrArg Neighbor.liveness he, congrArg Neighbor.timer? he,
      congrArg Neighbor.clock he⟩
  · rw [h.routes]
    exact MemoryRoutes.Simple.addAll (by simp [MemoryRoutes.Simple, hm]) _
  · intro r
    rw [h.routes]
    constructor
    · rintro ⟨hr, hty⟩
      rcases MemoryRoutes.mem_mainRoutes_addAll hr with hr | ⟨w, hmem, rfl⟩
      · rw [hm] at hr
        cases hr
      · obtain ⟨t, hmem, hwt⟩ := List.mem_flatMap.1 hmem
        exact ⟨t, hmem, by rw [snd_of_mem_additions ht hwt hty]⟩
    · rintro ⟨t, hmem, rfl⟩
      have hroute := MemoryRoutes.mem_routesTo.1 ((routesTo_host ht hmem d₀.routes).symm ▸ List.mem_singleton_self _)
      exact ⟨hroute.1, rfl⟩
  · intro id
    have hnone : d₀.routes.routesTo (d₀.adXid id) = [] := by rw [MemoryRoutes.routesTo, hm]; rfl
    rw [MemoryRoutes.get?_eq_head?, h.routes, MemoryRoutes.routesTo_addAll, hnone, getLast?_additions ht]
    cases (l.filter (id ∈ ·.prefixes)).getLast? <;> rfl

/-! ## Packets that are repeated or exchanged -/

/-- What an entry shows, all but its number. -/
def shown (n : Neighbor) : Xid × Int32 × Liveness × Option TimerId := (n.identity, n.clock, n.liveness, n.timer?)

/-- What two teachings add does not contradict each other, unless they name the same prefix. -/
theorem additions_compatible (ht : d.types.ad ≠ d.types.ether) {t u : Teaching} (hn : ∀ id ∈ t.prefixes, id ∉ u.prefixes)
    {v w : Xid × Option Xid} (hv : v ∈ d.additions t) (hw : w ∈ d.additions u) (he : v.1 = w.1) : v.2 = w.2 := by
  rcases mem_additions.1 hv with rfl | ⟨id, hid, rfl⟩
  · rw [snd_of_mem_additions ht hw (congrArg Xid.type he).symm]
  · obtain ⟨hid', -⟩ := eq_of_mem_additions ht hw he.symm
    exact absurd hid' (hn id hid)

/-- A packet that has just been processed changes nothing when it comes again. -/
theorem Takes.repeated {q : HwAddr × Packet} (h : Takes d₀ (l ++ [q]) d) (h' : Takes d₀ (l ++ [q, q]) d') :
    d'.neighbors = d.neighbors ∧ ∀ x, d'.routes.get? x = d.routes.get? x := by
  have hl := h.learned
  have hl' := h'.learned
  rw [taughtBy_append, taughtBy_singleton] at hl
  rw [taughtBy_append, taughtBy_pair] at hl'
  constructor
  · simp only [hl'.neighbors, hl.neighbors, List.map_append, NeighborTable.introduce_append,
      NeighborTable.introduce_twice]
  · intro x
    simp only [MemoryRoutes.get?_eq_head?, hl'.routes, hl.routes, List.flatMap_append, MemoryRoutes.addAll_append,
      MemoryRoutes.routesTo_addAll_twice]

/-- Of two packets that name no common prefix either may come first. -/
theorem Takes.exchanged (ht : d₀.types.ad ≠ d₀.types.ether) {q q' : HwAddr × Packet}
    (hn : ∀ id ∈ q.2.names, id ∉ q'.2.names) (h : Takes d₀ (l ++ [q, q']) d) (h' : Takes d₀ (l ++ [q', q]) d') :
    (∀ a, (d'.neighbors.get? a).map shown = (d.neighbors.get? a).map shown) ∧
      ∀ x, d'.routes.get? x = d.routes.get? x := by
  have hl := h.learned
  have hl' := h'.learned
  rw [taughtBy_append, taughtBy_pair] at hl hl'
  constructor
  · intro a
    rw [hl'.neighbors, hl.neighbors, NeighborTable.map_get?_introduce (fun _ _ => rfl),
      NeighborTable.map_get?_introduce (fun _ _ => rfl)]
    simp only [List.map_append, List.mem_append, or_comm]
  · intro x
    simp only [MemoryRoutes.get?_eq_head?, hl'.routes, hl.routes, List.flatMap_append, MemoryRoutes.addAll_append]
    rw [MemoryRoutes.routesTo_addAll_comm]
    intro v hv w hw he
    obtain ⟨t, hmem, hv⟩ := List.mem_flatMap.1 hv
    obtain ⟨u, hmem', hw⟩ := List.mem_flatMap.1 hw
    refine additions_compatible ht (fun id hid hid' => ?_) hv hw he
    exact hn id (Packet.mem_names hid' hmem') (Packet.mem_names hid hmem)

/-- A host that knew nobody knows what it was taught last. In whatever state a host is, a packet that is repeated changes
neither its table nor any route, and two packets that name no common prefix may come in either order. -/
theorem last_word_counts (ht : d₀.types.ad ≠ d₀.types.ether) :
    (d₀.IsFresh → d₀.routes.mainRoutes = [] →
      ∀ {l d}, Takes d₀ l d → LastWord d₀ (taughtBy d₀.link l) d) ∧
    (∀ {l q d d'}, Takes d₀ (l ++ [q]) d → Takes d₀ (l ++ [q, q]) d' →
      d'.neighbors = d.neighbors ∧ ∀ x, d'.routes.get? x = d.routes.get? x) ∧
    ∀ {l q q' d d'}, (∀ id ∈ q.2.names, id ∉ q'.2.names) → Takes d₀ (l ++ [q, q']) d → Takes d₀ (l ++ [q', q]) d' →
      (∀ a, (d'.neighbors.get? a).map shown = (d.neighbors.get? a).map shown) ∧
        ∀ x, d'.routes.get? x = d.routes.get? x :=
  ⟨fun h₀ hm _ _ h => h.learned.lastWord h₀ ht hm, fun h h' => h.repeated h', fun hn h h' => h.exchanged ht hn h'⟩

/-! ### A prefix for which two hosts are named -/

/-- The other host announces a prefix. -/
def rumour : HwAddr × Packet := (peer, .announce { hwaddr := peer, xids := [.replicate 7] })

/-- And then it lists the prefix behind the third host. -/
def correction : HwAddr × Packet :=
  (peer, .neighborList { haddrLen := 6, neighbors := [{ xid := .replicate 7, hwaddrs := [third] }] })

/-- The third host announces another prefix. -/
def interjection : HwAddr × Packet := (third, .announce { hwaddr := third, xids := [.replicate 8] })

/-- The prefix is routed through the third host in the end, and it stays so if the list comes twice, or if the list comes
after the announce of the third host. -/
theorem last_word_counts_of_correction : ∃ d d₁ d₂ d₃, Takes (lone 5) [rumour, correction] d ∧
    Takes (lone 5) [rumour, correction, correction] d₁ ∧ Takes (lone 5) [rumour, correction, interjection] d₂ ∧
    Takes (lone 5) [rumour, interjection, correction] d₃ ∧
    LastWord (lone 5) (taughtBy (lone 5).link [rumour, correction]) d ∧
    d.routes.get? ((lone 5).adXid (.replicate 7)) =
      some ⟨.main, (lone 5).adXid (.replicate 7), some ((lone 5).etherXid third)⟩ ∧
    d₁.neighbors = d.neighbors ∧
    d₃.routes.get? ((lone 5).adXid (.replicate 7)) = d₂.routes.get? ((lone 5).adXid (.replicate 7)) := by
  obtain ⟨hlast, hrepeated, hexchanged⟩ := @last_word_counts (lone 5) (by decide)
  have hrumour : Takes (lone 5) [rumour] _ := Takes.nil.packet peer rfl
  have hd : Takes (lone 5) [rumour, correction] _ := hrumour.packet peer rfl
  have hd₁ : Takes (lone 5) [rumour, correction, correction] _ := hd.packet peer rfl
  have hd₂ : Takes (lone 5) [rumour, correction, interjection] _ := hd.packet third rfl
  have hd₃ : Takes (lone 5) [rumour, interjection, correction] _ := (hrumour.packet third rfl).packet peer rfl
  have hl := hlast (lone_isFresh 5) rfl hd
  refine ⟨_, _, _, _, hd, hd₁, hd₂, hd₃, hl, hl.last (.replicate 7), ?_, ?_⟩
  · exact (hrepeated (l := [rumour]) hd hd₁).1
  · exact (hexchanged (l := [rumour]) (by decide) hd₂ hd₃).2 _

end Daemon

end Neighborhood
