import Neighborhood.Proofs.Daemon.Teaching

/-!
# What happens to routes and neighbors in a step

Routes are held in memory.

* `Told` — what a packet tells a host: who is there, and which prefixes are behind whom
* `Daemon.Absorbs` — routes and entries have been added for what was told, one at a time, and nothing else
* `Daemon.handleFrame_announce` — whoever announces itself is known afterwards, and what it announces is routed
* `Daemon.Loses` — a neighbor has left, with routes that are withdrawn
* `Daemon.Step.shifts` — a step absorbs what a frame tells, loses a neighbor, or leaves routes and neighbors as they are
* `Daemon.Run.ownRoutes`, `Daemon.Run.announced` — own prefixes stay for ever, and so does what has been announced while
  nobody leaves
-/

namespace Neighborhood

/-- What a packet from `sender` tells a host: that another host is there, and perhaps that a prefix is behind it. -/
inductive Told (link : LocalLink) (sender : HwAddr) : Packet → HwAddr → Option Identifier → Prop
  | announcer {a : Announce} : a.rejection? link sender = none → Told link sender (.announce a) sender none
  | announced {a : Announce} {id : Identifier} : a.rejection? link sender = none → id ∈ a.xids →
      Told link sender (.announce a) sender (some id)
  | listed {l : NeighborList} {r : NeighborRecord} {a : HwAddr} : r ∈ l.neighbors → r.hwaddrs = [a] →
      a ≠ link.hwaddr → Told link sender (.neighborList l) a none
  | listedPrefix {l : NeighborList} {r : NeighborRecord} {a : HwAddr} : r ∈ l.neighbors → r.hwaddrs = [a] →
      a ≠ link.hwaddr → Told link sender (.neighborList l) a (some r.xid)

namespace Daemon

variable {tells : HwAddr → Option Identifier → Prop} {d d' d₁ d₂ : Daemon MemoryRoutes} {a : HwAddr}

/-! ## What is told is absorbed -/

/-- Routes and entries have been added for what was told, one at a time. -/
inductive Absorbs (tells : HwAddr → Option Identifier → Prop) (d : Daemon MemoryRoutes) : Daemon MemoryRoutes → Prop
  | refl : Absorbs tells d d
  | still {d' d'' : Daemon MemoryRoutes} : Absorbs tells d d' → Still d' d'' → Absorbs tells d d''
  | host {d' : Daemon MemoryRoutes} {a : HwAddr} : Absorbs tells d d' → tells a none →
      Absorbs tells d (d'.installRoute (d'.etherXid a) none).2
  | route {d' : Daemon MemoryRoutes} {a : HwAddr} {id : Identifier} : Absorbs tells d d' → tells a (some id) →
      Absorbs tells d (d'.installRoute (d'.adXid id) (some (d'.etherXid a))).2
  | entry {d' : Daemon MemoryRoutes} {a : HwAddr} : Absorbs tells d d' → tells a none →
      Absorbs tells d (d'.register a (d'.etherXid a))

namespace Absorbs

theorem trans (h₁ : Absorbs tells d d₁) (h₂ : Absorbs tells d₁ d₂) : Absorbs tells d d₂ := by
  induction h₂ with
  | refl => exact h₁
  | still _ hs ih => exact ih.still hs
  | host _ ht ih => exact ih.host ht
  | route _ ht ih => exact ih.route ht
  | entry _ ht ih => exact ih.entry ht

theorem mono {tells' : HwAddr → Option Identifier → Prop} (ht : ∀ {a id}, tells a id → tells' a id)
    (h : Absorbs tells d d') : Absorbs tells' d d' := by
  induction h with
  | refl => exact .refl
  | still _ hs ih => exact ih.still hs
  | host _ h ih => exact ih.host (ht h)
  | route _ h ih => exact ih.route (ht h)
  | entry _ h ih => exact ih.entry (ht h)

theorem sameHost (h : Absorbs tells d d') : SameHost d d' := by
  induction h with
  | refl => exact .refl d
  | still _ hs ih => exact ih.trans hs.toSameHost
  | host _ _ ih => exact ih.trans (installRoute_outward _ _ _).aside.sameHost
  | route _ _ ih => exact ih.trans (installRoute_outward _ _ _).aside.sameHost
  | entry _ _ ih => exact ih.trans (register_sameHost _ _)

end Absorbs

theorem installPrefixes_absorbs (d : Daemon MemoryRoutes) (a : HwAddr) :
    ∀ (ids : List Identifier) (d₁ : Daemon MemoryRoutes), SameHost d d₁ → (∀ id ∈ ids, tells a (some id)) →
      Absorbs tells d₁ (d₁.installPrefixes (d.etherXid a) ids)
  | [], _, _, _ => .refl
  | id :: ids, d₁, hs, ht => by
    have hroute := Absorbs.refl.route (d := d₁) (ht id List.mem_cons_self)
    rw [hs.etherXid] at hroute
    exact hroute.trans (installPrefixes_absorbs d a ids _ (hs.trans (installRoute_outward d₁ _ _).aside.sameHost)
      fun id hid => ht id (List.mem_cons_of_mem _ hid))

theorem learn_absorbs (d : Daemon MemoryRoutes) {sender : HwAddr} {a : Announce} (hn : tells sender none)
    (hids : ∀ id ∈ a.xids, tells sender (some id)) : Absorbs tells d (d.learn sender a) := by
  have hentry := (Absorbs.refl.host hn).entry hn (d := d)
  exact hentry.trans (installPrefixes_absorbs d sender a.xids _ hentry.sameHost hids)

theorem acceptAnnounce_absorbs (d : Daemon MemoryRoutes) {sender : HwAddr} {a : Announce} (hn : tells sender none)
    (hids : ∀ id ∈ a.xids, tells sender (some id)) : Absorbs tells d (d.acceptAnnounce sender a) := by
  rw [acceptAnnounce_eq]
  exact ((learn_absorbs d hn hids).still (replyTo_still _ sender)).still ⟨⟨rfl, rfl, rfl, rfl⟩, rfl, rfl⟩

theorem acceptRecord_absorbs (d : Daemon MemoryRoutes) {r : NeighborRecord}
    (ht : ∀ a, r.hwaddrs = [a] → a ≠ d.link.hwaddr → tells a none ∧ tells a (some r.xid)) :
    Absorbs tells d (d.acceptRecord r) := by
  unfold acceptRecord
  split
  · rename_i a ha
    split
    · exact .refl
    · rename_i hne
      obtain ⟨hn, hid⟩ := ht a ha hne
      exact ((Absorbs.refl.host hn).route hid).entry hn
  · exact .refl

theorem acceptRecords_absorbs : ∀ (rs : List NeighborRecord) (d : Daemon MemoryRoutes),
    (∀ r ∈ rs, ∀ a, r.hwaddrs = [a] → a ≠ d.link.hwaddr → tells a none ∧ tells a (some r.xid)) →
    Absorbs tells d (d.acceptRecords rs)
  | [], _, _ => .refl
  | r :: rs, d, ht => by
    have hr := acceptRecord_absorbs d (ht r List.mem_cons_self)
    refine hr.trans (acceptRecords_absorbs rs _ fun s hs => ?_)
    rw [hr.sameHost.link]
    exact ht s (List.mem_cons_of_mem _ hs)

/-- What is done about a packet is that what it tells is absorbed. -/
theorem process_absorbs (d : Daemon MemoryRoutes) (sender : HwAddr) :
    ∀ p, Absorbs (Told d.link sender p) d (d.process sender p).2
  | .announce a => by
    simp only [process, processAnnounce]
    split
    · exact .refl
    · rename_i hr
      exact acceptAnnounce_absorbs d (.announcer hr) fun id hid => .announced hr hid
  | .neighborList l => by
    simp only [process, processNeighborList]
    split
    · exact .refl
    · exact acceptRecords_absorbs l.neighbors d fun r hr a ha hne => ⟨.listed hr ha hne, .listedPrefix hr ha hne⟩
  | .monitor p => .still .refl (processMonitor_tends d sender p).still
  | .investigation p => .still .refl (processInvestigation_still d sender p)

/-- What a frame tells, if it is read. -/
def ToldByFrame (link : LocalLink) (sender : HwAddr) (bytes : List UInt8) (a : HwAddr) (id : Option Identifier) : Prop :=
  ∃ p, Packet.decode bytes = .ok p ∧ Told link sender p a id

theorem handleFrame_absorbs (d : Daemon MemoryRoutes) (sender : HwAddr) (bytes : List UInt8) :
    Absorbs (ToldByFrame d.link sender bytes) d (d.handleFrame sender bytes).2 := by
  unfold handleFrame
  split
  · exact .still .refl (judge_still d _)
  · rename_i p hp
    have hc : Still d { d with metrics := d.metrics.recordReceived p.kind } := ⟨⟨rfl, rfl, rfl, rfl⟩, rfl, rfl⟩
    have hprocess := process_absorbs { d with metrics := d.metrics.recordReceived p.kind } sender p
    exact ((Absorbs.refl.still hc).trans (hprocess.mono fun ht => ⟨p, hp, ht⟩)).still (judge_still _ _)

/-! ## What an announce leaves -/

section

variable {sender : HwAddr} {bytes : List UInt8} {n : Announce}

/-- What was routed is routed still, if perhaps another way. -/
theorem Absorbs.destinations_subset (h : Absorbs tells d d') : d.routes.destinations ⊆ d'.routes.destinations := by
  induction h with
  | refl => exact List.Subset.refl _
  | still _ hs ih =>
    rw [hs.routes]
    exact ih
  | host _ _ ih => exact fun x hx => MemoryRoutes.mem_destinations_add.2 (.inl (ih hx))
  | route _ _ ih => exact fun x hx => MemoryRoutes.mem_destinations_add.2 (.inl (ih hx))
  | entry _ _ ih =>
    rw [register_routes]
    exact ih

/-- Whoever announces itself is in the table afterwards, and what it announces is routed. -/
theorem handleFrame_announce (d : Daemon MemoryRoutes) (hp : Packet.decode bytes = .ok (.announce n))
    (hr : n.rejection? d.link sender = none) : (d.handleFrame sender bytes).2.neighbors.get? sender ≠ none ∧
      ∀ id ∈ n.xids, d.adXid id ∈ (d.handleFrame sender bytes).2.routes.destinations := by
  have hlearns := handleFrame_learns d sender bytes
  rw [taughtByFrame_announce hp hr] at hlearns
  refine ⟨(hlearns.known sender).2 (.inr (List.mem_singleton_self sender)), fun id hid => ?_⟩
  have hadded : (d.adXid id, some (d.etherXid sender)) ∈ [⟨sender, n.xids⟩].flatMap d.additions :=
    List.mem_flatMap.2 ⟨_, List.mem_singleton_self _, prefix_mem_additions d hid⟩
  obtain ⟨r, hmem, he⟩ := MemoryRoutes.exists_mem_mainRoutes_addAll hadded d.routes
  rw [hlearns.routes]
  exact List.mem_map.2 ⟨r, hmem, he⟩

end

/-! ## A neighbor leaves -/

/-- The neighbor has left, and routes have been withdrawn, but none to own prefixes. -/
structure Loses (d : Daemon MemoryRoutes) (n : Neighbor) (d' : Daemon MemoryRoutes) : Prop extends SameHost d d' where
  mem : n ∈ d.neighbors.entries
  neighbors : d'.neighbors = d.neighbors.depart n
  routes : ∃ keeps : Route → Bool, (∀ r, r.table = .own → keeps r = true) ∧
    d'.routes.routes = d.routes.routes.filter keeps

theorem onInvestigationTimeout_loses (d : Daemon MemoryRoutes) (ref : NeighborRef) (timer : TimerId) :
    (∃ n, Loses d n (d.onInvestigationTimeout ref timer)) ∨ d.onInvestigationTimeout ref timer = d := by
  have hs := onInvestigationTimeout_sameHost d ref timer
  rw [onInvestigationTimeout_eq] at hs ⊢
  cases he : d.neighbors.expired? ref timer with
  | none => exact .inr rfl
  | some n =>
    rw [he] at hs
    dsimp only [dismiss] at hs ⊢
    have hroutes := withdrawNeighbor_filter { d with neighbors := d.neighbors.depart n } n.identity
    have ha := (withdrawNeighbor_outward { d with neighbors := d.neighbors.depart n } n.identity).aside
    generalize withdrawNeighbor { d with neighbors := d.neighbors.depart n } n.identity = d' at hs hroutes ha ⊢
    refine .inl ⟨n, hs, List.mem_of_find?_eq_some he, ha.neighbors, _, fun r hr => ?_, hroutes⟩
    simp [MemoryRoutes.leadsTo, hr]

/-! ## Steps -/

/-- What a step does to routes and neighbors. -/
inductive Shifts (d : Daemon MemoryRoutes) : Event → Daemon MemoryRoutes → Prop
  | absorbs {sender : HwAddr} {bytes : List UInt8} {d' : Daemon MemoryRoutes} :
      Absorbs (ToldByFrame d.link sender bytes) d d' → Shifts d (.frame sender bytes) d'
  | loses {e : Event} {n : Neighbor} {d' : Daemon MemoryRoutes} : Loses d n d' → Shifts d e d'
  | still {e : Event} {d' : Daemon MemoryRoutes} : Still d d' → Shifts d e d'

theorem Step.shifts {e : Event} : Step d e d' → Shifts d e d'
  | .frame _ sender bytes => .absorbs (handleFrame_absorbs d sender bytes)
  | .pingTick _ => .still (pingTick_tends d).still
  | .announce _ => .still (announce_still d)
  | .tryAnnounce _ => .still (tryAnnounce_still d)
  | .start _ => .still (start_still d)
  | .shutdown _ => .still (shutdown_still d)
  | .expiry (t := t) _ => by
    have hf : Still d { d with timers := d.timers.fire t } := ⟨⟨rfl, rfl, rfl, rfl⟩, rfl, rfl⟩
    unfold expire
    split
    · exact .still (hf.trans (tryAnnounce_still _))
    · exact .still (hf.trans (pingTick_tends _).still)
    · exact .still (hf.trans (onAckTimeout_tends _ _ _).still)
    · rename_i ref _
      rcases onInvestigationTimeout_loses { d with timers := d.timers.fire t } ref t.id with ⟨n, hn⟩ | he
      · exact .loses ⟨⟨hn.config, hn.link, hn.types, hn.sleep⟩, hn.mem, hn.neighbors, hn.routes⟩
      · rw [he]
        exact .still hf
    · exact .still hf
  | .pass _ => .still ⟨⟨rfl, rfl, rfl, rfl⟩, rfl, rfl⟩
  | .surroundings _ _ _ => .still ⟨⟨rfl, rfl, rfl, rfl⟩, rfl, rfl⟩

/-! ## What stays -/

variable {d₀ : Daemon MemoryRoutes} {l : List (Moment MemoryRoutes)}

theorem Absorbs.ownRoutes (h : Absorbs tells d d') : d'.routes.ownRoutes = d.routes.ownRoutes := by
  induction h with
  | refl => rfl
  | still _ hs ih => rw [hs.routes, ih]
  | host _ _ ih => exact (MemoryRoutes.ownRoutes_add _ _ _).trans ih
  | route _ _ ih => exact (MemoryRoutes.ownRoutes_add _ _ _).trans ih
  | entry _ _ ih => rw [register_routes, ih]

theorem Step.ownRoutes {e : Event} (hs : Step d e d') : d'.routes.ownRoutes = d.routes.ownRoutes := by
  cases hs.shifts with
  | absorbs ha => exact ha.ownRoutes
  | loses hl =>
    obtain ⟨keeps, hown, hroutes⟩ := hl.routes
    exact MemoryRoutes.ownRoutes_filter hroutes hown
  | still hs => rw [hs.routes]

/-- The prefixes of a host are its own for ever. -/
theorem Run.ownRoutes (h : Run d₀ l d) : d.routes.ownRoutes = d₀.routes.ownRoutes := by
  induction h with
  | nil => rfl
  | snoc _ hs ih => exact hs.ownRoutes.trans ih

/-- Nobody leaves the table of neighbors. -/
def Stays (d d' : Daemon MemoryRoutes) : Prop :=
  ∀ a, d.neighbors.get? a ≠ none → d'.neighbors.get? a ≠ none

theorem Loses.not_stays {n : Neighbor} (hl : Loses d n d') (hw : d.neighbors.WellFormed) : ¬ Stays d d' := by
  intro hs
  refine hs n.hwaddr ?_ ?_
  · rw [hw.get?_eq_some_iff.2 ⟨hl.mem, rfl⟩]
    exact Option.some_ne_none n
  · rw [hl.neighbors]
    exact NeighborTable.get?_depart_self hw hl.mem

/-- While nobody leaves, what was routed is routed still. -/
theorem Step.destinations_subset {e : Event} (hs : Step d e d') (hw : d.neighbors.WellFormed) (hstays : Stays d d') :
    d.routes.destinations ⊆ d'.routes.destinations := by
  cases hs.shifts with
  | absorbs ha => exact ha.destinations_subset
  | loses hl => exact absurd hstays (hl.not_stays hw)
  | still hs =>
    rw [hs.routes]
    exact List.Subset.refl _

/-- While nobody leaves, whoever is known after a moment is known at the end, and what is routed then is routed still. -/
theorem Run.keeps (h₀ : d₀.IsFresh) (h : Run d₀ l d) (hstays : ∀ m ∈ l, Stays m.before m.after)
    {m : Moment MemoryRoutes} (hm : m ∈ l) : Stays m.after d ∧ m.after.routes.destinations ⊆ d.routes.destinations := by
  induction h with
  | nil => cases hm
  | snoc hr hs ih =>
    rcases List.mem_append.1 hm with hm | hm
    · obtain ⟨hkept, hsub⟩ := ih (fun m hm => hstays m (List.mem_append_left _ hm)) hm
      have hlast := hstays _ (List.mem_append_right _ List.mem_cons_self)
      have hrouted := hs.destinations_subset (hr.regular h₀).neighbors hlast
      exact ⟨fun a ha => hlast a (hkept a ha), fun x hx => hrouted (hsub hx)⟩
    · rw [List.mem_singleton.1 hm]
      exact ⟨fun _ ha => ha, List.Subset.refl _⟩

/-- While nobody leaves, a host that has announced itself is known, and what it has announced is routed. -/
theorem Run.announced (h₀ : d₀.IsFresh) (h : Run d₀ l d) (hstays : ∀ m ∈ l, Stays m.before m.after)
    {m : Moment MemoryRoutes} (hm : m ∈ l) {sender : HwAddr} {bytes : List UInt8} (he : m.event = .frame sender bytes)
    {n : Announce} (hp : Packet.decode bytes = .ok (.announce n)) (hr : n.rejection? d₀.link sender = none) :
    d.neighbors.get? sender ≠ none ∧ ∀ id ∈ n.xids, d₀.adXid id ∈ d.routes.destinations := by
  obtain ⟨hkept, hsub⟩ := h.keeps h₀ hstays hm
  obtain ⟨before, after, rfl⟩ := List.append_of_mem hm
  obtain ⟨hrun, hs⟩ := h.split
  rcases m with ⟨d₁, e, d₂⟩
  dsimp only at he hkept hsub hrun hs
  subst he
  cases hs
  rw [← hrun.sameHost.link] at hr
  obtain ⟨hmet, hrouted⟩ := handleFrame_announce d₁ hp hr
  refine ⟨hkept sender hmet, fun id hid => hsub ?_⟩
  rw [adXid, ← hrun.sameHost.types]
  exact hrouted id hid

end Daemon

end Neighborhood
