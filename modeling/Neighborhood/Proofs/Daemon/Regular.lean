import Neighborhood.Proofs.Daemon.Acts

/-!
# Deadlines and those who wait for them

* `Neighbor.Awaits` — a timer is the deadline of what is awaited from a neighbor
* `Daemon.Paired` — neighbors that something is awaited from and timers that fire once, one to one
* `Daemon.Regular` — this, well-formed tables, and periodic timers apart from the deadlines; every step keeps it
  (`Step.regular`), and so it holds throughout a run from a fresh state (`Run.regular`)
* `Daemon.Fires`, `Daemon.Regular.fires` — the four things that a timer can do when it fires
* `Daemon.Run.deadlinesMatch` — no waiting without a deadline of its kind, and no deadline without its waiting
-/

namespace Neighborhood

/-! ## Deadlines -/

/-- The timer fires once, and it is the deadline of what is awaited from the neighbor. -/
def Neighbor.Awaits (n : Neighbor) (t : Timer Alarm) : Prop :=
  t.period = none ∧ n.timer? = some t.id ∧
    (n.liveness = .awaitingAck ∧ t.task = .ackDue n.ref ∨
      n.liveness = .awaitingInvestigativeAck ∧ t.task = .investigationDue n.ref)

namespace Neighbor.Awaits

variable {n m : Neighbor} {t : Timer Alarm}

theorem timer? (h : n.Awaits t) : n.timer? = some t.id := h.2.1

/-- A timer names the entry whose deadline it is. -/
theorem ref_eq (hn : n.Awaits t) (hm : m.Awaits t) : n.ref = m.ref := by
  rcases hn.2.2 with ⟨-, hn⟩ | ⟨-, hn⟩ <;> rcases hm.2.2 with ⟨-, hm⟩ | ⟨-, hm⟩ <;> simp_all

end Neighbor.Awaits

namespace Daemon

/-- Whatever is awaited has a deadline, and every timer that fires once is the deadline of something. -/
structure Paired (entries : List Neighbor) (pending : List (Timer Alarm)) : Prop where
  deadline : ∀ n ∈ entries, n.isIdle = false → ∃ t ∈ pending, n.Awaits t
  holder : ∀ t ∈ pending, t.period = none → ∃ n ∈ entries, n.Awaits t

namespace Paired

variable {entries entries' : List Neighbor} {pending pending' : List (Timer Alarm)} {n : Neighbor}

/-- Only what is in the lists matters. -/
theorem congr (h : Paired entries pending) (he : ∀ m, m ∈ entries' ↔ m ∈ entries)
    (hp : ∀ t, t.period = none → (t ∈ pending' ↔ t ∈ pending)) : Paired entries' pending' where
  deadline m hm hi := by
    obtain ⟨t, ht, ha⟩ := h.deadline m ((he m).1 hm) hi
    exact ⟨t, (hp t ha.1).2 ht, ha⟩
  holder t ht h1 := by
    obtain ⟨m, hm, ha⟩ := h.holder t ((hp t h1).1 ht) h1
    exact ⟨m, (he m).2 hm, ha⟩

theorem cons_idle (h : Paired entries pending) (hi : n.isIdle = true) : Paired (n :: entries) pending where
  deadline m hm hw := by
    rcases List.mem_cons.1 hm with rfl | hm
    · rw [hi] at hw
      cases hw
    · exact h.deadline m hm hw
  holder t ht h1 := by
    obtain ⟨m, hm, ha⟩ := h.holder t ht h1
    exact ⟨m, List.mem_cons_of_mem _ hm, ha⟩

theorem cons (h : Paired entries pending) {t : Timer Alarm} (ha : n.Awaits t) :
    Paired (n :: entries) (t :: pending) where
  deadline m hm hw := by
    rcases List.mem_cons.1 hm with rfl | hm
    · exact ⟨t, List.mem_cons_self, ha⟩
    · obtain ⟨u, hu, hau⟩ := h.deadline m hm hw
      exact ⟨u, List.mem_cons_of_mem _ hu, hau⟩
  holder u hu h1 := by
    rcases List.mem_cons.1 hu with rfl | hu
    · exact ⟨n, List.mem_cons_self, ha⟩
    · obtain ⟨m, hm, ham⟩ := h.holder u hu h1
      exact ⟨m, List.mem_cons_of_mem _ hm, ham⟩

/-- Without an entry and its deadline the others still belong together. -/
theorem without {table : NeighborTable} {timers : Timers Alarm} (hn : table.WellFormed) (ht : timers.WellFormed)
    (h : Paired table.entries timers.pending) (hm : n ∈ table.entries) :
    Paired (table.entries.filter (·.ref ≠ n.ref)) (timers.release n.timer?).pending where
  deadline m hm' hw := by
    simp only [List.mem_filter, decide_eq_true_eq] at hm'
    obtain ⟨t, htm, ha⟩ := h.deadline m hm'.1 hw
    refine ⟨t, Timers.mem_pending_release.2 ⟨htm, fun he => hm'.2 ?_⟩, ha⟩
    -- the deadline of `n` would be the deadline of `m`
    obtain ⟨u, hu, hau⟩ := h.deadline n hm ((hn.bounded_of_mem hm).1 (by rw [he]; rfl))
    rw [hau.timer?, Option.some.injEq] at he
    rw [ht.eq_of_id hu htm he] at hau
    exact ha.ref_eq hau
  holder t htm h1 := by
    obtain ⟨htm, hne⟩ := Timers.mem_pending_release.1 htm
    obtain ⟨m, hm', ha⟩ := h.holder t htm h1
    refine ⟨m, ?_, ha⟩
    simp only [List.mem_filter, decide_eq_true_eq]
    refine ⟨hm', fun he => hne ?_⟩
    rw [← hn.eq_of_entry_ref hm' hm he]
    exact ha.timer?

end Paired

/-! ## The invariant -/

variable {σ : Type}

/-- Deadlines and waiting neighbors belong together, and the periodic timers are not among the deadlines. -/
structure Regular (d : Daemon σ) : Prop where
  neighbors : d.neighbors.WellFormed
  timers : d.timers.WellFormed
  paired : Paired d.neighbors.entries d.timers.pending
  tasks : ∀ t ∈ d.timers.pending, t.period ≠ none → t.task = .announce ∨ t.task = .ping
  periodic_lt : ∀ id ∈ d.periodic, id.serial < d.timers.fresh
  periodic : ∀ t ∈ d.timers.pending, t.id ∈ d.periodic → t.period ≠ none

theorem IsFresh.regular {d : Daemon σ} (h : d.IsFresh) : d.Regular where
  neighbors := by rw [h.neighbors]; exact NeighborTable.empty_wellFormed
  timers := .of_nil h.pending
  paired := by
    rw [h.neighbors, h.pending]
    constructor <;> simp
  tasks := by simp [h.pending]
  periodic_lt := by simp [h.periodic]
  periodic := by simp [h.pending]

/-- What it is that the timer `t` fires: the deadline of an entry passes, or a periodic timer has its turn. -/
inductive Fires (d : Daemon σ) (t : Timer Alarm) (d' : Daemon σ) : Prop
  | ackDue (n : Neighbor) (hm : n ∈ d.neighbors.entries) (hn : n.Awaits t) (hl : n.liveness = .awaitingAck)
      (htask : t.task = .ackDue n.ref) (hnews : d.news (.expiry t) = .expiry t.id ⟨d.timers.fresh⟩)
      (ha : Aside ((d.later t.due).awaitAnswer n) d')
  | answerDue (n : Neighbor) (hm : n ∈ d.neighbors.entries) (hn : n.Awaits t)
      (hl : n.liveness = .awaitingInvestigativeAck) (htask : t.task = .investigationDue n.ref)
      (hnews : d.news (.expiry t) = .expiry t.id ⟨d.timers.fresh⟩) (ha : Aside ((d.later t.due).leave n) d')
  | announce (hp : t.period ≠ none) (htask : t.task = .announce) (hnews : d.news (.expiry t) = .nothing)
      (ha : Aside { d with timers := d.timers.fire t } d')
  | ping (hp : t.period ≠ none) (htask : t.task = .ping) (hnews : d.news (.expiry t) = d.tickNews)
      (he : d' = { d with timers := d.timers.fire t }.pingTick.2)

namespace Regular

variable {d d' : Daemon σ} {n : Neighbor} (h : d.Regular)
include h

theorem aside (ha : Aside d d') : d'.Regular where
  neighbors := by rw [ha.neighbors]; exact h.neighbors
  timers := by rw [ha.timers]; exact h.timers
  paired := by rw [ha.neighbors, ha.timers]; exact h.paired
  tasks := by rw [ha.timers]; exact h.tasks
  periodic_lt := by rw [ha.timers, ha.periodic]; exact h.periodic_lt
  periodic := by rw [ha.timers, ha.periodic]; exact h.periodic

/-- The entry of whoever awaits a timer that is pending. -/
theorem exists_holder {t : Timer Alarm} (ht : t ∈ d.timers.pending) (hp : t.period = none) :
    ∃ n ∈ d.neighbors.entries, n.Awaits t :=
  h.paired.holder t ht hp

/-- The timer that an entry holds, if it is pending, is its deadline. -/
theorem awaits (hn : n ∈ d.neighbors.entries) {t : Timer Alarm} (ht : t ∈ d.timers.pending)
    (he : n.timer? = some t.id) : n.Awaits t := by
  obtain ⟨u, hu, ha⟩ := h.paired.deadline n hn ((h.neighbors.bounded_of_mem hn).1 (by rw [he]; rfl))
  have hid : u.id = t.id := by simpa [ha.timer?] using he
  rw [← h.timers.eq_of_id hu ht hid]
  exact ha

/-! ### Changes of the table -/

theorem meet (l : List HwAddr) : (d.meet l).Regular := by
  suffices hs : ∀ (l : List HwAddr) (table : NeighborTable), Paired table.entries d.timers.pending →
      Paired (table.introduce d.etherXid l).entries d.timers.pending from
    { h with
      neighbors := NeighborTable.introduce_wellFormed _ l h.neighbors
      paired := hs l _ h.paired }
  intro l
  induction l with
  | nil => exact fun _ hp => hp
  | cons a l ih =>
    intro table hp
    refine ih _ ?_
    cases hg : table.get? a with
    | some m =>
      rw [NeighborTable.getOrCreate_of_some hg]
      exact hp
    | none =>
      rw [NeighborTable.getOrCreate_of_none hg]
      have hnew := hp.cons_idle (n := table.newcomer a (d.etherXid a)) rfl
      exact hnew.congr (fun m => by simp [or_comm]) fun _ _ => Iff.rfl

theorem setClock (hm : n ∈ d.neighbors.entries) (clock : Int32) :
    Regular { d with neighbors := d.neighbors.setClock n.ref clock } := by
  refine { h with
    neighbors := NeighborTable.setClock_wellFormed h.neighbors hm clock
    paired := ⟨?_, ?_⟩ }
  · intro m hm' hw
    rcases (NeighborTable.mem_entries_update h.neighbors hm).1 hm' with ⟨hm', -⟩ | rfl
    · exact h.paired.deadline m hm' hw
    · exact h.paired.deadline n hm hw
  · intro t ht hp
    obtain ⟨m, hm', ha⟩ := h.paired.holder t ht hp
    by_cases he : m.ref = n.ref
    · rw [h.neighbors.eq_of_entry_ref hm' hm he] at ha
      exact ⟨_, NeighborTable.mem_entries_update_self h.neighbors hm, ha⟩
    · exact ⟨m, (NeighborTable.mem_entries_update h.neighbors hm).2 (.inl ⟨hm', he⟩), ha⟩

theorem settle (hm : n ∈ d.neighbors.entries) : (d.settle n).Regular := by
  rw [settle_eq]
  constructor
  · exact NeighborTable.settle_wellFormed h.neighbors hm
  · exact Timers.release_wellFormed h.timers _
  · refine ((h.paired.without h.neighbors h.timers hm).cons_idle (n := n.settled) rfl).congr ?_ fun _ _ => Iff.rfl
    intro m
    rw [NeighborTable.settle, NeighborTable.mem_entries_update h.neighbors hm]
    simp [or_comm]
  · exact fun t ht => h.tasks t (Timers.mem_pending_release.1 ht).1
  · exact h.periodic_lt
  · exact fun t ht => h.periodic t (Timers.mem_pending_release.1 ht).1

theorem leave (hm : n ∈ d.neighbors.entries) : (d.leave n).Regular where
  neighbors := NeighborTable.depart_wellFormed h.neighbors hm
  timers := Timers.release_wellFormed h.timers _
  paired := h.paired.without h.neighbors h.timers hm
  tasks t ht := h.tasks t (Timers.mem_pending_release.1 ht).1
  periodic_lt := h.periodic_lt
  periodic t ht := h.periodic t (Timers.mem_pending_release.1 ht).1

/-- What is pending once a new deadline is set: it, and what was before it but for the deadline it replaces. -/
theorem mem_pending_await (hm : n ∈ d.neighbors.entries) {delay : Nat} {task : Alarm}
    {liveness : Liveness} {t : Timer Alarm} : t ∈ (d.await n delay task liveness).timers.pending ↔
      t = ⟨⟨d.timers.fresh⟩, d.timers.sleep.ends d.timers.now delay, none, task⟩ ∨
        t ∈ (d.timers.release n.timer?).pending := by
  have hnew : n.timer? ≠ some ⟨d.timers.fresh⟩ := by
    intro he
    obtain ⟨u, hu, hau⟩ := h.paired.deadline n hm ((h.neighbors.bounded_of_mem hm).1 (by rw [he]; rfl))
    rw [hau.timer?, Option.some.injEq] at he
    exact h.timers.id_ne_fresh hu he
  simp only [Daemon.await, Timers.mem_pending_release, Timers.once, Timers.set, List.mem_append, List.mem_singleton]
  constructor
  · rintro ⟨ht | rfl, hne⟩
    · exact .inr ⟨ht, hne⟩
    · exact .inl rfl
  · rintro (rfl | ⟨ht, hne⟩)
    · exact ⟨.inr rfl, hnew⟩
    · exact ⟨.inl ht, hne⟩

theorem await (hm : n ∈ d.neighbors.entries) (delay : Nat) {task : Alarm} {liveness : Liveness}
    (hs : liveness = .awaitingAck ∧ task = .ackDue n.ref ∨
      liveness = .awaitingInvestigativeAck ∧ task = .investigationDue n.ref) :
    (d.await n delay task liveness).Regular := by
  have hb : liveness ≠ .idle := by
    rcases hs with ⟨rfl, -⟩ | ⟨rfl, -⟩ <;> decide
  constructor
  · exact NeighborTable.arm_wellFormed h.neighbors hm hb _
  · exact Timers.release_wellFormed (Timers.once_wellFormed h.timers delay task) _
  · have ha : (n.armed liveness ⟨d.timers.fresh⟩).Awaits
        ⟨⟨d.timers.fresh⟩, d.timers.sleep.ends d.timers.now delay, none, task⟩ := ⟨rfl, rfl, hs⟩
    refine ((h.paired.without h.neighbors h.timers hm).cons ha).congr ?_ ?_
    · intro m
      rw [Daemon.await, NeighborTable.arm, NeighborTable.mem_entries_update h.neighbors hm]
      simp [or_comm]
    · intro t _
      rw [h.mem_pending_await hm, List.mem_cons]
  · intro t ht hp
    rcases (h.mem_pending_await hm).1 ht with rfl | ht
    · exact absurd rfl hp
    · exact h.tasks t (Timers.mem_pending_release.1 ht).1 hp
  · exact fun id hid => Nat.lt_succ_of_lt (h.periodic_lt id hid)
  · intro t ht hid
    rcases (h.mem_pending_await hm).1 ht with rfl | ht
    · exact absurd (h.periodic_lt _ hid) (Nat.lt_irrefl _)
    · exact h.periodic t (Timers.mem_pending_release.1 ht).1 hid

theorem awaitAck (hm : n ∈ d.neighbors.entries) : (d.awaitAck n).Regular :=
  h.await hm _ (.inl ⟨rfl, rfl⟩)

theorem awaitAnswer (hm : n ∈ d.neighbors.entries) : (d.awaitAnswer n).Regular :=
  h.await hm _ (.inr ⟨rfl, rfl⟩)

/-! ### Changes of the timers -/

theorem later {limit : Nat} (hl : ∀ t ∈ d.timers.pending, limit ≤ t.due) : (d.later limit).Regular :=
  { h with timers := Timers.passTo_wellFormed h.timers hl }

theorem later_soonest {t : Timer Alarm} (ht : d.timers.soonest? = some t) : (d.later t.due).Regular :=
  h.later fun _ hu => Timers.soonest?_le ht hu

/-- A number that no timer gets changes nothing. -/
theorem passOver (k : Nat) : Regular { d with timers := { d.timers with fresh := d.timers.fresh + k } } :=
  { h with
    timers := h.timers.of_sublist (List.Sublist.refl _) (Nat.le_add_right _ _) rfl
    periodic_lt := fun id hid => Nat.lt_add_right k (h.periodic_lt id hid) }

/-- A periodic timer fires and is set to its next turn. -/
theorem fire {t : Timer Alarm} (ht : d.timers.soonest? = some t) (hp : t.period ≠ none) :
    Regular { d with timers := d.timers.fire t } := by
  have htm := Timers.soonest?_mem ht
  have hmem {u : Timer Alarm} := Timers.mem_pending_fire h.timers htm (u := u)
  refine { h with
    timers := Timers.fire_wellFormed h.timers ht
    paired := h.paired.congr (fun _ => Iff.rfl) fun u h1 => ?_
    tasks := fun u hu hpu => ?_
    periodic := fun u hu hid => ?_ }
  · rw [hmem]
    constructor
    · rintro (⟨hu, -⟩ | hu)
      · exact hu
      · exact absurd ((Timers.again_same hu).2.1.symm.trans h1) hp
    · refine fun hu => .inl ⟨hu, fun he => hp ?_⟩
      rw [← h.timers.eq_of_id hu htm he]
      exact h1
  · rcases hmem.1 hu with ⟨hu, -⟩ | hu
    · exact h.tasks u hu hpu
    · rw [(Timers.again_same hu).2.2]
      exact h.tasks t htm hp
  · rcases hmem.1 hu with ⟨hu, -⟩ | hu
    · exact h.periodic u hu hid
    · rw [(Timers.again_same hu).2.1]
      exact hp

theorem every {seconds : Nat} {task : Alarm} (ht : task = .announce ∨ task = .ping) :
    (d.every seconds task).Regular := by
  have hw := Timers.repeating_wellFormed h.timers (millis seconds) task
  unfold Daemon.every
  unfold Timers.repeating at hw ⊢
  split at hw
  · rename_i h0
    rw [if_pos h0]
    refine { h with timers := hw, periodic_lt := fun id hid => ?_, periodic := fun t htm hid => ?_ }
    all_goals
      simp only [List.mem_append, List.mem_singleton] at hid
      rcases hid with hid | hid
    · exact Nat.lt_succ_of_lt (h.periodic_lt id hid)
    · rw [hid]
      exact Nat.lt_succ_self _
    · exact h.periodic t htm hid
    · exact absurd hid (h.timers.id_ne_fresh htm)
  · rename_i h0
    rw [if_neg h0]
    refine { h with
      timers := hw
      paired := h.paired.congr (fun _ => Iff.rfl) fun t h1 => ?_
      tasks := fun t htm hp => ?_
      periodic_lt := fun id hid => ?_
      periodic := fun t htm hid => ?_ }
    · simp only [Timers.set, List.mem_append, List.mem_singleton]
      refine ⟨fun htm => htm.resolve_right ?_, .inl⟩
      rintro rfl
      cases h1
    · simp only [Timers.set, List.mem_append, List.mem_singleton] at htm
      rcases htm with htm | rfl
      · exact h.tasks t htm hp
      · exact ht
    · simp only [Timers.set, List.mem_append, List.mem_singleton] at hid
      rcases hid with hid | rfl
      · exact Nat.lt_succ_of_lt (h.periodic_lt id hid)
      · exact Nat.lt_succ_self _
    · simp only [Timers.set, List.mem_append, List.mem_singleton] at htm hid
      rcases htm with htm | rfl
      · exact h.periodic t htm (hid.resolve_right (h.timers.id_ne_fresh htm))
      · exact Option.some_ne_none _

/-- The deadlines are not among the timers that shutdown cancels. -/
theorem cancelPeriodic : d.cancelPeriodic.Regular := by
  have hmem : ∀ t, t ∈ d.cancelPeriodic.timers.pending ↔ t ∈ d.timers.pending ∧ t.id ∉ d.periodic := by
    simp [Daemon.cancelPeriodic, Timers.foldl_cancel_eq]
  have hw : d.cancelPeriodic.timers.WellFormed := by
    rw [Daemon.cancelPeriodic, Timers.foldl_cancel_eq]
    exact h.timers.of_sublist List.filter_sublist (Nat.le_refl _) rfl
  exact { h with
    timers := hw
    paired := h.paired.congr (fun _ => Iff.rfl) fun t h1 =>
      (hmem t).trans (and_iff_left_of_imp fun ht hid => h.periodic t ht hid h1)
    tasks := fun t ht => h.tasks t ((hmem t).1 ht).1
    periodic_lt := fun _ hid => absurd hid List.not_mem_nil
    periodic := fun _ _ hid => absurd hid List.not_mem_nil }

/-! ### Acts -/

theorem notePing (sender : HwAddr) (clock : Int32) : (d.notePing sender clock).Regular := by
  unfold Daemon.notePing
  split
  · exact h
  · rename_i n hg
    obtain ⟨hm, -⟩ := h.neighbors.get?_eq_some_iff.1 hg
    have hc := h.setClock hm clock
    dsimp only
    split
    · exact hc.settle (n := { n with clock := clock })
        (NeighborTable.mem_entries_update_self h.neighbors hm)
    · exact hc

theorem noteAck (sender : HwAddr) (clock : Int32) : (d.noteAck sender clock).Regular := by
  unfold Daemon.noteAck
  split
  · exact h
  · rename_i n hg
    obtain ⟨hm, -⟩ := h.neighbors.get?_eq_some_iff.1 hg
    split
    · exact h
    · refine (h.settle hm).setClock (n := n.settled) ?_ clock
      rw [settle_eq]
      exact NeighborTable.mem_entries_update_self h.neighbors hm

theorem heed : ∀ news, (d.heed news).Regular
  | .hosts l => h.meet l
  | .ping sender clock => h.notePing sender clock
  | .ack sender clock => h.noteAck sender clock
  | .nothing | .probe .. | .expiry .. | .shutdown => h

theorem pingTick : d.pingTick.2.Regular := by
  rcases pingTick_cases h.neighbors h.timers with ⟨n, hm, -, -, ha⟩ | ⟨-, k, ha⟩
  · exact (h.awaitAck hm).aside ha
  · exact (h.passOver k).aside ha

theorem pending_pingTick {t : Timer Alarm} (ht : t ∈ d.pingTick.2.timers.pending) :
    t ∈ d.timers.pending ∨ t.id = ⟨d.timers.fresh⟩ := by
  rcases pingTick_cases h.neighbors h.timers with ⟨n, hm, -, -, ha⟩ | ⟨-, k, ha⟩
  · rw [ha.timers] at ht
    rcases (h.mem_pending_await hm).1 ht with rfl | ht
    · exact .inr rfl
    · exact .inl (Timers.mem_pending_release.1 ht).1
  · rw [ha.timers] at ht
    exact .inl ht

theorem settleAll {ns : List Neighbor} (hd : (ns.map (·.ref)).Nodup) (hns : ∀ n ∈ ns, n ∈ d.neighbors.entries) :
    (d.settleAll ns).Regular := by
  induction ns generalizing d with
  | nil => exact h
  | cons n ns ih =>
    rw [List.map_cons, List.nodup_cons] at hd
    have hm := hns n List.mem_cons_self
    refine ih (h.settle hm) hd.2 fun m hm' => ?_
    rw [settle_eq]
    refine (NeighborTable.mem_entries_update h.neighbors hm).2 (.inl ⟨hns m (List.mem_cons_of_mem _ hm'), ?_⟩)
    exact fun he => hd.1 (he ▸ List.mem_map_of_mem hm')

theorem shutdown : d.shutdown.Regular := by
  have hd := h.neighbors.refs
  rw [List.map_append, List.nodup_append] at hd
  exact h.cancelPeriodic.settleAll hd.1 fun _ hm => hm

theorem neighbors_shutdown : d.shutdown.neighbors =
    { d.neighbors with entries := d.neighbors.entries.map Neighbor.settled } := by
  rw [shutdown_eq]
  exact NeighborTable.settleEntries_eq h.neighbors

section
variable [RouteTable σ]

theorem handleFrame (sender : HwAddr) (bytes : List UInt8) : (d.handleFrame sender bytes).2.Regular :=
  (h.heed _).aside (handleFrame_aside d sender bytes)

theorem start : d.start.Regular :=
  ((h.aside (announce_outward d).aside).every (.inl rfl)).every (.inr rfl)

/-- What the timer that is due first does when it fires. -/
theorem fires {t : Timer Alarm} (ht : d.timers.soonest? = some t) :
    Fires d t ({ d with timers := d.timers.fire t }.expire t) := by
  have htm := Timers.soonest?_mem ht
  by_cases hp : t.period = none
  · obtain ⟨n, hm, ha⟩ := h.exists_holder htm hp
    obtain ⟨hlive, htask⟩ | ⟨hlive, htask⟩ := ha.2.2
    · exact .ackDue n hm ha hlive htask (by simp only [news, htask])
        (expire_ackDue_aside h.neighbors h.timers hm htm hp hlive ha.timer? htask)
    · exact .answerDue n hm ha hlive htask (by simp only [news, htask])
        (expire_investigationDue_aside h.neighbors h.timers hm htm hp hlive ha.timer? htask)
  · rcases h.tasks t htm hp with htask | htask
    · have ha := (tryAnnounce_outward { d with timers := d.timers.fire t }).aside
      rw [← expire_announce htask] at ha
      exact .announce hp htask (by simp only [news, htask]) ha
    · exact .ping hp htask (by simp only [news, htask]) (expire_ping htask)

theorem expire {t : Timer Alarm} (ht : d.timers.soonest? = some t) :
    Regular ({ d with timers := d.timers.fire t }.expire t) := by
  cases h.fires ht with
  | ackDue n hm _ _ _ _ ha => exact ((h.later_soonest ht).awaitAnswer hm).aside ha
  | answerDue n hm _ _ _ _ ha => exact ((h.later_soonest ht).leave hm).aside ha
  | announce hp _ _ ha => exact (h.fire ht hp).aside ha
  | ping hp _ _ he =>
    rw [he]
    exact (h.fire ht hp).pingTick

/-- When a timer fires, at most one is set that fires once. -/
theorem pending_expire {t u : Timer Alarm} (ht : d.timers.soonest? = some t)
    (hu : u ∈ ({ d with timers := d.timers.fire t }.expire t).timers.pending) (hpu : u.period = none) :
    u ∈ d.timers.pending ∨ u.id = ⟨d.timers.fresh⟩ := by
  have hf : t.period ≠ none → u ∈ (d.timers.fire t).pending → u ∈ d.timers.pending := by
    intro hp hu
    rcases (Timers.mem_pending_fire h.timers (Timers.soonest?_mem ht)).1 hu with ⟨hu, -⟩ | hu
    · exact hu
    · exact absurd ((Timers.again_same hu).2.1.symm.trans hpu) hp
  cases h.fires ht with
  | ackDue n hm _ _ _ _ ha =>
    rw [ha.timers] at hu
    rcases ((h.later_soonest ht).mem_pending_await hm).1 hu with rfl | hu
    · exact .inr rfl
    · exact .inl (Timers.mem_pending_release.1 hu).1
  | answerDue n hm _ _ _ _ ha =>
    rw [ha.timers] at hu
    exact .inl (Timers.mem_pending_release.1 hu).1
  | announce hp _ _ ha =>
    rw [ha.timers] at hu
    exact .inl (hf hp hu)
  | ping hp _ _ he =>
    rw [he] at hu
    exact ((h.fire ht hp).pending_pingTick hu).imp_left (hf hp)

end

end Regular

section
variable [RouteTable σ] {d₀ d d' : Daemon σ}

/-- Whatever happens, deadlines and waiting neighbors belong together afterwards. -/
theorem Step.regular (h : d.Regular) {e : Event} : Step d e d' → d'.Regular
  | .frame _ sender bytes => h.handleFrame sender bytes
  | .pingTick _ => h.pingTick
  | .announce _ => h.aside (announce_outward d).aside
  | .tryAnnounce _ => h.aside (tryAnnounce_outward d).aside
  | .start _ => h.start
  | .shutdown _ => h.shutdown
  | .expiry ht => h.expire ht
  | .pass hl => h.later hl
  | .surroundings _ _ _ => h.aside ⟨rfl, rfl, rfl, rfl, rfl, rfl⟩

/-- A timer that fires once is an old one, or gets the next number. -/
theorem Step.pending_of_once (h : d.Regular) {e : Event} (hs : Step d e d') {t : Timer Alarm}
    (ht : t ∈ d'.timers.pending) (hp : t.period = none) : t ∈ d.timers.pending ∨ t.id = ⟨d.timers.fresh⟩ := by
  cases hs with
  | frame sender bytes =>
    rw [(handleFrame_aside d sender bytes).timers] at ht
    exact .inl (pending_heed _ ht)
  | pingTick => exact h.pending_pingTick ht
  | announce =>
    rw [(announce_outward d).aside.timers] at ht
    exact .inl ht
  | tryAnnounce =>
    rw [(tryAnnounce_outward d).aside.timers] at ht
    exact .inl ht
  | start =>
    have ha := pending_every (pending_every ht hp) hp
    rw [(announce_outward d).aside.timers] at ha
    exact .inl ha
  | shutdown => exact .inl (mem_pending_shutdown.1 ht).1.1
  | expiry hs => exact h.pending_expire hs ht hp
  | pass _ => exact .inl ht
  | surroundings _ _ => exact .inl ht

theorem Run.regular (h₀ : d₀.IsFresh) {l : List (Moment σ)} (h : Run d₀ l d) : d.Regular := by
  induction h with
  | nil => exact h₀.regular
  | snoc _ hs ih => exact hs.regular ih

/-! ## Deadlines, one to one -/

/-- Whoever awaits something holds one timer that is pending, whatever timer is pending and fires once is held by one
entry, and the timer is of the kind of what is awaited. -/
structure DeadlinesMatch (d : Daemon σ) : Prop where
  waiting : ∀ n ∈ d.neighbors.entries, n.isIdle = false ↔ n.timer?.isSome = true
  distinct : ∀ n ∈ d.neighbors.entries, ∀ m ∈ d.neighbors.entries,
    n.timer?.isSome = true → n.timer? = m.timer? → n = m
  deadline : ∀ n ∈ d.neighbors.entries, n.isIdle = false →
    ∃! t, t ∈ d.timers.pending ∧ t.period = none ∧ n.timer? = some t.id
  holder : ∀ t ∈ d.timers.pending, t.period = none → ∃! n, n ∈ d.neighbors.entries ∧ n.timer? = some t.id
  kind : ∀ n ∈ d.neighbors.entries, ∀ t ∈ d.timers.pending, n.timer? = some t.id → t.period = none ∧
    (n.liveness = .awaitingAck ∧ t.task = .ackDue n.ref ∨
      n.liveness = .awaitingInvestigativeAck ∧ t.task = .investigationDue n.ref)

/-- No probe is ever left without a deadline, and no deadline outlives what it is for. -/
theorem Run.deadlinesMatch (h₀ : d₀.IsFresh) {l : List (Moment σ)} (h : Run d₀ l d) : d.DeadlinesMatch := by
  have hr := h.regular h₀
  constructor
  · exact fun n hn => (hr.neighbors.bounded_of_mem hn).symm
  · intro n hn m hm hs he
    obtain ⟨t, ht, ha⟩ := hr.paired.deadline n hn ((hr.neighbors.bounded_of_mem hn).1 hs)
    have hma := hr.awaits hm ht (he.symm.trans ha.timer?)
    exact hr.neighbors.eq_of_entry_ref hn hm (ha.ref_eq hma)
  · intro n hn hi
    obtain ⟨t, ht, ha⟩ := hr.paired.deadline n hn hi
    refine ⟨t, ⟨ht, ha.1, ha.timer?⟩, ?_⟩
    rintro u ⟨hu, -, he⟩
    rw [ha.timer?, Option.some.injEq] at he
    exact hr.timers.eq_of_id hu ht he.symm
  · intro t ht hp
    obtain ⟨n, hn, ha⟩ := hr.exists_holder ht hp
    refine ⟨n, ⟨hn, ha.timer?⟩, ?_⟩
    rintro m ⟨hm, he⟩
    exact hr.neighbors.eq_of_entry_ref hm hn ((hr.awaits hm ht he).ref_eq ha)
  · intro n hn t ht he
    obtain ⟨hp, -, hkind⟩ := hr.awaits hn ht he
    exact ⟨hp, hkind⟩

theorem deadlinesMatch_of_pinged : ∃ l, Run (lone 5) l (pinged 5) ∧
    (pinged 5).neighbors.entries.map (·.isIdle) = [false] ∧ (pinged 5).DeadlinesMatch := by
  obtain ⟨l, h⟩ := run_pinged 5
  exact ⟨l, h, by decide, Run.deadlinesMatch (lone_isFresh 5) h⟩

end

end Daemon

end Neighborhood
