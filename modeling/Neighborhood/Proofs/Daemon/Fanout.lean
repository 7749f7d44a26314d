import Neighborhood.Proofs.Draws
import Neighborhood.Proofs.Daemon.Handover
import Neighborhood.Proofs.Daemon.Eviction

/-!
# Whom a silent neighbor is investigated through

* `Daemon.relaysFor` — who is asked to probe a silent neighbor; the draws may pick any of the other idle neighbors
* `Daemon.FansOut` — other idle neighbors are asked to probe the silent one, as many as are to be asked if there are so
  many, and whatever becomes of the requests
* `Daemon.Run.fansOut` — this is what a passed deadline of an ack does, and it does no more; any of the idle neighbors,
  as many as are to be asked, may be the ones that are
-/

namespace Neighborhood.Daemon

variable {σ : Type} {d : Daemon σ} {n : Neighbor} {t : Timer Alarm}

/-- The deadline `t` of an ack of the neighbor `n` has passed. Each of the relays was to be sent one request to probe
`n`, and every request that has a frame was handed over, whatever became of the others. The relays are idle neighbors
other than `n`, as many as are to be asked or all that there are. An answer of `n` is awaited, for which a new deadline
is set, and one more investigation is counted. All else is as it was. -/
structure FansOut (d : Daemon σ) (n : Neighbor) (t : Timer Alarm) (relays : List Neighbor) (d' : Daemon σ) : Prop where
  count : relays.length =
    min d.config.investigativeCount (d.neighbors.entries.filter fun m => m.isIdle ∧ m ≠ n).length
  distinct : (relays.map (·.hwaddr)).Nodup
  idle : ∀ m ∈ relays, m ∈ d.neighbors.entries ∧ m.isIdle = true ∧ m.hwaddr ≠ n.hwaddr
  attempts : ∃ new, d'.transmissions = new ++ d.transmissions ∧
    new.reverse.map Transmission.utterance = d.requests n.hwaddr relays
  handed : d'.sink.frames =
    d.sink.frames ++ d.sink.passed ((d.requests n.hwaddr relays).filterMap Utterance.frame?)
  fresh : ∀ u ∈ d.timers.pending, u.id ≠ ⟨d.timers.fresh⟩
  rest : ∃ sink transmissions lots sent sendErrors, d' = { d with
    neighbors := { d.neighbors with
      entries := d.neighbors.entries.map fun m =>
        if m = n then n.armed .awaitingInvestigativeAck ⟨d.timers.fresh⟩ else m }
    timers := { d.timers with
      now := t.due
      fresh := d.timers.fresh + 1
      pending := d.timers.pending.filter (· ≠ t) ++ [⟨⟨d.timers.fresh⟩,
        d.timers.sleep.ends t.due (millis d.config.investigativeAckTimeout), none, .investigationDue n.ref⟩] }
    metrics := { d.metrics with
      investigations := d.metrics.investigations + 1
      sent := sent
      sendErrors := sendErrors }
    sink := sink
    transmissions := transmissions
    lots := lots }

/-- The new deadline takes the place of the one that has passed. -/
theorem timers_awaitAnswer (h : d.Regular) (htm : t ∈ d.timers.pending) (hh : n.timer? = some t.id) :
    ((d.later t.due).awaitAnswer n).timers = { d.timers with
      now := t.due
      fresh := d.timers.fresh + 1
      pending := d.timers.pending.filter (· ≠ t) ++ [⟨⟨d.timers.fresh⟩,
        d.timers.sleep.ends t.due (millis d.config.investigativeAckTimeout), none, .investigationDue n.ref⟩] } := by
  have hnow : max d.timers.now t.due = t.due := Nat.max_eq_right (h.timers.not_overdue t htm)
  have hold : d.timers.pending.filter (fun u => some t.id ≠ some u.id) = d.timers.pending.filter (· ≠ t) := by
    refine List.filter_congr fun u hu => decide_eq_decide.2 (not_congr ⟨fun he => ?_, fun he => by rw [he]⟩)
    exact h.timers.eq_of_id hu htm (Option.some.inj he).symm
  have hnew : some t.id ≠ some (⟨d.timers.fresh⟩ : TimerId) := fun he => h.timers.id_ne_fresh htm (Option.some.inj he)
  simp only [awaitAnswer, await, later, Timers.passTo, Timers.once, Timers.set, Timers.release, hh, hnow,
    List.filter_append, hold]
  rw [List.filter_singleton, decide_eq_true hnew]
  rfl

/-- The relays that are picked once an answer of `n` is awaited. -/
def relaysFor (d : Daemon σ) (n : Neighbor) : List Neighbor × Draws Nat :=
  (d.awaitAnswer n).neighbors.pickExcept n.hwaddr d.config.investigativeCount d.lots

/-- The relays are a part of the other idle neighbors. -/
theorem relaysFor_append_perm (h : d.neighbors.WellFormed) (hn : n ∈ d.neighbors.entries) :
    ∃ rest, ((d.relaysFor n).1 ++ rest).Perm (d.neighbors.entries.filter fun m => m.isIdle ∧ m ≠ n) := by
  rw [← NeighborTable.idleExcept_arm h hn .awaitingInvestigativeAck ⟨d.timers.fresh⟩]
  exact Draws.exists_sample_append_perm _ _ _

theorem length_relaysFor (h : d.neighbors.WellFormed) (hn : n ∈ d.neighbors.entries) : (d.relaysFor n).1.length =
    min d.config.investigativeCount (d.neighbors.entries.filter fun m => m.isIdle ∧ m ≠ n).length := by
  rw [← NeighborTable.idleExcept_arm h hn .awaitingInvestigativeAck ⟨d.timers.fresh⟩]
  exact Draws.length_sample _ _ _

/-- Nothing is ruled out that the relays could be: there are draws that pick them. -/
theorem exists_lots_relaysFor_eq (h : d.neighbors.WellFormed) (hn : n ∈ d.neighbors.entries)
    {relays others : List Neighbor}
    (hp : (relays ++ others).Perm (d.neighbors.entries.filter fun m => m.isIdle ∧ m ≠ n))
    (hc : relays.length =
      min d.config.investigativeCount (d.neighbors.entries.filter fun m => m.isIdle ∧ m ≠ n).length) :
    ∃ lots, ({ d with lots := lots }.relaysFor n).1 = relays := by
  rw [← NeighborTable.idleExcept_arm h hn .awaitingInvestigativeAck ⟨d.timers.fresh⟩] at hp hc
  exact Draws.exists_sample_eq hp hc

theorem inquire_fansOut (h : d.Regular) (hn : n ∈ d.neighbors.entries) (htm : t ∈ d.timers.pending)
    (hh : n.timer? = some t.id) :
    FansOut d n t (d.relaysFor n).1 (((d.later t.due).awaitAnswer n).inquire n.hwaddr) := by
  obtain ⟨others, hperm⟩ := relaysFor_append_perm h.neighbors hn
  have hmem : ∀ m ∈ (d.relaysFor n).1, m ∈ d.neighbors.entries ∧ m.isIdle = true ∧ m ≠ n := fun m hm => by
    simpa using hperm.subset (List.mem_append_left _ hm)
  have haddrs : ((d.neighbors.entries.filter fun m => m.isIdle ∧ m ≠ n).map (·.hwaddr)).Nodup :=
    h.neighbors.hwaddrs.sublist (List.filter_sublist.map _)
  -- the state in which the relays are asked
  let asking : Daemon σ := { (d.later t.due).awaitAnswer n with
    metrics := d.metrics.recordInvestigation
    lots := (d.relaysFor n).2 }
  have hasks : ((d.later t.due).awaitAnswer n).inquire n.hwaddr = asking.askRelays n.hwaddr (d.relaysFor n).1 := rfl
  have hneighbors : asking.neighbors = _ := NeighborTable.arm_eq h.neighbors hn _ _
  have htimers : asking.timers = _ := timers_awaitAnswer h htm hh
  rw [hasks]
  constructor
  · exact length_relaysFor h.neighbors hn
  · have hd := (hperm.map (·.hwaddr)).nodup_iff.2 haddrs
    rw [List.map_append, List.nodup_append] at hd
    exact hd.1
  · intro m hm
    obtain ⟨hme, hi, hne⟩ := hmem m hm
    exact ⟨hme, hi, fun he => hne (h.neighbors.eq_of_hwaddr hme hn he)⟩
  · obtain ⟨new, he, hsaid, -⟩ := askRelays_tries n.hwaddr (d.relaysFor n).1 asking
    exact ⟨new, he, hsaid⟩
  · have hhands : _ = _ := askRelays_hands n.hwaddr (d.relaysFor n).1 asking
    rw [hhands]
    exact Sink.frames_sendAll _ _
  · exact fun u hu => h.timers.id_ne_fresh hu
  · obtain ⟨sink, transmissions, sent, sendErrors, he⟩ := askRelays_sends n.hwaddr (d.relaysFor n).1 asking
    rw [hneighbors, htimers] at he
    exact ⟨sink, transmissions, _, sent, sendErrors, he⟩

section
variable [RouteTable σ]

/-- What the deadline of an ack does in a regular state. -/
theorem Regular.expire_fansOut (h : d.Regular) (hn : n ∈ d.neighbors.entries) (htm : t ∈ d.timers.pending)
    (hl : n.liveness = .awaitingAck) (hh : n.timer? = some t.id) :
    FansOut d n t (d.relaysFor n).1 ({ d with timers := d.timers.fire t }.expire t) := by
  obtain ⟨hp, -, hkind⟩ := h.awaits hn htm hh
  have htask : t.task = .ackDue n.ref := (hkind.resolve_right fun he => by cases hl.symm.trans he.1).2
  rw [expire_ackDue (d := { d with timers := d.timers.fire t }) h.neighbors hn hl hh htask, escalate_eq,
    awaitAnswer_fire h.timers htm hp hh]
  exact inquire_fansOut h hn htm hh

/-- Whenever the deadline of an ack passes in a run, other idle neighbors are asked to probe the silent one, and nothing
else happens; and whichever of them they are to be, in whatever order, there are draws that pick them. -/
theorem Run.fansOut {d₀ : Daemon σ} (h₀ : d₀.IsFresh) {l : List (Moment σ)} (h : Run d₀ l d)
    (hn : n ∈ d.neighbors.entries) (htm : t ∈ d.timers.pending) (hl : n.liveness = .awaitingAck)
    (hh : n.timer? = some t.id) :
    (∃ relays, FansOut d n t relays ({ d with timers := d.timers.fire t }.expire t)) ∧
    ∀ relays others, (relays ++ others).Perm (d.neighbors.entries.filter fun m => m.isIdle ∧ m ≠ n) →
      relays.length =
        min d.config.investigativeCount (d.neighbors.entries.filter fun m => m.isIdle ∧ m ≠ n).length →
      ∃ lots, FansOut { d with lots := lots } n t relays
        ({ d with lots := lots, timers := d.timers.fire t }.expire t) := by
  have hreg := h.regular h₀
  refine ⟨⟨_, hreg.expire_fansOut hn htm hl hh⟩, fun relays others hp hc => ?_⟩
  obtain ⟨lots, rfl⟩ := exists_lots_relaysFor_eq hreg.neighbors hn hp hc
  have hlots : Regular { d with lots := lots } := hreg.aside ⟨rfl, rfl, rfl, rfl, rfl, rfl⟩
  exact ⟨lots, hlots.expire_fansOut hn htm hl hh⟩

end

/-- The lone host has heard announces of three others and has pinged the first; the sink will refuse one frame. -/
def crowded : Daemon MemoryRoutes :=
  let d := (((lone 5).handleFrame peer [1, 1, 0, 6, 2, 0, 0, 0, 0, 2]).2.handleFrame third
    [1, 1, 0, 6, 2, 0, 0, 0, 0, 3]).2.handleFrame (.ethernet 2 0 0 0 0 4) [1, 1, 0, 6, 2, 0, 0, 0, 0, 4]
  { d.2.pingTick.2 with sink := { refusals := [true] } }

theorem run_crowded : ∃ l, Run (lone 5) l crowded :=
  ⟨_, ((((Run.nil.snoc (.frame _ _ _)).snoc (.frame _ _ _)).snoc (.frame _ _ _)).snoc (.pingTick _)).snoc
    (.surroundings _ { refusals := [true] } 0)⟩

/-- Both idle neighbors are asked though the request to the first cannot leave. -/
theorem fansOut_of_crowded : ∃ l n relays d', Run (lone 5) l crowded ∧ n ∈ crowded.neighbors.entries ∧
    n.hwaddr = peer ∧ FansOut crowded n (ackDeadline 5) relays d' ∧ relays.length = 2 ∧ d'.sink.frames.length = 1 := by
  obtain ⟨l, h⟩ := run_crowded
  let n : Neighbor :=
    { ref := ⟨0⟩
      hwaddr := peer
      identity := (lone 5).etherXid peer
      liveness := .awaitingAck
      timer? := some ⟨1⟩ }
  have hn : n ∈ crowded.neighbors.entries := by decide
  obtain ⟨⟨relays, hf⟩, -⟩ := Run.fansOut (t := ackDeadline 5) (lone_isFresh 5) h hn (by decide) rfl rfl
  exact ⟨l, _, relays, _, h, hn, rfl, hf, hf.count.trans (by decide), by decide⟩

end Neighborhood.Daemon
