import Neighborhood.Proofs.Daemon.Turns

/-!
# Turns in runs

* `Daemon.sinceList` — the last list and all that has happened since
* `Daemon.Standing` — the counters and the draws are what the moments so far have made of them
* `Daemon.Run.takes_turns` — so they are throughout a run whose dumps succeed, and every moment decides by them
* `Daemon.Moment.dumps_tell` — dumps of routes held in memory always succeed
-/

namespace Neighborhood

namespace Daemon

/-! ## Runs -/

section
variable {σ : Type} [RouteTable σ] {holds : σ → List Route} {d₀ d d' : Daemon σ} {l : List (Moment σ)}

/-- The last list and all that has happened since, or all if there was none. -/
def sinceList (l : List (Moment σ)) : List (Moment σ) :=
  (l.reverse.find? Moment.lists).toList ++ l.reverse.takeWhile (!·.lists)

omit [RouteTable σ] in
theorem sinceList_concat_of_lists {m : Moment σ} (h : m.lists = true) : sinceList (l ++ [m]) = [m] := by
  rw [sinceList, List.reverse_concat, List.find?_cons_of_pos h, List.takeWhile_cons_of_neg (by simp [h])]
  rfl

omit [RouteTable σ] in
theorem countP_sinceList_concat {m : Moment σ} (h : m.lists = false) (p : Moment σ → Bool) :
    (sinceList (l ++ [m])).countP p = (sinceList l).countP p + if p m then 1 else 0 := by
  rw [sinceList, sinceList, List.reverse_concat, List.find?_cons_of_neg (by simp [h]),
    List.takeWhile_cons_of_pos (by simp [h]), List.countP_append, List.countP_append, List.countP_cons, Nat.add_assoc]

/-- What the counters and the draws say of the moments that have led to them. -/
structure Standing (holds : σ → List Route) (d₀ : Daemon σ) (l : List (Moment σ)) (d : Daemon σ) : Prop where
  /-- The own prefixes at the last announce. -/
  own : d.counters.own = UInt32.ofNat
    ((l.reverse.find? Moment.announces).elim 0 fun m => Dump.shown holds m.dumps .own d.types.ad)
  /-- The hosts at the last list, and the announces accepted since, its own included. -/
  discovered : d.counters.discovered = UInt32.ofNat
    ((l.reverse.find? Moment.lists).elim 0 (fun m => Dump.shown holds m.dumps .main d.types.ether) +
      (sinceList l).countP Moment.accepts)
  /-- The total at the last attempt. -/
  lastTotal : d.counters.lastTotal.toNat = (l.reverse.find? Moment.attempts).elim 0 (·.before.counters.sum)
  /-- One draw for each decision that takes one. -/
  draws : d.draws = { d₀.draws with used := d₀.draws.used + l.countP Moment.draws }

theorem Standing.nil (h : d.IsFresh) : Standing holds d [] d where
  own := by rw [h.counters]; rfl
  discovered := by rw [h.counters]; rfl
  lastTotal := by rw [h.counters]; rfl
  draws := rfl

/-- One more moment. -/
theorem Standing.snoc (h : Standing holds d₀ l d) {e : Event} (hs : Step d e d')
    (ht : Moment.Turns holds ⟨d, e, d'⟩) : Standing holds d₀ (l ++ [⟨d, e, d'⟩]) d' := by
  have htypes := hs.sameHost.types
  constructor
  · have hown := ht.own
    rw [List.reverse_concat, List.find?_cons]
    cases ha : (⟨d, e, d'⟩ : Moment σ).announces with
    | true =>
      rw [ha] at hown
      rw [htypes]
      exact hown
    | false =>
      rw [ha] at hown
      rw [htypes]
      exact hown.trans h.own
  · have hdiscovered := ht.discovered
    rw [htypes]
    cases hl : (⟨d, e, d'⟩ : Moment σ).lists with
    | true =>
      rw [hl, ht.accepts_of_lists hl] at hdiscovered
      rw [sinceList_concat_of_lists hl, List.reverse_concat, List.find?_cons_of_pos hl, List.countP_singleton,
        ht.accepts_of_lists hl, UInt32.ofNat_add]
      exact hdiscovered
    | false =>
      rw [hl] at hdiscovered
      rw [countP_sinceList_concat hl, List.reverse_concat, List.find?_cons_of_neg (by simp [hl]), ← Nat.add_assoc,
        UInt32.ofNat_add, ← h.discovered]
      refine hdiscovered.trans ?_
      cases (⟨d, e, d'⟩ : Moment σ).accepts <;> rfl
  · have htotal := ht.lastTotal
    rw [List.reverse_concat, List.find?_cons]
    cases ha : (⟨d, e, d'⟩ : Moment σ).attempts with
    | true =>
      rw [ha] at htotal
      exact (congrArg UInt32.toNat htotal).trans d.counters.toNat_total
    | false =>
      rw [ha] at htotal
      exact (congrArg UInt32.toNat htotal).trans h.lastTotal
  · have hdraws := ht.draws
    rw [List.countP_append, List.countP_singleton, ← Nat.add_assoc]
    cases hm : (⟨d, e, d'⟩ : Moment σ).draws with
    | true =>
      rw [hm] at hdraws
      refine hdraws.trans ?_
      show d.draws.next.2 = _
      rw [h.draws]
      rfl
    | false =>
      rw [hm] at hdraws
      exact hdraws.trans h.draws

theorem Run.standing (h₀ : d₀.IsFresh) (h : Run d₀ l d) (hd : ∀ m ∈ l, ∀ x ∈ m.dumps, x.Tells holds) :
    Standing holds d₀ l d := by
  induction h with
  | nil => exact .nil h₀
  | snoc _ hs ih =>
    have hlast := hd _ (List.mem_append_right _ (List.mem_singleton_self _))
    exact (ih fun m hm => hd m (List.mem_append_left _ hm)).snoc hs (hs.turns hlast)

end

end Daemon

/-! ## Routes held in memory -/

/-- A log of dumps of routes held in memory, which have all succeeded. -/
structure MemoryLog where
  log : DumpLog MemoryRoutes
  tells : ∀ x ∈ log.dumps, x.Tells MemoryRoutes.routes

namespace MemoryLog

instance : RouteTable MemoryLog where
  add l dst gateway := ((RouteTable.add l.log dst gateway).1, ⟨(RouteTable.add l.log dst gateway).2, l.tells⟩)
  del l dst := ((RouteTable.del l.log dst).1, ⟨(RouteTable.del l.log dst).2, l.tells⟩)
  dump l table filter := ((RouteTable.dump l.log table filter).1, ⟨(RouteTable.dump l.log table filter).2, fun x hx =>
    (List.mem_append.1 hx).elim (l.tells x) fun hx => by
      rw [List.mem_singleton.1 hx]
      rfl⟩)

theorem keeps_log : RouteTable.Keeps MemoryLog.log :=
  ⟨fun _ _ _ => rfl, fun _ _ => rfl, fun _ _ _ => rfl⟩

end MemoryLog

namespace Daemon

/-- Dumps of routes held in memory succeed, whatever happens. -/
theorem Moment.dumps_tell (m : Moment MemoryRoutes) : ∀ x ∈ m.dumps, x.Tells MemoryRoutes.routes := by
  let d : Daemon MemoryLog :=
    m.before.mapRoutes fun routes => { log := { routes := routes }, tells := List.forall_mem_nil _ }
  have hlog : (d.react m.event).routes.log = (m.before.logged.react m.event).routes :=
    congrArg Daemon.routes (mapRoutes_react MemoryLog.keeps_log d m.event).symm
  have hdumps : m.dumps = (d.react m.event).routes.log.dumps := congrArg DumpLog.dumps hlog.symm
  rw [hdumps]
  exact (d.react m.event).routes.tells

section
variable {σ : Type} [RouteTable σ] {holds : σ → List Route} {d₀ d : Daemon σ} {l : List (Moment σ)}

/-- In a run whose dumps succeed, the counters and the draws stand before each moment and at the end as the moments so
far have left them, and every moment decides by them. -/
theorem Run.takes_turns (h₀ : d₀.IsFresh) (h : Run d₀ l d) (hd : ∀ m ∈ l, ∀ x ∈ m.dumps, x.Tells holds) :
    Standing holds d₀ l d ∧
      ∀ l₁ m l₂, l = l₁ ++ m :: l₂ → Standing holds d₀ l₁ m.before ∧ m.Turns holds := by
  refine ⟨h.standing h₀ hd, ?_⟩
  rintro l₁ m l₂ rfl
  obtain ⟨hrun, hs⟩ := h.split
  exact ⟨hrun.standing h₀ fun m hm => hd m (List.mem_append_left _ hm),
    hs.turns (hd m (List.mem_append_right _ List.mem_cons_self))⟩

/-- A lone host with a prefix of its own. -/
def settled : Daemon MemoryRoutes :=
  { lone 5 with routes := { routes := [⟨.own, ⟨⟨16⟩, .replicate 7⟩, none⟩] } }

/-- The host announces its prefix, hears another host and sends it a list, and attempts to announce twice. -/
def attempted : Daemon MemoryRoutes :=
  (settled.announce.2.handleFrame peer [1, 1, 0, 6, 2, 0, 0, 0, 0, 2]).2.tryAnnounce.tryAnnounce

/-- One own prefix, one host at the list and one announce since; only the second attempt has taken a draw. -/
theorem takes_turns_of_attempted : ∃ l, Run settled l attempted ∧
    Standing MemoryRoutes.routes settled l attempted ∧ attempted.counters = ⟨1, 2, 3⟩ ∧
    (sinceList l).countP Moment.accepts = 1 ∧ l.countP Moment.draws = 1 ∧ attempted.draws.used = 1 := by
  have h₀ : settled.IsFresh := ⟨rfl, rfl, rfl, rfl, rfl, rfl⟩
  have h := (((Run.nil.snoc (.announce settled)).snoc (.frame _ peer [1, 1, 0, 6, 2, 0, 0, 0, 0, 2])).snoc
    (.tryAnnounce _)).snoc (.tryAnnounce _)
  have hstanding := (Run.takes_turns h₀ h fun m _ => m.dumps_tell).1
  refine ⟨_, h, hstanding, by decide, by decide, by decide, by decide⟩

end

end Daemon

end Neighborhood
