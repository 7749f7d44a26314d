import Neighborhood.Turn

/-!
# What turns are decided by

* `PrefixCounters.sum`, `PrefixCounters.toNat_total` — the total is the sum of both counts, cut at the greatest word
* `Decides` — which answers two counts call for
* `isMyTurn_decides`, `isMyTurn_draws` — decisions follow this, and take a draw just if both counts are positive
* `shouldAnnounce_of_changed`, `shouldAnnounce_decides` — an attempt announces after a change of the total, and else
  as turns are decided
-/

namespace Neighborhood

namespace PrefixCounters

variable (c : PrefixCounters)

/-- Both counts together, but at most the greatest word. -/
def sum : Nat := min (c.own.toNat + c.discovered.toNat) (UInt32.size - 1)

/-- Nothing but a draw can decide. -/
def bothPositive : Bool := c.own ≠ 0 && c.discovered ≠ 0

theorem toNat_total : c.total.toNat = c.sum :=
  UInt32.toNat_ofNat_of_lt' (Nat.lt_of_le_of_lt (Nat.min_le_right _ _) (by decide))

end PrefixCounters

/-- The answer that the counts call for: no without own prefixes, yes if no others are known, and else what the next
draw says. -/
structure Decides (c : PrefixCounters) (draws : Draws UInt64) (answer : Bool) : Prop where
  no : c.own = 0 → answer = false
  yes : c.own ≠ 0 → c.discovered = 0 → answer = true
  drawn : c.own ≠ 0 → c.discovered ≠ 0 →
    answer = decide ((draws.value draws.used).toNat < (turnProbability c.own c.discovered).threshold)

variable {c : PrefixCounters} {draws : Draws UInt64}

theorem isMyTurn_decides : Decides c draws (isMyTurn c.own c.discovered draws).1 := by
  refine ⟨fun ho => ?_, fun ho hd => ?_, fun ho hd => ?_⟩
  · rw [isMyTurn, if_pos ho]
  · rw [isMyTurn, if_neg ho, if_pos hd]
  · rw [isMyTurn, if_neg ho, if_neg hd]
    rfl

theorem isMyTurn_draws : (isMyTurn c.own c.discovered draws).2 = if c.bothPositive then draws.next.2 else draws := by
  unfold isMyTurn PrefixCounters.bothPositive
  by_cases ho : c.own = 0
  · simp [ho]
  · by_cases hd : c.discovered = 0
    · simp [ho, hd]
    · simp [ho, hd]

/-! ## Periodic attempts -/

theorem total_eq_lastTotal_iff : c.total = c.lastTotal ↔ c.sum = c.lastTotal.toNat := by
  rw [← PrefixCounters.toNat_total, UInt32.toNat_inj]

theorem shouldAnnounce_eq : shouldAnnounce c draws =
    if c.sum = c.lastTotal.toNat then
      ((isMyTurn c.own c.discovered draws).1, { c with lastTotal := c.total },
        (isMyTurn c.own c.discovered draws).2)
    else (true, { c with lastTotal := c.total }, draws) := by
  by_cases h : c.total = c.lastTotal
  · have hsame : (c.lastTotal != c.total) = false := bne_eq_false_iff_eq.2 h.symm
    rw [if_pos (total_eq_lastTotal_iff.1 h)]
    simp only [shouldAnnounce, PrefixCounters.checkTotalChange, hsame, Bool.false_eq_true, if_false]
  · have hchanged : (c.lastTotal != c.total) = true := bne_iff_ne.2 (Ne.symm h)
    rw [if_neg fun hsum => h (total_eq_lastTotal_iff.2 hsum)]
    simp only [shouldAnnounce, PrefixCounters.checkTotalChange, hchanged, if_true]

/-- An attempt notes the total. -/
theorem shouldAnnounce_counters : (shouldAnnounce c draws).2.1 = { c with lastTotal := c.total } := by
  rw [shouldAnnounce_eq]
  split <;> rfl

theorem shouldAnnounce_draws : (shouldAnnounce c draws).2.2 =
    if decide (c.sum = c.lastTotal.toNat) && c.bothPositive then draws.next.2 else draws := by
  rw [shouldAnnounce_eq]
  by_cases h : c.sum = c.lastTotal.toNat
  · rw [if_pos h, isMyTurn_draws, decide_eq_true h, Bool.true_and]
  · rw [if_neg h, decide_eq_false h, Bool.false_and]
    rfl

theorem shouldAnnounce_of_changed (h : c.sum ≠ c.lastTotal.toNat) :
    (shouldAnnounce c draws).1 = true ∧ (shouldAnnounce c draws).2.2 = draws := by
  rw [shouldAnnounce_eq, if_neg h]
  exact ⟨rfl, rfl⟩

theorem shouldAnnounce_decides (h : c.sum = c.lastTotal.toNat) : Decides c draws (shouldAnnounce c draws).1 := by
  rw [shouldAnnounce_eq, if_pos h]
  exact isMyTurn_decides

end Neighborhood
