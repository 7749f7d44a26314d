import Mathlib.Data.List.Perm.Basic
import Neighborhood.Draws

/-!
# Samples of a list

* `Draws.exists_sample_append_perm`, `Draws.length_sample` — a sample is a part of the list, of the size asked for
* `Draws.exists_sample_eq` — every part of this size, in every order, is drawn by some values
-/

namespace Neighborhood.Draws

variable {α : Type} {a : α} {l : List α} {count : Nat} {d : Draws Nat}

/-- The first draw decides on the first member, and the others are drawn from what is left. -/
theorem sample_succ {i : Nat} (hd : d.value d.used % (a :: l).length = i) (hi : i < (a :: l).length) :
    (sample (a :: l) (count + 1) d).1 = (a :: l)[i] :: (sample ((a :: l).eraseIdx i) count d.next.2).1 := by
  subst hd
  simp only [sample, next, List.getElem?_eq_getElem hi, Option.toList_some, List.cons_append, List.nil_append]

theorem place_lt (a : α) (l : List α) (i : Nat) : i % (a :: l).length < (a :: l).length :=
  Nat.mod_lt _ (Nat.succ_pos _)

/-- With the rest of the list a sample is the list in another order. -/
theorem exists_sample_append_perm : ∀ (count : Nat) (l : List α) (d : Draws Nat),
    ∃ rest, ((sample l count d).1 ++ rest).Perm l
  | 0, l, _ => ⟨l, .refl l⟩
  | _ + 1, [], _ => ⟨[], .refl []⟩
  | count + 1, a :: l, d => by
    have hi := place_lt a l (d.value d.used)
    obtain ⟨rest, hp⟩ := exists_sample_append_perm count ((a :: l).eraseIdx _) d.next.2
    refine ⟨rest, ?_⟩
    rw [sample_succ rfl hi, List.cons_append]
    exact (hp.cons _).trans (List.getElem_cons_eraseIdx_perm hi)

theorem length_sample : ∀ (count : Nat) (l : List α) (d : Draws Nat),
    (sample l count d).1.length = min count l.length
  | 0, _, _ => by simp [sample]
  | _ + 1, [], _ => by simp [sample]
  | count + 1, a :: l, d => by
    have hi := place_lt a l (d.value d.used)
    have ih := length_sample count ((a :: l).eraseIdx (d.value d.used % (a :: l).length)) d.next.2
    rw [List.length_eraseIdx_of_lt hi, List.length_cons, Nat.add_sub_cancel] at ih
    rw [sample_succ rfl hi, List.length_cons, List.length_cons, ih, Nat.add_min_add_right]

/-- Any part of the list that has the size of a sample is one, if the next values are the right ones. -/
theorem exists_values_sample_eq : ∀ {count : Nat} {chosen rest l : List α}, (chosen ++ rest).Perm l →
    chosen.length = min count l.length →
    ∃ values : Nat → Nat, ∀ d : Draws Nat, (∀ i, d.value (d.used + i) = values i) → (sample l count d).1 = chosen
  | 0, chosen, _, l, _, hc => by
    rw [Nat.zero_min, List.length_eq_zero_iff] at hc
    exact ⟨fun _ => 0, fun d _ => by rw [hc, sample]⟩
  | _ + 1, chosen, _, [], _, hc => by
    rw [List.length_nil, Nat.min_zero, List.length_eq_zero_iff] at hc
    exact ⟨fun _ => 0, fun d _ => by rw [hc, sample]⟩
  | count + 1, [], _, _ :: _, _, hc => by
    rw [List.length_cons, Nat.add_min_add_right] at hc
    cases hc
  | count + 1, b :: chosen, rest, a :: l, hp, hc => by
    obtain ⟨i, hi, rfl⟩ := List.mem_iff_getElem.1 (hp.subset List.mem_cons_self)
    -- the other members are a part of what is left of the list
    have hrest : (chosen ++ rest).Perm ((a :: l).eraseIdx i) :=
      (List.perm_cons _).1 (hp.trans (List.getElem_cons_eraseIdx_perm hi).symm)
    have hlength : chosen.length = min count ((a :: l).eraseIdx i).length := by
      rw [List.length_eraseIdx_of_lt hi, List.length_cons, Nat.add_sub_cancel]
      rw [List.length_cons, List.length_cons, Nat.add_min_add_right] at hc
      exact Nat.add_right_cancel hc
    obtain ⟨values, hv⟩ := exists_values_sample_eq hrest hlength
    refine ⟨fun j => j.casesOn i values, fun d hd => ?_⟩
    have hfirst : d.value d.used = i := hd 0
    have hplace : d.value d.used % (a :: l).length = i := by rw [hfirst, Nat.mod_eq_of_lt hi]
    rw [sample_succ hplace hi, hv]
    intro j
    rw [next, Nat.add_right_comm]
    exact hd (j + 1)

/-- Nothing is ruled out that a part of the list of this size could be. -/
theorem exists_sample_eq {chosen rest : List α} (hp : (chosen ++ rest).Perm l)
    (hc : chosen.length = min count l.length) : ∃ d : Draws Nat, (sample l count d).1 = chosen := by
  obtain ⟨values, hv⟩ := exists_values_sample_eq hp hc
  exact ⟨⟨values, 0⟩, hv _ fun i => by rw [Nat.zero_add]⟩

end Neighborhood.Draws
