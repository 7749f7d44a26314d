import Mathlib.Data.List.Forall2
import Mathlib.Data.Nat.Digits.Defs
import Neighborhood.Text.Numeral

/-!
# Which numerals are read, and as which numbers

* `Numeral.IsDigit` — the digits and their values, as a table
* `Numeral.digit?_eq_some_iff` — digits are read by this table
* `Numeral.Writes` — a sign that may be missing, and digits, most significant first
* `Numeral.parse?_eq_some_iff` — a number is read from what writes it, if it is within the bound
-/

namespace Neighborhood

/-- A list is taken member by member, and all members have to give something. -/
theorem mapM_eq_some_iff {α β : Type} {f : α → Option β} : ∀ {as : List α} {bs : List β},
    as.mapM f = some bs ↔ List.Forall₂ (fun a b => f a = some b) as bs
  | [], bs => by simp [List.forall₂_nil_left_iff, eq_comm]
  | a :: as, bs => by
    rw [List.mapM_cons]
    simp only [Option.bind_eq_bind, Option.bind_eq_some_iff, mapM_eq_some_iff, Option.pure_def, Option.some.injEq]
    constructor
    · rintro ⟨b, hb, bs, hbs, rfl⟩
      exact .cons hb hbs
    · rintro (_ | ⟨hb, hbs⟩)
      exact ⟨_, hb, _, hbs, rfl⟩

namespace Numeral

/-! ## Digits -/

/-- The digits by their values, with small letters from ten on. -/
def smallDigits : List Char := "0123456789abcdefghijklmnopqrstuvwxyz".toList

/-- The same with capitals. -/
def capitalDigits : List Char := "0123456789ABCDEFGHIJKLMNOPQRSTUVWXYZ".toList

/-- The character is a digit of the radix and has this value. -/
structure IsDigit (radix : Nat) (c : Char) (d : Nat) : Prop where
  lt : d < radix
  listed : smallDigits[d]? = some c ∨ capitalDigits[d]? = some c

variable {radix : Nat} {c : Char} {d : Nat}

theorem digit?_of_listed (h : smallDigits[d]? = some c ∨ capitalDigits[d]? = some c) : digit? 36 c = some d := by
  have hsmall : ∀ d < 36, smallDigits[d]?.map (digit? 36) = some (some d) := by decide
  have hcapital : ∀ d < 36, capitalDigits[d]?.map (digit? 36) = some (some d) := by decide
  rcases h with h | h
  · have hd := hsmall d (List.getElem?_eq_some_iff.1 h).1
    rw [h] at hd
    exact Option.some.inj hd
  · have hd := hcapital d (List.getElem?_eq_some_iff.1 h).1
    rw [h] at hd
    exact Option.some.inj hd

/-- Where the digits of a table have code points that follow each other, the value of a digit is its distance from the
first one. -/
theorem listed_of_offset (digits : List Char) (first start count : Nat)
    (h : ∀ i < count, digits[start + i]? = some (Char.ofNat (first + i))) (hc : first ≤ c.toNat)
    (hlt : c.toNat < first + count) : digits[start + (c.toNat - first)]? = some c := by
  rw [h _ (by omega), Nat.add_sub_cancel' hc, Char.ofNat_toNat]

theorem listed_of_digit? (h : digit? radix c = some d) : smallDigits[d]? = some c ∨ capitalDigits[d]? = some c := by
  have hv := (Option.filter_eq_some_iff.1 h).1
  have hle (a b : Char) (hab : a ≤ b) : a.toNat ≤ b.toNat := UInt32.le_iff_toNat_le.1 hab
  split at hv
  · rename_i hc
    have hlow : 48 ≤ c.toNat := hle '0' c hc.1
    have hhigh : c.toNat ≤ 57 := hle c '9' hc.2
    have hlisted := listed_of_offset smallDigits 48 0 10 (by decide) hlow (by omega)
    rw [← Option.some.inj hv]
    exact .inl (by simpa using hlisted)
  · split at hv
    · rename_i hc
      have hlow : 97 ≤ c.toNat := hle 'a' c hc.1
      have hhigh : c.toNat ≤ 122 := hle c 'z' hc.2
      have hlisted := listed_of_offset smallDigits 97 10 26 (by decide) hlow (by omega)
      rw [← Option.some.inj hv, show c.toNat - 87 = 10 + (c.toNat - 97) by omega]
      exact .inl hlisted
    · split at hv
      · rename_i hc
        have hlow : 65 ≤ c.toNat := hle 'A' c hc.1
        have hhigh : c.toNat ≤ 90 := hle c 'Z' hc.2
        have hlisted := listed_of_offset capitalDigits 65 10 26 (by decide) hlow (by omega)
        rw [← Option.some.inj hv, show c.toNat - 55 = 10 + (c.toNat - 65) by omega]
        exact .inr hlisted
      · cases hv

theorem digit?_eq_some_iff : digit? radix c = some d ↔ IsDigit radix c d := by
  constructor
  · intro h
    exact ⟨of_decide_eq_true (Option.filter_eq_some_iff.1 h).2, listed_of_digit? h⟩
  · rintro ⟨hd, hlisted⟩
    have hv := (Option.filter_eq_some_iff.1 (digit?_of_listed hlisted)).1
    exact Option.filter_eq_some_iff.2 ⟨hv, decide_eq_true hd⟩

/-! ## Numerals -/

/-- One digit at least, the most significant first, and before them a plus sign or nothing. -/
inductive Writes (radix : Nat) : List Char → Nat → Prop
  | digits {cs : List Char} {ds : List Nat} : cs ≠ [] → List.Forall₂ (IsDigit radix) cs ds →
      Writes radix cs (Nat.ofDigits radix ds.reverse)
  | signed {cs : List Char} {ds : List Nat} : cs ≠ [] → List.Forall₂ (IsDigit radix) cs ds →
      Writes radix ('+' :: cs) (Nat.ofDigits radix ds.reverse)

theorem value_eq (radix : Nat) (ds : List Nat) : value radix ds = Nat.ofDigits radix ds.reverse := by
  rw [value, Nat.ofDigits_eq_foldr, List.foldr_reverse]
  congr 1
  funext n d
  rw [Nat.cast_id, Nat.add_comm, Nat.mul_comm]

/-- The sign is no digit. -/
theorem not_isDigit_plus : ¬ IsDigit radix '+' d := by
  intro h
  have hnone := digit?_of_listed h.listed
  have hplus : digit? 36 '+' = none := by decide
  rw [hplus] at hnone
  cases hnone

theorem unsigned_of_forall₂ {cs : List Char} {ds : List Nat} (h : List.Forall₂ (IsDigit radix) cs ds) :
    unsigned cs = cs := by
  unfold unsigned
  split
  · cases h with
    | cons hd => exact absurd hd not_isDigit_plus
  · rfl

theorem eq_of_unsigned (cs : List Char) : cs = unsigned cs ∨ cs = '+' :: unsigned cs := by
  unfold unsigned
  split
  · exact .inr rfl
  · exact .inl rfl

theorem parse?_eq_some_iff_of_unsigned {bound n : Nat} {cs : List Char} : parse? radix bound cs = some n ↔
    unsigned cs ≠ [] ∧ ∃ ds, List.Forall₂ (IsDigit radix) (unsigned cs) ds ∧ n = Nat.ofDigits radix ds.reverse ∧
      n ≤ bound := by
  unfold parse?
  cases hbody : unsigned cs with
  | nil => simp
  | cons c body =>
    simp only [Option.bind_eq_bind, Option.bind_eq_some_iff, mapM_eq_some_iff, digit?_eq_some_iff, value_eq,
      Option.ite_none_right_eq_some, Option.some.injEq, ne_eq, reduceCtorEq, not_false_eq_true, true_and]
    constructor
    · rintro ⟨ds, hds, hle, rfl⟩
      exact ⟨ds, hds, rfl, hle⟩
    · rintro ⟨ds, hds, rfl, hle⟩
      exact ⟨ds, hds, hle, rfl⟩

/-- A number is read from what writes it, if it is within the bound. -/
theorem parse?_eq_some_iff {bound n : Nat} {cs : List Char} :
    parse? radix bound cs = some n ↔ Writes radix cs n ∧ n ≤ bound := by
  rw [parse?_eq_some_iff_of_unsigned]
  constructor
  · rintro ⟨hne, ds, hds, rfl, hle⟩
    refine ⟨?_, hle⟩
    rcases eq_of_unsigned cs with hcs | hcs
    · rw [hcs]
      exact .digits hne hds
    · rw [hcs]
      exact .signed hne hds
  · rintro ⟨hw, hle⟩
    cases hw with
    | digits hne hds =>
      rw [unsigned_of_forall₂ hds]
      exact ⟨hne, _, hds, rfl, hle⟩
    | signed hne hds => exact ⟨hne, _, hds, rfl, hle⟩

end Numeral

end Neighborhood
