import Neighborhood.HwAddr
import Neighborhood.Proofs.Text.Fields
import Neighborhood.Proofs.Text.Numeral

/-!
# Addresses as text

* `HwAddr.IsPart` — what may stand between two colons: one or two digits, or a plus sign and one digit
* `HwAddr.parseChars?_eq_some_iff` — an address is read from parts that write its bytes in order
* `HwAddr.splitOn_toChars` — what is printed between two colons is both digits of a byte
* `HwAddr.IsCanonical` — pairs of small digits between colons
* `HwAddr.parse?_grammar` — what is read as which address, and what is printed
-/

namespace Neighborhood

open Numeral (IsDigit smallDigits)

namespace HwAddr

variable {part : List Char} {b : UInt8} {a : HwAddr} {cs : List Char}

/-! ## Parts -/

/-- The part writes the byte: one or two hexadecimal digits of either case, or a plus sign and one digit. -/
inductive IsPart : List Char → UInt8 → Prop
  | one {c : Char} {b : UInt8} : IsDigit 16 c b.toNat → IsPart [c] b
  | signed {c : Char} {b : UInt8} : IsDigit 16 c b.toNat → IsPart ['+', c] b
  | two {c d : Char} {m n : Nat} {b : UInt8} : IsDigit 16 c m → IsDigit 16 d n → b.toNat = 16 * m + n → IsPart [c, d] b

theorem parsePart?_eq_some_iff_writes :
    parsePart? part = some b ↔ part.length ≤ 2 ∧ Numeral.Writes 16 part b.toNat := by
  have hb : b.toNat ≤ 255 := Nat.le_of_lt_succ b.toNat_lt
  unfold parsePart?
  rw [Option.ite_none_right_eq_some, Option.map_eq_some_iff]
  refine and_congr_right fun _ => ?_
  simp only [Numeral.parse?_eq_some_iff]
  constructor
  · rintro ⟨n, ⟨hn, hle⟩, rfl⟩
    rwa [UInt8.toNat_ofNat', Nat.mod_eq_of_lt (Nat.lt_succ_of_le hle)]
  · intro h
    exact ⟨_, ⟨h, hb⟩, UInt8.ofNat_toNat⟩

/-- Numerals of two characters at most. -/
theorem writes_iff_isPart : part.length ≤ 2 ∧ Numeral.Writes 16 part b.toNat ↔ IsPart part b := by
  constructor
  · rintro ⟨hl, hw⟩
    generalize hn : b.toNat = n at hw
    cases hw with
    | digits hne hds =>
      match hds with
      | .nil => exact absurd rfl hne
      | .cons hd .nil => exact .one (by simpa [hn] using hd)
      | .cons hd (.cons hd' .nil) => exact .two hd hd' (by simp [hn, Nat.ofDigits_cons, Nat.add_comm])
      | .cons _ (.cons _ (.cons _ _)) => simp at hl
    | signed hne hds =>
      match hds with
      | .nil => exact absurd rfl hne
      | .cons hd .nil => exact .signed (by simpa [hn] using hd)
      | .cons _ (.cons _ _) => simp at hl
  · rintro (hd | hd | ⟨hd, hd', hb⟩)
    · have hw := Numeral.Writes.digits (List.cons_ne_nil _ _) (.cons hd .nil)
      exact ⟨by simp, by simpa using hw⟩
    · have hw := Numeral.Writes.signed (List.cons_ne_nil _ _) (.cons hd .nil)
      exact ⟨by simp, by simpa using hw⟩
    · have hw := Numeral.Writes.digits (List.cons_ne_nil _ _) (.cons hd (.cons hd' .nil))
      exact ⟨by simp, by simpa [hb, Nat.ofDigits_cons, Nat.add_comm] using hw⟩

theorem parsePart?_eq_some_iff : parsePart? part = some b ↔ IsPart part b :=
  parsePart?_eq_some_iff_writes.trans writes_iff_isPart

/-! ## Whole texts -/

theorem ofBytes?_eq_some_iff {bs : List UInt8} : ofBytes? bs = some a ↔ bs = a.bytes := by
  unfold ofBytes?
  constructor
  · intro h
    obtain ⟨_, he⟩ := Option.dite_none_right_eq_some.1 h
    rw [← Option.some.inj he]
  · rintro rfl
    exact dif_pos ⟨a.length_pos, a.length_le⟩

/-- An address is read from parts that write its bytes in order. -/
theorem parseChars?_eq_some_iff : parseChars? cs = some a ↔ List.Forall₂ IsPart (cs.splitOn ':') a.bytes := by
  simp only [parseChars?, Text.splitOn_eq, Option.bind_eq_bind, Option.bind_eq_some_iff, mapM_eq_some_iff,
    parsePart?_eq_some_iff, ofBytes?_eq_some_iff, exists_eq_right]

theorem exists_forall₂_iff {α β : Type} {R : α → β → Prop} : ∀ {as : List α},
    (∃ bs, List.Forall₂ R as bs) ↔ ∀ a ∈ as, ∃ b, R a b
  | [] => ⟨fun _ => List.forall_mem_nil _, fun _ => ⟨[], .nil⟩⟩
  | a :: as => by
    rw [List.forall_mem_cons, ← exists_forall₂_iff]
    constructor
    · rintro ⟨_, _ | ⟨hb, hbs⟩⟩
      exact ⟨⟨_, hb⟩, _, hbs⟩
    · rintro ⟨⟨b, hb⟩, bs, hbs⟩
      exact ⟨b :: bs, .cons hb hbs⟩

theorem exists_parseChars?_iff : (∃ a, parseChars? cs = some a) ↔
    (1 ≤ (cs.splitOn ':').length ∧ (cs.splitOn ':').length ≤ 8) ∧ ∀ part ∈ cs.splitOn ':', ∃ b, IsPart part b := by
  simp only [parseChars?_eq_some_iff, ← exists_forall₂_iff]
  constructor
  · rintro ⟨a, ha⟩
    rw [ha.length_eq]
    exact ⟨⟨a.length_pos, a.length_le⟩, _, ha⟩
  · rintro ⟨⟨hpos, hle⟩, bs, hbs⟩
    rw [hbs.length_eq] at hpos hle
    exact ⟨⟨bs, hpos, hle⟩, hbs⟩

/-! ## What is printed -/

/-- Both digits of a byte, small ones. -/
def IsPair (part : List Char) (b : UInt8) : Prop :=
  ∃ c d, part = [c, d] ∧ smallDigits[b.toNat / 16]? = some c ∧ smallDigits[b.toNat % 16]? = some d

theorem digit_listed : ∀ n < 16, smallDigits[n]? = some (Hex.digit n) := by decide

theorem isPair_iff : IsPair part b ↔ part = Hex.ofByte b := by
  have hb := b.toNat_lt
  simp only [IsPair, digit_listed _ (show b.toNat / 16 < 16 by omega), digit_listed _ (show b.toNat % 16 < 16 by omega),
    Option.some.injEq, Hex.ofByte]
  constructor
  · rintro ⟨c, d, rfl, rfl, rfl⟩
    rfl
  · rintro rfl
    exact ⟨_, _, rfl, rfl, rfl⟩

theorem IsPair.isPart (h : IsPair part b) : IsPart part b := by
  obtain ⟨c, d, rfl, hc, hd⟩ := h
  have hb := b.toNat_lt
  exact .two ⟨by omega, .inl hc⟩ ⟨by omega, .inl hd⟩ (Nat.div_add_mod _ _).symm

theorem colon_not_mem_ofByte (b : UInt8) : ':' ∉ Hex.ofByte b := by
  have hdigit : ∀ n < 16, ':' ≠ Hex.digit n := by decide
  have hb := b.toNat_lt
  simp [Hex.ofByte, hdigit (b.toNat / 16) (by omega), hdigit (b.toNat % 16) (by omega)]

/-- What is printed between two colons is both digits of a byte. -/
theorem splitOn_toChars (a : HwAddr) : a.toChars.splitOn ':' = a.bytes.map Hex.ofByte := by
  rw [toChars, Text.join_eq]
  refine List.splitOn_intercalate ':' (List.forall_mem_map.2 fun b _ => colon_not_mem_ofByte b) ?_
  have hpos := a.length_pos
  rw [Ne, List.map_eq_nil_iff, ← List.length_eq_zero_iff]
  omega

/-- Only the printed form has the digits of the bytes in its parts. -/
theorem forall₂_isPair_iff : List.Forall₂ IsPair (cs.splitOn ':') a.bytes ↔ cs = a.toChars := by
  have hmap : List.Forall₂ IsPair (cs.splitOn ':') a.bytes ↔ cs.splitOn ':' = a.toChars.splitOn ':' := by
    have hpair : IsPair = fun part b => part = Hex.ofByte b := funext₂ fun _ _ => propext isPair_iff
    rw [splitOn_toChars, ← List.forall₂_eq_eq_eq, List.forall₂_map_right_iff, hpair]
  have hjoin (ds : List Char) : [':'].intercalate (ds.splitOn ':') = ds := List.intercalate_splitOn ':'
  rw [hmap]
  refine ⟨fun h => ?_, fun h => h ▸ rfl⟩
  rw [← hjoin cs, h, hjoin]

theorem parseChars?_toChars (a : HwAddr) : parseChars? a.toChars = some a :=
  parseChars?_eq_some_iff.2 ((forall₂_isPair_iff.2 rfl).imp fun _ _ => IsPair.isPart)

/-! ## The canonical form -/

/-- One to eight pairs of small digits between colons. -/
structure IsCanonical (cs : List Char) : Prop where
  length_pos : 1 ≤ (cs.splitOn ':').length
  length_le : (cs.splitOn ':').length ≤ 8
  pairs : ∀ part ∈ cs.splitOn ':', part.length = 2 ∧ ∀ c ∈ part, c ∈ "0123456789abcdef".toList

theorem exists_isPair_iff :
    (∃ b, IsPair part b) ↔ part.length = 2 ∧ ∀ c ∈ part, c ∈ "0123456789abcdef".toList := by
  constructor
  · rintro ⟨b, h⟩
    have hdigit : ∀ n < 16, Hex.digit n ∈ "0123456789abcdef".toList := by decide
    have hb := b.toNat_lt
    rw [isPair_iff.1 h]
    refine ⟨rfl, ?_⟩
    simp only [Hex.ofByte, List.forall_mem_cons]
    exact ⟨hdigit _ (by omega), hdigit _ (by omega), List.forall_mem_nil _⟩
  · rintro ⟨hl, hc⟩
    have hvalue : ∀ c ∈ "0123456789abcdef".toList, ∃ n < 16, smallDigits[n]? = some c := fun c hc => by
      have htake : "0123456789abcdef".toList = smallDigits.take 16 := rfl
      obtain ⟨n, hn⟩ := List.mem_iff_getElem?.1 (htake ▸ hc)
      rw [List.getElem?_take] at hn
      split at hn
      · exact ⟨n, ‹_›, hn⟩
      · cases hn
    obtain ⟨c, d, rfl⟩ := List.length_eq_two.1 hl
    obtain ⟨m, hm, hcm⟩ := hvalue c (hc c (by simp))
    obtain ⟨n, hn, hdn⟩ := hvalue d (hc d (by simp))
    have hb : (UInt8.ofNat (16 * m + n)).toNat = 16 * m + n := by
      rw [UInt8.toNat_ofNat']
      omega
    refine ⟨UInt8.ofNat (16 * m + n), c, d, rfl, ?_, ?_⟩
    · rw [hb, show (16 * m + n) / 16 = m by omega, hcm]
    · rw [hb, show (16 * m + n) % 16 = n by omega, hdn]

/-- The canonical texts are those that are printed. -/
theorem isCanonical_iff : IsCanonical cs ↔ ∃ a : HwAddr, cs = a.toChars := by
  have hpairs : (∀ part ∈ cs.splitOn ':', part.length = 2 ∧ ∀ c ∈ part, c ∈ "0123456789abcdef".toList) ↔
      ∃ bs, List.Forall₂ IsPair (cs.splitOn ':') bs := by
    simp only [exists_forall₂_iff, exists_isPair_iff]
  simp only [← forall₂_isPair_iff]
  constructor
  · intro h
    obtain ⟨bs, hbs⟩ := hpairs.1 h.pairs
    exact ⟨⟨bs, hbs.length_eq ▸ h.length_pos, hbs.length_eq ▸ h.length_le⟩, hbs⟩
  · rintro ⟨a, ha⟩
    exact ⟨ha.length_eq ▸ a.length_pos, ha.length_eq ▸ a.length_le, hpairs.2 ⟨_, ha⟩⟩

/-- The parts of a text between its colons. -/
def parts (s : String) : List (List Char) := s.toList.splitOn ':'

theorem toList_toString (a : HwAddr) : (toString a).toList = a.toChars :=
  String.toList_ofList

/-- Every address is read back from what is printed for it. A text is read just if it has one to eight parts between
colons and each part is one or two digits, or a plus sign and one digit; the parts write the bytes of the address in
order, and what is printed has pairs of small digits for them. Texts of such pairs are printed as they were read. -/
theorem parse?_grammar :
    (∀ a : HwAddr, parse? (toString a) = some a) ∧
    (∀ s, (∃ a, parse? s = some a) ↔
      (1 ≤ (parts s).length ∧ (parts s).length ≤ 8) ∧ ∀ part ∈ parts s, ∃ b, IsPart part b) ∧
    (∀ s a, parse? s = some a →
      List.Forall₂ IsPart (parts s) a.bytes ∧ List.Forall₂ IsPair (parts (toString a)) a.bytes ∧
        IsCanonical (toString a).toList) ∧
    ∀ s, IsCanonical s.toList → ∃ a, parse? s = some a ∧ toString a = s := by
  refine ⟨fun a => ?_, fun s => exists_parseChars?_iff, fun s a h => ?_, fun s h => ?_⟩
  · rw [parse?, toList_toString, parseChars?_toChars]
  · rw [parts, parts, toList_toString]
    exact ⟨parseChars?_eq_some_iff.1 h, forall₂_isPair_iff.2 rfl, isCanonical_iff.2 ⟨a, rfl⟩⟩
  · obtain ⟨a, ha⟩ := isCanonical_iff.1 h
    refine ⟨a, ?_, ?_⟩
    · rw [parse?, ha, parseChars?_toChars]
    · rw [← String.toList_inj, toList_toString, ha]

/-- Three parts, with a sign, with a capital and with one digit, and the form in which they are printed. -/
theorem parse?_grammar_of_three :
    let a : HwAddr := ⟨[10, 0xbc, 0], by decide, by decide⟩
    parse? "+a:Bc:0" = some a ∧ IsCanonical (toString a).toList ∧
      List.Forall₂ IsPair (parts (toString a)) [10, 0xbc, 0] ∧
      ∃ a, parse? "0a:bc:00" = some a ∧ toString a = "0a:bc:00" := by
  intro a
  obtain ⟨-, -, hread, hcanonical⟩ := parse?_grammar
  have h : parse? "+a:Bc:0" = some a := by decide +kernel
  have hc : IsCanonical "0a:bc:00".toList := isCanonical_iff.2 ⟨a, by decide +kernel⟩
  obtain ⟨-, hpairs, hprinted⟩ := hread _ _ h
  exact ⟨h, hprinted, hpairs, hcanonical _ hc⟩

end HwAddr

end Neighborhood
