import Neighborhood.Word

/-!
# Words and their bytes

* `wordBE_toNat` — the value of a word from the values of its bytes
* `wordBE_bytesBE`, `bytesBE_wordBE` — a word is read back from its bytes, and bytes are written back from their word
* `bytesBE_inj` — different words have different bytes
* `wordLE_bytesLE`, `halfLE_halfBytesLE` — the same with the least significant byte first
-/

namespace Neighborhood

/-- A word is written with its bytes as digits. -/
theorem wordBE_toNat (b₀ b₁ b₂ b₃ : UInt8) :
    (wordBE b₀ b₁ b₂ b₃).toNat = 256 * (256 * (256 * b₀.toNat + b₁.toNat) + b₂.toNat) + b₃.toNat := by
  have h₀ := b₀.toNat_lt
  have h₁ := b₁.toNat_lt
  have h₂ := b₂.toNat_lt
  have h₃ := b₃.toNat_lt
  have hs : ∀ (b : UInt8) (k : Nat), k ≤ 24 → b.toNat <<< k % 2 ^ 32 = 2 ^ k * b.toNat := by
    intro b k hk
    rw [Nat.shiftLeft_eq, Nat.mul_comm]
    refine Nat.mod_eq_of_lt ?_
    calc 2 ^ k * b.toNat < 2 ^ k * 2 ^ 8 := Nat.mul_lt_mul_of_pos_left b.toNat_lt (Nat.two_pow_pos k)
      _ = 2 ^ (k + 8) := (Nat.pow_add 2 k 8).symm
      _ ≤ 2 ^ 32 := Nat.pow_le_pow_right (by decide) (by omega)
  have e₁ : 2 ^ 24 * b₀.toNat ||| 2 ^ 16 * b₁.toNat = 2 ^ 16 * (2 ^ 8 * b₀.toNat + b₁.toNat) := by
    rw [← Nat.two_pow_add_eq_or_of_lt (by omega)]
    omega
  have e₂ : 2 ^ 16 * (2 ^ 8 * b₀.toNat + b₁.toNat) ||| 2 ^ 8 * b₂.toNat =
      2 ^ 8 * (2 ^ 16 * b₀.toNat + 2 ^ 8 * b₁.toNat + b₂.toNat) := by
    rw [← Nat.two_pow_add_eq_or_of_lt (by omega)]
    omega
  simp only [wordBE, UInt32.toNat_or, UInt32.toNat_shiftLeft, UInt8.toNat_toUInt32, UInt32.reduceToNat, Nat.reduceMod]
  rw [hs b₀ 24 (by decide), hs b₁ 16 (by decide), hs b₂ 8 (by decide), e₁, e₂, ← Nat.two_pow_add_eq_or_of_lt h₃]
  omega

/-- A word is read back from its bytes. -/
theorem wordBE_bytesBE (w : UInt32) :
    wordBE (w >>> 24).toUInt8 (w >>> 16).toUInt8 (w >>> 8).toUInt8 w.toUInt8 = w := by
  have hw := w.toNat_lt
  apply UInt32.toNat_inj.1
  rw [wordBE_toNat]
  simp only [UInt32.toNat_toUInt8, UInt32.toNat_shiftRight, UInt32.reduceToNat, Nat.reduceMod,
    Nat.shiftRight_eq_div_pow]
  omega

theorem bytesBE_inj {v w : UInt32} : bytesBE v = bytesBE w ↔ v = w := by
  refine ⟨fun h => ?_, fun h => h ▸ rfl⟩
  simp only [bytesBE, List.cons.injEq, and_true] at h
  obtain ⟨h₀, h₁, h₂, h₃⟩ := h
  rw [← wordBE_bytesBE v, h₀, h₁, h₂, h₃, wordBE_bytesBE]

/-- The bytes of a word are those it was read from. -/
theorem bytesBE_wordBE (b₀ b₁ b₂ b₃ : UInt8) : bytesBE (wordBE b₀ b₁ b₂ b₃) = [b₀, b₁, b₂, b₃] := by
  have h₀ := b₀.toNat_lt
  have h₁ := b₁.toNat_lt
  have h₂ := b₂.toNat_lt
  have h₃ := b₃.toNat_lt
  have hw := wordBE_toNat b₀ b₁ b₂ b₃
  simp only [bytesBE, List.cons.injEq, and_true]
  refine ⟨?_, ?_, ?_, ?_⟩
  all_goals
    apply UInt8.toNat_inj.1
    simp only [UInt32.toNat_toUInt8, UInt32.toNat_shiftRight, UInt32.reduceToNat, Nat.reduceMod,
      Nat.shiftRight_eq_div_pow, hw]
    omega

/-! ## Least significant byte first -/

theorem wordLE_bytesLE (w : UInt32) :
    wordLE w.toUInt8 (w >>> 8).toUInt8 (w >>> 16).toUInt8 (w >>> 24).toUInt8 = w :=
  wordBE_bytesBE w

/-- A half word is written with its bytes as digits. -/
theorem halfLE_toNat (b₀ b₁ : UInt8) : (halfLE b₀ b₁).toNat = 256 * b₁.toNat + b₀.toNat := by
  have h₀ := b₀.toNat_lt
  have h₁ := b₁.toNat_lt
  simp only [halfLE, UInt16.toNat_or, UInt16.toNat_shiftLeft, UInt8.toNat_toUInt16, UInt16.reduceToNat, Nat.reduceMod]
  have hs : b₁.toNat <<< 8 % 2 ^ 16 = 2 ^ 8 * b₁.toNat := by
    rw [Nat.shiftLeft_eq]
    omega
  rw [hs, Nat.or_comm, ← Nat.two_pow_add_eq_or_of_lt h₀]

theorem halfLE_halfBytesLE (h : UInt16) : halfLE h.toUInt8 (h >>> 8).toUInt8 = h := by
  have hh := h.toNat_lt
  apply UInt16.toNat_inj.1
  rw [halfLE_toNat]
  simp only [UInt16.toNat_toUInt8, UInt16.toNat_shiftRight, UInt16.reduceToNat, Nat.reduceMod,
    Nat.shiftRight_eq_div_pow]
  omega

end Neighborhood
