/-!
# Hexadecimal text

Lower-case hexadecimal digits of bytes and numbers, and the reading of a string of byte pairs.

* `Hex.ofBytes` — two digits per byte, in order
* `Hex.ofNat` — a number without leading zeros
* `Hex.toBytes?` — the inverse of `Hex.ofBytes`, letter case aside
-/

namespace Neighborhood.Hex

/-- The digit of a value below 16. -/
def digit (n : Nat) : Char :=
  if n < 10 then Char.ofNat (48 + n) else Char.ofNat (87 + n)

/-- The value of a digit of either case. -/
def value? (c : Char) : Option Nat :=
  if '0' ≤ c ∧ c ≤ '9' then some (c.toNat - 48)
  else if 'a' ≤ c ∧ c ≤ 'f' then some (c.toNat - 87)
  else if 'A' ≤ c ∧ c ≤ 'F' then some (c.toNat - 55)
  else none

/-- Exactly two digits, the high one first. -/
def ofByte (b : UInt8) : List Char :=
  [digit (b.toNat / 16), digit (b.toNat % 16)]

def ofBytes (bs : List UInt8) : List Char :=
  bs.flatMap ofByte

/-- As few digits as the number needs; zero is one digit. -/
def ofNat (n : Nat) : List Char :=
  if n < 16 then [digit n] else ofNat (n / 16) ++ [digit (n % 16)]

/-- A byte with its radix mark and two digits, as in `0x0a`. -/
def marked (b : UInt8) : String :=
  "0x" ++ String.ofList (ofByte b)

def toBytes? : List Char → Option (List UInt8)
  | [] => some []
  | hi :: lo :: rest => do
    let h ← value? hi
    let l ← value? lo
    let bs ← toBytes? rest
    some (UInt8.ofNat (16 * h + l) :: bs)
  | [_] => none

end Neighborhood.Hex
