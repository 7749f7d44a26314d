/-!
# Unsigned numerals

Numbers in a radix up to 36, with one optional leading plus sign and an upper bound.

* `Numeral.parse?` — the number, unless a digit is foreign, missing, or the bound is passed
-/

namespace Neighborhood.Numeral

/-- The value of `c` as a digit of the radix, letters of either case counting from ten. -/
def digit? (radix : Nat) (c : Char) : Option Nat :=
  let value :=
    if '0' ≤ c ∧ c ≤ '9' then some (c.toNat - 48)
    else if 'a' ≤ c ∧ c ≤ 'z' then some (c.toNat - 87)
    else if 'A' ≤ c ∧ c ≤ 'Z' then some (c.toNat - 55)
    else none
  value.filter (· < radix)

/-- The number that a list of digits writes, most significant first. -/
def value (radix : Nat) (digits : List Nat) : Nat :=
  digits.foldl (fun n d => n * radix + d) 0

/-- What follows an optional plus sign. -/
def unsigned : List Char → List Char
  | '+' :: rest => rest
  | cs => cs

/-- A numeral of at least one digit whose value is at most `bound`. -/
def parse? (radix bound : Nat) (cs : List Char) : Option Nat :=
  match unsigned cs with
  | [] => none
  | body => do
    let digits ← body.mapM (digit? radix)
    let n := value radix digits
    if n ≤ bound then some n else none

end Neighborhood.Numeral
