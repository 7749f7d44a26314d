import Neighborhood.Text.Fields
import Neighborhood.Toml.Text
import Neighborhood.Toml.Value

/-!
# Numbers, truth values and dates of TOML

* `Toml.integer?` — decimal with a sign, or hexadecimal, octal or binary without
* `Toml.float?` — a decimal that is not too large for 64 bits
* `Toml.moment` — a date, a time or both, in the calendar
* `Toml.scalar` — any of these
-/

namespace Neighborhood.Toml

/-! ## Numbers -/

/-- Digits of the radix, single underscores between them left out. -/
def digits? (radix : Nat) (cs : List Char) : Option (List Char) :=
  let parts := Text.splitOn '_' cs
  if parts.all fun part => !part.isEmpty && part.all fun c => (Numeral.digit? radix c).isSome then some parts.flatten
  else none

/-- Decimal digits of which the first of several is no zero. -/
def whole? (cs : List Char) : Option (List Char) :=
  match digits? 10 cs with
  | some ('0' :: _ :: _) => none
  | found => found

def number (radix : Nat) (digits : List Char) : Nat :=
  Numeral.value radix (digits.filterMap (Numeral.digit? radix))

/-- Whether there is a minus sign, and what follows the sign if there is one. -/
def signed : List Char → Bool × List Char
  | '-' :: cs => (true, cs)
  | '+' :: cs => (false, cs)
  | cs => (false, cs)

/-- Integers have 128 bits, with or without a sign. -/
def inRange (n : Int) : Bool :=
  (-n).toNat ≤ 1 <<< 127 && n.toNat < 1 <<< 128

def integer? (cs : List Char) : Option Int :=
  let found : Option Int :=
    match cs with
    | '0' :: 'x' :: cs => (digits? 16 cs).map fun ds => (number 16 ds : Int)
    | '0' :: 'o' :: cs => (digits? 8 cs).map fun ds => (number 8 ds : Int)
    | '0' :: 'b' :: cs => (digits? 2 cs).map fun ds => (number 2 ds : Int)
    | cs =>
      let (negative, cs) := signed cs
      (whole? cs).map fun ds => if negative then -(number 10 ds : Int) else number 10 ds
  found.filter inRange

/-- The text before the first character with the property, and the text from it on. -/
def cut (p : Char → Bool) (cs : List Char) : List Char × List Char :=
  (cs.takeWhile fun c => !p c, cs.dropWhile fun c => !p c)

def isExponentMark (c : Char) : Bool := c == 'e' || c == 'E'

/-- A decimal of the digits with the point moved right by `exponent` is nearer to 2¹⁰²⁴ than the largest float. -/
def overflows (digits : List Char) (exponent : Int) : Bool :=
  let digits := digits.dropWhile (· == '0')
  let bound := 1 <<< 1024 - 1 <<< 970
  let magnitude := digits.length + exponent
  if digits.isEmpty || magnitude ≤ 308 then false
  else if 310 ≤ magnitude then true
  else if 0 ≤ exponent then bound ≤ number 10 digits * Nat.pow 10 exponent.toNat
  else bound * Nat.pow 10 (-exponent).toNat ≤ number 10 digits

/-- A fraction, an exponent or both follow the whole part; or the number is infinite or none. -/
def isFloat (cs : List Char) : Bool :=
  let (_, body) := signed cs
  if body == ['i', 'n', 'f'] || body == ['n', 'a', 'n'] then true
  else
    let (mantissa, power) := cut isExponentMark body
    let (front, back) := cut (· == '.') mantissa
    let fraction := match back with | [] => some [] | _ :: ds => digits? 10 ds
    let (negative, ds) := signed (power.drop 1)
    let exponent := match power with | [] => some ['0'] | _ => digits? 10 ds
    match whole? front, fraction, exponent with
    | some front, some fraction, some ds =>
      let e : Int := if negative then -(number 10 ds : Int) else number 10 ds
      !(back.isEmpty && power.isEmpty) && !overflows (front ++ fraction) (e - fraction.length)
    | _, _, _ => false

/-! ## Dates and times -/

def twoDigits (least most : Nat) : Scan Nat := do
  let digits ← Scan.exactly Char.isDigit 2
  let n := number 10 digits
  guard (least ≤ n ∧ n ≤ most)
  pure n

/-- Every fourth year, but of the full centuries only every fourth. -/
def isLeap (year : Nat) : Bool :=
  year % 4 == 0 && (year % 100 != 0 || year % 400 == 0)

def daysOf (year month : Nat) : Nat :=
  if month = 2 then (if isLeap year then 29 else 28)
  else if month = 4 ∨ month = 6 ∨ month = 9 ∨ month = 11 then 30
  else 31

def date : Scan Unit := do
  let year ← Scan.exactly Char.isDigit 4
  Scan.char '-'
  let month ← twoDigits 1 12
  Scan.char '-'
  let _ ← twoDigits 1 (daysOf (number 10 year) month)

def fraction : Scan Unit := do
  Scan.char '.'
  let _ ← Scan.takeWhile1 Char.isDigit

/-- Seconds may be left out, and a second may be one that the clock leaps over. -/
def time : Scan Unit := do
  let _ ← twoDigits 0 23
  Scan.char ':'
  let _ ← twoDigits 0 59
  Scan.optional do
    Scan.char ':'
    let _ ← twoDigits 0 60
    Scan.optional fraction

def offset : Scan Unit := do
  match ← Scan.satisfy fun _ => true with
  | 'Z' | 'z' => pure ()
  | '+' | '-' => do
    let _ ← twoDigits 0 23
    Scan.char ':'
    let _ ← twoDigits 0 59
  | _ => failure

/-- A time zone belongs to a date with a time only. -/
def moment : Scan Unit :=
  (do
    date
    Scan.optional do
      let _ ← Scan.satisfy fun c => c == 'T' || c == 't' || c == ' '
      time
      Scan.optional offset) <|>
  time

/-! ## Scalars -/

/-- The characters of numbers, names of values, dates and times. -/
def isScalarChar (c : Char) : Bool :=
  c.isAlphanum || c == '+' || c == '-' || c == '.' || c == '_' || c == ':'

def scalar? (cs : List Char) : Option Value :=
  if cs == ['t', 'r', 'u', 'e'] then some (.boolean true)
  else if cs == ['f', 'a', 'l', 's', 'e'] then some (.boolean false)
  else
    match integer? cs with
    | some n => some (.integer n)
    | none =>
      if isFloat cs then some (.float (String.ofList cs))
      else if (Scan.whole moment cs).isSome then some (.moment (String.ofList cs))
      else none

/-- A date, a blank and a time. -/
def spacedMoment : Scan Value := do
  let day ← Scan.takeWhile1 isScalarChar
  guard (Scan.whole date day).isSome
  Scan.char ' '
  let rest ← Scan.takeWhile1 isScalarChar
  (scalar? (day ++ ' ' :: rest) : Option Value)

def unspaced : Scan Value := do
  let cs ← Scan.takeWhile1 isScalarChar
  (scalar? cs : Option Value)

def scalar : Scan Value :=
  spacedMoment <|> unspaced

end Neighborhood.Toml
