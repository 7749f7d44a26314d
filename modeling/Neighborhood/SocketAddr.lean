import Neighborhood.Text.Hex
import Neighborhood.Text.Numeral
import Neighborhood.Text.Scan

/-!
# Socket addresses

An IPv4 address and a port as in `127.0.0.1:9100`, or an IPv6 address in brackets and a port as in
`[::1]:9100`, the latter with an optional numeric scope as in `[fe80::1%3]:9100`.

* `SocketAddr.parse?` — the strict reading: no blanks, no leading zeros in decimal parts of an address
* `IpAddr.toString` — the short form, where `::` stands for the first longest run of two or more zero groups
-/

namespace Neighborhood

inductive IpAddr where
  | v4 (a b c d : UInt8)
  /-- Groups of sixteen bits, eight of them, and the scope of the address. -/
  | v6 (groups : List UInt16) (scope : UInt32)
deriving DecidableEq

structure SocketAddr where
  ip : IpAddr
  port : UInt16
deriving DecidableEq

/-! ## Reading -/

namespace IpAddr

/-- A decimal number up to `bound`. -/
def decimal (bound : Nat) : Scan Nat := do
  let digits ← Scan.takeWhile1 Char.isDigit
  (Numeral.parse? 10 bound digits : Option Nat)

/-- A part of an IPv4 address: a byte without leading zeros. -/
def octet : Scan UInt8 := do
  let digits ← Scan.takeWhile1 Char.isDigit
  guard (digits.length = 1 ∨ digits.head? ≠ some '0')
  let n ← (Numeral.parse? 10 255 digits : Option Nat)
  pure (UInt8.ofNat n)

def quad : Scan (UInt8 × UInt8 × UInt8 × UInt8) := do
  let a ← octet
  Scan.char '.'
  let b ← octet
  Scan.char '.'
  let c ← octet
  Scan.char '.'
  let d ← octet
  pure (a, b, c, d)

/-- One to four hexadecimal digits. -/
def group : Scan UInt16 := do
  let digits ← Scan.takeWhile1 fun c => (Hex.value? c).isSome
  guard (digits.length ≤ 4)
  let n ← (Numeral.parse? 16 0xFFFF digits : Option Nat)
  pure (UInt16.ofNat n)

/-- The two groups that hold the four bytes of an IPv4 address. -/
def pair (a b c d : UInt8) : List UInt16 :=
  [a.toUInt16 * 256 + b.toUInt16, c.toUInt16 * 256 + d.toUInt16]

/-- The colon before every group but the first. -/
def colon (first : Bool) : Scan Unit :=
  if first then pure () else Scan.char ':'

/-- As many groups as there are, `room` at most, and whether an IPv4 address ended them. -/
def groups : Nat → Bool → Scan (List UInt16 × Bool)
  | 0, _ => pure ([], false)
  | room + 1, first =>
    (do
      guard (1 ≤ room)
      colon first
      let (a, b, c, d) ← quad
      pure (pair a b c d, true)) <|>
    (do
      colon first
      let g ← group
      let (more, closed) ← groups room false
      pure (g :: more, closed)) <|>
    pure ([], false)

/-- Eight groups, or fewer where `::` stands for one zero group at least. -/
def eightGroups : Scan (List UInt16) := do
  let (front, closed) ← groups 8 true
  if front.length = 8 then pure front
  else
    guard (!closed)
    Scan.literal [':', ':']
    let (back, _) ← groups (7 - front.length) true
    pure (front ++ List.replicate (8 - front.length - back.length) 0 ++ back)

end IpAddr

namespace SocketAddr

def portPart : Scan UInt16 := do
  Scan.char ':'
  let n ← IpAddr.decimal 0xFFFF
  pure (UInt16.ofNat n)

def v4 : Scan SocketAddr := do
  let (a, b, c, d) ← IpAddr.quad
  let p ← portPart
  pure ⟨.v4 a b c d, p⟩

def scopePart : Scan UInt32 :=
  (do
    Scan.char '%'
    let n ← IpAddr.decimal (UInt32.size - 1)
    pure (UInt32.ofNat n)) <|>
  pure 0

def v6 : Scan SocketAddr := do
  Scan.char '['
  let groups ← IpAddr.eightGroups
  let s ← scopePart
  Scan.char ']'
  let p ← portPart
  pure ⟨.v6 groups s, p⟩

def parse? (text : String) : Option SocketAddr :=
  (Scan.whole v4 text.toList).or (Scan.whole v6 text.toList)

end SocketAddr

/-! ## Printing -/

namespace IpAddr

def dotted (a b c d : UInt8) : String :=
  ".".intercalate ([a, b, c, d].map fun octet => toString octet.toNat)

def colons (l : List UInt16) : String :=
  ":".intercalate (l.map fun g => String.ofList (Hex.ofNat g.toNat))

/-- The zero groups at the front. -/
def zeros (l : List UInt16) : Nat :=
  (l.takeWhile (· = 0)).length

/-- The first place and the length of the first longest run of zero groups. -/
def longestZeros (l : List UInt16) : Nat × Nat :=
  (List.range l.length).foldl
    (fun best i => if best.2 < zeros (l.drop i) then (i, zeros (l.drop i)) else best) (0, 0)

/-- Addresses that stand for one of IPv4 end in its dotted form. -/
def groupsText (l : List UInt16) : String :=
  match l with
  | [0, 0, 0, 0, 0, 0xFFFF, g, h] => "::ffff:" ++ dotted (g / 256).toUInt8 g.toUInt8 (h / 256).toUInt8 h.toUInt8
  | _ =>
    let (start, length) := longestZeros l
    if length < 2 then colons l else colons (l.take start) ++ "::" ++ colons (l.drop (start + length))

/-- The form in which a port can follow. -/
def toString : IpAddr → String
  | v4 a b c d => dotted a b c d
  | v6 groups scope =>
    let suffix := if scope = 0 then "" else "%" ++ ToString.toString scope.toNat
    "[" ++ groupsText groups ++ suffix ++ "]"

end IpAddr

instance : ToString SocketAddr where
  toString a := a.ip.toString ++ ":" ++ toString a.port.toNat

end Neighborhood
