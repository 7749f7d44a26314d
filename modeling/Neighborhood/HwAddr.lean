import Neighborhood.Text.Hex
import Neighborhood.Text.Numeral
import Neighborhood.Text.Fields

/-!
# Hardware addresses

A link-layer address is one to eight bytes long, and its length is part of it: addresses of different
lengths are different addresses.

* `HwAddr.ofBytes?` — the address with the given bytes, if there are one to eight
* `HwAddr.slot` — the bytes as they sit in an eight-byte slot, zeros behind them
* `HwAddr.parse?`, `HwAddr.toChars` — the written form, hexadecimal pairs between colons
-/

namespace Neighborhood

structure HwAddr where
  bytes : List UInt8
  length_pos : 1 ≤ bytes.length
  length_le : bytes.length ≤ 8
deriving DecidableEq

namespace HwAddr

theorem ext_bytes {a b : HwAddr} (h : a.bytes = b.bytes) : a = b := by
  cases a; cases b; cases h; rfl

/-- The most bytes that an address holds. -/
def maxLength : Nat := 8

/-- The number of bytes of an address. -/
def length (a : HwAddr) : Nat := a.bytes.length

def ofBytes? (bs : List UInt8) : Option HwAddr :=
  if h : 1 ≤ bs.length ∧ bs.length ≤ 8 then some ⟨bs, h.1, h.2⟩ else none

/-- An address of the six bytes that Ethernet uses. -/
def ethernet (a b c d e f : UInt8) : HwAddr :=
  ⟨[a, b, c, d, e, f], by simp, by simp⟩

/-- The address of `n` bytes that are all ones; lengths above eight count as eight. -/
def broadcast? (n : Nat) : Option HwAddr :=
  ofBytes? (List.replicate (min n maxLength) 0xff)

def isBroadcast (a : HwAddr) : Bool :=
  a.bytes.all (· == 0xff)

/-- The address as it fills a slot of eight bytes. -/
def slot (a : HwAddr) : List UInt8 :=
  a.bytes ++ List.replicate (maxLength - a.length) 0

/-- Shorter addresses come first, and addresses of one length are ordered by their slots. -/
instance : Ord HwAddr where
  compare a b := (compare a.length b.length).then (compare a.slot b.slot)

/-! ## Written form -/

def toChars (a : HwAddr) : List Char :=
  Text.join ':' (a.bytes.map Hex.ofByte)

instance : ToString HwAddr where
  toString a := String.ofList a.toChars

/-- One part between colons: at most two characters that make a hexadecimal numeral. -/
def parsePart? (part : List Char) : Option UInt8 :=
  if part.length ≤ 2 then (Numeral.parse? 16 255 part).map UInt8.ofNat else none

def parseChars? (cs : List Char) : Option HwAddr := do
  let bs ← (Text.splitOn ':' cs).mapM parsePart?
  ofBytes? bs

def parse? (s : String) : Option HwAddr :=
  parseChars? s.toList

end HwAddr

end Neighborhood
