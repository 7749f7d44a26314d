import Neighborhood.HwAddr
import Neighborhood.Word

/-!
# Extensible identifiers

An XID is a principal type and an identifier of twenty bytes.

* `Xid.ether` — the identity of a host on an Ethernet link, made of interface index and address
* `Xid.etherIndex`, `Xid.etherHwAddr?` — the two parts of such an identity
* `Xid.toWire`, `Xid.ofWire?` — the 24-byte form, the type first and big-endian
-/

namespace Neighborhood

/-! ## Identifiers and types -/

/-- Twenty bytes that name something within its principal type. -/
structure Identifier where
  bytes : List UInt8
  length_eq : bytes.length = 20
deriving DecidableEq

namespace Identifier

theorem ext_bytes {a b : Identifier} (h : a.bytes = b.bytes) : a = b := by
  cases a; cases b; cases h; rfl

def ofBytes? (bs : List UInt8) : Option Identifier :=
  if h : bs.length = 20 then some ⟨bs, h⟩ else none

/-- Twenty times the same byte. -/
def replicate (b : UInt8) : Identifier :=
  ⟨List.replicate 20 b, by simp⟩

instance : Inhabited Identifier := ⟨replicate 0⟩

instance : Ord Identifier where
  compare a b := compare a.bytes b.bytes

end Identifier

/-- The code of a principal type. -/
structure XidType where
  code : UInt32
deriving DecidableEq, Ord, Inhabited

instance : ToString XidType where
  toString t := "0x" ++ String.ofList (Hex.ofNat t.code.toNat)

structure Xid where
  type : XidType
  id : Identifier
deriving DecidableEq, Inhabited

namespace Xid

/-- By type, then by identifier. -/
instance : Ord Xid where
  compare a b := (compare a.type.code b.type.code).then (compare a.id b.id)

/-! ## Identities of hosts on a link -/

/-- The interface index in four bytes, the address, and zeros up to twenty bytes. -/
def ether (type : XidType) (ifindex : UInt32) (addr : HwAddr) : Xid where
  type := type
  id :=
    { bytes := bytesBE ifindex ++ addr.slot ++ List.replicate 8 0
      length_eq := by
        have := addr.length_le
        simp [bytesBE, HwAddr.slot, HwAddr.maxLength, HwAddr.length]
        omega }

/-- The interface index in the first four bytes. -/
def etherIndex (x : Xid) : UInt32 :=
  match x.id.bytes with
  | b₀ :: b₁ :: b₂ :: b₃ :: _ => wordBE b₀ b₁ b₂ b₃
  | _ => 0

/-- The `n` bytes after the interface index, read as an address. -/
def etherHwAddr? (x : Xid) (n : Nat) : Option HwAddr :=
  if n ≤ HwAddr.maxLength then HwAddr.ofBytes? ((x.id.bytes.drop 4).take n) else none

/-! ## Wire form -/

/-- The number of bytes of the wire form. -/
def wireLength : Nat := 24

def toWire (x : Xid) : List UInt8 :=
  bytesBE x.type.code ++ x.id.bytes

def ofWire? : List UInt8 → Option Xid
  | b₀ :: b₁ :: b₂ :: b₃ :: rest => (Identifier.ofBytes? rest).map (⟨⟨wordBE b₀ b₁ b₂ b₃⟩, ·⟩)
  | _ => none

/-! ## Written form -/

/-- The type, a hyphen and the identifier, all in hexadecimal. -/
def toChars (x : Xid) : List Char :=
  Hex.ofNat x.type.code.toNat ++ '-' :: Hex.ofBytes x.id.bytes

instance : ToString Xid where
  toString x := String.ofList x.toChars

def parse? (s : String) : Option Xid :=
  match Text.splitOn '-' s.toList with
  | [type, id] => do
    let code ← Numeral.parse? 16 (UInt32.size - 1) type
    let bytes ← Hex.toBytes? id
    let id ← Identifier.ofBytes? bytes
    some ⟨⟨UInt32.ofNat code⟩, id⟩
  | _ => none

end Xid

end Neighborhood
