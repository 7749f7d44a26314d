import Neighborhood.Word

/-!
# Netlink messages

A datagram holds messages one behind the other, each padded to a multiple of four bytes. A message is a
header of sixteen bytes and a payload; a route message is a header of twelve bytes and attributes, each
of which is a length, a kind and a value, padded like messages. All numbers are little-endian.

* `Message.parse?` — the first message of a datagram
* `RouteMessage.parse?`, `RouteMessage.toBytes` — route messages
* `Message.frame` — a payload behind its header
* `Deserializer` — any way to read messages that minds the length in the header; `Message.deserializer` is the one above
-/

namespace Neighborhood

namespace Netlink

/-- The least multiple of four that is no less than `n`. -/
def aligned (n : Nat) : Nat := (n + 3) / 4 * 4

theorem le_aligned (n : Nat) : n ≤ aligned n := by
  simp only [aligned]; omega

/-- Zeros after a part of `n` bytes. -/
def padding (n : Nat) : List UInt8 := List.replicate (aligned n - n) 0

/-! ## Attributes -/

structure Attribute where
  kind : Nat
  value : List UInt8
deriving DecidableEq

namespace Attribute

def destination : Nat := 1
def outInterface : Nat := 4
def gateway : Nat := 5
def priority : Nat := 6
def table : Nat := 15

/-- Length, kind and value, padded. -/
def toBytes (a : Attribute) : List UInt8 :=
  let length := 4 + a.value.length
  halfBytesLE (UInt16.ofNat length) ++ halfBytesLE (UInt16.ofNat a.kind) ++ a.value ++ padding length

/-- The number of bytes of an address of a family, which is a label in the last one; other families leave it open. -/
def addressLength? (family : UInt8) : Option Nat :=
  if family = 2 then some 4 else if family = 10 then some 16 else if family = 28 then some 4 else none

/-- The value has the size that its kind asks for. -/
def isSound (family : UInt8) (a : Attribute) : Bool :=
  if a.kind = destination ∨ a.kind = gateway then
    match addressLength? family with
    | some n => a.value.length = n
    | none => true
  else if a.kind = outInterface ∨ a.kind = priority ∨ a.kind = table then a.value.length = 4
  else true

/-- The kind without its two flag bits. -/
def kindOf (b₀ b₁ : UInt8) : Nat := (halfLE b₀ b₁).toNat % 0x4000

/-- The attributes that fill `bs`; padding after the last one may be missing. -/
def parseAll? (family : UInt8) (bs : List UInt8) : Option (List Attribute) :=
  match bs with
  | [] => some []
  | l₀ :: l₁ :: k₀ :: k₁ :: rest =>
    let length := (halfLE l₀ l₁).toNat
    if 4 ≤ length ∧ length ≤ rest.length + 4 then
      let a : Attribute := ⟨kindOf k₀ k₁, rest.take (length - 4)⟩
      if a.isSound family then (parseAll? family (rest.drop (aligned length - 4))).map (a :: ·) else none
    else none
  | _ => none
termination_by bs.length
decreasing_by simp only [List.length_drop, List.length_cons]; omega

end Attribute

/-! ## Route messages -/

structure RouteMessage where
  family : UInt8
  dstLength : UInt8
  srcLength : UInt8 := 0
  tos : UInt8 := 0
  table : UInt8
  protocol : UInt8
  scope : UInt8
  type : UInt8
  flags : UInt32 := 0
  attributes : List Attribute
deriving DecidableEq

namespace RouteMessage

def toBytes (m : RouteMessage) : List UInt8 :=
  [m.family, m.dstLength, m.srcLength, m.tos, m.table, m.protocol, m.scope, m.type] ++ bytesLE m.flags ++
    m.attributes.flatMap Attribute.toBytes

def parse? : List UInt8 → Option RouteMessage
  | family :: dstLength :: srcLength :: tos :: table :: protocol :: scope :: type ::
      f₀ :: f₁ :: f₂ :: f₃ :: rest => do
    let attributes ← Attribute.parseAll? family rest
    let flags := wordLE f₀ f₁ f₂ f₃
    some { family, dstLength, srcLength, tos, table, protocol, scope, type, flags, attributes }
  | _ => none

end RouteMessage

/-! ## Messages -/

/-- Message types. -/
def errorType : Nat := 2
def doneType : Nat := 3
def newRouteType : Nat := 24
def delRouteType : Nat := 25
def getRouteType : Nat := 26

inductive Payload where
  /-- The end of an answer, with a negative error number if it ends early and zero if it is complete. -/
  | done (status : Int32)
  /-- The failure of a request as a negative error number, or zero for its success. -/
  | error (code : Int32)
  | newRoute (route : RouteMessage)
  | other
deriving DecidableEq

/-- The number at the front of some bytes, zero if it is missing. -/
def statusOf : List UInt8 → Int32
  | c₀ :: c₁ :: c₂ :: c₃ :: _ => (wordLE c₀ c₁ c₂ c₃).toInt32
  | _ => 0

/-- A payload by the type of its message; `none` if it does not have the form its type asks for. The end of an answer
may come without a status, and a request for routes may name no more than a family, alone or padded. -/
def Payload.parse? (type : Nat) (bs : List UInt8) : Option Payload :=
  if type = errorType then
    match bs with
    | c₀ :: c₁ :: c₂ :: c₃ :: _ => some (.error (wordLE c₀ c₁ c₂ c₃).toInt32)
    | _ => none
  else if type = doneType then if bs.isEmpty ∨ 4 ≤ bs.length then some (.done (statusOf bs)) else none
  else if type = newRouteType then (RouteMessage.parse? bs).map .newRoute
  else if type = getRouteType ∧ (bs.length = 1 ∨ bs.length = 4) then some .other
  else if type = delRouteType ∨ type = getRouteType then (RouteMessage.parse? bs).map fun _ => .other
  else some .other

structure Message where
  /-- The bytes of the message, header and payload. -/
  length : Nat
  sequence : UInt32
  payload : Payload
deriving DecidableEq

namespace Message

/-- Bytes of a header. -/
def headerLength : Nat := 16

/-- The message at the front of `bs`, whose length field neither falls short of a header nor passes the
end of `bs`. -/
def parse? (bs : List UInt8) : Option Message :=
  match bs with
  | l₀ :: l₁ :: l₂ :: l₃ :: t₀ :: t₁ :: _ :: _ ::
      s₀ :: s₁ :: s₂ :: s₃ :: _ :: _ :: _ :: _ :: rest =>
    let length := (wordLE l₀ l₁ l₂ l₃).toNat
    if headerLength ≤ length ∧ length ≤ rest.length + headerLength then do
      let payload ← Payload.parse? (halfLE t₀ t₁).toNat (rest.take (length - headerLength))
      some ⟨length, wordLE s₀ s₁ s₂ s₃, payload⟩
    else none
  | _ => none

/-- A header and its payload; the sender's port is left to the kernel. -/
def frame (type : Nat) (flags : UInt16) (sequence : UInt32) (payload : List UInt8) : List UInt8 :=
  bytesLE (UInt32.ofNat (headerLength + payload.length)) ++ halfBytesLE (UInt16.ofNat type) ++
    halfBytesLE flags ++ bytesLE sequence ++ bytesLE 0 ++ payload

theorem length_of_parse? {bs : List UInt8} {m : Message} (h : parse? bs = some m) :
    headerLength ≤ m.length ∧ m.length ≤ bs.length := by
  unfold parse? at h
  split at h
  · dsimp only at h
    split at h
    · rename_i hl
      simp only [Option.bind_eq_bind, Option.bind_eq_some_iff, Option.some.injEq] at h
      obtain ⟨p, -, rfl⟩ := h
      refine ⟨hl.1, ?_⟩
      have := hl.2
      simp only [List.length_cons, headerLength] at this ⊢
      omega
    · cases h
  · cases h

end Message

/-- A way to read the message at the front of some bytes, of which only this is known: what is read has a header, and the
length in the header does not pass the end of the bytes. -/
structure Deserializer where
  read : List UInt8 → Option Message
  length_of_read : ∀ {bytes : List UInt8} {m : Message}, read bytes = some m →
    Message.headerLength ≤ m.length ∧ m.length ≤ bytes.length

def Message.deserializer : Deserializer := ⟨Message.parse?, Message.length_of_parse?⟩

end Netlink

end Neighborhood
