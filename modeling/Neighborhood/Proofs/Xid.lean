import Neighborhood.Proofs.Word
import Neighborhood.Xid

/-!
# Identities of hosts

* `HwAddr.slot_inj` — addresses of one length fill their slots differently
* `Xid.ether_eq_iff` — an identity shows the interface and the slot it was made of, and no more
* `Xid.ether_inj` — among addresses of one length the identity is the host's alone
* `Xid.etherIndex_ether` — the identity of a host shows the interface
* `Xid.etherHwAddr?_eq_some_iff` — every identity shows an address of every length
* `Xid.etherHwAddr?_ether` — the identity of a host shows the address of the host
* `Xid.ofWire?_toWire`, `Xid.ofWire?_eq_some_iff` — any XID is read back from its wire form, and from nothing else
* `Xid.length_toWire` — all wire forms have the same length
-/

namespace Neighborhood

namespace HwAddr

variable {a b : HwAddr}

/-- Zeros behind an address hide its length and nothing else. -/
theorem slot_inj (hl : a.length = b.length) : a.slot = b.slot ↔ a = b := by
  refine ⟨fun h => ext_bytes ?_, fun h => h ▸ rfl⟩
  exact (List.append_inj h hl).1

end HwAddr

namespace Xid

variable {type type' : XidType} {i j : UInt32} {a b : HwAddr}

theorem ether_eq_iff : ether type i a = ether type' j b ↔ type = type' ∧ i = j ∧ a.slot = b.slot := by
  simp only [ether, Xid.mk.injEq, Identifier.mk.injEq, List.append_left_inj]
  refine and_congr_right fun _ => ⟨fun h => ?_, ?_⟩
  · obtain ⟨hi, hs⟩ := List.append_inj h rfl
    exact ⟨bytesBE_inj.1 hi, hs⟩
  · rintro ⟨rfl, hs⟩
    rw [hs]

theorem ether_inj (hl : a.length = b.length) : ether type i a = ether type i b ↔ a = b := by
  rw [ether_eq_iff, HwAddr.slot_inj hl]
  simp

theorem etherIndex_ether (type : XidType) (i : UInt32) (a : HwAddr) : (ether type i a).etherIndex = i :=
  wordBE_bytesBE i

theorem length_take_drop (x : Xid) (b : HwAddr) : ((x.id.bytes.drop 4).take b.length).length = b.length := by
  have hle : b.length ≤ 8 := b.length_le
  have hid := x.id.length_eq
  rw [List.length_take, List.length_drop]
  omega

/-- Every identity shows an address of the length of any other. -/
theorem etherHwAddr?_eq_some_iff {x : Xid} {a b : HwAddr} :
    x.etherHwAddr? b.length = some a ↔ a.bytes = (x.id.bytes.drop 4).take b.length := by
  have hmax : b.length ≤ HwAddr.maxLength := b.length_le
  have hbounds : 1 ≤ ((x.id.bytes.drop 4).take b.length).length ∧ ((x.id.bytes.drop 4).take b.length).length ≤ 8 := by
    rw [x.length_take_drop b]
    exact ⟨b.length_pos, b.length_le⟩
  rw [etherHwAddr?, if_pos hmax, HwAddr.ofBytes?, dif_pos hbounds, Option.some.injEq]
  constructor
  · rintro rfl
    rfl
  · exact fun h => (HwAddr.ext_bytes h).symm

theorem etherHwAddr?_ether (type : XidType) (i : UInt32) (a : HwAddr) :
    (ether type i a).etherHwAddr? a.length = some a := by
  have hdrop : (ether type i a).id.bytes.drop 4 =
      a.bytes ++ (List.replicate (8 - a.length) 0 ++ List.replicate 8 0) := by
    simp [ether, bytesBE, HwAddr.slot, HwAddr.maxLength]
  rw [etherHwAddr?_eq_some_iff, hdrop]
  exact List.take_left.symm

theorem ofWire?_toWire (x : Xid) : ofWire? x.toWire = some x := by
  have hid : Identifier.ofBytes? x.id.bytes = some x.id := dif_pos x.id.length_eq
  simp only [toWire, bytesBE, List.cons_append, List.nil_append, ofWire?, hid, wordBE_bytesBE]
  rfl

/-- Only the wire form of an XID is read as that XID. -/
theorem ofWire?_eq_some_iff {bytes : List UInt8} {x : Xid} : ofWire? bytes = some x ↔ bytes = x.toWire := by
  refine ⟨fun h => ?_, fun h => h ▸ x.ofWire?_toWire⟩
  unfold ofWire? at h
  split at h
  · rename_i b₀ b₁ b₂ b₃ rest
    obtain ⟨id, hid, rfl⟩ := Option.map_eq_some_iff.1 h
    obtain ⟨hlen, heq⟩ := Option.dite_none_right_eq_some.1 hid
    rw [toWire, bytesBE_wordBE, ← Option.some.inj heq]
    rfl
  · cases h

theorem toWire_inj {x y : Xid} : x.toWire = y.toWire ↔ x = y := by
  rw [← ofWire?_eq_some_iff, ofWire?_toWire, Option.some.injEq]

theorem length_toWire (x : Xid) : x.toWire.length = wireLength := by
  simp only [toWire, bytesBE, wireLength, List.length_append, List.length_cons, List.length_nil, x.id.length_eq]

end Xid

end Neighborhood
