import Neighborhood.Proofs.HwAddr
import Neighborhood.Proofs.Packet.Inversion
import Neighborhood.Proofs.Xid

/-!
# Addresses as records of fixed size

An address is kept as a length and a room of eight bytes. Nothing in the type of these records says which lengths there
are, or what stands in the room behind the length; all that compares records or looks them up relies on zeros there.

* `HwAddr.Record` — the record, compared field by field
* `HwAddr.Record.Built` — what the ways to make an address make, each written as it fills the room
* `HwAddr.Recorded` — each of them makes the record of the address that is made without rooms
* `HwAddr.Record.built_iff_padded` — these are the records with one to eight bytes and zeros behind them
* `HwAddr.compare_record` — field by field is by the length first, then by the bytes of the address
* `HwAddr.kept_padded` — all this, and what identities made of addresses show
-/

namespace Neighborhood

namespace HwAddr

/-- A length and a room of eight bytes. Records are compared by the first field, then by the second. -/
structure Record where
  length : UInt8
  room : Vector UInt8 8
deriving DecidableEq, Ord

namespace Record

/-- The bytes in the room that the length covers. -/
def visible (r : Record) : List UInt8 := r.room.toList.take r.length.toNat

/-- A room in which nothing has been written. -/
def blank : Vector UInt8 8 := Vector.replicate 8 0

/-- A blank room after bytes were copied to its front. -/
def filled (bs : List UInt8) : Vector UInt8 8 :=
  Vector.ofFn fun i => bs[i.val]?.getD blank[i]

/-! ## Ways to make an address -/

/-- Six bytes, written one after another. -/
def ethernet (mac : Vector UInt8 6) : Record :=
  ⟨6, Fin.foldl 6 (fun room i => room.set i mac[i]) blank⟩

def ofBytes? (bs : List UInt8) : Option Record :=
  if bs.isEmpty ∨ maxLength < bs.length then none else some ⟨UInt8.ofNat bs.length, filled bs⟩

def broadcast? (n : Nat) : Option Record :=
  ofBytes? ((List.replicate maxLength 0xff).take (min n maxLength))

def parse? (s : String) : Option Record := do
  let bs ← (Text.splitOn ':' s.toList).mapM parsePart?
  ofBytes? bs

/-- The address in an identity. -/
def ofXid? (x : Xid) (n : Nat) : Option Record :=
  if maxLength < n then none else ofBytes? ((x.id.bytes.drop 4).take n)

/-- The next address of a frame. -/
def read (length : UInt8) : Reading Record := do
  let bytes ← Reader.take length.toNat
  match ofBytes? bytes with
  | some r => pure r
  | none => throw (.invalidHaddrLen length)

/-- The record comes out of one of the ways to make an address. -/
inductive Built : Record → Prop
  | ethernet (mac : Vector UInt8 6) : Built (ethernet mac)
  | ofBytes {bs : List UInt8} {r : Record} : ofBytes? bs = some r → Built r
  | broadcast {n : Nat} {r : Record} : broadcast? n = some r → Built r
  | parse {s : String} {r : Record} : parse? s = some r → Built r
  | ofXid {x : Xid} {n : Nat} {r : Record} : ofXid? x n = some r → Built r
  | read {length : UInt8} {reader reader' : Reader} {r : Record} :
      (read length).run reader = (.ok r, reader') → Built r

/-- One to eight bytes, and zeros behind them. -/
structure Padded (r : Record) : Prop where
  length_pos : 1 ≤ r.length.toNat
  length_le : r.length.toNat ≤ 8
  zeros : ∀ i : Fin 8, r.length.toNat ≤ i → r.room[i] = 0

end Record

/-- The record of an address. -/
def record (a : HwAddr) : Record := ⟨UInt8.ofNat a.length, Record.filled a.bytes⟩

variable {a b : HwAddr}

/-! ## The record of an address -/

theorem getElem_filled (bs : List UInt8) (i : Nat) (hi : i < 8) : (Record.filled bs)[i] = bs[i]?.getD 0 := by
  simp [Record.filled, Record.blank]

theorem toNat_length_record (a : HwAddr) : a.record.length.toNat = a.length :=
  Reader.toNat_ofNat_length a

theorem room_record (a : HwAddr) : a.record.room.toList = a.slot := by
  have hl : a.bytes.length ≤ 8 := a.length_le
  refine List.ext_getElem ?_ fun i hi _ => ?_
  · rw [Vector.length_toList, slot, List.length_append, List.length_replicate, length, maxLength]
    omega
  · have hi8 : i < 8 := by rwa [Vector.length_toList] at hi
    refine (Vector.getElem_toList hi).trans ((getElem_filled a.bytes i hi8).trans ?_)
    simp only [slot, List.getElem_append, List.getElem_replicate]
    split
    · rename_i hlt
      rw [List.getElem?_eq_getElem hlt, Option.getD_some]
    · rename_i hge
      rw [List.getElem?_eq_none (Nat.le_of_not_lt hge), Option.getD_none]

theorem visible_record (a : HwAddr) : a.record.visible = a.bytes := by
  rw [Record.visible, toNat_length_record, room_record, slot]
  exact List.take_left

theorem record_inj : a.record = b.record ↔ a = b := by
  refine ⟨fun h => ext_bytes ?_, fun h => h ▸ rfl⟩
  rw [← visible_record, h, visible_record]

theorem padded_record (a : HwAddr) : a.record.Padded := by
  have hl := a.toNat_length_record
  refine ⟨hl ▸ a.length_pos, hl ▸ a.length_le, fun i hi => ?_⟩
  rw [hl] at hi
  show (Record.filled a.bytes)[i.val] = 0
  rw [getElem_filled, List.getElem?_eq_none hi, Option.getD_none]

/-- Zeros behind the bytes leave nothing open. -/
theorem Record.Padded.exists_record {r : Record} (h : r.Padded) : ∃ a : HwAddr, a.record = r := by
  obtain ⟨n, room⟩ := r
  have hlen : (Record.visible ⟨n, room⟩).length = n.toNat := by
    rw [visible, List.length_take, Vector.length_toList]
    exact Nat.min_eq_left h.length_le
  refine ⟨⟨Record.visible ⟨n, room⟩, hlen ▸ h.length_pos, hlen ▸ h.length_le⟩, ?_⟩
  simp only [record, HwAddr.length, hlen, UInt8.ofNat_toNat, Record.mk.injEq, true_and]
  refine Vector.ext fun i hi => ?_
  rw [getElem_filled, visible, List.getElem?_take]
  split
  · rw [List.getElem?_eq_getElem (by rwa [Vector.length_toList]), Option.getD_some, Vector.getElem_toList]
  · rename_i hge
    exact (h.zeros ⟨i, hi⟩ (Nat.le_of_not_lt hge)).symm

/-! ## What is made is the record of an address -/

theorem Record.ofBytes?_eq (bs : List UInt8) : Record.ofBytes? bs = (HwAddr.ofBytes? bs).map record := by
  have hiff : ¬(bs.isEmpty ∨ maxLength < bs.length) ↔ 1 ≤ bs.length ∧ bs.length ≤ 8 := by
    rw [List.isEmpty_iff, ← List.length_eq_zero_iff, maxLength]
    omega
  unfold Record.ofBytes? HwAddr.ofBytes?
  by_cases h : 1 ≤ bs.length ∧ bs.length ≤ 8
  · rw [if_neg (hiff.2 h), dif_pos h]
    rfl
  · rw [if_pos (Decidable.not_not.1 (mt hiff.1 h)), dif_neg h]
    rfl

theorem Record.ethernet_eq (a b c d e f : UInt8) :
    Record.ethernet #v[a, b, c, d, e, f] = (HwAddr.ethernet a b c d e f).record := rfl

theorem Record.broadcast?_eq (n : Nat) : Record.broadcast? n = (HwAddr.broadcast? n).map record := by
  rw [Record.broadcast?, List.take_replicate, Nat.min_assoc, Nat.min_self, Record.ofBytes?_eq, HwAddr.broadcast?]

theorem Record.parse?_eq (s : String) : Record.parse? s = (HwAddr.parse? s).map record := by
  unfold Record.parse? HwAddr.parse? parseChars?
  cases (Text.splitOn ':' s.toList).mapM parsePart? with
  | none => rfl
  | some bs => exact Record.ofBytes?_eq bs

theorem Record.ofXid?_eq (x : Xid) (n : Nat) : Record.ofXid? x n = (x.etherHwAddr? n).map record := by
  unfold Record.ofXid? Xid.etherHwAddr?
  by_cases h : n ≤ maxLength
  · rw [if_neg (Nat.not_lt_of_le h), if_pos h, Record.ofBytes?_eq]
  · rw [if_pos (Nat.lt_of_not_le h), if_neg h]
    rfl

theorem Record.read_eq (length : UInt8) : Record.read length = record <$> Reader.hwaddr length := by
  unfold Record.read Reader.hwaddr
  rw [map_bind]
  refine bind_congr fun bytes => ?_
  rw [Record.ofBytes?_eq]
  cases HwAddr.ofBytes? bytes with
  | none => rfl
  | some a => rfl

/-- Each way to make an address makes the record of the address that is made without a room. -/
structure Recorded : Prop where
  ethernet : ∀ a b c d e f, Record.ethernet #v[a, b, c, d, e, f] = (HwAddr.ethernet a b c d e f).record
  ofBytes : ∀ bs, Record.ofBytes? bs = (HwAddr.ofBytes? bs).map record
  broadcast : ∀ n, Record.broadcast? n = (HwAddr.broadcast? n).map record
  parse : ∀ s, Record.parse? s = (HwAddr.parse? s).map record
  ofXid : ∀ (x : Xid) n, Record.ofXid? x n = (x.etherHwAddr? n).map record
  read : ∀ length, Record.read length = record <$> Reader.hwaddr length

theorem recorded : Recorded :=
  ⟨Record.ethernet_eq, Record.ofBytes?_eq, Record.broadcast?_eq, Record.parse?_eq, Record.ofXid?_eq, Record.read_eq⟩

namespace Record

variable {r r' : Record}

theorem Built.exists_record (h : r.Built) : ∃ a : HwAddr, a.record = r := by
  have hmap : ∀ {made : Option HwAddr}, made.map record = some r → ∃ a : HwAddr, a.record = r := fun hm =>
    (Option.map_eq_some_iff.1 hm).imp fun _ ha => ha.2
  cases h with
  | ethernet mac =>
    obtain ⟨⟨bytes⟩, hl⟩ := mac
    match bytes, hl with
    | [a, b, c, d, e, f], _ => exact ⟨_, (ethernet_eq a b c d e f).symm⟩
  | ofBytes hm => exact hmap (ofBytes?_eq _ ▸ hm)
  | broadcast hm => exact hmap (broadcast?_eq _ ▸ hm)
  | parse hm => exact hmap (parse?_eq _ ▸ hm)
  | ofXid hm => exact hmap (ofXid?_eq _ _ ▸ hm)
  | read hm =>
    rw [read_eq] at hm
    obtain ⟨a, -, ha⟩ := Reader.run_map_eq_ok hm
    exact ⟨a, ha⟩

theorem built_record (a : HwAddr) : a.record.Built := by
  have h : HwAddr.ofBytes? a.bytes = some a := ofBytes?_eq_some_iff.2 rfl
  exact .ofBytes (by rw [ofBytes?_eq, h, Option.map_some])

theorem built_iff : r.Built ↔ ∃ a : HwAddr, a.record = r := by
  refine ⟨Built.exists_record, ?_⟩
  rintro ⟨a, rfl⟩
  exact built_record a

/-- What can be made has one to eight bytes and zeros behind them, and all that has them can be made. -/
theorem built_iff_padded : r.Built ↔ r.Padded := by
  rw [built_iff]
  refine ⟨?_, Padded.exists_record⟩
  rintro ⟨a, rfl⟩
  exact a.padded_record

theorem Built.eq_iff (h : r.Built) (h' : r'.Built) : r = r' ↔ r.length = r'.length ∧ r.visible = r'.visible := by
  obtain ⟨a, rfl⟩ := h.exists_record
  obtain ⟨b, rfl⟩ := h'.exists_record
  rw [visible_record, visible_record]
  constructor
  · rintro he
    rw [record_inj.1 he]
    exact ⟨rfl, rfl⟩
  · rintro ⟨-, hv⟩
    rw [ext_bytes hv]

end Record

/-! ## Order -/

theorem compare_toNat (m n : UInt8) : compare m n = compare m.toNat n.toNat := by
  show compareOfLessAndEq m n = compareOfLessAndEq m.toNat n.toNat
  simp only [compareOfLessAndEq, UInt8.lt_iff_toNat_lt, UInt8.toNat_inj]

/-- The same bytes behind lists of one length do not change how these compare. -/
theorem compare_append_right (tail : List UInt8) : ∀ {as bs : List UInt8}, as.length = bs.length →
    compare (as ++ tail) (bs ++ tail) = compare as bs
  | [], [], _ => Std.ReflCmp.compare_self
  | a :: as, b :: bs, h => by
    have ih := compare_append_right tail (Nat.succ.inj h)
    show List.compareLex compare (a :: (as ++ tail)) (b :: (bs ++ tail)) = List.compareLex compare (a :: as) (b :: bs)
    rw [List.compareLex_cons_cons, List.compareLex_cons_cons]
    exact congrArg _ ih

/-- The length decides first, then the bytes. -/
theorem compare_eq (a b : HwAddr) : compare a b = (compare a.length b.length).then (compare a.bytes b.bytes) := by
  show (compare a.length b.length).then (compare a.slot b.slot) = _
  cases hc : compare a.length b.length with
  | lt => rfl
  | gt => rfl
  | eq =>
    have hl : a.length = b.length := Nat.compare_eq_eq.1 hc
    rw [slot, slot, hl]
    exact compare_append_right _ hl

theorem Record.compare_eq (r r' : Record) :
    compare r r' = (compare r.length r'.length).then (compare r.room.toList r'.room.toList) := by
  have hroom : compare r.room r'.room = compare r.room.toList r'.room.toList :=
    Vector.compareLex_eq_compareLex_toArray.trans Array.compareLex_eq_compareLex_toList
  rw [← hroom]
  obtain ⟨n, room⟩ := r
  obtain ⟨n', room'⟩ := r'
  show (compare n n').then ((compare room room').then .eq) = _
  rw [Ordering.then_eq]

theorem compare_record (a b : HwAddr) : compare a.record b.record = compare a b := by
  rw [Record.compare_eq, compare_toNat, toNat_length_record, toNat_length_record, room_record, room_record]
  rfl

theorem Record.Built.compare_eq {r r' : Record} (h : r.Built) (h' : r'.Built) :
    compare r r' = (compare r.length r'.length).then (compare r.visible r'.visible) := by
  obtain ⟨a, rfl⟩ := h.exists_record
  obtain ⟨b, rfl⟩ := h'.exists_record
  rw [compare_record, HwAddr.compare_eq, compare_toNat, toNat_length_record, toNat_length_record, visible_record,
    visible_record]

end HwAddr

/-! ## Identities -/

namespace Xid

/-- What identities made of addresses show: the interface, the room of the record, and the address to whoever knows its
length. -/
structure Invertible : Prop where
  eq_iff : ∀ type i j (a b : HwAddr), ether type i a = ether type j b ↔ i = j ∧ a.record.room = b.record.room
  eq_iff_of_length : ∀ type i j (a b : HwAddr), a.length = b.length → (ether type i a = ether type j b ↔ i = j ∧ a = b)
  index : ∀ type i a, (ether type i a).etherIndex = i
  hwaddr : ∀ type i (a : HwAddr), (ether type i a).etherHwAddr? a.length = some a

theorem invertible : Invertible where
  eq_iff type i j a b := by
    rw [ether_eq_iff, ← HwAddr.room_record, ← HwAddr.room_record, Vector.toList_inj]
    exact and_iff_right rfl
  eq_iff_of_length type i j a b hl := by
    rw [ether_eq_iff, HwAddr.slot_inj hl]
    exact and_iff_right rfl
  index := etherIndex_ether
  hwaddr := etherHwAddr?_ether

end Xid

namespace HwAddr

/-- Whatever makes an address makes one to eight bytes with zeros behind them, and the record of the address that is made
without a room. So records are equal just if their lengths and the bytes of their addresses are, they are ordered by the
lengths first and then by these bytes, and identities made of them show all but the length. -/
theorem kept_padded :
    (∀ r : Record, r.Built ↔ r.Padded) ∧ Recorded ∧
    (∀ r r' : Record, r.Built → r'.Built →
      (r = r' ↔ r.length = r'.length ∧ r.visible = r'.visible) ∧
        compare r r' = (compare r.length r'.length).then (compare r.visible r'.visible)) ∧
    (∀ a b : HwAddr, a.record.visible = a.bytes ∧ (a.record = b.record ↔ a = b) ∧
      compare a.record b.record = compare a b) ∧
    Xid.Invertible :=
  ⟨fun _ => Record.built_iff_padded, recorded, fun _ _ h h' => ⟨h.eq_iff h', h.compare_eq h'⟩,
    fun a b => ⟨a.visible_record, record_inj, compare_record a b⟩, Xid.invertible⟩

/-- Two addresses of which one is the other with a zero behind it: they fill the room alike, so the longer one shows in the
identity of the shorter one, yet their records differ and are ordered by the length. -/
theorem kept_padded_of_lengths :
    let short := Record.ethernet #v[2, 0, 0, 0, 0, 1]
    let long : HwAddr := ⟨[2, 0, 0, 0, 0, 1, 0], by decide, by decide⟩
    short.room = long.record.room ∧ short ≠ long.record ∧ compare short long.record = .lt := by
  intro short long
  have h := kept_padded.2.2.1 short long.record (.ethernet _) (Record.built_record long)
  refine ⟨rfl, fun he => ?_, ?_⟩
  · exact absurd (h.1.1 he).1 (by decide)
  · rw [h.2]
    decide

end HwAddr

end Neighborhood
