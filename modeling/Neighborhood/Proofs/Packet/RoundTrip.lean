import Neighborhood.Proofs.Packet.Reading
import Neighborhood.Proofs.Packet.Writing

/-!
# Frames are read as the packets they were written from

* `Reader.announce_reads`, `Reader.neighborList_reads`, `Reader.monitor_reads`, `Reader.investigation_reads` — what the
  bodies of frames are read as
* `Packet.decode_frame` — a frame is read as its packet, if its addresses have a length that addresses have
* `Packet.decode_encode` — whatever is written is read back, but for lists that declare a length which no address has
-/

namespace Neighborhood

namespace Reader

/-! ## Parts -/

theorem toNat_ofNat_length (a : HwAddr) : (UInt8.ofNat a.length).toNat = a.length := by
  have := a.length_le
  simp only [HwAddr.length, UInt8.toNat_ofNat']
  omega

theorem isLength_length (a : HwAddr) : IsLength (UInt8.ofNat a.length) := by
  rw [IsLength, toNat_ofNat_length]
  exact ⟨a.length_pos, a.length_le⟩

theorem toNat_ofNat_count {n : Nat} (h : n ≤ 255) : (UInt8.ofNat n).toNat = n := by
  rw [UInt8.toNat_ofNat']
  omega

theorem haddrLen_reads {length : UInt8} (h : IsLength length) : Reads haddrLen [length] length := by
  have hne : ¬ (length = 0 ∨ 8 < length) := isLength_iff.1 h
  have hb : Reads haddrLen ([length] ++ []) length := by
    refine (Reads.byte length).bind ?_
    rw [if_neg hne]
    exact Reads.pure length
  exact hb

/-- A length that no address has is refused. -/
theorem haddrLen_refuses {length : UInt8} (h : length = 0 ∨ 8 < length) :
    Refuses haddrLen [length] (.invalidHaddrLen length) := by
  have hb : Refuses haddrLen ([length] ++ []) (.invalidHaddrLen length) := by
    refine (Reads.byte length).bind_refuses ?_
    rw [if_pos h]
    exact fun _ => rfl
  exact hb

/-- Addresses of one length, one after another. -/
theorem hwaddrs_reads {length : UInt8} {addrs : List HwAddr} (h : ∀ a ∈ addrs, a.length = length.toNat) :
    Reads (times addrs.length (hwaddr length)) (addrs.flatMap (·.bytes)) addrs :=
  Reads.times addrs fun a ha => Reads.hwaddr a (h a ha).symm

theorem length_flatMap_of {α : Type} {f : α → List UInt8} {n : Nat} : ∀ {l : List α}, (∀ a ∈ l, (f a).length = n) →
    (l.flatMap f).length = l.length * n
  | [], _ => by simp
  | a :: l, h => by
    rw [List.forall_mem_cons] at h
    rw [List.flatMap_cons, List.length_append, h.1, length_flatMap_of h.2, List.length_cons, Nat.succ_mul,
      Nat.add_comm]

/-! ## Bodies -/

theorem announce_reads {p : Announce} (h : (Packet.announce p).Fits) : Reads announce (Packet.announce p).body p := by
  have hn : (UInt8.ofNat p.xids.length).toNat = p.xids.length := toNat_ofNat_count h
  have hl := toNat_ofNat_length p.hwaddr
  have hx : Reads (times p.xids.length identifier) (p.xids.flatMap (·.bytes)) p.xids :=
    Reads.times p.xids fun id _ => Reads.identifier id
  have hb : Reads announce ([UInt8.ofNat p.xids.length] ++ ([UInt8.ofNat p.hwaddr.length] ++
      (p.hwaddr.bytes ++ (p.xids.flatMap (·.bytes) ++ [])))) p := by
    refine Reads.ensure_bind ?_ ?_
    · simp
    refine (Reads.byte _).bind ((haddrLen_reads (isLength_length p.hwaddr)).bind (Reads.ensure_bind ?_ ?_))
    · have ha : p.hwaddr.bytes.length = p.hwaddr.length := rfl
      have hids := length_flatMap_of fun (id : Identifier) (_ : id ∈ p.xids) => id.length_eq
      simp only [List.length_append, hids, hn, hl, ha]
      omega
    refine (Reads.hwaddr p.hwaddr hl).bind ?_
    rw [hn]
    exact hx.bind (Reads.pure p)
  simpa [Packet.body] using hb

theorem neighborRecord_reads {length : UInt8} {r : NeighborRecord} (h : r.Fits length.toNat) :
    Reads (neighborRecord length) r.bytes r := by
  have hn : (UInt8.ofNat r.hwaddrs.length).toNat = r.hwaddrs.length := toNat_ofNat_count h.1
  have hb : Reads (neighborRecord length)
      (r.xid.bytes ++ ([UInt8.ofNat r.hwaddrs.length] ++ (r.hwaddrs.flatMap (·.bytes) ++ []))) r := by
    refine Reads.ensure_bind ?_ ?_
    · rw [List.length_append, List.length_append, List.length_singleton, r.xid.length_eq]
      omega
    refine (Reads.identifier r.xid).bind ((Reads.byte _).bind (Reads.ensure_bind ?_ ?_))
    · rw [List.append_nil, hn]
      exact Nat.le_of_eq (length_flatMap_of h.2).symm
    rw [hn]
    exact (hwaddrs_reads h.2).bind (Reads.pure r)
  simpa [NeighborRecord.bytes] using hb

theorem neighborList_reads {p : NeighborList} (h : (Packet.neighborList p).Fits) (hl : IsLength p.haddrLen) :
    Reads neighborList (Packet.neighborList p).body p := by
  have hn : (UInt8.ofNat p.neighbors.length).toNat = p.neighbors.length := toNat_ofNat_count h.1
  have hr : Reads (times p.neighbors.length (neighborRecord p.haddrLen)) (p.neighbors.flatMap (·.bytes)) p.neighbors :=
    Reads.times p.neighbors fun r hr => neighborRecord_reads (h.2 r hr)
  have hb : Reads neighborList ([UInt8.ofNat p.neighbors.length] ++ ([p.haddrLen] ++
      (p.neighbors.flatMap (·.bytes) ++ []))) p := by
    refine Reads.ensure_bind ?_ ?_
    · simp
    refine (Reads.byte _).bind ((haddrLen_reads hl).bind ?_)
    rw [hn]
    exact hr.bind (Reads.pure p)
  simpa [Packet.body] using hb

/-- The beginning that all liveness packets share, with what a packet has behind it: the bytes of the suspects are
demanded together with the addresses before them. -/
theorem probe_bind_reads {α : Type} {suspects : Nat} {clock : Int32} {src dest : HwAddr} {tail : List UInt8}
    {f : UInt8 × Int32 × HwAddr × HwAddr → Reading α} {a : α} (hd : dest.length = src.length)
    (ht : tail.length = suspects * src.length) (hf : Reads (f (UInt8.ofNat src.length, clock, src, dest)) tail a) :
    Reads (probe suspects >>= f) (Packet.probeBytes clock src ++ dest.bytes ++ tail) a := by
  have hl := toNat_ofNat_length src
  have hs : src.bytes.length = src.length := rfl
  have hdl : dest.bytes.length = dest.length := rfl
  have hc : (bytesBE clock.toUInt32).length = 4 := rfl
  have hb : Reads (probe suspects >>= f) ([UInt8.ofNat src.length] ++ ([0] ++ (bytesBE clock.toUInt32 ++
      (src.bytes ++ (dest.bytes ++ tail))))) a := by
    simp only [probe, bind_assoc, pure_bind]
    refine Reads.ensure_bind ?_ ?_
    · simp only [List.length_append, List.length_singleton, hc]
      omega
    refine (haddrLen_reads (isLength_length src)).bind ((Reads.byte 0).bind ((Reads.int32 clock).bind ?_))
    refine Reads.ensure_bind ?_ ?_
    · simp only [List.length_append, hl, hs, hdl, hd, ht, Nat.add_mul]
      omega
    exact (Reads.hwaddr src hl).bind ((Reads.hwaddr dest (hl.trans hd.symm)).bind hf)
  simpa [Packet.probeBytes] using hb

theorem monitor_reads {p : Monitor} (h : (Packet.monitor p).Fits) :
    Reads (monitor p.role) (Packet.monitor p).body p := by
  have hb : Reads (monitor p.role) (Packet.probeBytes p.clock p.src ++ p.dest.bytes ++ []) p :=
    probe_bind_reads h (by simp) (Reads.pure p)
  simpa [Packet.body] using hb

theorem investigation_reads {p : Investigation} (h : (Packet.investigation p).Fits) :
    Reads (investigation p.role) (Packet.investigation p).body p := by
  have hl : (UInt8.ofNat p.src.length).toNat = p.investigate.length := (toNat_ofNat_length p.src).trans h.2.symm
  have hb : Reads (investigation p.role)
      (Packet.probeBytes p.clock p.src ++ p.dest.bytes ++ (p.investigate.bytes ++ [])) p := by
    refine probe_bind_reads h.1 ?_ ((Reads.hwaddr p.investigate hl).bind (Reads.pure p))
    rw [List.append_nil, Nat.one_mul]
    exact h.2
  simpa [Packet.body] using hb

/-- A list that declares a length which no address has is refused before any of its records is read. -/
theorem neighborList_refuses {p : NeighborList} (hl : p.haddrLen = 0 ∨ 8 < p.haddrLen) :
    Refuses neighborList (Packet.neighborList p).body (.invalidHaddrLen p.haddrLen) := by
  have hb : Refuses neighborList ([UInt8.ofNat p.neighbors.length] ++ ([p.haddrLen] ++ p.neighbors.flatMap (·.bytes)))
      (.invalidHaddrLen p.haddrLen) := by
    refine Refuses.ensure_bind ?_ ?_
    · simp
    refine (Reads.byte _).bind_refuses (Refuses.bind ?_ _)
    intro rest
    rw [List.append_assoc]
    exact haddrLen_refuses hl _
  simpa [Packet.body] using hb

/-! ## Whole frames -/

theorem header_reads (kind : Packet.Kind) : Reads header (Packet.header kind) kind := by
  intro rest
  cases kind <;> rfl

theorem body_reads {p : Packet} (h : p.Fits) (hl : ∀ l, p = .neighborList l → IsLength l.haddrLen) :
    Reads (body p.kind) p.body p := by
  cases p with
  | announce p => exact (announce_reads h).map _
  | neighborList p => exact (neighborList_reads h (hl p rfl)).map _
  | monitor p =>
    rcases p with ⟨role, clock, src, dest⟩
    cases role with
    | ping => exact (monitor_reads h).map _
    | ack => exact (monitor_reads h).map _
  | investigation p =>
    rcases p with ⟨role, clock, src, dest, investigate⟩
    cases role with
    | request => exact (investigation_reads h).map _
    | probe => exact (investigation_reads h).map _

end Reader

namespace Packet

open Reader (IsLength)

/-- A frame is read as its packet. -/
theorem decode_frame {p : Packet} (h : p.Fits) (hl : ∀ l, p = neighborList l → IsLength l.haddrLen) :
    decode p.frame = .ok p := by
  have hr : (Reader.packet.run ⟨header p.kind ++ (p.body ++ [])⟩).1 = .ok p := by
    rw [Reader.packet, Reader.run_bind, Reader.header_reads]
    simp only [Reader.run_bind, Reader.body_reads h hl []]
    rfl
  rw [List.append_nil] at hr
  exact hr

/-- The frame of a list that declares a length which no address has is refused for this length. -/
theorem decode_frame_neighborList {l : NeighborList} (hl : l.haddrLen = 0 ∨ 8 < l.haddrLen) :
    decode (neighborList l).frame = .error (.invalidHaddrLen l.haddrLen) := by
  have hr : Reader.Refuses Reader.packet (neighborList l).frame (.invalidHaddrLen l.haddrLen) :=
    (Reader.header_reads _).bind_refuses (((Reader.neighborList_refuses hl).map _).bind _)
  have := hr []
  rw [List.append_nil] at this
  exact this

/-- No list of addresses fits to a length that no address has. -/
theorem fits_neighborList_iff {l : NeighborList} (hl : l.haddrLen = 0 ∨ 8 < l.haddrLen) :
    (neighborList l).Fits ↔ l.neighbors.length ≤ 255 ∧ ∀ r ∈ l.neighbors, r.hwaddrs = [] := by
  have hne (a : HwAddr) : a.length ≠ l.haddrLen.toNat := by
    intro ha
    have h : IsLength l.haddrLen := ⟨ha ▸ a.length_pos, ha ▸ a.length_le⟩
    exact Reader.isLength_iff.1 h hl
  have hr (r : NeighborRecord) : r.Fits l.haddrLen.toNat ↔ r.hwaddrs = [] := by
    constructor
    · intro h
      exact List.eq_nil_iff_forall_not_mem.2 fun a ha => hne a (h.2 a ha)
    · intro h
      simp [NeighborRecord.Fits, h]
  simp only [Fits, hr]

/-- Whatever is written is read back as it was. Only lists that declare a length which no address has are not: they are
written if they hold no address at all, and are then refused for this length. -/
theorem decode_encode (p : Packet) :
    ((∀ l, p = neighborList l → ¬ (l.haddrLen = 0 ∨ 8 < l.haddrLen)) →
      ∀ bytes, p.encode = .ok bytes → decode bytes = .ok p) ∧
    ∀ l, p = neighborList l → l.haddrLen = 0 ∨ 8 < l.haddrLen →
      ((∃ bytes, p.encode = .ok bytes) ↔ l.neighbors.length ≤ 255 ∧ ∀ r ∈ l.neighbors, r.hwaddrs = []) ∧
      ∀ bytes, p.encode = .ok bytes → decode bytes = .error (.invalidHaddrLen l.haddrLen) := by
  refine ⟨fun hl bytes he => ?_, ?_⟩
  · obtain ⟨hfit, rfl⟩ := encode_eq_ok_iff.1 he
    exact decode_frame hfit fun l hp => Reader.isLength_iff.2 (hl l hp)
  · rintro l rfl hl
    constructor
    · rw [← fits_neighborList_iff hl]
      constructor
      · rintro ⟨bytes, he⟩
        exact (encode_eq_ok_iff.1 he).1
      · intro hfit
        exact ⟨_, encode_eq_ok_iff.2 ⟨hfit, rfl⟩⟩
    · intro bytes he
      obtain ⟨-, rfl⟩ := encode_eq_ok_iff.1 he
      exact decode_frame_neighborList hl

/-- A list of one prefix behind one host is read back; the list that declares nine bytes for addresses is refused. -/
theorem decode_encode_of_lists :
    (∃ bytes l, l.neighbors.length = 1 ∧ (neighborList l).encode = .ok bytes ∧
      decode bytes = .ok (neighborList l)) ∧
    ∃ bytes, (neighborList ⟨9, []⟩).encode = .ok bytes ∧ decode bytes = .error (.invalidHaddrLen 9) := by
  let l : NeighborList := ⟨1, [⟨⟨List.replicate 20 7, rfl⟩, [⟨[5], by decide, by decide⟩]⟩]⟩
  constructor
  · refine ⟨_, l, rfl, rfl, (decode_encode (neighborList l)).1 ?_ _ rfl⟩
    rintro _ ⟨rfl⟩
    decide
  · have h9 : (9 : UInt8) = 0 ∨ 8 < (9 : UInt8) := by decide
    exact ⟨_, rfl, ((decode_encode (neighborList ⟨9, []⟩)).2 ⟨9, []⟩ rfl h9).2 _ rfl⟩

end Packet

end Neighborhood
