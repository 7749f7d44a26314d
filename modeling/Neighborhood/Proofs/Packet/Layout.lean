import Neighborhood.Proofs.Packet.Inversion

/-!
# One frame for a packet

* `Packet.Layout` — the byte strings of the four layouts
* `Packet.Readable` — the packets that some frame is read as
* `Packet.decode_set_reserved` — the byte that readers ignore may be any
* `Packet.decode_eq_ok_iff` — what is read is written back, but for that byte
* `Packet.decode_canonical` — nothing is lost in reading, and what is read is exactly what has one of the layouts
-/

namespace Neighborhood

open Reader (IsLength)

/-! ## Layouts -/

namespace Packet

/-- A prefix, a number, and as many addresses. -/
inductive RecordLayout (length : UInt8) : List UInt8 → Prop
  | intro {xid hosts : List UInt8} {number : UInt8} : xid.length = 20 → hosts.length = number.toNat * length.toNat →
      RecordLayout length (xid ++ number :: hosts)

/-- The bytes of a frame: version, type and what the type asks for. -/
inductive Layout : List UInt8 → Prop
  | announce {count length : UInt8} {addr xids : List UInt8} : IsLength length → addr.length = length.toNat →
      xids.length = count.toNat * 20 → Layout (1 :: 1 :: count :: length :: (addr ++ xids))
  | neighborList {count length : UInt8} {records : List (List UInt8)} : IsLength length →
      records.length = count.toNat → (∀ r ∈ records, RecordLayout length r) →
      Layout (1 :: 2 :: count :: length :: records.flatten)
  | monitor {code length reserved : UInt8} {clock src dest : List UInt8} : code = 3 ∨ code = 4 → IsLength length →
      clock.length = 4 → src.length = length.toNat → dest.length = length.toNat →
      Layout (1 :: code :: length :: reserved :: (clock ++ src ++ dest))
  | investigation {code length reserved : UInt8} {clock src dest suspect : List UInt8} : code = 5 ∨ code = 6 →
      IsLength length → clock.length = 4 → src.length = length.toNat → dest.length = length.toNat →
      suspect.length = length.toNat → Layout (1 :: code :: length :: reserved :: (clock ++ src ++ dest ++ suspect))

/-- Frames of these kinds have a byte that readers ignore. -/
def Kind.isLiveness : Kind → Bool
  | announce | neighborList => false
  | ping | ack | pingRequest | investigatePing => true

/-- The place of the byte that readers of liveness frames ignore. -/
def reservedPlace : Nat := 3

/-- The packet has a frame that is read as this packet. -/
structure Readable (p : Packet) : Prop where
  fits : p.Fits
  isLength : ∀ l, p = neighborList l → IsLength l.haddrLen

/-- The bytes of a frame, with zero in the byte that readers of its kind ignore. -/
def Kind.cleared (kind : Kind) (f : List UInt8) : List UInt8 :=
  if kind.isLiveness then f.set reservedPlace 0 else f

theorem code_monitor : ∀ m : Monitor, (monitor m).kind.code = 3 ∨ (monitor m).kind.code = 4
  | ⟨.ping, _, _, _⟩ => .inl rfl
  | ⟨.ack, _, _, _⟩ => .inr rfl

theorem isLiveness_monitor : ∀ m : Monitor, (monitor m).kind.isLiveness
  | ⟨.ping, _, _, _⟩ | ⟨.ack, _, _, _⟩ => rfl

theorem code_investigation : ∀ i : Investigation, (investigation i).kind.code = 5 ∨ (investigation i).kind.code = 6
  | ⟨.request, _, _, _, _⟩ => .inl rfl
  | ⟨.probe, _, _, _, _⟩ => .inr rfl

theorem isLiveness_investigation : ∀ i : Investigation, (investigation i).kind.isLiveness
  | ⟨.request, _, _, _, _⟩ | ⟨.probe, _, _, _, _⟩ => rfl

theorem Kind.length_cleared (kind : Kind) (f : List UInt8) : (kind.cleared f).length = f.length := by
  unfold cleared
  split
  · exact List.length_set
  · rfl

end Packet

/-! ## The byte that readers ignore -/

namespace Reader

variable {α : Type} {r r' : Reader}

/-- The byte behind the length does not decide anything. -/
theorem probe_bind_ignores {suspects : Nat} (f : UInt8 × Int32 × HwAddr × HwAddr → Reading α) (length b b' : UInt8)
    (rest : List UInt8) : ((probe suspects >>= f).run ⟨length :: b :: rest⟩).1 =
      ((probe suspects >>= f).run ⟨length :: b' :: rest⟩).1 := by
  have hlen : ∀ b, haddrLen.run ⟨length :: b :: rest⟩ =
      if length = 0 ∨ 8 < length then (.error (.invalidHaddrLen length), ⟨b :: rest⟩)
      else (.ok length, ⟨b :: rest⟩) := by
    intro b
    unfold haddrLen
    rw [run_bind]
    simp only [byte, ExceptT.run]
    split <;> rfl
  have hens : ∀ b, (ensure 6).run ⟨length :: b :: rest⟩ =
      if 6 ≤ rest.length + 2 then (.ok (), ⟨length :: b :: rest⟩)
      else (.error (.truncated 6 (rest.length + 2)), ⟨length :: b :: rest⟩) := fun _ => rfl
  simp only [probe, bind_assoc, run_bind, hens]
  by_cases hr : 6 ≤ rest.length + 2
  · simp only [if_pos hr, hlen]
    by_cases hl : length = 0 ∨ 8 < length
    · simp only [if_pos hl]
    · simp only [if_neg hl]
      rfl
  · simp only [if_neg hr]

end Reader

namespace Packet

/-- A frame of a liveness packet is read in the same way, or refused in the same way, whatever byte is ignored. -/
theorem decode_ignores {kind : Kind} (hk : kind.isLiveness) (length b b' : UInt8) (rest : List UInt8) :
    decode (header kind ++ length :: b :: rest) = decode (header kind ++ length :: b' :: rest) := by
  have hbody : ∀ b, decode (header kind ++ length :: b :: rest) =
      ((Reader.body kind >>= fun p => Reader.finish >>= fun _ => pure p).run ⟨length :: b :: rest⟩).1 := by
    intro b
    simp only [decode, Reader.packet]
    rw [Reader.run_bind, Reader.header_reads]
  rw [hbody, hbody]
  cases kind with
  | announce | neighborList => cases hk
  | ping | ack | pingRequest | investigatePing =>
    simp only [Reader.body, Reader.monitor, Reader.investigation, map_eq_pure_bind, bind_assoc]
    exact Reader.probe_bind_ignores _ length b b' rest

/-! ## What is read is written back -/

/-- The bytes of a frame that was read are those of the packet's frame, but for the byte that readers ignore. -/
theorem cleared_of_run_body {kind : Kind} {p : Packet} {r r' : Reader}
    (h : (Reader.body kind).run r = (.ok p, r')) :
    p.kind = kind ∧ p.Readable ∧ kind.cleared (header kind ++ r.rest) = p.frame ++ r'.rest := by
  cases kind with
  | announce =>
    obtain ⟨a, ha, rfl⟩ := Reader.run_map_eq_ok h
    obtain ⟨hfit, hr⟩ := Reader.run_announce_eq_ok ha
    exact ⟨rfl, ⟨hfit, fun _ he => by cases he⟩, by rw [hr]; rfl⟩
  | neighborList =>
    obtain ⟨l, hl, rfl⟩ := Reader.run_map_eq_ok h
    obtain ⟨hlen, hfit, hr⟩ := Reader.run_neighborList_eq_ok hl
    refine ⟨rfl, ⟨hfit, ?_⟩, by rw [hr]; rfl⟩
    rintro _ ⟨rfl⟩
    exact hlen
  | ping | ack =>
    obtain ⟨⟨role, clock, src, dest⟩, hm, rfl⟩ := Reader.run_map_eq_ok h
    obtain ⟨hrole, hfit, reserved, hr⟩ := Reader.run_monitor_eq_ok hm
    cases hrole
    refine ⟨rfl, ⟨hfit, fun _ he => by cases he⟩, ?_⟩
    rw [hr]
    simp [Kind.cleared, Kind.isLiveness, reservedPlace, header, frame, kind, body, probeBytes]
  | pingRequest | investigatePing =>
    obtain ⟨⟨role, clock, src, dest, investigate⟩, hi, rfl⟩ := Reader.run_map_eq_ok h
    obtain ⟨hrole, hfit, reserved, hr⟩ := Reader.run_investigation_eq_ok hi
    cases hrole
    refine ⟨rfl, ⟨hfit, fun _ he => by cases he⟩, ?_⟩
    rw [hr]
    simp [Kind.cleared, Kind.isLiveness, reservedPlace, header, frame, kind, body, probeBytes]

theorem cleared_of_decode {f : List UInt8} {p : Packet} (h : decode f = .ok p) :
    p.Readable ∧ p.kind.cleared f = p.frame := by
  obtain ⟨kind, r₁, hk, hb⟩ := Reader.run_bind_eq_ok (run_content h)
  obtain ⟨rfl, hread, hframe⟩ := cleared_of_run_body hb
  rw [← Reader.run_header_eq_ok hk, List.append_nil] at hframe
  exact ⟨hread, hframe⟩

theorem frame_of_isLiveness {p : Packet} (h : p.kind.isLiveness) :
    ∃ length rest, p.frame = header p.kind ++ length :: 0 :: rest := by
  cases p with
  | announce | neighborList => cases h
  | monitor | investigation => exact ⟨_, _, rfl⟩

theorem eq_of_cleared {kind : Kind} (hk : kind.isLiveness) {length : UInt8} {f rest : List UInt8}
    (h : kind.cleared f = header kind ++ length :: 0 :: rest) :
    ∃ b, f = header kind ++ length :: b :: rest := by
  rw [Kind.cleared, if_pos hk] at h
  match f with
  | [] | [_] | [_, _] | [_, _, _] => simp [header, reservedPlace] at h
  | v :: c :: l :: b :: t =>
    simp only [reservedPlace, List.set_cons_succ, List.set_cons_zero, header, List.cons_append, List.nil_append,
      List.cons.injEq] at h
    obtain ⟨rfl, rfl, rfl, -, rfl⟩ := h
    exact ⟨b, rfl⟩

/-- A frame is read as a packet just if it is the packet's frame, but for the byte that readers ignore. -/
theorem decode_eq_ok_iff {f : List UInt8} {p : Packet} :
    decode f = .ok p ↔ p.Readable ∧ p.kind.cleared f = p.frame := by
  refine ⟨cleared_of_decode, ?_⟩
  rintro ⟨hp, hf⟩
  have hframe : decode p.frame = .ok p := decode_frame hp.fits hp.isLength
  by_cases hk : p.kind.isLiveness
  · obtain ⟨length, rest, he⟩ := frame_of_isLiveness hk
    rw [he] at hf hframe
    obtain ⟨b, rfl⟩ := eq_of_cleared hk hf
    rw [decode_ignores hk length b 0, hframe]
  · rw [Kind.cleared, if_neg hk] at hf
    rw [hf, hframe]

theorem decode_set_reserved {f : List UInt8} {p : Packet} (h : decode f = .ok p) (hk : p.kind.isLiveness) (b : UInt8) :
    decode (f.set reservedPlace b) = .ok p := by
  obtain ⟨hp, hf⟩ := cleared_of_decode h
  refine decode_eq_ok_iff.2 ⟨hp, ?_⟩
  simpa only [Kind.cleared, if_pos hk, List.set_set] using hf

/-! ## What is read has one of the layouts -/

theorem recordLayout_bytes {length : UInt8} {r : NeighborRecord} (h : r.Fits length.toNat) :
    RecordLayout length r.bytes := by
  have hl : (r.hwaddrs.flatMap (·.bytes)).length = (UInt8.ofNat r.hwaddrs.length).toNat * length.toNat := by
    rw [Reader.length_flatMap_of h.2, Reader.toNat_ofNat_count h.1]
  simpa [NeighborRecord.bytes] using RecordLayout.intro r.xid.length_eq hl

theorem layout_of_decode {f : List UInt8} {p : Packet} (h : decode f = .ok p) : Layout f := by
  obtain ⟨hp, hf⟩ := cleared_of_decode h
  cases p with
  | announce a =>
    have hx : (a.xids.flatMap (·.bytes)).length = (UInt8.ofNat a.xids.length).toNat * 20 := by
      rw [Reader.toNat_ofNat_count hp.fits, Reader.length_flatMap_of fun id _ => id.length_eq]
    have ha : a.hwaddr.bytes.length = (UInt8.ofNat a.hwaddr.length).toNat := (Reader.toNat_ofNat_length a.hwaddr).symm
    have hlayout := Layout.announce (Reader.isLength_length a.hwaddr) ha hx
    rw [show f = (announce a).frame from hf]
    exact hlayout
  | neighborList l =>
    have hn : (l.neighbors.map (·.bytes)).length = (UInt8.ofNat l.neighbors.length).toNat := by
      rw [List.length_map, Reader.toNat_ofNat_count hp.fits.1]
    have hr : ∀ bytes ∈ l.neighbors.map (·.bytes), RecordLayout l.haddrLen bytes :=
      List.forall_mem_map.2 fun r hr => recordLayout_bytes (hp.fits.2 r hr)
    have hlayout := Layout.neighborList (hp.isLength l rfl) hn hr
    rw [← List.flatMap_def] at hlayout
    rw [show f = (neighborList l).frame from hf]
    exact hlayout
  | monitor m =>
    have hl := Reader.toNat_ofNat_length m.src
    obtain ⟨b, rfl⟩ := eq_of_cleared (isLiveness_monitor m) hf
    exact .monitor (code_monitor m) (Reader.isLength_length m.src) rfl hl.symm (hp.fits.trans hl.symm)
  | investigation i =>
    have hl := Reader.toNat_ofNat_length i.src
    obtain ⟨b, rfl⟩ := eq_of_cleared (isLiveness_investigation i) hf
    exact .investigation (code_investigation i) (Reader.isLength_length i.src) rfl hl.symm (hp.fits.1.trans hl.symm)
      (hp.fits.2.trans hl.symm)

/-- Bytes that are as many as some members take are the bytes of members. -/
theorem exists_members {α : Type} {write : α → List UInt8} {P : α → Prop} {k : Nat}
    (hread : ∀ bytes : List UInt8, bytes.length = k → ∃ a, P a ∧ write a = bytes) :
    ∀ {n : Nat} {bytes : List UInt8}, bytes.length = n * k →
      ∃ as : List α, as.length = n ∧ (∀ a ∈ as, P a) ∧ as.flatMap write = bytes
  | 0, bytes, h => by
    rw [Nat.zero_mul, List.length_eq_zero_iff] at h
    exact ⟨[], rfl, nofun, h.symm⟩
  | n + 1, bytes, h => by
    rw [Nat.succ_mul] at h
    obtain ⟨a, ha, hw⟩ := hread (bytes.take k) (by rw [List.length_take]; omega)
    have hrest : (bytes.drop k).length = n * k := by rw [List.length_drop]; omega
    obtain ⟨as, hn, has, hws⟩ := exists_members hread hrest
    refine ⟨a :: as, by rw [List.length_cons, hn], ?_, ?_⟩
    · simpa [ha] using has
    · rw [List.flatMap_cons, hw, hws, List.take_append_drop]

theorem exists_hwaddr {length : UInt8} (hl : IsLength length) (bytes : List UInt8) (h : bytes.length = length.toNat) :
    ∃ a : HwAddr, a.length = length.toNat ∧ a.bytes = bytes :=
  ⟨⟨bytes, h ▸ hl.1, h ▸ hl.2⟩, h, rfl⟩

theorem exists_identifier (bytes : List UInt8) (h : bytes.length = 20) : ∃ id : Identifier, True ∧ id.bytes = bytes :=
  ⟨⟨bytes, h⟩, trivial, rfl⟩

theorem exists_record {length : UInt8} (hl : IsLength length) {bytes : List UInt8} (h : RecordLayout length bytes) :
    ∃ r : NeighborRecord, r.Fits length.toNat ∧ r.bytes = bytes := by
  obtain ⟨hx, hh⟩ := h
  rename_i xid hosts number
  obtain ⟨addrs, hn, ha, rfl⟩ := exists_members (exists_hwaddr hl) hh
  refine ⟨⟨⟨xid, hx⟩, addrs⟩, ⟨Reader.length_le_of_count hn, ha⟩, ?_⟩
  simp [NeighborRecord.bytes, hn]

theorem exists_records {length : UInt8} (hl : IsLength length) : ∀ {records : List (List UInt8)},
    (∀ bytes ∈ records, RecordLayout length bytes) →
      ∃ rs : List NeighborRecord, (∀ r ∈ rs, r.Fits length.toNat) ∧ rs.map (·.bytes) = records
  | [], _ => ⟨[], nofun, rfl⟩
  | bytes :: records, h => by
    rw [List.forall_mem_cons] at h
    obtain ⟨r, hr, hb⟩ := exists_record hl h.1
    obtain ⟨rs, hrs, hbs⟩ := exists_records hl h.2
    exact ⟨r :: rs, List.forall_mem_cons.2 ⟨hr, hrs⟩, by rw [List.map_cons, hb, hbs]⟩

theorem exists_clock : ∀ {bytes : List UInt8}, bytes.length = 4 → ∃ clock : Int32, bytesBE clock.toUInt32 = bytes
  | [b₀, b₁, b₂, b₃], _ => ⟨(wordBE b₀ b₁ b₂ b₃).toInt32, by rw [UInt32.toUInt32_toInt32, bytesBE_wordBE]⟩

/-- The bytes of a layout are those of some packet's frame, but for the byte that readers ignore. -/
theorem decode_of_layout {f : List UInt8} (h : Layout f) : ∃ p, decode f = .ok p := by
  cases h with
  | @announce count length addr xids hl ha hx =>
    obtain ⟨ids, hn, -, rfl⟩ := exists_members exists_identifier hx
    obtain ⟨a, hal, rfl⟩ := exists_hwaddr hl addr ha
    refine ⟨announce ⟨a, ids⟩, decode_eq_ok_iff.2 ⟨⟨Reader.length_le_of_count hn, fun _ he => by cases he⟩, ?_⟩⟩
    simp [Kind.cleared, kind, Kind.isLiveness, frame, header, version, Kind.code, body, hn, hal]
  | @neighborList count length records hl hn hr =>
    obtain ⟨rs, hrs, rfl⟩ := exists_records hl hr
    rw [List.length_map] at hn
    refine ⟨neighborList ⟨length, rs⟩, decode_eq_ok_iff.2 ⟨⟨⟨Reader.length_le_of_count hn, hrs⟩, ?_⟩, ?_⟩⟩
    · rintro _ ⟨rfl⟩
      exact hl
    · simp [Kind.cleared, kind, Kind.isLiveness, frame, header, version, Kind.code, body, hn, List.flatMap_def]
  | @monitor code length reserved clock src dest hc hl hclock hs hd =>
    obtain ⟨clock, rfl⟩ := exists_clock hclock
    obtain ⟨src, hsl, rfl⟩ := exists_hwaddr hl src hs
    obtain ⟨dest, hdl, rfl⟩ := exists_hwaddr hl dest hd
    obtain ⟨role, rfl⟩ : ∃ role, code = (monitor ⟨role, clock, src, dest⟩).kind.code := by
      rcases hc with rfl | rfl
      · exact ⟨.ping, rfl⟩
      · exact ⟨.ack, rfl⟩
    refine ⟨monitor ⟨role, clock, src, dest⟩, decode_eq_ok_iff.2 ⟨⟨hdl.trans hsl.symm, fun _ he => by cases he⟩, ?_⟩⟩
    rw [Kind.cleared, if_pos (isLiveness_monitor _)]
    simp [reservedPlace, frame, header, version, body, probeBytes, hsl]
  | @investigation code length reserved clock src dest suspect hc hl hclock hs hd hi =>
    obtain ⟨clock, rfl⟩ := exists_clock hclock
    obtain ⟨src, hsl, rfl⟩ := exists_hwaddr hl src hs
    obtain ⟨dest, hdl, rfl⟩ := exists_hwaddr hl dest hd
    obtain ⟨suspect, hil, rfl⟩ := exists_hwaddr hl suspect hi
    obtain ⟨role, rfl⟩ : ∃ role, code = (investigation ⟨role, clock, src, dest, suspect⟩).kind.code := by
      rcases hc with rfl | rfl
      · exact ⟨.request, rfl⟩
      · exact ⟨.probe, rfl⟩
    refine ⟨investigation ⟨role, clock, src, dest, suspect⟩,
      decode_eq_ok_iff.2 ⟨⟨⟨hdl.trans hsl.symm, hil.trans hsl.symm⟩, fun _ he => by cases he⟩, ?_⟩⟩
    rw [Kind.cleared, if_pos (isLiveness_investigation _)]
    simp [reservedPlace, frame, header, version, body, probeBytes, hsl]

/-! ## One frame for a packet -/

theorem readable_iff {p : Packet} : p.Readable ↔
    (∃ g, p.encode = .ok g) ∧ ∀ l, p = neighborList l → ¬ (l.haddrLen = 0 ∨ 8 < l.haddrLen) := by
  constructor
  · intro hp
    exact ⟨⟨p.frame, encode_eq_ok_iff.2 ⟨hp.fits, rfl⟩⟩, fun l hl => Reader.isLength_iff.1 (hp.isLength l hl)⟩
  · rintro ⟨⟨g, hg⟩, hl⟩
    exact ⟨(encode_eq_ok_iff.1 hg).1, fun l hp => Reader.isLength_iff.2 (hl l hp)⟩

/-- A frame that a liveness packet is read from begins with a header, a length and the byte that readers ignore. -/
theorem exists_of_decode {f : List UInt8} {p : Packet} (h : decode f = .ok p) (hk : p.kind.isLiveness) :
    ∃ length rest b, p.frame = header p.kind ++ length :: 0 :: rest ∧ f = header p.kind ++ length :: b :: rest := by
  obtain ⟨length, rest, he⟩ := frame_of_isLiveness hk
  obtain ⟨b, hf⟩ := eq_of_cleared hk ((cleared_of_decode h).2.trans he)
  exact ⟨length, rest, b, he, hf⟩

theorem getElem?_frame {f : List UInt8} {p : Packet} (h : decode f = .ok p) (i : Nat) :
    p.frame[i]? = if p.kind.isLiveness ∧ i = reservedPlace then some 0 else f[i]? := by
  by_cases hk : p.kind.isLiveness
  · obtain ⟨length, rest, b, hp, rfl⟩ := exists_of_decode h hk
    match i with
    | 0 | 1 | 2 | 3 | _ + 4 => simp [hp, hk, header, reservedPlace]
  · have hf := (cleared_of_decode h).2
    rw [Kind.cleared, if_neg hk] at hf
    rw [if_neg fun hi => hk hi.1, hf]

theorem eq_of_decode {f f' : List UInt8} {p : Packet} (h : decode f = .ok p) (h' : decode f' = .ok p) :
    f' = f ∨ p.kind.isLiveness ∧ ∃ b, f' = f.set reservedPlace b := by
  have hf := (cleared_of_decode h).2
  have hf' := (cleared_of_decode h').2
  by_cases hk : p.kind.isLiveness
  · obtain ⟨length, rest, b, hp, rfl⟩ := exists_of_decode h hk
    obtain ⟨b', rfl⟩ := eq_of_cleared hk (hf'.trans hp)
    exact .inr ⟨hk, b', rfl⟩
  · rw [Kind.cleared, if_neg hk] at hf hf'
    exact .inl (hf'.trans hf.symm)

/-- Nothing is lost in reading. What is read is written back byte for byte, but for a zero in the byte that readers of
liveness frames ignore, and that byte may be any; so a packet that is read from some frame is read from this frame
alone, up to that byte, and every packet that is written is, but for lists that declare a length which no address has.
What is read is exactly what has one of the layouts. -/
theorem decode_canonical :
    (∀ f p, decode f = .ok p → ∃ g, p.encode = .ok g ∧ g.length = f.length ∧
      ∀ i, g[i]? = if p.kind.isLiveness ∧ i = reservedPlace then some 0 else f[i]?) ∧
    (∀ f p b, decode f = .ok p → p.kind.isLiveness → decode (f.set reservedPlace b) = .ok p) ∧
    (∀ p, ((∃ f, decode f = .ok p) ↔
        (∃ g, p.encode = .ok g) ∧ ∀ l, p = neighborList l → ¬ (l.haddrLen = 0 ∨ 8 < l.haddrLen)) ∧
      ∀ f f', decode f = .ok p → decode f' = .ok p →
        f' = f ∨ p.kind.isLiveness ∧ ∃ b, f' = f.set reservedPlace b) ∧
    ∀ f, (∃ p, decode f = .ok p) ↔ Layout f := by
  refine ⟨fun f p h => ?_, fun f p b h hk => decode_set_reserved h hk b, fun p => ⟨?_, fun f f' => eq_of_decode⟩,
    fun f => ⟨?_, decode_of_layout⟩⟩
  · obtain ⟨hp, hf⟩ := cleared_of_decode h
    refine ⟨p.frame, encode_eq_ok_iff.2 ⟨hp.fits, rfl⟩, ?_, getElem?_frame h⟩
    rw [← hf, Kind.length_cleared]
  · rw [← readable_iff]
    constructor
    · rintro ⟨f, h⟩
      exact (cleared_of_decode h).1
    · intro hp
      exact ⟨p.frame, decode_frame hp.fits hp.isLength⟩
  · rintro ⟨p, h⟩
    exact layout_of_decode h

/-- A ping whose ignored byte is seven is written back with a zero there, and is read as the same ping with a one. -/
theorem decode_canonical_of_ping : ∃ p, decode [1, 3, 1, 7, 0, 0, 0, 9, 5, 6] = .ok p ∧ p.kind.isLiveness ∧
    p.encode = .ok [1, 3, 1, 0, 0, 0, 0, 9, 5, 6] ∧ decode [1, 3, 1, 1, 0, 0, 0, 9, 5, 6] = .ok p := by
  let p : Packet := monitor ⟨.ping, 9, ⟨[5], by decide, by decide⟩, ⟨[6], by decide, by decide⟩⟩
  have h : decode [1, 3, 1, 7, 0, 0, 0, 9, 5, 6] = .ok p := rfl
  have hk : p.kind.isLiveness := rfl
  refine ⟨p, h, hk, ?_, decode_canonical.2.1 _ p 1 h hk⟩
  obtain ⟨g, hg, -, hbytes⟩ := decode_canonical.1 _ p h
  rw [hg]
  refine congrArg Except.ok (List.ext_getElem? fun i => ?_)
  rw [hbytes]
  match i with
  | 0 | 1 | 2 | 3 | _ + 4 => simp [hk, reservedPlace]

end Packet

end Neighborhood
