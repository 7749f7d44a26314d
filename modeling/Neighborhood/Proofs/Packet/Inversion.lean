import Neighborhood.Proofs.Packet.RoundTrip

/-!
# What stood in a frame that was read

* `Reader.run_bind_eq_ok` — a reading in two parts succeeds if both do
* `Reader.run_byte_eq_ok`, `Reader.run_hwaddr_eq_ok` and the like — the bytes in front of what is left, for every part
  that frames are made of
* `Reader.run_times_eq_ok` — a reading repeated
* `Reader.run_announce_eq_ok`, `Reader.run_neighborList_eq_ok`, `Reader.run_monitor_eq_ok`,
  `Reader.run_investigation_eq_ok` — the bodies of frames
* `Packet.run_content` — an accepted frame is a header, a body and nothing behind
-/

namespace Neighborhood

/-- The number of a kind is the number that it was read from. -/
theorem Packet.Kind.eq_code_of_ofCode? {code : UInt8} {kind : Kind} (h : ofCode? code = some kind) :
    code = kind.code := by
  unfold ofCode? at h
  split at h <;> cases h <;> rfl

namespace Reader

variable {α β : Type} {r r' : Reader}

/-! ## Parts -/

theorem run_bind_eq_ok {reading : Reading α} {f : α → Reading β} {b : β}
    (h : (reading >>= f).run r = (.ok b, r')) :
    ∃ a r₁, reading.run r = (.ok a, r₁) ∧ (f a).run r₁ = (.ok b, r') := by
  rw [run_bind] at h
  generalize reading.run r = out at h
  rcases out with ⟨_ | a, r₁⟩
  · cases h
  · exact ⟨a, r₁, rfl, h⟩

theorem run_pure_eq_ok {a b : α} (h : (pure a : Reading α).run r = (.ok b, r')) : a = b ∧ r = r' := by
  cases h
  exact ⟨rfl, rfl⟩

theorem run_map_eq_ok {reading : Reading α} {f : α → β} {b : β} (h : (f <$> reading).run r = (.ok b, r')) :
    ∃ a, reading.run r = (.ok a, r') ∧ f a = b := by
  obtain ⟨a, r₁, ha, h⟩ := run_bind_eq_ok (f := fun a => pure (f a)) h
  obtain ⟨hb, rfl⟩ := run_pure_eq_ok h
  exact ⟨a, ha, hb⟩

/-- A demand that is met reads nothing. -/
theorem run_ensure_bind_eq_ok {needed : Nat} {f : Unit → Reading α} {a : α}
    (h : (ensure needed >>= f).run r = (.ok a, r')) : (f ()).run r = (.ok a, r') := by
  obtain ⟨_, r₁, he, h⟩ := run_bind_eq_ok h
  simp only [ensure, ExceptT.run] at he
  split at he <;> cases he
  exact h

theorem run_byte_eq_ok {b : UInt8} (h : byte.run r = (.ok b, r')) : r.rest = b :: r'.rest := by
  obtain ⟨_ | ⟨c, rest⟩⟩ := r
  · cases h
  · cases h
    rfl

theorem run_take_eq_ok {n : Nat} {bytes : List UInt8} (h : (take n).run r = (.ok bytes, r')) :
    bytes.length = n ∧ r.rest = bytes ++ r'.rest := by
  simp only [take, ExceptT.run] at h
  split at h <;> cases h
  rename_i hn
  exact ⟨List.length_take_of_le hn, (List.take_append_drop n r.rest).symm⟩

theorem run_int32_eq_ok {clock : Int32} (h : int32.run r = (.ok clock, r')) :
    r.rest = bytesBE clock.toUInt32 ++ r'.rest := by
  simp only [int32, ExceptT.run] at h
  split at h
  · rename_i b₀ b₁ b₂ b₃ rest hr
    cases h
    rw [UInt32.toUInt32_toInt32, bytesBE_wordBE, hr]
    rfl
  · cases h

theorem run_identifier_eq_ok {id : Identifier} (h : identifier.run r = (.ok id, r')) :
    r.rest = id.bytes ++ r'.rest := by
  simp only [identifier, ExceptT.run, Identifier.ofBytes?] at h
  split at h
  · rename_i id' he
    cases h
    split at he <;> cases he
    exact (List.take_append_drop 20 r.rest).symm
  · cases h

theorem run_hwaddr_eq_ok {length : UInt8} {a : HwAddr} (h : (hwaddr length).run r = (.ok a, r')) :
    a.length = length.toNat ∧ r.rest = a.bytes ++ r'.rest := by
  obtain ⟨bytes, r₁, ht, h⟩ := run_bind_eq_ok h
  obtain ⟨hl, hr⟩ := run_take_eq_ok ht
  unfold HwAddr.ofBytes? at h
  split at h
  · rename_i a' he
    obtain ⟨rfl, rfl⟩ := run_pure_eq_ok h
    split at he <;> cases he
    exact ⟨hl, hr⟩
  · cases h

/-- A reading repeated: its results are written one after another. -/
theorem run_times_eq_ok {reading : Reading α} {write : α → List UInt8} {P : α → Prop}
    (hread : ∀ {r a r'}, reading.run r = (.ok a, r') → P a ∧ r.rest = write a ++ r'.rest) :
    ∀ {n : Nat} {r r' : Reader} {as : List α}, (times n reading).run r = (.ok as, r') →
      as.length = n ∧ (∀ a ∈ as, P a) ∧ r.rest = as.flatMap write ++ r'.rest
  | 0, _, _, _, h => by
    obtain ⟨rfl, rfl⟩ := run_pure_eq_ok h
    simp
  | n + 1, _, _, _, h => by
    obtain ⟨a, r₁, ha, h⟩ := run_bind_eq_ok h
    obtain ⟨as, r₂, has, h⟩ := run_bind_eq_ok h
    obtain ⟨rfl, rfl⟩ := run_pure_eq_ok h
    obtain ⟨hp, hr⟩ := hread ha
    obtain ⟨hn, hps, hrs⟩ := run_times_eq_ok hread has
    refine ⟨by rw [List.length_cons, hn], ?_, ?_⟩
    · simpa [hp] using hps
    · rw [hr, hrs, List.flatMap_cons, List.append_assoc]

/-- A byte counts no more than it holds. -/
theorem length_le_of_count {as : List α} {count : UInt8} (h : as.length = count.toNat) : as.length ≤ 255 := by
  have hc := count.toNat_lt
  omega

/-! ## Bodies -/

theorem run_haddrLen_eq_ok {length : UInt8} (h : haddrLen.run r = (.ok length, r')) :
    IsLength length ∧ r.rest = length :: r'.rest := by
  obtain ⟨length, r₁, hb, h⟩ := run_bind_eq_ok h
  have hr := run_byte_eq_ok hb
  split at h
  · cases h
  · rename_i hne
    cases h
    exact ⟨isLength_iff.2 hne, hr⟩

theorem run_announce_eq_ok {p : Announce} (h : announce.run r = (.ok p, r')) :
    (Packet.announce p).Fits ∧ r.rest = (Packet.announce p).body ++ r'.rest := by
  replace h := run_ensure_bind_eq_ok h
  obtain ⟨count, r₁, hc, h⟩ := run_bind_eq_ok h
  obtain ⟨length, r₂, hl, h⟩ := run_bind_eq_ok h
  replace h := run_ensure_bind_eq_ok h
  obtain ⟨hwaddr, r₃, ha, h⟩ := run_bind_eq_ok h
  obtain ⟨xids, r₄, hx, h⟩ := run_bind_eq_ok h
  obtain ⟨rfl, rfl⟩ := run_pure_eq_ok h
  obtain ⟨hlen, hra⟩ := run_hwaddr_eq_ok ha
  obtain ⟨hcount, -, hrx⟩ := run_times_eq_ok (P := fun _ => True) (fun hid => ⟨trivial, run_identifier_eq_ok hid⟩) hx
  constructor
  · exact length_le_of_count hcount
  · rw [run_byte_eq_ok hc, (run_haddrLen_eq_ok hl).2, hra, hrx]
    simp only [Packet.body, hcount, hlen, UInt8.ofNat_toNat, List.append_assoc, List.cons_append, List.nil_append]

theorem run_neighborRecord_eq_ok {length : UInt8} {p : NeighborRecord}
    (h : (neighborRecord length).run r = (.ok p, r')) : p.Fits length.toNat ∧ r.rest = p.bytes ++ r'.rest := by
  replace h := run_ensure_bind_eq_ok h
  obtain ⟨xid, r₁, hx, h⟩ := run_bind_eq_ok h
  obtain ⟨number, r₂, hn, h⟩ := run_bind_eq_ok h
  replace h := run_ensure_bind_eq_ok h
  obtain ⟨hwaddrs, r₃, ha, h⟩ := run_bind_eq_ok h
  obtain ⟨rfl, rfl⟩ := run_pure_eq_ok h
  obtain ⟨hnumber, hlen, hra⟩ := run_times_eq_ok run_hwaddr_eq_ok ha
  constructor
  · exact ⟨length_le_of_count hnumber, hlen⟩
  · rw [run_identifier_eq_ok hx, run_byte_eq_ok hn, hra]
    simp only [NeighborRecord.bytes, hnumber, UInt8.ofNat_toNat, List.append_assoc, List.cons_append, List.nil_append]

theorem run_neighborList_eq_ok {p : NeighborList} (h : neighborList.run r = (.ok p, r')) :
    IsLength p.haddrLen ∧ (Packet.neighborList p).Fits ∧ r.rest = (Packet.neighborList p).body ++ r'.rest := by
  replace h := run_ensure_bind_eq_ok h
  obtain ⟨count, r₁, hc, h⟩ := run_bind_eq_ok h
  obtain ⟨length, r₂, hl, h⟩ := run_bind_eq_ok h
  obtain ⟨neighbors, r₃, hn, h⟩ := run_bind_eq_ok h
  obtain ⟨rfl, rfl⟩ := run_pure_eq_ok h
  obtain ⟨hlen, hrl⟩ := run_haddrLen_eq_ok hl
  obtain ⟨hcount, hfit, hrn⟩ := run_times_eq_ok run_neighborRecord_eq_ok hn
  refine ⟨hlen, ⟨length_le_of_count hcount, hfit⟩, ?_⟩
  rw [run_byte_eq_ok hc, hrl, hrn]
  simp only [Packet.body, hcount, UInt8.ofNat_toNat, List.cons_append, List.nil_append]

/-- What all liveness packets begin with: the byte behind the length may be any. -/
theorem run_probe_eq_ok {suspects : Nat} {length : UInt8} {clock : Int32} {src dest : HwAddr}
    (h : (probe suspects).run r = (.ok (length, clock, src, dest), r')) :
    length.toNat = src.length ∧ dest.length = src.length ∧ ∃ reserved,
      r.rest = length :: reserved :: (bytesBE clock.toUInt32 ++ (src.bytes ++ (dest.bytes ++ r'.rest))) := by
  replace h := run_ensure_bind_eq_ok h
  obtain ⟨length, r₁, hl, h⟩ := run_bind_eq_ok h
  obtain ⟨reserved, r₂, hb, h⟩ := run_bind_eq_ok h
  obtain ⟨clock, r₃, hc, h⟩ := run_bind_eq_ok h
  replace h := run_ensure_bind_eq_ok h
  obtain ⟨src, r₄, hs, h⟩ := run_bind_eq_ok h
  obtain ⟨dest, r₅, hd, h⟩ := run_bind_eq_ok h
  cases h
  obtain ⟨hsl, hrs⟩ := run_hwaddr_eq_ok hs
  obtain ⟨hdl, hrd⟩ := run_hwaddr_eq_ok hd
  refine ⟨hsl.symm, hdl.trans hsl.symm, reserved, ?_⟩
  rw [(run_haddrLen_eq_ok hl).2, run_byte_eq_ok hb, run_int32_eq_ok hc, hrs, hrd]

theorem run_monitor_eq_ok {role : Monitor.Role} {p : Monitor} (h : (monitor role).run r = (.ok p, r')) :
    p.role = role ∧ (Packet.monitor p).Fits ∧ ∃ reserved, r.rest = UInt8.ofNat p.src.length :: reserved ::
      (bytesBE p.clock.toUInt32 ++ (p.src.bytes ++ (p.dest.bytes ++ r'.rest))) := by
  obtain ⟨⟨length, clock, src, dest⟩, r₁, hp, h⟩ := run_bind_eq_ok h
  obtain ⟨rfl, rfl⟩ := run_pure_eq_ok h
  obtain ⟨hl, hd, reserved, hr⟩ := run_probe_eq_ok hp
  refine ⟨rfl, hd, reserved, ?_⟩
  rw [hr, ← hl, UInt8.ofNat_toNat]

theorem run_investigation_eq_ok {role : Investigation.Role} {p : Investigation}
    (h : (investigation role).run r = (.ok p, r')) :
    p.role = role ∧ (Packet.investigation p).Fits ∧ ∃ reserved, r.rest = UInt8.ofNat p.src.length :: reserved ::
      (bytesBE p.clock.toUInt32 ++ (p.src.bytes ++ (p.dest.bytes ++ (p.investigate.bytes ++ r'.rest)))) := by
  obtain ⟨⟨length, clock, src, dest⟩, r₁, hp, h⟩ := run_bind_eq_ok h
  obtain ⟨investigate, r₂, hi, h⟩ := run_bind_eq_ok h
  obtain ⟨rfl, rfl⟩ := run_pure_eq_ok h
  obtain ⟨hl, hd, reserved, hr⟩ := run_probe_eq_ok hp
  obtain ⟨hil, hri⟩ := run_hwaddr_eq_ok hi
  refine ⟨rfl, ⟨hd, hil.trans hl⟩, reserved, ?_⟩
  rw [hr, hri, ← hl, UInt8.ofNat_toNat]

/-! ## Header and end -/

theorem run_header_eq_ok {kind : Packet.Kind} (h : header.run r = (.ok kind, r')) :
    r.rest = Packet.header kind ++ r'.rest := by
  replace h := run_ensure_bind_eq_ok h
  obtain ⟨version, r₁, hv, h⟩ := run_bind_eq_ok h
  obtain ⟨code, r₂, hc, h⟩ := run_bind_eq_ok h
  rw [run_byte_eq_ok hv, run_byte_eq_ok hc]
  split at h
  · cases h
  · rename_i kind' hk
    split at h
    · rename_i hversion
      obtain ⟨rfl, rfl⟩ := run_pure_eq_ok h
      rw [Packet.Kind.eq_code_of_ofCode? hk, hversion]
      rfl
    · cases h

theorem run_finish_eq_ok (h : finish.run r = (.ok (), r')) : r.rest = [] := by
  obtain ⟨_ | ⟨b, rest⟩⟩ := r
  · rfl
  · cases h

/-- A packet is its content, with nothing behind it. -/
theorem packet_eq : packet = (header >>= body) >>= fun p => finish >>= fun _ => pure p :=
  (bind_assoc _ _ _).symm

end Reader

/-- The content of an accepted frame is all of it. -/
theorem Packet.run_content {f : List UInt8} {p : Packet} (h : decode f = .ok p) :
    (Reader.header >>= Reader.body).run ⟨f⟩ = (.ok p, ⟨[]⟩) := by
  rcases hrun : Reader.packet.run ⟨f⟩ with ⟨answer, r⟩
  have ha : answer = .ok p := by rw [← h, decode, hrun]
  subst ha
  rw [Reader.packet_eq] at hrun
  obtain ⟨q, r₁, hq, hrun⟩ := Reader.run_bind_eq_ok hrun
  obtain ⟨_, r₂, hf, hrun⟩ := Reader.run_bind_eq_ok hrun
  obtain ⟨rfl, rfl⟩ := Reader.run_pure_eq_ok hrun
  rw [hq, ← Reader.run_finish_eq_ok hf]

end Neighborhood
