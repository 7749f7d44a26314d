import Mathlib.Algebra.Order.Ring.Int
import Neighborhood.Proofs.Packet.RoundTrip

/-!
# Why a packet has no frame

* `Packet.faults` — all that keeps a packet from being written, in the order of the frame
* `Packet.encode_eq` — a packet without faults is written as its frame, any other is refused for its first fault
* `Packet.wireLength`, `Packet.Fits.length_frame` — the size of a frame, computed from the counts and lengths in it
* `Packet.encode_reports` — which packets are written, how long their frames are, and why the others are refused
-/

namespace Neighborhood

/-! ## Faults -/

/-- The fault of a count that does not fit into its byte. -/
def CountField.faults (field : CountField) (count : Nat) : List EncodeError :=
  if count ≤ 255 then [] else [.tooMany field count]

/-- The fault of an address that has not the declared length. -/
def HwAddr.faults (length : Nat) (a : HwAddr) : List EncodeError :=
  if a.length = length then [] else [.haddrLenMismatch a length]

/-- The number of addresses is written before the addresses. -/
def NeighborRecord.faults (length : Nat) (r : NeighborRecord) : List EncodeError :=
  CountField.recordHosts.faults r.hwaddrs.length ++ r.hwaddrs.flatMap (HwAddr.faults length)

/-- All faults of a packet, in the order in which its fields are written. -/
def Packet.faults : Packet → List EncodeError
  | announce p => CountField.announcedXids.faults p.xids.length
  | neighborList p =>
    CountField.neighborRecords.faults p.neighbors.length ++
      p.neighbors.flatMap (NeighborRecord.faults p.haddrLen.toNat)
  | monitor p => [p.src, p.dest].flatMap (HwAddr.faults p.src.length)
  | investigation p => [p.src, p.dest, p.investigate].flatMap (HwAddr.faults p.src.length)

theorem CountField.faults_eq_nil_iff {field : CountField} {count : Nat} : field.faults count = [] ↔ count ≤ 255 := by
  unfold faults
  split <;> simp_all

theorem HwAddr.faults_eq_nil_iff {length : Nat} {a : HwAddr} : a.faults length = [] ↔ a.length = length := by
  unfold faults
  split <;> simp_all

theorem NeighborRecord.faults_eq_nil_iff {length : Nat} {r : NeighborRecord} :
    r.faults length = [] ↔ r.Fits length := by
  simp only [faults, List.append_eq_nil_iff, CountField.faults_eq_nil_iff, List.flatMap_eq_nil_iff,
    HwAddr.faults_eq_nil_iff, Fits]

/-- The packets without faults are those that fit. -/
theorem Packet.faults_eq_nil_iff : ∀ {p : Packet}, p.faults = [] ↔ p.Fits
  | announce p => CountField.faults_eq_nil_iff
  | neighborList p => by
    simp only [faults, List.append_eq_nil_iff, CountField.faults_eq_nil_iff, List.flatMap_eq_nil_iff,
      NeighborRecord.faults_eq_nil_iff, Fits]
  | monitor p => by
    simp [faults, Fits, HwAddr.faults_eq_nil_iff]
  | investigation p => by
    simp [faults, Fits, HwAddr.faults_eq_nil_iff]

/-! ## The first fault is reported -/

/-- The first fault, or what there is to write if there is none. -/
def report {α : Type} (faults : List EncodeError) (a : α) : Except EncodeError α :=
  match faults with
  | [] => .ok a
  | e :: _ => .error e

section
variable {α β : Type} {faults : List EncodeError} {a : α} {e : EncodeError}

theorem report_eq_ok_iff {b : α} : report faults a = .ok b ↔ faults = [] ∧ b = a := by
  cases faults <;> simp [report, eq_comm]

theorem report_eq_error_iff : report faults a = .error e ↔ faults.head? = some e := by
  cases faults <;> simp [report]

/-- What comes later is looked at only if there is no fault so far. -/
theorem report_bind {f : α → Except EncodeError β} {later : List EncodeError} {b : β} (h : f a = report later b) :
    (report faults a >>= f) = report (faults ++ later) b := by
  cases faults with
  | nil => exact h
  | cons e rest => rfl

theorem report_bind_pure (f : α → β) : (report faults a >>= fun a => pure (f a)) = report faults (f a) := by
  cases faults <;> rfl

/-- A list is written member by member, up to the first fault. -/
theorem mapM_eq_report {f : α → Except EncodeError β} {faults : α → List EncodeError} {g : α → β}
    (h : ∀ a, f a = report (faults a) (g a)) : ∀ l : List α, l.mapM f = report (l.flatMap faults) (l.map g)
  | [] => rfl
  | a :: l => by
    rw [List.mapM_cons, h, List.flatMap_cons, List.map_cons]
    refine report_bind ?_
    rw [mapM_eq_report h l]
    exact report_bind_pure (g a :: ·)

end

theorem writeCount_eq (field : CountField) (count : Nat) :
    writeCount field count = report (field.faults count) (UInt8.ofNat count) := by
  unfold writeCount CountField.faults
  split <;> rfl

theorem writeAddr_eq (length : Nat) (a : HwAddr) : writeAddr length a = report (a.faults length) a.bytes := by
  unfold writeAddr HwAddr.faults
  split <;> rfl

theorem writeAddrs_eq (length : Nat) (addrs : List HwAddr) :
    writeAddrs length addrs = report (addrs.flatMap (HwAddr.faults length)) (addrs.flatMap (·.bytes)) := by
  rw [writeAddrs, mapM_eq_report (writeAddr_eq length), report_bind_pure]
  rfl

theorem NeighborRecord.write_eq (length : Nat) (r : NeighborRecord) :
    r.write length = report (r.faults length) r.bytes := by
  rw [write, writeCount_eq]
  refine report_bind ?_
  rw [writeAddrs_eq]
  exact report_bind_pure _

/-- The first address is the one whose length is declared, so it is never at fault. -/
theorem writeProbe_eq (kind : Packet.Kind) (clock : Int32) (src : HwAddr) (others : List HwAddr) :
    writeProbe kind clock src others = report ((src :: others).flatMap (HwAddr.faults src.length))
      (Packet.header kind ++ (Packet.probeBytes clock src ++ others.flatMap (·.bytes))) := by
  rw [writeProbe, writeAddrs_eq, report_bind_pure, List.flatMap_cons, HwAddr.faults_eq_nil_iff.2 rfl, List.nil_append]
  simp [Packet.probeBytes]

namespace Packet

/-- A packet is written as its frame, or refused for its first fault. -/
theorem encode_eq : ∀ p : Packet, p.encode = report p.faults p.frame
  | announce p => by
    rw [encode, Announce.encode, writeCount_eq]
    refine (report_bind_pure _).trans ?_
    simp [faults, frame, body, kind]
  | neighborList p => by
    rw [encode, NeighborList.encode, writeCount_eq]
    refine report_bind ?_
    rw [mapM_eq_report (NeighborRecord.write_eq p.haddrLen.toNat)]
    refine (report_bind_pure _).trans ?_
    simp [frame, body, kind, List.flatMap_def]
  | monitor p => by
    rw [encode, writeProbe_eq]
    simp [faults, frame, body]
  | investigation p => by
    rw [encode, writeProbe_eq]
    simp [faults, frame, body]

/-! ## Sizes -/

/-- The number of bytes of a frame, by the counts in it and the length of its addresses. -/
def wireLength : Packet → Nat
  | announce p => Announce.wireLength p.hwaddr.length p.xids.length
  | neighborList p => 4 + (p.neighbors.map fun r => 21 + r.hwaddrs.length * p.haddrLen.toNat).sum
  | monitor p => Monitor.wireLength p.src.length
  | investigation p => Investigation.wireLength p.src.length

end Packet

theorem NeighborRecord.Fits.length_bytes {length : Nat} {r : NeighborRecord} (h : r.Fits length) :
    r.bytes.length = 21 + r.hwaddrs.length * length := by
  have ha : (r.hwaddrs.flatMap (·.bytes)).length = r.hwaddrs.length * length := Reader.length_flatMap_of h.2
  rw [bytes, List.length_append, List.length_append, r.xid.length_eq, ha]
  rfl

theorem Packet.length_probeBytes (clock : Int32) (src : HwAddr) : (probeBytes clock src).length = 6 + src.length := by
  have hs : src.bytes.length = src.length := rfl
  simp only [probeBytes, bytesBE, List.length_append, List.length_cons, List.length_nil, hs]

/-- A frame has the size that is computed for it. -/
theorem Packet.Fits.length_frame : ∀ {p : Packet}, p.Fits → p.frame.length = p.wireLength
  | announce p, _ => by
    have hx : (p.xids.flatMap (·.bytes)).length = p.xids.length * 20 :=
      Reader.length_flatMap_of fun id _ => id.length_eq
    have ha : p.hwaddr.bytes.length = p.hwaddr.length := rfl
    simp only [frame, header, body, wireLength, Announce.wireLength, List.length_append, List.length_cons,
      List.length_nil, hx, ha]
    omega
  | neighborList p, h => by
    have hr : (p.neighbors.flatMap (·.bytes)).length =
        (p.neighbors.map fun r => 21 + r.hwaddrs.length * p.haddrLen.toNat).sum := by
      rw [List.length_flatMap]
      exact congrArg List.sum (List.map_congr_left fun r hr => (h.2 r hr).length_bytes)
    simp only [frame, header, body, wireLength, List.length_append, List.length_cons, List.length_nil, hr]
    omega
  | monitor p, h => by
    have hd : p.dest.bytes.length = p.src.length := h
    simp only [frame, header, body, wireLength, Monitor.wireLength, List.length_append, List.length_cons,
      List.length_nil, length_probeBytes, hd]
    omega
  | investigation p, h => by
    have hd : p.dest.bytes.length = p.src.length := h.1
    have hi : p.investigate.bytes.length = p.src.length := h.2
    simp only [frame, header, body, wireLength, Investigation.wireLength, List.length_append, List.length_cons,
      List.length_nil, length_probeBytes, hd, hi]
    omega

namespace Packet

/-- A packet is written exactly if it fits, in as many bytes as its counts and lengths say. Any other packet is refused
for the first fault in the order of the frame. -/
theorem encode_reports (p : Packet) :
    ((∃ bytes, p.encode = .ok bytes) ↔ p.Fits) ∧
    (∀ bytes, p.encode = .ok bytes → bytes.length = p.wireLength) ∧
    ∀ e, p.encode = .error e ↔ p.faults.head? = some e := by
  have hok : ∀ bytes, p.encode = .ok bytes ↔ p.Fits ∧ bytes = p.frame := fun bytes => by
    rw [encode_eq, report_eq_ok_iff, faults_eq_nil_iff]
  refine ⟨?_, fun bytes hb => ?_, fun e => ?_⟩
  · constructor
    · rintro ⟨bytes, hb⟩
      exact ((hok bytes).1 hb).1
    · intro h
      exact ⟨_, (hok _).2 ⟨h, rfl⟩⟩
  · obtain ⟨h, rfl⟩ := (hok bytes).1 hb
    exact h.length_frame
  · rw [encode_eq]
    exact report_eq_error_iff

/-- A list of one prefix behind one host has 31 bytes. A list that has, behind a record without fault, one of 256
addresses, which moreover are too short, and another address that is too short, is refused for the number. -/
theorem encode_reports_of_lists :
    let id := Identifier.replicate 7
    let fit : NeighborRecord := ⟨id, [.ethernet 2 0 0 0 0 2]⟩
    let short : HwAddr := ⟨[5], by decide, by decide⟩
    (∃ bytes, (neighborList ⟨6, [fit]⟩).encode = .ok bytes ∧ bytes.length = 31) ∧
    (neighborList ⟨6, [fit, ⟨id, List.replicate 256 short⟩, ⟨id, [short]⟩]⟩).encode =
      .error (.tooMany .recordHosts 256) := by
  intro id fit short
  constructor
  · have h := encode_reports (neighborList ⟨6, [fit]⟩)
    have hfit : fit.Fits 6 := ⟨by decide, by decide⟩
    obtain ⟨bytes, hb⟩ := h.1.2 ⟨by decide, fun r hr => List.mem_singleton.1 hr ▸ hfit⟩
    exact ⟨bytes, hb, (h.2.1 bytes hb).trans (by decide)⟩
  · have hmany : ∀ addrs : List HwAddr, addrs.length = 256 →
        (neighborList ⟨6, [fit, ⟨id, addrs⟩, ⟨id, [short]⟩]⟩).faults.head? = some (.tooMany .recordHosts 256) := by
      intro addrs h
      have hcount : CountField.recordHosts.faults addrs.length = [.tooMany .recordHosts 256] := by
        rw [h]
        rfl
      rw [faults, List.flatMap_cons, List.flatMap_cons, NeighborRecord.faults, NeighborRecord.faults, hcount]
      rfl
    exact ((encode_reports _).2.2 _).2 (hmany _ List.length_replicate)

end Packet

end Neighborhood
