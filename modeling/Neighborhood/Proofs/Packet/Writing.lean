import Neighborhood.Packet.Codec

/-!
# Which packets have frames

* `Packet.Fits` — counts fit into their bytes, and all addresses have the length that the frame declares
* `Packet.frame` — the frame of a packet that fits
* `Packet.encode_eq_ok_iff` — a packet is written as this frame if it fits, and not at all otherwise
-/

namespace Neighborhood

/-! ## Frames -/

/-- The number of addresses fits into its byte, and all have the given length. -/
def NeighborRecord.Fits (length : Nat) (r : NeighborRecord) : Prop :=
  r.hwaddrs.length ≤ 255 ∧ ∀ a ∈ r.hwaddrs, a.length = length

def NeighborRecord.bytes (r : NeighborRecord) : List UInt8 :=
  r.xid.bytes ++ [UInt8.ofNat r.hwaddrs.length] ++ r.hwaddrs.flatMap (·.bytes)

/-- Counts fit into their bytes, and all addresses have the length that the frame declares. -/
def Packet.Fits : Packet → Prop
  | announce p => p.xids.length ≤ 255
  | neighborList p => p.neighbors.length ≤ 255 ∧ ∀ r ∈ p.neighbors, r.Fits p.haddrLen.toNat
  | monitor p => p.dest.length = p.src.length
  | investigation p => p.dest.length = p.src.length ∧ p.investigate.length = p.src.length

/-- What all liveness packets begin with. -/
def Packet.probeBytes (clock : Int32) (src : HwAddr) : List UInt8 :=
  [UInt8.ofNat src.length, 0] ++ bytesBE clock.toUInt32 ++ src.bytes

/-- The bytes behind the header. -/
def Packet.body : Packet → List UInt8
  | announce p => [UInt8.ofNat p.xids.length, UInt8.ofNat p.hwaddr.length] ++ p.hwaddr.bytes ++ p.xids.flatMap (·.bytes)
  | neighborList p => [UInt8.ofNat p.neighbors.length, p.haddrLen] ++ p.neighbors.flatMap (·.bytes)
  | monitor p => probeBytes p.clock p.src ++ p.dest.bytes
  | investigation p => probeBytes p.clock p.src ++ p.dest.bytes ++ p.investigate.bytes

def Packet.frame (p : Packet) : List UInt8 :=
  header p.kind ++ p.body

/-! ## Writing -/

section
variable {ε α β : Type}

theorem bind_eq_ok_iff {x : Except ε α} {f : α → Except ε β} {b : β} :
    (x >>= f) = .ok b ↔ ∃ a, x = .ok a ∧ f a = .ok b := by
  cases x with
  | error e => simp [Bind.bind, Except.bind]
  | ok a => simp [Bind.bind, Except.bind]

/-- A list is written if all its members are. -/
theorem mapM_eq_ok_iff {f : α → Except ε β} {P : α → Prop} {g : α → β}
    (h : ∀ a b, f a = .ok b ↔ P a ∧ b = g a) : ∀ {l : List α} {bs : List β},
    l.mapM f = .ok bs ↔ (∀ a ∈ l, P a) ∧ bs = l.map g
  | [], bs => by simp [pure, Except.pure, eq_comm]
  | a :: l, bs => by
    simp only [List.mapM_cons, bind_eq_ok_iff, h, mapM_eq_ok_iff h, pure, Except.pure, Except.ok.injEq,
      List.forall_mem_cons, List.map_cons]
    constructor
    · rintro ⟨_, ⟨ha, rfl⟩, _, ⟨hl, rfl⟩, rfl⟩
      exact ⟨⟨ha, hl⟩, rfl⟩
    · rintro ⟨⟨ha, hl⟩, rfl⟩
      exact ⟨_, ⟨ha, rfl⟩, _, ⟨hl, rfl⟩, rfl⟩

end

theorem writeCount_eq_ok_iff {field : CountField} {count : Nat} {b : UInt8} :
    writeCount field count = .ok b ↔ count ≤ 255 ∧ b = UInt8.ofNat count := by
  unfold writeCount
  by_cases h : count ≤ 255
  · simp [h, eq_comm]
  · simp [h]

theorem writeAddr_eq_ok_iff {length : Nat} (a : HwAddr) (bs : List UInt8) :
    writeAddr length a = .ok bs ↔ a.length = length ∧ bs = a.bytes := by
  unfold writeAddr
  by_cases h : a.length = length
  · simp [h, eq_comm]
  · simp [h]

theorem writeAddrs_eq_ok_iff {length : Nat} {addrs : List HwAddr} {bs : List UInt8} :
    writeAddrs length addrs = .ok bs ↔ (∀ a ∈ addrs, a.length = length) ∧ bs = addrs.flatMap (·.bytes) := by
  simp only [writeAddrs, bind_eq_ok_iff, mapM_eq_ok_iff writeAddr_eq_ok_iff, pure, Except.pure, Except.ok.injEq]
  constructor
  · rintro ⟨_, ⟨h, rfl⟩, rfl⟩
    exact ⟨h, rfl⟩
  · rintro ⟨h, rfl⟩
    exact ⟨_, ⟨h, rfl⟩, rfl⟩

theorem NeighborRecord.write_eq_ok_iff {length : Nat} (r : NeighborRecord) (bs : List UInt8) :
    r.write length = .ok bs ↔ r.Fits length ∧ bs = r.bytes := by
  simp only [write, bind_eq_ok_iff, writeCount_eq_ok_iff, writeAddrs_eq_ok_iff, pure, Except.pure, Except.ok.injEq]
  constructor
  · rintro ⟨_, ⟨hn, rfl⟩, _, ⟨ha, rfl⟩, rfl⟩
    exact ⟨⟨hn, ha⟩, rfl⟩
  · rintro ⟨⟨hn, ha⟩, rfl⟩
    exact ⟨_, ⟨hn, rfl⟩, _, ⟨ha, rfl⟩, rfl⟩

theorem writeProbe_eq_ok_iff {kind : Packet.Kind} {clock : Int32} {src : HwAddr} {others : List HwAddr}
    {bs : List UInt8} : writeProbe kind clock src others = .ok bs ↔
      (∀ a ∈ others, a.length = src.length) ∧
        bs = Packet.header kind ++ (Packet.probeBytes clock src ++ others.flatMap (·.bytes)) := by
  simp only [writeProbe, bind_eq_ok_iff, writeAddrs_eq_ok_iff, pure, Except.pure, Except.ok.injEq]
  constructor
  · rintro ⟨_, ⟨ha, rfl⟩, rfl⟩
    exact ⟨ha, by simp [Packet.probeBytes]⟩
  · rintro ⟨ha, rfl⟩
    exact ⟨_, ⟨ha, rfl⟩, by simp [Packet.probeBytes]⟩

/-- A packet that fits is written as its frame, and no other packet is written. -/
theorem Packet.encode_eq_ok_iff : ∀ {p : Packet} {bs : List UInt8}, p.encode = .ok bs ↔ p.Fits ∧ bs = p.frame
  | announce p, bs => by
    simp only [encode, Announce.encode, bind_eq_ok_iff, writeCount_eq_ok_iff, pure, Except.pure, Except.ok.injEq]
    constructor
    · rintro ⟨_, ⟨hn, rfl⟩, rfl⟩
      exact ⟨hn, by simp [frame, body, kind]⟩
    · rintro ⟨hn, rfl⟩
      exact ⟨_, ⟨hn, rfl⟩, by simp [frame, body, kind]⟩
  | neighborList p, bs => by
    simp only [encode, NeighborList.encode, bind_eq_ok_iff, writeCount_eq_ok_iff,
      mapM_eq_ok_iff NeighborRecord.write_eq_ok_iff, pure, Except.pure, Except.ok.injEq]
    constructor
    · rintro ⟨_, ⟨hn, rfl⟩, _, ⟨hr, rfl⟩, rfl⟩
      exact ⟨⟨hn, hr⟩, by simp [frame, body, kind, List.flatMap_def]⟩
    · rintro ⟨⟨hn, hr⟩, rfl⟩
      exact ⟨_, ⟨hn, rfl⟩, _, ⟨hr, rfl⟩, by simp [frame, body, kind, List.flatMap_def]⟩
  | monitor p, bs => by
    simp [encode, writeProbe_eq_ok_iff, Fits, frame, body]
  | investigation p, bs => by
    simp [encode, writeProbe_eq_ok_iff, Fits, frame, body]

end Neighborhood
