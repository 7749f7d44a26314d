import Neighborhood.Packet.Codec
import Neighborhood.Proofs.Packet.Cursor

/-!
# Frames are read within their bounds

The layouts of all frames are walked by positions. A demand that has been met covers the reads behind it, so that none
of them fails and no slice, index or difference is out of range.

* `Cursor.Guarded` — a walk that is some reading, and that stops only where a demand is not met
* `Cursor.Guarded.of_makes`, `Cursor.Guarded.times` — what is read from bytes that are known to be left
* `Cursor.Guarded.body`, `Cursor.Guarded.packet` — the bodies of frames, and frames
* `Cursor.reads_within` — all sequences of calls, and all frames
-/

namespace Neighborhood

namespace Cursor

open Reader (IsLength)

/-! ## Layouts -/

def haddrLen : Walk UInt8 := do
  let length ← byte
  if length = 0 ∨ 8 < length then throw (.demand (.invalidHaddrLen length))
  pure length

def announce : Walk Announce := do
  ensure 2
  let count ← byte
  let length ← haddrLen
  ensure (length.toNat + count.toNat * 20)
  let hwaddr ← hwaddr length
  let xids ← times count.toNat identifier
  pure { hwaddr, xids }

def neighborRecord (length : UInt8) : Walk NeighborRecord := do
  ensure 21
  let xid ← identifier
  let number ← byte
  ensure (number.toNat * length.toNat)
  let hwaddrs ← times number.toNat (hwaddr length)
  pure { xid, hwaddrs }

def neighborList : Walk NeighborList := do
  ensure 2
  let count ← byte
  let haddrLen ← haddrLen
  let neighbors ← times count.toNat (neighborRecord haddrLen)
  pure { haddrLen, neighbors }

def probe (suspects : Nat) : Walk (UInt8 × Int32 × HwAddr × HwAddr) := do
  ensure 6
  let length ← haddrLen
  let _ ← byte
  let clock ← int32
  ensure ((2 + suspects) * length.toNat)
  let src ← hwaddr length
  let dest ← hwaddr length
  pure (length, clock, src, dest)

def monitor (role : Monitor.Role) : Walk Monitor := do
  let (_, clock, src, dest) ← probe 0
  pure { role, clock, src, dest }

def investigation (role : Investigation.Role) : Walk Investigation := do
  let (length, clock, src, dest) ← probe 1
  let investigate ← hwaddr length
  pure { role, clock, src, dest, investigate }

def header : Walk Packet.Kind := do
  ensure Packet.headerLength
  let version ← byte
  let code ← byte
  match Packet.Kind.ofCode? code with
  | none => throw (.demand (.unknownKind code))
  | some kind =>
    if version = Packet.version then pure kind else throw (.demand (.unsupportedVersion version))

def body : Packet.Kind → Walk Packet
  | .announce => .announce <$> announce
  | .neighborList => .neighborList <$> neighborList
  | .ping => .monitor <$> monitor .ping
  | .ack => .monitor <$> monitor .ack
  | .pingRequest => .investigation <$> investigation .request
  | .investigatePing => .investigation <$> investigation .probe

def packet : Walk Packet := do
  let kind ← header
  let packet ← body kind
  finish
  pure packet

/-! ## Guarded walks -/

variable {α β : Type} {c : Cursor}

/-- With `n` bytes left the walk is the reading, and stops only where a demand is not met. -/
def Guarded (n : Nat) (walk : Walk α) (reading : Reading α) : Prop :=
  ∀ c : Cursor, c.InFrame → n ≤ c.left →
    Matches c (walk.run c) (reading.run c.reader) ∧ ∀ s, (walk.run c).1 = .error s → ∃ e, s = .demand e

namespace Guarded

variable {k m n : Nat} {walk : Walk α} {reading : Reading α} {f : α → Walk β} {g : α → Reading β}

theorem pure (a : α) : Guarded n (Pure.pure a) (Pure.pure a) := fun c hc _ =>
  ⟨Follows.pure a c hc, fun _ hs => nomatch hs⟩

theorem demand (e : DecodeError) : Guarded n (throw (Stop.demand e) : Walk α) (throw e) := fun c hc _ =>
  ⟨Follows.demand e c hc, fun _ hs => ⟨e, by cases hs; rfl⟩⟩

/-- A walk in two parts stops in one of them. -/
theorem stops_of_bind {s : Stop} {c : Cursor} (h : ((walk >>= f).run c).1 = .error s) :
    (walk.run c).1 = .error s ∨ ∃ a, (walk.run c).1 = .ok a ∧ ((f a).run (walk.run c).2).1 = .error s := by
  rw [run_bind] at h
  generalize walk.run c = out at h
  rcases out with ⟨e | a, c₁⟩
  · cases h
    exact .inl rfl
  · exact .inr ⟨a, rfl, h⟩

/-- What comes behind can count on the bytes that the first part leaves. -/
theorem bind_left (h : Guarded k walk reading) (hf : ∀ c a, c.InFrame → k ≤ c.left → (walk.run c).1 = .ok a →
    ∃ n, n ≤ (walk.run c).2.left ∧ Guarded n (f a) (g a)) : Guarded k (walk >>= f) (reading >>= g) := by
  intro c hc hk
  obtain ⟨hm, hstop⟩ := h c hc hk
  -- `n` is chosen for each place where the first part may have ended
  refine ⟨hm.bind fun a ha => ?_, fun s hs => ?_⟩
  · obtain ⟨n, hn, hg⟩ := hf c a hc hk ha
    exact (hg _ hm.inFrame hn).1
  · rcases stops_of_bind hs with hs | ⟨a, ha, hs⟩
    · exact hstop s hs
    · obtain ⟨n, hn, hg⟩ := hf c a hc hk ha
      exact (hg _ hm.inFrame hn).2 s hs

theorem bind (h : Guarded k walk reading) (hf : ∀ a, Guarded 0 (f a) (g a)) :
    Guarded k (walk >>= f) (reading >>= g) :=
  h.bind_left fun _ a _ _ _ => ⟨0, Nat.zero_le _, hf a⟩

theorem map (h : Guarded k walk reading) (f : α → β) : Guarded k (f <$> walk) (f <$> reading) :=
  h.bind fun a => pure (f a)

theorem mono (h : Guarded m walk reading) (hn : m ≤ n) : Guarded n walk reading := fun c hc hl =>
  h c hc (Nat.le_trans hn hl)

theorem of_makes {write : α → List UInt8} (h : Makes walk reading n write) : Guarded n walk reading := by
  intro c hc hn
  refine ⟨h.follows c hc, fun s hs => ?_⟩
  obtain ⟨a, -, hrun, -⟩ := h.enough c hc hn
  rw [hrun] at hs
  cases hs

/-- A value takes its bytes of those that are known to be left. -/
theorem makes_bind {write : α → List UInt8} (h : Makes walk reading n write) (hn : n ≤ k)
    (hf : ∀ a, Guarded (k - n) (f a) (g a)) : Guarded k (walk >>= f) (reading >>= g) := by
  refine ((of_makes h).mono hn).bind_left fun c a hc hl _ => ⟨k - n, ?_, hf a⟩
  obtain ⟨_, -, hrun, -⟩ := h.enough c hc (Nat.le_trans hn hl)
  rw [hrun, left_advance]
  omega

/-- A demand that is met says how many bytes are left. -/
theorem ensure_bind {f : Unit → Walk β} {g : Unit → Reading β} (h : Guarded n (f ()) (g ())) :
    Guarded k (Cursor.ensure n >>= f) (Reader.ensure n >>= g) := by
  have hens : Guarded k (Cursor.ensure n) (Reader.ensure n) := by
    intro c hc _
    refine ⟨Follows.ensure n c hc, fun s hs => ?_⟩
    rw [Cursor.ensure, run_need _ hc] at hs
    split at hs <;> cases hs
    exact ⟨_, rfl⟩
  refine hens.bind_left fun c _ hc _ ha => ⟨n, ?_, h⟩
  rw [Cursor.ensure, run_need _ hc] at ha ⊢
  split at ha
  · rwa [if_pos ‹_›]
  · cases ha

/-- As many values as there are bytes for. -/
theorem times_of_makes {write : α → List UInt8} (h : Makes walk reading n write) :
    ∀ m, Guarded (m * n) (Cursor.times m walk) (Reader.times m reading)
  | 0 => pure []
  | m + 1 => by
    rw [Nat.succ_mul]
    refine makes_bind h (Nat.le_add_left n (m * n)) fun a => ?_
    rw [Nat.add_sub_cancel]
    exact (times_of_makes h m).bind fun as => pure (a :: as)

theorem times (h : Guarded 0 walk reading) : ∀ m, Guarded 0 (Cursor.times m walk) (Reader.times m reading)
  | 0 => pure []
  | m + 1 => h.bind fun _ => (times h m).bind fun _ => pure _

/-! ## Frames -/

/-- The length that is read is one that some address has, or it is refused. -/
theorem haddrLen_bind {f : UInt8 → Walk β} {g : UInt8 → Reading β} (hk : 1 ≤ k)
    (hf : ∀ length, IsLength length → Guarded (k - 1) (f length) (g length)) :
    Guarded k (Cursor.haddrLen >>= f) (Reader.haddrLen >>= g) := by
  simp only [Cursor.haddrLen, Reader.haddrLen, bind_assoc]
  refine makes_bind Makes.byte hk fun length => ?_
  by_cases hfit : IsLength length
  · have hn := Reader.isLength_iff.1 hfit
    simp only [if_neg hn]
    exact hf length hfit
  · have hn := Decidable.not_not.1 (mt Reader.isLength_iff.2 hfit)
    simp only [if_pos hn]
    exact demand _

theorem announce : Guarded 0 Cursor.announce Reader.announce := by
  refine ensure_bind (makes_bind Makes.byte (by decide) fun count => haddrLen_bind (by decide) fun length hfit => ?_)
  refine ensure_bind (makes_bind (Makes.hwaddr hfit) (Nat.le_add_right _ _) fun _ => ?_)
  rw [Nat.add_sub_cancel_left]
  exact (times_of_makes Makes.identifier count.toNat).bind fun _ => pure _

theorem neighborRecord {length : UInt8} (hfit : IsLength length) :
    Guarded 0 (Cursor.neighborRecord length) (Reader.neighborRecord length) := by
  refine ensure_bind (makes_bind Makes.identifier (by decide) fun _ => ?_)
  refine makes_bind Makes.byte (by decide) fun number => ?_
  exact ensure_bind ((times_of_makes (Makes.hwaddr hfit) number.toNat).bind fun _ => pure _)

theorem neighborList : Guarded 0 Cursor.neighborList Reader.neighborList :=
  ensure_bind <| makes_bind Makes.byte (by decide) fun count => haddrLen_bind (by decide) fun _ hfit =>
    ((neighborRecord hfit).times count.toNat |>.mono (Nat.zero_le _)).bind fun _ => pure _

/-- The addresses of the suspects are still covered by the last demand. -/
theorem probe_bind {suspects : Nat} {f : UInt8 × Int32 × HwAddr × HwAddr → Walk β}
    {g : UInt8 × Int32 × HwAddr × HwAddr → Reading β} (hf : ∀ length clock src dest, IsLength length →
      Guarded (suspects * length.toNat) (f (length, clock, src, dest)) (g (length, clock, src, dest))) :
    Guarded 0 (Cursor.probe suspects >>= f) (Reader.probe suspects >>= g) := by
  simp only [Cursor.probe, Reader.probe, bind_assoc, pure_bind]
  refine ensure_bind (haddrLen_bind (by decide) fun length hfit => makes_bind Makes.byte (by decide) fun _ => ?_)
  refine makes_bind Makes.int32 (by decide) fun clock => ensure_bind ?_
  refine makes_bind (Makes.hwaddr hfit) ?_ fun src => makes_bind (Makes.hwaddr hfit) ?_ fun dest => ?_
  · rw [Nat.add_mul]
    omega
  · rw [Nat.add_mul]
    omega
  · refine (hf length clock src dest hfit).mono ?_
    rw [Nat.add_mul]
    omega

theorem monitor (role : Monitor.Role) : Guarded 0 (Cursor.monitor role) (Reader.monitor role) :=
  probe_bind fun _ _ _ _ _ => pure _

theorem investigation (role : Investigation.Role) :
    Guarded 0 (Cursor.investigation role) (Reader.investigation role) :=
  probe_bind fun _ _ _ _ hfit => makes_bind (Makes.hwaddr hfit) (Nat.le_of_eq (Nat.one_mul _).symm) fun _ => pure _

theorem header : Guarded 0 Cursor.header Reader.header := by
  refine ensure_bind (makes_bind Makes.byte (by decide) fun version => makes_bind Makes.byte (by decide) fun code => ?_)
  cases Packet.Kind.ofCode? code with
  | none => exact demand _
  | some kind =>
    by_cases hv : version = Packet.version
    · simp only [if_pos hv]
      exact pure kind
    · simp only [if_neg hv]
      exact demand _

theorem body : ∀ kind, Guarded 0 (Cursor.body kind) (Reader.body kind)
  | .announce => announce.map _
  | .neighborList => neighborList.map _
  | .ping => (monitor .ping).map _
  | .ack => (monitor .ack).map _
  | .pingRequest => (investigation .request).map _
  | .investigatePing => (investigation .probe).map _

theorem finish : Guarded 0 Cursor.finish Reader.finish := by
  intro c hc _
  refine ⟨Follows.finish c hc, fun s hs => ?_⟩
  rw [Cursor.finish, run_bind, run_remaining hc] at hs
  cases hl : c.left with
  | zero =>
    simp only [hl] at hs
    cases hs
  | succ n =>
    simp only [hl] at hs
    cases hs
    exact ⟨_, rfl⟩

theorem packet : Guarded 0 Cursor.packet Reader.packet :=
  header.bind fun kind => (body kind).bind fun packet => finish.bind fun _ => pure packet

end Guarded

/-! ## All calls and all frames -/

/-- Calls from the front of a frame, with what each answered and took, have ended at the cursor. -/
structure Walked (frame : List UInt8) (calls : List Call) (es : List Entry) (c : Cursor) : Prop where
  walk : walkAll calls (start frame) = (es.map (·.answer), c)
  asked : es.map (·.call) = calls
  trace : Trace frame es
  frame_eq : c.frame = frame
  position_le : c.position ≤ frame.length
  consumed : frame.take c.position = es.flatMap (·.piece)
  answers : List.Forall₂ Agrees (es.map (·.answer)) (readAll calls ⟨frame⟩).1
  rest : (readAll calls ⟨frame⟩).2 = ⟨frame.drop c.position⟩
  finish : (Reader.finish.run (readAll calls ⟨frame⟩).2).1 =
    if c.position = frame.length then .ok () else .error (.trailingBytes (frame.length - c.position))

/-- Only readers that have nothing before them are finished. -/
theorem run_finish (h : c.InFrame) : (Reader.finish.run c.reader).1 =
    if c.position = c.frame.length then .ok () else .error (.trailingBytes (c.frame.length - c.position)) := by
  have hr : c.reader.remaining = c.frame.length - c.position := c.length_unread
  simp only [InFrame] at h
  simp only [ExceptT.run, Reader.finish, hr]
  cases hl : c.frame.length - c.position with
  | zero => rw [if_pos (by omega)]
  | succ n => rw [if_neg (by omega)]

theorem exists_walked (frame : List UInt8) (calls : List Call) : ∃ es c, Walked frame calls es c := by
  have hstart := start_inFrame frame
  obtain ⟨es, hwalk, hasked, htrace, tail, htail⟩ := walkAll_trace calls hstart
  obtain ⟨hanswers, hrest⟩ := walkAll_agrees calls hstart
  have hframe : frame = es.flatMap (·.piece) ++ tail := htail.symm
  have hposition : ((start frame).advance (es.flatMap (·.piece)).length).position = (es.flatMap (·.piece)).length :=
    Nat.zero_add _
  rw [hwalk] at hanswers hrest
  have hle : (es.flatMap (·.piece)).length ≤ frame.length := by
    rw [hframe, List.length_append]
    exact Nat.le_add_right _ _
  refine ⟨es, _, hwalk, hasked, htrace, rfl, ?_, ?_, hanswers, hrest, ?_⟩
  · rwa [hposition]
  · rw [hposition]
    conv => lhs; rw [hframe]
    exact List.take_left
  · have hin : ((start frame).advance (es.flatMap (·.piece)).length).InFrame := by rwa [InFrame, hposition]
    exact hrest ▸ run_finish hin

/-- Whatever is called, the position stays in the frame, what was taken is the front of the frame up to there, each
answer is made of the bytes behind the position or tells how many there are, and only a frame that was taken as a whole
is finished. Once a demand is met, reads of no more bytes are answered, so that no layout stops but at a demand. -/
theorem reads_within :
    (∀ frame calls, ∃ es c, Walked frame calls es c) ∧
    (∀ (c : Cursor) n calls, c.InFrame → (ensure n).run c = (.ok (), c) → (∀ call ∈ calls, call.Fits) →
      needs calls ≤ n → ∀ answer ∈ (walkAll calls c).1, ∃ v, answer = .ok v) ∧
    (∀ length, IsLength length → Guarded 0 (neighborRecord length) (Reader.neighborRecord length)) ∧
    (∀ kind, Guarded 0 (body kind) (Reader.body kind)) ∧
    ∀ frame, (packet.run (start frame)).2.frame = frame ∧ (packet.run (start frame)).2.position ≤ frame.length ∧
      (packet.run (start frame)).1 = (Packet.decode frame).mapError .demand := by
  refine ⟨exists_walked, fun c n calls hc hens hfit hn => ?_, fun _ => Guarded.neighborRecord, Guarded.body,
    fun frame => ?_⟩
  · refine walkAll_ok calls hc hfit (Nat.le_trans hn ?_)
    rw [ensure, run_need _ hc] at hens
    split at hens
    · assumption
    · cases hens
  · obtain ⟨⟨ha, hframe, -, hin, -⟩, hstop⟩ := Guarded.packet (start frame) (start_inFrame frame) (Nat.zero_le _)
    refine ⟨hframe, Nat.le_trans hin (Nat.le_of_eq (congrArg List.length hframe)), ?_⟩
    have hdecode : (Reader.packet.run (start frame).reader).1 = Packet.decode frame := rfl
    rw [hdecode] at ha
    generalize (packet.run (start frame)).1 = answer at ha hstop ⊢
    generalize Packet.decode frame = answer' at ha ⊢
    cases ha with
    | ok p => rfl
    | demand e => rfl
    | read e =>
      obtain ⟨_, h⟩ := hstop _ rfl
      cases h

/-- A byte, an address of two, then four bytes of which one is there and an address of none. -/
theorem reads_within_of_four :
    (∃ es c, Walked [7, 1, 2, 3] [.byte, .hwaddr 2, .int32, .hwaddr 0] es c ∧ c.position = 3 ∧
      es.map (·.answer) = [.ok (.byte 7), .ok (.hwaddr ⟨[1, 2], by decide, by decide⟩),
        .error (.read (.truncated 4 1)), .error (.read (.invalidHaddrLen 0))]) ∧
    (ensure 3).run (start [7, 1, 2, 3]) = (.ok (), start [7, 1, 2, 3]) ∧ needs [.byte, .hwaddr 2] = 3 ∧
    (∀ answer ∈ (walkAll [.byte, .hwaddr 2] (start [7, 1, 2, 3])).1, ∃ v, answer = .ok v) ∧
    IsLength 6 ∧ Guarded 0 (neighborRecord 6) (Reader.neighborRecord 6) ∧
    (packet.run (start [1, 1, 0])).1 = .error (.demand (.truncated 2 1)) := by
  obtain ⟨hall, hcovered, hrecord, -, hpacket⟩ := reads_within
  refine ⟨?_, rfl, rfl, ?_, by decide, hrecord 6 (by decide), (hpacket [1, 1, 0]).2.2⟩
  · obtain ⟨es, c, hw⟩ := hall [7, 1, 2, 3] [.byte, .hwaddr 2, .int32, .hwaddr 0]
    refine ⟨es, c, hw, ?_, ?_⟩
    · exact (congrArg (·.2.position) hw.walk).symm
    · exact (congrArg (·.1) hw.walk).symm
  · refine hcovered (start [7, 1, 2, 3]) 3 [.byte, .hwaddr 2] (start_inFrame _) rfl ?_ (by decide)
    intro call hcall
    rcases List.mem_cons.1 hcall with rfl | hcall
    · trivial
    · cases List.mem_singleton.1 hcall
      exact ⟨by decide, by decide⟩

end Cursor

end Neighborhood
