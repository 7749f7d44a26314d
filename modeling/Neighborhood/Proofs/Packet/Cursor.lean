import Mathlib.Data.List.Forall2
import Neighborhood.Proofs.Packet.Reading

/-!
# A frame read by positions

A cursor stands at a position in a frame. What it reads are slices of the frame and bytes at indices, any of which could
lie outside; that has an ending of its own here.

* `Cursor.Stop` — a demand that is not met, a read that fails, and access out of range
* `Cursor.Walk` — readings over cursors, each written as the slices and indices that it uses
* `Cursor.Follows` — a walk stays in its frame, never gets out of range, and agrees with a reading of what is unread
* `Cursor.Makes` — a walk that makes a value of the next bytes, or finds too few
* `Cursor.Call.Does`, `Cursor.Trace` — what one call and what a sequence of calls answers and takes
* `Cursor.walkAll_trace`, `Cursor.walkAll_agrees`, `Cursor.walkAll_ok` — every sequence of calls leaves a trace, is what
  readers do, and is answered if there are bytes for it
-/

namespace Neighborhood

/-- A frame and the number of its bytes that have been read. -/
structure Cursor where
  frame : List UInt8
  position : Nat
deriving DecidableEq

namespace Cursor

open Reader (IsLength)

def start (frame : List UInt8) : Cursor := ⟨frame, 0⟩

def InFrame (c : Cursor) : Prop := c.position ≤ c.frame.length

def unread (c : Cursor) : List UInt8 := c.frame.drop c.position

/-- The number of bytes that are unread. -/
def left (c : Cursor) : Nat := c.frame.length - c.position

/-- The reader that has these bytes before it. -/
def reader (c : Cursor) : Reader := ⟨c.unread⟩

def advance (c : Cursor) (n : Nat) : Cursor := { c with position := c.position + n }

/-! ## Walks -/

/-- Why a walk ends early. -/
inductive Stop where
  /-- There are fewer bytes than are demanded before they are read, or a length is no length of an address. -/
  | demand (e : DecodeError)
  /-- There are fewer bytes than are read, or they make no address. -/
  | read (e : DecodeError)
  /-- A slice, an index or a difference that there is not, for which there is no error. -/
  | outOfRange
deriving DecidableEq

/-- A computation that moves a cursor on and may end early. -/
abbrev Walk := ExceptT Stop (StateM Cursor)

variable {α β : Type}

/-- The bytes from the position to the end. -/
def remaining : Walk Nat := fun c =>
  if c.position ≤ c.frame.length then (.ok (c.frame.length - c.position), c) else (.error .outOfRange, c)

/-- Ends with this kind of stop unless so many bytes are left. -/
def need (stop : DecodeError → Stop) (needed : Nat) : Walk Unit := do
  let left ← remaining
  if left < needed then throw (stop (.truncated needed left))

def ensure (needed : Nat) : Walk Unit := need .demand needed

/-- The slice of `n` bytes at the position, which is passed. -/
def slice (n : Nat) : Walk (List UInt8) := fun c =>
  let stop := c.position + n
  if c.position ≤ stop ∧ stop ≤ c.frame.length then
    (.ok ((c.frame.take stop).drop c.position), { c with position := stop })
  else (.error .outOfRange, c)

def bytes (n : Nat) : Walk (List UInt8) := do
  need .read n
  slice n

def index (bs : List UInt8) (i : Nat) : Walk UInt8 :=
  match bs[i]? with
  | some b => pure b
  | none => throw .outOfRange

def byte : Walk UInt8 := do
  let bs ← bytes 1
  index bs 0

def int32 : Walk Int32 := do
  let bs ← bytes 4
  let b₀ ← index bs 0
  let b₁ ← index bs 1
  let b₂ ← index bs 2
  let b₃ ← index bs 3
  pure (wordBE b₀ b₁ b₂ b₃).toInt32

/-- A slice is copied into twenty bytes, which takes a slice of twenty. -/
def identifier : Walk Identifier := do
  let bs ← bytes 20
  match Identifier.ofBytes? bs with
  | some id => pure id
  | none => throw .outOfRange

def hwaddr (length : UInt8) : Walk HwAddr := do
  let bs ← bytes length.toNat
  match HwAddr.ofBytes? bs with
  | some addr => pure addr
  | none => throw (.read (.invalidHaddrLen length))

def finish : Walk Unit := do
  let left ← remaining
  match left with
  | 0 => pure ()
  | n + 1 => throw (.demand (.trailingBytes (n + 1)))

/-- The same walk `n` times. -/
def times (n : Nat) (walk : Walk α) : Walk (List α) :=
  match n with
  | 0 => pure []
  | n + 1 => do
    let a ← walk
    let as ← times n walk
    pure (a :: as)

/-! ## Where a cursor is -/

variable {c : Cursor} {n : Nat}

theorem length_unread (c : Cursor) : c.unread.length = c.left := List.length_drop

theorem length_take_unread (hn : n ≤ c.left) : (c.unread.take n).length = n := by
  rw [List.length_take, length_unread]
  exact Nat.min_eq_left hn

theorem left_advance (c : Cursor) (n : Nat) : (c.advance n).left = c.left - n := by
  simp only [left, advance]
  omega

theorem unread_advance (c : Cursor) (n : Nat) : (c.advance n).unread = c.unread.drop n :=
  List.drop_drop.symm

theorem advance_advance (c : Cursor) (m n : Nat) : (c.advance m).advance n = c.advance (m + n) := by
  simp only [advance, Nat.add_assoc]

theorem start_inFrame (frame : List UInt8) : (start frame).InFrame := Nat.zero_le _

theorem InFrame.advance (h : c.InFrame) (hn : n ≤ c.left) : (c.advance n).InFrame := by
  simp only [InFrame, left, Cursor.advance] at *
  omega

/-! ## Single walks -/

/-- Walks one after another; the first that ends early is the last. -/
theorem run_bind (walk : Walk α) (f : α → Walk β) (c : Cursor) : (walk >>= f).run c =
    match walk.run c with
    | (.ok a, c') => (f a).run c'
    | (.error s, c') => (.error s, c') := by
  simp only [Bind.bind, ExceptT.bind, ExceptT.run, ExceptT.mk, StateT.bind]
  rcases walk c with ⟨_ | _, _⟩ <;> rfl

theorem run_remaining (h : c.InFrame) : remaining.run c = (.ok c.left, c) := if_pos h

theorem run_need (stop : DecodeError → Stop) (h : c.InFrame) (needed : Nat) : (need stop needed).run c =
    if needed ≤ c.left then (.ok (), c) else (.error (stop (.truncated needed c.left)), c) := by
  rw [need, run_bind, run_remaining h]
  by_cases hn : needed ≤ c.left
  · simp only [if_neg (Nat.not_lt_of_le hn), if_pos hn]
    rfl
  · simp only [if_pos (Nat.lt_of_not_le hn), if_neg hn]
    rfl

theorem run_slice (h : c.InFrame) (hn : n ≤ c.left) : (slice n).run c = (.ok (c.unread.take n), c.advance n) := by
  have hstop : c.position ≤ c.position + n ∧ c.position + n ≤ c.frame.length := by
    simp only [InFrame, left] at h hn
    omega
  refine (if_pos hstop).trans ?_
  rw [List.drop_take, Nat.add_sub_cancel_left]
  rfl

theorem run_bytes (h : c.InFrame) (n : Nat) : (bytes n).run c =
    if n ≤ c.left then (.ok (c.unread.take n), c.advance n) else (.error (.read (.truncated n c.left)), c) := by
  rw [bytes, run_bind, run_need _ h]
  by_cases hn : n ≤ c.left
  · simp only [if_pos hn, run_slice h hn]
  · simp only [if_neg hn]

/-! ## Walks that follow readings -/

/-- Both answer the same, and neither answer is that access was out of range. -/
inductive Agrees : Except Stop α → Except DecodeError α → Prop
  | ok (a : α) : Agrees (.ok a) (.ok a)
  | demand (e : DecodeError) : Agrees (.error (.demand e)) (.error e)
  | read (e : DecodeError) : Agrees (.error (.read e)) (.error e)

/-- The walk has gone on in its frame, and its answer and what is unread are those of the reading. -/
structure Matches (c : Cursor) (out : Except Stop α × Cursor) (out' : Except DecodeError α × Reader) : Prop where
  agrees : Agrees out.1 out'.1
  frame : out.2.frame = c.frame
  onward : c.position ≤ out.2.position
  inFrame : out.2.InFrame
  reader : out'.2 = out.2.reader

theorem Matches.bind {walk : Walk α} {reading : Reading α} {f : α → Walk β} {g : α → Reading β}
    (h : Matches c (walk.run c) (reading.run c.reader))
    (hf : ∀ a, (walk.run c).1 = .ok a →
      Matches (walk.run c).2 ((f a).run (walk.run c).2) ((g a).run (walk.run c).2.reader)) :
    Matches c ((walk >>= f).run c) ((reading >>= g).run c.reader) := by
  rw [run_bind, Reader.run_bind]
  generalize walk.run c = out at h hf
  generalize reading.run c.reader = out' at h
  obtain ⟨answer, c₁⟩ := out
  obtain ⟨answer', r₁⟩ := out'
  obtain ⟨ha, hframe, hle, hin, hr⟩ := h
  cases hr
  cases ha with
  | ok a =>
    have ha := hf a rfl
    exact ⟨ha.agrees, ha.frame.trans hframe, Nat.le_trans hle ha.onward, ha.inFrame, ha.reader⟩
  | demand e => exact ⟨.demand e, hframe, hle, hin, rfl⟩
  | read e => exact ⟨.read e, hframe, hle, hin, rfl⟩

/-- Wherever the walk begins in a frame, it is the reading of what is unread there. -/
def Follows (walk : Walk α) (reading : Reading α) : Prop :=
  ∀ c : Cursor, c.InFrame → Matches c (walk.run c) (reading.run c.reader)

namespace Follows

theorem pure (a : α) : Follows (Pure.pure a) (Pure.pure a) := fun _ h => ⟨.ok a, rfl, Nat.le_refl _, h, rfl⟩

theorem demand (e : DecodeError) : Follows (throw (Stop.demand e) : Walk α) (throw e) := fun _ h =>
  ⟨.demand e, rfl, Nat.le_refl _, h, rfl⟩

theorem read (e : DecodeError) : Follows (throw (Stop.read e) : Walk α) (throw e) := fun _ h =>
  ⟨.read e, rfl, Nat.le_refl _, h, rfl⟩

theorem bind {walk : Walk α} {reading : Reading α} {f : α → Walk β} {g : α → Reading β} (h : Follows walk reading)
    (hf : ∀ a, Follows (f a) (g a)) : Follows (walk >>= f) (reading >>= g) := fun c hc =>
  (h c hc).bind fun a _ => hf a _ (h c hc).inFrame

theorem map {walk : Walk α} {reading : Reading α} (h : Follows walk reading) (f : α → β) :
    Follows (f <$> walk) (f <$> reading) :=
  h.bind fun a => pure (f a)

theorem ensure (needed : Nat) : Follows (Cursor.ensure needed) (Reader.ensure needed) := by
  intro c h
  have hr : (Reader.ensure needed).run c.reader =
      if needed ≤ c.left then (.ok (), c.reader) else (.error (.truncated needed c.left), c.reader) := by
    rw [← c.length_unread]
    rfl
  rw [Cursor.ensure, run_need _ h, hr]
  split
  · exact ⟨.ok (), rfl, Nat.le_refl _, h, rfl⟩
  · exact ⟨.demand _, rfl, Nat.le_refl _, h, rfl⟩

theorem finish : Follows Cursor.finish Reader.finish := by
  intro c h
  have hr : Reader.finish.run c.reader =
      match c.left with
      | 0 => (.ok (), c.reader)
      | n + 1 => (.error (.trailingBytes (n + 1)), c.reader) := by
    rw [← c.length_unread]
    rfl
  rw [Cursor.finish, run_bind, run_remaining h, hr]
  cases c.left with
  | zero => exact ⟨.ok (), rfl, Nat.le_refl _, h, rfl⟩
  | succ n => exact ⟨.demand _, rfl, Nat.le_refl _, h, rfl⟩

end Follows

/-! ## Values made of bytes -/

/-- Walk and reading make the same value of the next `n` bytes, the one that is written as these bytes; of fewer bytes
both take none. -/
structure Makes (walk : Walk α) (reading : Reading α) (n : Nat) (write : α → List UInt8) : Prop where
  enough : ∀ c : Cursor, c.InFrame → n ≤ c.left → ∃ a, write a = c.unread.take n ∧
    walk.run c = (.ok a, c.advance n) ∧ reading.run c.reader = (.ok a, (c.advance n).reader)
  short : ∀ c : Cursor, c.InFrame → c.left < n → walk.run c = (.error (.read (.truncated n c.left)), c) ∧
    reading.run c.reader = (.error (.truncated n c.left), c.reader)

namespace Makes

variable {walk : Walk α} {reading : Reading α} {write : α → List UInt8}

theorem follows (h : Makes walk reading n write) : Follows walk reading := by
  intro c hc
  by_cases hn : n ≤ c.left
  · obtain ⟨a, -, hw, hr⟩ := h.enough c hc hn
    rw [hw, hr]
    exact ⟨.ok a, rfl, Nat.le_add_right _ _, hc.advance hn, rfl⟩
  · obtain ⟨hw, hr⟩ := h.short c hc (Nat.lt_of_not_le hn)
    rw [hw, hr]
    exact ⟨.read _, rfl, Nat.le_refl _, hc, rfl⟩

/-- It is enough to look at slices of the right length. -/
theorem of_bytes {f : List UInt8 → Walk α} (hf : ∀ bs, bs.length = n → ∃ a, write a = bs ∧
    (∀ c, (f bs).run c = (.ok a, c)) ∧ Reader.Reads reading bs a)
    (hshort : ∀ r : Reader, r.remaining < n → reading.run r = (.error (.truncated n r.remaining), r)) :
    Makes (bytes n >>= f) reading n write where
  enough c hc hn := by
    obtain ⟨a, hwrite, ha, hread⟩ := hf _ (length_take_unread hn)
    have hr := hread (c.unread.drop n)
    rw [List.take_append_drop, ← unread_advance] at hr
    refine ⟨a, hwrite, ?_, hr⟩
    rw [run_bind, run_bytes hc, if_pos hn]
    exact ha _
  short c hc hn := by
    have hr := hshort c.reader (by rwa [Reader.remaining, reader, length_unread])
    rw [Reader.remaining, reader, length_unread] at hr
    refine ⟨?_, hr⟩
    rw [run_bind, run_bytes hc, if_neg (Nat.not_le_of_lt hn)]

theorem bytes (n : Nat) : Makes (Cursor.bytes n) (Reader.take n) n id := by
  have h : Makes (Cursor.bytes n >>= Pure.pure) (Reader.take n) n id :=
    of_bytes (fun bs hl => ⟨bs, rfl, fun _ => rfl, hl ▸ Reader.Reads.take bs⟩) fun r hr =>
      if_neg (Nat.not_le_of_lt hr)
  rwa [bind_pure] at h

theorem byte : Makes Cursor.byte Reader.byte 1 fun b => [b] := by
  refine of_bytes (fun bs hl => ?_) fun ⟨rest⟩ hr => ?_
  · match bs, hl with
    | [b], _ => exact ⟨b, rfl, fun _ => rfl, Reader.Reads.byte b⟩
  · match rest, hr with
    | [], _ => rfl

theorem int32 : Makes Cursor.int32 Reader.int32 4 fun w => bytesBE w.toUInt32 := by
  refine of_bytes (fun bs hl => ?_) fun ⟨rest⟩ hr => ?_
  · match bs, hl with
    | [b₀, b₁, b₂, b₃], _ => exact ⟨_, bytesBE_wordBE b₀ b₁ b₂ b₃, fun _ => rfl, fun _ => rfl⟩
  · match rest, hr with
    | [], _ | [_], _ | [_, _], _ | [_, _, _], _ => rfl

theorem identifier : Makes Cursor.identifier Reader.identifier 20 Identifier.bytes := by
  refine of_bytes (fun bs hl => ?_) fun r hr => ?_
  · have hid : Identifier.ofBytes? bs = some ⟨bs, hl⟩ := dif_pos hl
    refine ⟨⟨bs, hl⟩, rfl, fun _ => ?_, Reader.Reads.identifier ⟨bs, hl⟩⟩
    rw [hid]
    rfl
  · have hl : (r.rest.take 20).length ≠ 20 := by
      rw [List.length_take]
      simp only [Reader.remaining] at hr
      omega
    have hid : Identifier.ofBytes? (r.rest.take 20) = none := dif_neg hl
    simp only [ExceptT.run, Reader.identifier, hid]

end Makes

theorem Makes.hwaddr {length : UInt8} (h : IsLength length) :
    Makes (Cursor.hwaddr length) (Reader.hwaddr length) length.toNat HwAddr.bytes := by
  refine of_bytes (fun bs hl => ?_) fun r hr => ?_
  · have hb : 1 ≤ bs.length ∧ bs.length ≤ 8 := hl ▸ h
    have ha : HwAddr.ofBytes? bs = some ⟨bs, hb.1, hb.2⟩ := dif_pos hb
    refine ⟨⟨bs, hb.1, hb.2⟩, rfl, fun _ => ?_, Reader.Reads.hwaddr ⟨bs, hb.1, hb.2⟩ hl.symm⟩
    rw [ha]
    rfl
  · have hr : (Reader.take length.toNat).run r = (.error (.truncated length.toNat r.remaining), r) :=
      if_neg (Nat.not_le_of_lt hr)
    rw [Reader.hwaddr, Reader.run_bind, hr]

theorem Follows.hwaddr (length : UInt8) : Follows (Cursor.hwaddr length) (Reader.hwaddr length) := by
  refine (Makes.bytes length.toNat).follows.bind fun bs => ?_
  cases HwAddr.ofBytes? bs with
  | none => exact read _
  | some a => exact pure a

/-! ## Calls -/

/-- A call that readers of frames make, with any length. -/
inductive Call where
  | byte | int32 | identifier
  | bytes (n : Nat)
  | hwaddr (length : UInt8)
  | ensure (n : Nat)

/-- What a call gives. -/
inductive Value where
  | nothing
  | byte (b : UInt8)
  | int32 (w : Int32)
  | bytes (bs : List UInt8)
  | identifier (id : Identifier)
  | hwaddr (a : HwAddr)

namespace Call

def walk : Call → Walk Value
  | byte => .byte <$> Cursor.byte
  | int32 => .int32 <$> Cursor.int32
  | identifier => .identifier <$> Cursor.identifier
  | bytes n => .bytes <$> Cursor.bytes n
  | hwaddr length => .hwaddr <$> Cursor.hwaddr length
  | ensure n => (fun _ => .nothing) <$> Cursor.ensure n

def reading : Call → Reading Value
  | byte => .byte <$> Reader.byte
  | int32 => .int32 <$> Reader.int32
  | identifier => .identifier <$> Reader.identifier
  | bytes n => .bytes <$> Reader.take n
  | hwaddr length => .hwaddr <$> Reader.hwaddr length
  | ensure n => (fun _ => .nothing) <$> Reader.ensure n

/-- How many bytes a call asks for. -/
def needs : Call → Nat
  | byte => 1
  | int32 => 4
  | identifier => 20
  | bytes n | ensure n => n
  | hwaddr length => length.toNat

/-- How a call stops when there are fewer bytes. -/
def stop : Call → DecodeError → Stop
  | ensure _ => .demand
  | _ => .read

/-- These bytes make this value; a demand takes none. -/
inductive Gives : Call → List UInt8 → Value → Prop
  | byte (b : UInt8) : Gives .byte [b] (.byte b)
  | int32 (w : Int32) : Gives .int32 (bytesBE w.toUInt32) (.int32 w)
  | identifier (id : Identifier) : Gives .identifier id.bytes (.identifier id)
  | bytes (bs : List UInt8) : Gives (.bytes bs.length) bs (.bytes bs)
  | hwaddr (a : HwAddr) {length : UInt8} (h : length.toNat = a.length) : Gives (.hwaddr length) a.bytes (.hwaddr a)
  | ensure (n : Nat) : Gives (.ensure n) [] .nothing

/-- What a call answers where these bytes are unread, and which of them it takes. -/
inductive Does (unread : List UInt8) : Call → Except Stop Value → List UInt8 → Prop
  | gives {call : Call} {piece : List UInt8} {v : Value} (hn : call.needs ≤ unread.length) (hp : piece <+: unread)
      (h : call.Gives piece v) : Does unread call (.ok v) piece
  /-- There are fewer bytes than are needed, and all of them stay. -/
  | short {call : Call} (h : unread.length < call.needs) :
      Does unread call (.error (call.stop (.truncated call.needs unread.length))) []
  /-- No address has the length; the bytes are gone. -/
  | misfit {length : UInt8} {piece : List UInt8} (h : length = 0 ∨ 8 < length) (hp : piece <+: unread)
      (hl : piece.length = length.toNat) :
      Does unread (.hwaddr length) (.error (.read (.invalidHaddrLen length))) piece

theorem follows : ∀ call : Call, Follows call.walk call.reading
  | byte => Makes.byte.follows.map _
  | int32 => Makes.int32.follows.map _
  | identifier => Makes.identifier.follows.map _
  | bytes n => (Makes.bytes n).follows.map _
  | hwaddr length => (Follows.hwaddr length).map _
  | ensure n => (Follows.ensure n).map _

variable {c : Cursor}

/-- A call that makes a value does so, or there are too few bytes. -/
theorem run_of_makes (call : Call) {walk : Walk α} {reading : Reading α} {write : α → List UInt8} {f : α → Value}
    (h : Makes walk reading call.needs write) (hw : call.walk = f <$> walk) (hstop : call.stop = .read)
    (hg : ∀ a, (write a).length = call.needs → call.Gives (write a) (f a)) (hc : c.InFrame) : ∃ answer piece,
    call.walk.run c = (answer, c.advance piece.length) ∧ call.Does c.unread answer piece := by
  have hmap : call.walk = walk >>= fun a => Pure.pure (f a) := hw
  rw [hmap, run_bind]
  by_cases hn : call.needs ≤ c.left
  · obtain ⟨a, hwrite, hrun, -⟩ := h.enough c hc hn
    have hl : (write a).length = call.needs := by rw [hwrite, length_take_unread hn]
    refine ⟨.ok (f a), write a, ?_, .gives ?_ (hwrite ▸ List.take_prefix _ _) (hg a hl)⟩
    · rw [hrun, hl]
      rfl
    · rwa [length_unread]
  · have hlt := Nat.lt_of_not_le hn
    obtain ⟨hrun, -⟩ := h.short c hc hlt
    rw [← length_unread] at hlt hrun
    refine ⟨_, [], ?_, .short hlt⟩
    rw [hrun, hstop]
    rfl

/-- A length that no address has is refused after its bytes, if there are as many. -/
theorem run_misfit {length : UInt8} (hfit : ¬IsLength length) (hc : c.InFrame) : ∃ answer piece,
    (hwaddr length).walk.run c = (answer, c.advance piece.length) ∧ (hwaddr length).Does c.unread answer piece := by
  have hw : (hwaddr length).walk = Cursor.hwaddr length >>= fun a => Pure.pure (.hwaddr a) := rfl
  rw [hw, Cursor.hwaddr, run_bind, run_bind, run_bytes hc]
  by_cases hn : length.toNat ≤ c.left
  · have hl := length_take_unread hn
    have ha : HwAddr.ofBytes? (c.unread.take length.toNat) = none := dif_neg (by rwa [hl])
    have hbad := Decidable.not_not.1 (mt Reader.isLength_iff.2 hfit)
    refine ⟨_, c.unread.take length.toNat, ?_, .misfit hbad (List.take_prefix _ _) hl⟩
    simp only [if_pos hn, ha, hl]
    rfl
  · simp only [if_neg hn]
    rw [← length_unread] at hn ⊢
    exact ⟨_, [], rfl, .short (Nat.lt_of_not_le hn)⟩

/-- A call moves a cursor on by the bytes that it takes. -/
theorem run_does (hc : c.InFrame) : ∀ call : Call, ∃ answer piece,
    call.walk.run c = (answer, c.advance piece.length) ∧ call.Does c.unread answer piece
  | byte => run_of_makes .byte Makes.byte rfl rfl (fun b _ => .byte b) hc
  | int32 => run_of_makes .int32 Makes.int32 rfl rfl (fun w _ => .int32 w) hc
  | identifier => run_of_makes .identifier Makes.identifier rfl rfl (fun id _ => .identifier id) hc
  | bytes n => run_of_makes (.bytes n) (Makes.bytes n) rfl rfl (fun bs hl => by subst hl; exact .bytes bs) hc
  | hwaddr length => by
    by_cases hfit : IsLength length
    · exact run_of_makes (.hwaddr length) (Makes.hwaddr hfit) rfl rfl (fun a hl => .hwaddr a hl.symm) hc
    · exact run_misfit hfit hc
  | ensure n => by
    have hw : (ensure n).walk = Cursor.ensure n >>= fun _ => Pure.pure .nothing := rfl
    rw [hw, Cursor.ensure, run_bind, run_need _ hc]
    by_cases hn : n ≤ c.left
    · simp only [if_pos hn]
      exact ⟨.ok .nothing, [], rfl, .gives (by rwa [length_unread]) List.nil_prefix (.ensure n)⟩
    · simp only [if_neg hn]
      rw [← length_unread] at hn ⊢
      exact ⟨_, [], rfl, .short (Nat.lt_of_not_le hn)⟩

theorem Gives.length_le {call : Call} {piece : List UInt8} {v : Value} (h : call.Gives piece v) :
    piece.length ≤ call.needs := by
  cases h with
  | byte | bytes => exact Nat.le_refl _
  | int32 w => exact Nat.le_refl 4
  | identifier id => exact Nat.le_of_eq id.length_eq
  | hwaddr a h => exact Nat.le_of_eq h.symm
  | ensure n => exact Nat.zero_le n

theorem Does.isPrefix {unread : List UInt8} {call : Call} {answer : Except Stop Value} {piece : List UInt8}
    (h : call.Does unread answer piece) : piece <+: unread := by
  cases h with
  | gives _ hp _ | misfit _ hp _ => exact hp
  | short _ => exact List.nil_prefix

/-- No call asks for an address of a length that no address has. -/
def Fits : Call → Prop
  | hwaddr length => IsLength length
  | _ => True

/-- A call that can be answered is answered. -/
theorem Does.ok {unread : List UInt8} {call : Call} {answer : Except Stop Value} {piece : List UInt8}
    (h : call.Does unread answer piece) (hfit : call.Fits) (hn : call.needs ≤ unread.length) :
    ∃ v, answer = .ok v ∧ piece.length ≤ call.needs := by
  cases h with
  | gives _ _ hg => exact ⟨_, rfl, hg.length_le⟩
  | short h => exact absurd hn (Nat.not_le_of_lt h)
  | misfit h _ _ => exact absurd h (Reader.isLength_iff.1 hfit)

end Call

/-! ## Calls one after another -/

/-- A call, its answer and the bytes that it took. -/
structure Entry where
  call : Call
  answer : Except Stop Value
  piece : List UInt8

/-- Each call is answered from the bytes that those before it left. -/
inductive Trace : List UInt8 → List Entry → Prop
  | nil {unread : List UInt8} : Trace unread []
  | cons {unread : List UInt8} {e : Entry} {es : List Entry} (h : e.call.Does unread e.answer e.piece)
      (ht : Trace (unread.drop e.piece.length) es) : Trace unread (e :: es)

/-- All calls in order, each from where the one before it has left off; none is left out after a refusal. -/
def runAll {σ ρ : Type} (run : Call → σ → ρ × σ) : List Call → σ → List ρ × σ
  | [], s => ([], s)
  | call :: calls, s =>
    let (answer, s') := run call s
    let (answers, s'') := runAll run calls s'
    (answer :: answers, s'')

/-- The answers to all calls from the front of a frame, and where they end. -/
def walkAll (calls : List Call) (c : Cursor) : List (Except Stop Value) × Cursor :=
  runAll (fun call c => call.walk.run c) calls c

def readAll (calls : List Call) (r : Reader) : List (Except DecodeError Value) × Reader :=
  runAll (fun call r => call.reading.run r) calls r

theorem walkAll_cons (call : Call) (calls : List Call) (c : Cursor) : walkAll (call :: calls) c =
    ((call.walk.run c).1 :: (walkAll calls (call.walk.run c).2).1, (walkAll calls (call.walk.run c).2).2) := rfl

theorem readAll_cons (call : Call) (calls : List Call) (r : Reader) : readAll (call :: calls) r =
    ((call.reading.run r).1 :: (readAll calls (call.reading.run r).2).1, (readAll calls (call.reading.run r).2).2) :=
  rfl

/-- Every sequence of calls leaves a trace; the bytes that it took stand between where it began and where it ends. -/
theorem walkAll_trace : ∀ (calls : List Call) {c : Cursor}, c.InFrame → ∃ es : List Entry,
    walkAll calls c = (es.map (·.answer), c.advance (es.flatMap (·.piece)).length) ∧ es.map (·.call) = calls ∧
      Trace c.unread es ∧ es.flatMap (·.piece) <+: c.unread
  | [], c, _ => ⟨[], rfl, rfl, .nil, List.nil_prefix⟩
  | call :: calls, c, hc => by
    obtain ⟨answer, piece, hrun, hd⟩ := call.run_does hc
    obtain ⟨tail, htail⟩ := hd.isPrefix
    have hle : piece.length ≤ c.left := by
      rw [← length_unread, ← htail, List.length_append]
      omega
    obtain ⟨es, hes, hcalls, ht, hp⟩ := walkAll_trace calls (hc.advance hle)
    rw [unread_advance] at ht hp
    refine ⟨⟨call, answer, piece⟩ :: es, ?_, congrArg (call :: ·) hcalls, .cons hd ht, ?_⟩
    · rw [walkAll_cons, hrun, hes, advance_advance, List.flatMap_cons, List.length_append]
      rfl
    · rw [← htail, List.drop_left] at hp
      rw [List.flatMap_cons, ← htail]
      exact (List.prefix_append_right_inj piece).2 hp

/-- Calls read from what is unread as they walk through the frame. -/
theorem walkAll_agrees : ∀ (calls : List Call) {c : Cursor}, c.InFrame →
    List.Forall₂ Agrees (walkAll calls c).1 (readAll calls c.reader).1 ∧
      (readAll calls c.reader).2 = (walkAll calls c).2.reader
  | [], _, _ => ⟨.nil, rfl⟩
  | call :: calls, c, hc => by
    have hm := call.follows c hc
    obtain ⟨ha, hr⟩ := walkAll_agrees calls hm.inFrame
    rw [walkAll_cons, readAll_cons, hm.reader]
    exact ⟨.cons hm.agrees ha, hr⟩

/-- How many bytes calls ask for together. -/
def needs : List Call → Nat
  | [] => 0
  | call :: calls => call.needs + needs calls

/-- Calls that ask for no more bytes than are left are all answered. -/
theorem walkAll_ok : ∀ (calls : List Call) {c : Cursor}, c.InFrame → (∀ call ∈ calls, call.Fits) →
    needs calls ≤ c.left → ∀ answer ∈ (walkAll calls c).1, ∃ v, answer = .ok v
  | [], _, _, _, _, answer, h => absurd h List.not_mem_nil
  | call :: calls, c, hc, hfit, hn, answer, h => by
    obtain ⟨answer', piece, hrun, hd⟩ := call.run_does hc
    have hneeds : call.needs ≤ c.unread.length := by
      rw [length_unread]
      exact Nat.le_trans (Nat.le_add_right _ _) hn
    obtain ⟨v, rfl, hle⟩ := hd.ok (hfit call List.mem_cons_self) hneeds
    rw [walkAll_cons, hrun] at h
    rcases List.mem_cons.1 h with rfl | h
    · exact ⟨v, rfl⟩
    · have hlen := hd.isPrefix.length_le
      refine walkAll_ok calls (hc.advance (by rwa [← length_unread])) (fun b hb => hfit b (List.mem_cons_of_mem _ hb))
        ?_ answer h
      rw [left_advance]
      simp only [needs] at hn
      omega

end Cursor

end Neighborhood
