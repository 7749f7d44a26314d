import Neighborhood.Packet.Error
import Neighborhood.Xid

/-!
# Reading a frame from front to back

A reader holds the bytes of a frame that are still unread. A reading gives its answer and the reader
to go on with, also when it fails.

* `Reader.take` — the next `n` bytes; a frame too short for them loses none
* `Reader.hwaddr` — consumes its bytes before it refuses their number
* `Reader.finish` — all bytes have been read
-/

namespace Neighborhood

structure Reader where
  rest : List UInt8
deriving DecidableEq

/-- A computation that reads from a frame and may refuse it. -/
abbrev Reading := ExceptT DecodeError (StateM Reader)

namespace Reader

def remaining (r : Reader) : Nat := r.rest.length

/-- Refuses unless `needed` bytes are left. -/
def ensure (needed : Nat) : Reading Unit := fun r =>
  if needed ≤ r.remaining then (.ok (), r) else (.error (.truncated needed r.remaining), r)

/-- The next `n` bytes. -/
def take (n : Nat) : Reading (List UInt8) := fun r =>
  if n ≤ r.remaining then (.ok (r.rest.take n), ⟨r.rest.drop n⟩)
  else (.error (.truncated n r.remaining), r)

def byte : Reading UInt8 := fun r =>
  match r.rest with
  | b :: rest => (.ok b, ⟨rest⟩)
  | [] => (.error (.truncated 1 0), r)

/-- A signed word, most significant byte first. -/
def int32 : Reading Int32 := fun r =>
  match r.rest with
  | b₀ :: b₁ :: b₂ :: b₃ :: rest => (.ok (wordBE b₀ b₁ b₂ b₃).toInt32, ⟨rest⟩)
  | _ => (.error (.truncated 4 r.remaining), r)

def identifier : Reading Identifier := fun r =>
  match Identifier.ofBytes? (r.rest.take 20) with
  | some id => (.ok id, ⟨r.rest.drop 20⟩)
  | none => (.error (.truncated 20 r.remaining), r)

/-- An address of the given length; a length that no address has is refused after its bytes are read. -/
def hwaddr (length : UInt8) : Reading HwAddr := do
  let bytes ← take length.toNat
  match HwAddr.ofBytes? bytes with
  | some addr => pure addr
  | none => throw (.invalidHaddrLen length)

/-- Refuses unless nothing is left. -/
def finish : Reading Unit := fun r =>
  match r.remaining with
  | 0 => (.ok (), r)
  | n + 1 => (.error (.trailingBytes (n + 1)), r)

/-- The same reading `n` times. -/
def times {α : Type} (n : Nat) (reading : Reading α) : Reading (List α) :=
  match n with
  | 0 => pure []
  | n + 1 => do
    let a ← reading
    let as ← times n reading
    pure (a :: as)

end Reader

end Neighborhood
