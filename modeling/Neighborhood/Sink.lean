import Neighborhood.Packet.Codec
import Neighborhood.Error

/-!
# Where frames go

* `Sink.send` — hands over one frame, which the sink keeps or refuses
* `Sink.take`, `Sink.takePackets` — the kept frames, which are then gone
-/

namespace Neighborhood

/-- A frame that has left; without a destination it went to every host on the link. -/
structure SentFrame where
  dest : Option HwAddr
  frame : List UInt8
deriving DecidableEq

structure Sink where
  frames : List SentFrame := []
  failing : Bool := false
  /-- For each of the next sends whether it fails. -/
  refusals : List Bool := []
deriving DecidableEq

namespace Sink

variable (s : Sink)

def size : Nat := s.frames.length

/-- Whether the next send fails. -/
def refuses : Bool := s.failing || s.refusals.headD false

def send (dest : Option HwAddr) (frame : List UInt8) : Except Error Unit × Sink :=
  let next := { s with refusals := s.refusals.tail }
  if s.refuses then (.error (.socket "send disabled"), next)
  else (.ok (), { next with frames := s.frames ++ [⟨dest, frame⟩] })

def take : List SentFrame × Sink :=
  (s.frames, { s with frames := [] })

/-- The packets of the kept frames; a frame that is no packet is dropped. -/
def takePackets : List (Option HwAddr × Packet) × Sink :=
  let packets := s.frames.filterMap fun f =>
    match Packet.decode f.frame with
    | .ok packet => some (f.dest, packet)
    | .error _ => none
  (packets, { s with frames := [] })

end Sink

end Neighborhood
