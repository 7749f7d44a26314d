import Neighborhood.Daemon.Run

/-!
# Daemons on one link

The stations of a segment hear each other's frames, but only when the segment carries them: until then
frames are in flight, and they may also be lost.

* `Departure.ordered` — the order in which the frames of a station follow each other
* `Station.launch` — what a daemon has sent takes to flight
* `Segment.carry` — the frames in flight from one station reach the stations they are addressed to
* `Segment.lose` — they are lost
-/

namespace Neighborhood

/-! ## Departures -/

/-- A frame that has left a station, and when. -/
structure Departure extends SentFrame where
  time : Nat
deriving DecidableEq

namespace Departure

def ofTransmission? (t : Transmission) : Option Departure :=
  match t.outcome with
  | .ok frame => some ⟨⟨t.dest, frame⟩, t.time⟩
  | .error _ => none

/-- What the frame says to those who hear it. -/
def packet (f : Departure) : Except DecodeError Packet :=
  Packet.decode f.frame

def isRequest (f : Departure) : Bool :=
  match f.packet with
  | .ok packet => packet.kind == .pingRequest
  | .error _ => false

/-- Two requests of one moment. -/
def besides (f g : Departure) : Bool :=
  f.isRequest && g.isRequest && f.time == g.time

def byDest (f g : Departure) : Bool :=
  (compare (f.dest.map HwAddr.slot) (g.dest.map HwAddr.slot)).isLE

/-- Frames follow each other as they were sent. Only requests of one moment go to a set of hosts, and these are in the
order of the addresses. -/
def ordered (fs : List Departure) : List Departure :=
  (fs.splitBy besides).flatMap (·.mergeSort byDest)

end Departure

/-! ## Stations -/

structure Station (σ : Type) where
  daemon : Daemon σ
  /-- How many attempts to send have led to frames in flight, or to none. -/
  noted : Nat := 0
  /-- The frames that have been neither carried nor lost so far, in order. -/
  inFlight : List Departure := []

namespace Station

variable {σ : Type} (s : Station σ)

/-- The frames that have left since the last launch. -/
def departures : List Departure :=
  let attempts := s.daemon.transmissions
  Departure.ordered ((attempts.take (attempts.length - s.noted)).reverse.filterMap Departure.ofTransmission?)

/-- These frames are in flight from now on. -/
def launch : List Departure × Station σ :=
  (s.departures, { s with
    noted := s.daemon.transmissions.length
    inFlight := s.inFlight ++ s.departures })

/-- The frame is meant for the station. -/
def hears (f : Departure) : Bool :=
  match f.dest with
  | none => true
  | some dest => s.daemon.link.hwaddr = dest

end Station

/-! ## Segments -/

/-- The stations of a link, known by their places. -/
abbrev Segment (σ : Type) := List (Station σ)

namespace Segment

variable {σ : Type} [RouteTable σ]

/-- One frame from the station at place `source` reaches every other station it is meant for, in the
order of places from `place` on. -/
def hearFrame (source : Nat) (sender : HwAddr) (f : Departure) (place : Nat) :
    Segment σ → List (Nat × Except Error Unit) × Segment σ
  | [] => ([], [])
  | s :: rest =>
    let (answers, rest) := hearFrame source sender f (place + 1) rest
    if place = source ∨ !s.hears f then (answers, s :: rest)
    else
      let (answer, daemon) := s.daemon.handleFrame sender f.frame
      ((place, answer) :: answers, { s with daemon := daemon } :: rest)

def hearFrames (source : Nat) (sender : HwAddr) :
    List Departure → Segment σ → List (Nat × Except Error Unit) × Segment σ
  | [], g => ([], g)
  | f :: fs, g =>
    let (answers, g) := hearFrame source sender f 0 g
    let (more, g) := hearFrames source sender fs g
    (answers ++ more, g)

omit [RouteTable σ] in
/-- The frames in flight from a station are lost. -/
def lose (source : Nat) (g : Segment σ) : List Departure × Segment σ :=
  match g[source]? with
  | none => ([], g)
  | some s => (s.inFlight, g.set source { s with inFlight := [] })

/-- The frames in flight from a station are heard in order; the answers name the hearing stations. -/
def carry (source : Nat) (g : Segment σ) : List (Nat × Except Error Unit) × Segment σ :=
  match g[source]? with
  | none => ([], g)
  | some s =>
    let (frames, g) := g.lose source
    hearFrames source s.daemon.link.hwaddr frames g

end Segment

end Neighborhood
