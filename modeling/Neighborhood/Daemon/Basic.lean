import Neighborhood.Config
import Neighborhood.Metrics
import Neighborhood.Neighbor
import Neighborhood.Principal
import Neighborhood.Route
import Neighborhood.Sink
import Neighborhood.Turn

/-!
# The state of a daemon

A daemon is one value: what it was told at its start, the tables it keeps, the devices it uses and the
sources of chance it draws from.

* `Daemon.transmit` — encodes a packet and hands the frame to the sink; failures are counted
* `Daemon.installRoute`, `Daemon.withdrawRoute`, `Daemon.dumpRoutes` — requests to the route table
* `Daemon.settle` — nothing is awaited from a neighbor any more, and its timer is cancelled
-/

namespace Neighborhood

/-- The local end of the link. -/
structure LocalLink where
  ifindex : UInt32
  hwaddr : HwAddr
deriving DecidableEq

namespace LocalLink

/-- The address that means every host of the link. -/
def broadcast? (l : LocalLink) : Option HwAddr :=
  HwAddr.broadcast? l.hwaddr.length

/-- A frame to `dest` is meant for this host. -/
def accepts (l : LocalLink) (dest : HwAddr) : Bool :=
  dest = l.hwaddr || dest.isBroadcast

end LocalLink

/-- What a timer is set for. -/
inductive Alarm where
  | announce
  | ping
  | ackDue (neighbor : NeighborRef)
  | investigationDue (neighbor : NeighborRef)
  /-- A timer that someone else has set. -/
  | foreign
deriving DecidableEq

/-- One attempt to send a packet: the frame that left, or why none did. -/
structure Transmission where
  time : Nat
  dest : Option HwAddr
  packet : Packet
  outcome : Except Error (List UInt8)

structure Daemon (σ : Type) where
  config : Config
  link : LocalLink
  types : PrincipalTypes
  routes : σ
  sink : Sink := {}
  /-- Every attempt to send, the latest first. -/
  transmissions : List Transmission := []
  neighbors : NeighborTable := {}
  counters : PrefixCounters := {}
  timers : Timers Alarm := {}
  /-- The timers that shutdown cancels. -/
  periodic : List TimerId := []
  /-- Decides turns. -/
  draws : Draws UInt64
  /-- Picks neighbors. -/
  lots : Draws Nat
  /-- What the clock on the wall shows, in seconds. -/
  clock : Int32
  metrics : Metrics := {}

namespace Daemon

variable {σ : Type} (d : Daemon σ)

/-- The XID of the host with the given address on this link. -/
def etherXid (hwaddr : HwAddr) : Xid :=
  Xid.ether d.types.ether d.link.ifindex hwaddr

/-- The XID of a prefix. -/
def adXid (id : Identifier) : Xid :=
  ⟨d.types.ad, id⟩

/-! ## Sending -/

/-- The attempt is noted and counted. -/
def noteTransmission (dest : Option HwAddr) (packet : Packet) (outcome : Except Error (List UInt8)) :
    Bool × Daemon σ :=
  let d := { d with transmissions := ⟨d.timers.now, dest, packet, outcome⟩ :: d.transmissions }
  match outcome with
  | .ok _ => (true, { d with metrics := d.metrics.recordSent packet.kind })
  | .error _ => (false, { d with metrics := d.metrics.recordSendError })

/-- To one host, or to all without a destination; the answer tells whether the frame has left. -/
def transmit (dest : Option HwAddr) (packet : Packet) : Bool × Daemon σ :=
  match packet.encode with
  | .error e => d.noteTransmission dest packet (.error (.encode e))
  | .ok frame =>
    match d.sink.send dest frame with
    | (.ok (), sink) => { d with sink := sink }.noteTransmission dest packet (.ok frame)
    | (.error e, sink) => { d with sink := sink }.noteTransmission dest packet (.error e)

def send (dest : HwAddr) (packet : Packet) : Bool × Daemon σ :=
  d.transmit (some dest) packet

def broadcast (packet : Packet) : Bool × Daemon σ :=
  d.transmit none packet

/-- Broadcasts every packet, whether earlier ones left or not; the answer tells whether all left. -/
def broadcastAll (d : Daemon σ) : List Packet → Bool × Daemon σ
  | [] => (true, d)
  | p :: ps =>
    let (sent, d) := d.broadcast p
    let (rest, d) := d.broadcastAll ps
    (sent && rest, d)

/-! ## Routes -/

/-- One request was made. On the daemon's own clock it takes no time. -/
def noteRequest {α : Type} (answer : Except Error α) : Daemon σ :=
  let metrics := d.metrics.recordRouteLatency 0
  match answer with
  | .ok _ => { d with metrics := metrics }
  | .error _ => { d with metrics := metrics.recordRouteError }

variable [RouteTable σ]

def installRoute (dst : Xid) (gateway : Option Xid) : Bool × Daemon σ :=
  let (answer, routes) := RouteTable.add d.routes dst gateway
  (answer.isOk, { d with routes := routes }.noteRequest answer)

def withdrawRoute (dst : Xid) : Bool × Daemon σ :=
  let (answer, routes) := RouteTable.del d.routes dst
  (answer.isOk, { d with routes := routes }.noteRequest answer)

def withdrawRoutes (d : Daemon σ) : List Xid → Daemon σ
  | [] => d
  | dst :: dsts => (d.withdrawRoute dst).2.withdrawRoutes dsts

def dumpRoutes (table : TableId) (filter : RouteFilter) : Option (List Route) × Daemon σ :=
  let (answer, routes) := RouteTable.dump d.routes table filter
  (answer.toOption, { d with routes := routes }.noteRequest answer)

omit [RouteTable σ]

/-! ## Neighbors -/

/-- The size of the neighbor table is reported. -/
def reportNeighbors : Daemon σ :=
  { d with metrics := d.metrics.reportNeighbors d.neighbors.size }

/-- Cancels the timer of an entry, if it has one. -/
def cancelTimerOf (n : Neighbor) : Daemon σ :=
  match n.timer? with
  | some timer => { d with timers := d.timers.cancel timer }
  | none => d

/-- A new state for an entry, bounded by `timer`; the timer that bounded the old one is cancelled. -/
def arm (n : Neighbor) (liveness : Liveness) (timer : TimerId) : Daemon σ :=
  let d := d.cancelTimerOf n
  { d with neighbors := d.neighbors.arm n.ref liveness timer }

/-- The entry becomes idle. -/
def settle (n : Neighbor) : Daemon σ :=
  let d := d.cancelTimerOf n
  { d with neighbors := d.neighbors.settle n.ref }

/-- The entry for an address leaves the table and its timer is cancelled; the answer tells whether there
was one. -/
def removeNeighbor (hwaddr : HwAddr) : Bool × Daemon σ :=
  match d.neighbors.remove hwaddr with
  | (none, _) => (false, d)
  | (some n, neighbors) => (true, { d.cancelTimerOf n with neighbors := neighbors })

end Daemon

end Neighborhood
