import Neighborhood.Daemon.Liveness

/-!
# A daemon at work

* `Daemon.start`, `Daemon.shutdown` — sets and cancels the periodic timers
* `Daemon.handleFrame` — decodes a frame and does what its packet asks for
* `Daemon.expire` — does what a timer was set for
* `Daemon.advance` — lets time pass and fires the timers due in it, in order
-/

namespace Neighborhood

namespace Daemon

variable {σ : Type} [RouteTable σ] (d : Daemon σ)

omit [RouteTable σ] in
/-- A periodic timer of the daemon. -/
def every (seconds : Nat) (task : Alarm) : Daemon σ :=
  let (timer, timers) := d.timers.repeating (millis seconds) task
  { d with timers := timers, periodic := d.periodic ++ [timer] }

/-- Announces once and sets the timers for announces and pings. -/
def start : Daemon σ :=
  let d := d.announce.2
  (d.every d.config.tryAnnouncePeriod .announce).every d.config.pingPeriod .ping

omit [RouteTable σ] in
def cancelPeriodic : Daemon σ :=
  { d with timers := d.periodic.foldl Timers.cancel d.timers, periodic := [] }

omit [RouteTable σ] in
def settleAll (d : Daemon σ) : List Neighbor → Daemon σ
  | [] => d
  | n :: ns => (d.settle n).settleAll ns

omit [RouteTable σ] in
/-- Cancels the periodic timers and gives up every probe. -/
def shutdown : Daemon σ :=
  d.cancelPeriodic.settleAll d.neighbors.entries

/-! ## Frames -/

def process (sender : HwAddr) : Packet → Except Error Unit × Daemon σ
  | .announce p => d.processAnnounce sender p
  | .neighborList p => d.processNeighborList p
  | .monitor p => d.processMonitor sender p
  | .investigation p => d.processInvestigation sender p

omit [RouteTable σ] in
/-- The answer to a frame; if the frame was at fault, it is counted. -/
def judge (answer : Except Error Unit) : Except Error Unit × Daemon σ :=
  match answer with
  | .ok () => (.ok (), d)
  | .error e =>
    (.error e, if e.isMalformed then { d with metrics := d.metrics.recordMalformed } else d)

def handleFrame (sender : HwAddr) (frame : List UInt8) : Except Error Unit × Daemon σ :=
  match Packet.decode frame with
  | .error e => d.judge (.error (.decode e))
  | .ok packet =>
    let d := { d with metrics := d.metrics.recordReceived packet.kind }
    let (answer, d) := d.process sender packet
    d.judge answer

/-! ## Time -/

def expire (t : Timer Alarm) : Daemon σ :=
  match t.task with
  | .announce => d.tryAnnounce
  | .ping => d.pingTick.2
  | .ackDue ref => d.onAckTimeout ref t.id
  | .investigationDue ref => d.onInvestigationTimeout ref t.id
  | .foreign => d

/-- Fires the timers due by `limit`, at most `fuel` of them. -/
def fireDue (limit : Nat) : Nat → Daemon σ → Daemon σ
  | 0, d => d
  | fuel + 1, d =>
    match d.timers.next? limit with
    | none => d
    | some (t, timers) => fireDue limit fuel ({ d with timers := timers }.expire t)

/-- How many timers fire because of one: a ping may be followed by both deadlines of its probe. -/
def followUps : Alarm → Nat
  | .ping => 3
  | .ackDue _ => 2
  | _ => 1

omit [RouteTable σ] in
/-- A bound on the timers that fire by `limit` if no frame arrives. -/
def firings (limit : Nat) : Nat :=
  d.timers.load followUps limit

/-- Time passes until the clock of the timers shows `limit`. -/
def advanceTo (limit : Nat) : Daemon σ :=
  let d := fireDue limit (d.firings limit) d
  { d with timers := d.timers.passTo limit }

def advance (ms : Nat) : Daemon σ :=
  d.advanceTo (d.timers.now + ms)

end Daemon

end Neighborhood
