import Neighborhood.Daemon.Discovery

/-!
# Pings, investigations and evictions

One idle neighbor is pinged at a time. A missing ack turns into requests to other idle neighbors, and a
missing answer to those into an eviction; nothing else evicts.

* `Daemon.ping`, `Daemon.pingTick` — a probe of a given neighbor, or of one picked by lot
* `Daemon.onAckTimeout`, `Daemon.onInvestigationTimeout` — the deadlines of a probe
* `Daemon.processMonitor`, `Daemon.processInvestigation` — what other hosts' probes and answers do
-/

namespace Neighborhood

namespace Daemon

variable {σ : Type} (d : Daemon σ)

/-- A period of the configuration in milliseconds. -/
def millis (seconds : Nat) : Nat := seconds * 1000

/-! ## Probes -/

/-- The entry becomes idle if `timer` still bounds its state. -/
def giveUp (ref : NeighborRef) (timer : TimerId) : Daemon σ :=
  match d.neighbors.find? ref with
  | some n => if n.ownsTimer timer then d.settle n else d
  | none => d

/-- Pings a neighbor and awaits its ack; if the ping cannot leave, nothing is awaited. -/
def ping (n : Neighbor) : Option HwAddr × Daemon σ :=
  let (timer, timers) := d.timers.once (millis d.config.ackTimeout) (.ackDue n.ref)
  let d := { d with timers := timers }.arm n .awaitingAck timer
  let packet := Packet.monitor { role := .ping, clock := d.clock, src := d.link.hwaddr, dest := n.hwaddr }
  match d.send n.hwaddr packet with
  | (true, d) => (some n.hwaddr, d)
  | (false, d) => (none, d.giveUp n.ref timer)

/-- Pings one idle neighbor, if there is one, and tells which. -/
def pingTick : Option HwAddr × Daemon σ :=
  match d.neighbors.pick? d.lots with
  | (none, lots) => (none, { d with lots := lots })
  | (some n, lots) => { d with lots := lots }.ping n

/-- Pings the neighbor at an address if it is idle, as if the lot had picked it. -/
def pingAt (hwaddr : HwAddr) : Option HwAddr × Daemon σ :=
  match d.neighbors.get? hwaddr with
  | some n => if n.isIdle then d.ping n else (none, d)
  | none => (none, d)

/-- Asks every relay to probe the suspect, whether earlier requests left or not. -/
def askRelays (d : Daemon σ) (suspect : HwAddr) : List Neighbor → Daemon σ
  | [] => d
  | relay :: relays =>
    let request : Packet := .investigation
      { role := .request, clock := d.clock, src := d.link.hwaddr, dest := relay.hwaddr, investigate := suspect }
    (d.send relay.hwaddr request).2.askRelays suspect relays

/-- Other neighbors are asked to probe a silent one, whose answer is awaited again. -/
def escalate (n : Neighbor) : Daemon σ :=
  let (timer, timers) := d.timers.once (millis d.config.investigativeAckTimeout) (.investigationDue n.ref)
  let d := { d with timers := timers }.arm n .awaitingInvestigativeAck timer
  let d := { d with metrics := d.metrics.recordInvestigation }
  let (relays, lots) := d.neighbors.pickExcept n.hwaddr d.config.investigativeCount d.lots
  { d with lots := lots }.askRelays n.hwaddr relays

/-- No ack has come in time, provided that `timer` still bounds the waiting for one. -/
def onAckTimeout (ref : NeighborRef) (timer : TimerId) : Daemon σ :=
  match d.neighbors.find? ref with
  | some n => if n.liveness = .awaitingAck && n.ownsTimer timer then d.escalate n else d
  | none => d

/-! ## Evictions -/

section
variable [RouteTable σ]

/-- Withdraws the prefixes routed through an identity, and its own route last. -/
def withdrawNeighbor (identity : Xid) : Daemon σ :=
  let filter : RouteFilter :=
    { dstType := some d.types.ad, gwType := some d.types.ether, gw := some identity }
  match d.dumpRoutes .main filter with
  | (some routes, d) => ((d.withdrawRoutes (routes.map (·.dst))).withdrawRoute identity).2
  | (none, d) => (d.withdrawRoute identity).2

/-- No answer has come in time, provided that `timer` still bounds the investigation. -/
def onInvestigationTimeout (ref : NeighborRef) (timer : TimerId) : Daemon σ :=
  match d.neighbors.evict ref timer (fun n d => d.withdrawNeighbor n.identity) d with
  | (true, neighbors, d) => { d with neighbors := neighbors, metrics := d.metrics.recordEvicted }.reportNeighbors
  | (false, _, _) => d

end

/-! ## Probes of others -/

/-- The acknowledgement that goes to `dest`. -/
def sendAck (dest : HwAddr) : Daemon σ :=
  (d.send dest (.monitor { role := .ack, clock := d.clock, src := d.link.hwaddr, dest := dest })).2

/-- A ping from a neighbor shows its clock, and ends an investigation of it. -/
def notePing (sender : HwAddr) (clock : Int32) : Daemon σ :=
  match d.neighbors.get? sender with
  | none => d
  | some n =>
    let d := { d with neighbors := d.neighbors.setClock n.ref clock }
    match n.liveness with
    | .awaitingInvestigativeAck => d.settle n
    | _ => d

/-- An ack ends whatever is awaited from the neighbor; one that nobody awaits says nothing. -/
def noteAck (sender : HwAddr) (clock : Int32) : Daemon σ :=
  match d.neighbors.get? sender with
  | none => d
  | some n =>
    if n.isIdle then d
    else
      let d := d.settle n
      { d with neighbors := d.neighbors.setClock n.ref clock }

def processMonitor (sender : HwAddr) (p : Monitor) : Except Error Unit × Daemon σ :=
  if p.src.length ≠ sender.length then (.error (.rejected .monitorLength), d)
  else if !d.link.accepts p.dest then (.ok (), d)
  else
    match p.role with
    | .ping => (.ok (), (d.notePing sender p.clock).sendAck sender)
    | .ack => (.ok (), d.noteAck sender p.clock)

/-- Proves to the investigator that this host is alive, and announces it again. -/
def answerInvestigation [RouteTable σ] (investigator : HwAddr) : Daemon σ :=
  (d.sendAck investigator).announce.2

/-- Probes the suspect for the investigator, if the suspect is a neighbor. -/
def relayInvestigation (p : Investigation) : Daemon σ :=
  match d.neighbors.get? p.investigate with
  | none => d
  | some _ =>
    (d.send p.investigate (.investigation
      { role := .probe, clock := d.clock, src := p.src, dest := p.investigate, investigate := p.investigate })).2

def processInvestigation [RouteTable σ] (sender : HwAddr) (p : Investigation) : Except Error Unit × Daemon σ :=
  if p.src.length ≠ sender.length then (.error (.rejected .monitorLength), d)
  else if p.dest ≠ d.link.hwaddr then (.ok (), d)
  else if p.investigate = d.link.hwaddr then (.ok (), d.answerInvestigation p.src)
  else
    match p.role with
    | .request => (.ok (), d.relayInvestigation p)
    | .probe => (.ok (), d)

end Daemon

end Neighborhood
