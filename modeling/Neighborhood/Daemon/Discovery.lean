import Neighborhood.Daemon.Basic

/-!
# Announces and neighbor lists

* `Daemon.announce` — one broadcast per own prefix, or one without prefix
* `Daemon.processAnnounce`, `Daemon.processNeighborList` — what hosts learn from each other
* `Daemon.sendNeighborList` — the prefixes behind the neighbors, for one host
* `listNeighbors` — the content of that list, made of two dumps of the main table
-/

namespace Neighborhood

/-! ## Content of neighbor lists -/

/-- The host behind a gateway: the gateway is the identity of a host that the link's own routes lead to. -/
def hostBehind? (link : LocalLink) (onLink : List Route) (gateway : Xid) : Option HwAddr :=
  if onLink.any fun r => r.dst = gateway && r.gateway.isNone && r.dst.etherIndex = link.ifindex then
    gateway.etherHwAddr? link.hwaddr.length
  else none

/-- One more host that leads to a prefix, in records ordered by prefix. -/
def addHost (prefixId : Identifier) (host : HwAddr) : List NeighborRecord → List NeighborRecord
  | [] => [⟨prefixId, [host]⟩]
  | r :: rest =>
    match compare prefixId r.xid with
    | .lt => ⟨prefixId, [host]⟩ :: r :: rest
    | .eq => (if host ∈ r.hwaddrs then r else { r with hwaddrs := r.hwaddrs ++ [host] }) :: rest
    | .gt => r :: addHost prefixId host rest

/-- The record of every prefix that is routed through a host on the link. -/
def listNeighbors (link : LocalLink) (onLink prefixes : List Route) : NeighborList where
  haddrLen := UInt8.ofNat link.hwaddr.length
  neighbors := prefixes.foldl (fun records r =>
    match r.gateway.bind (hostBehind? link onLink) with
    | some host => addHost r.dst.id host records
    | none => records) []

/-! ## Rules for what is received -/

/-- The rule that an announce from `sender` breaks. -/
def Announce.rejection? (a : Announce) (link : LocalLink) (sender : HwAddr) : Option Rejection :=
  if 1 < a.xids.length then some .severalPrefixes
  else if a.hwaddr.length ≠ sender.length then some .announceLength
  else if a.hwaddr = link.hwaddr then some .announceLocal
  else none

namespace Daemon

variable {σ : Type} [RouteTable σ] (d : Daemon σ)

/-- Broadcasts the own prefixes, each in a frame of its own since receivers accept no more in one. -/
def announce : Bool × Daemon σ :=
  match d.dumpRoutes .own (.destinations d.types.ad) with
  | (none, d) => (false, d)
  | (some own, d) =>
    let d := { d with counters := d.counters.setOwn (UInt32.ofNat own.length) }
    let packet xids := Packet.announce { hwaddr := d.link.hwaddr, xids := xids }
    match own with
    | [] => d.broadcast (packet [])
    | _ => d.broadcastAll (own.map fun r => packet [r.dst.id])

omit [RouteTable σ] in
/-- Whether it is this host's turn, by its counters and a draw. -/
def myTurn : Bool × Daemon σ :=
  let (mine, draws) := isMyTurn d.counters.own d.counters.discovered d.draws
  (mine, { d with draws := draws })

omit [RouteTable σ] in
/-- Whether to announce now, by the counters and perhaps a draw. -/
def shouldAnnounce : Bool × Daemon σ :=
  let (now, counters, draws) := Neighborhood.shouldAnnounce d.counters d.draws
  (now, { d with counters := counters, draws := draws })

def tryAnnounce : Daemon σ :=
  match d.shouldAnnounce with
  | (true, d) => d.announce.2
  | (false, d) => d

def sendNeighborList (dest : HwAddr) : Bool × Daemon σ :=
  match d.dumpRoutes .main (.destinations d.types.ether) with
  | (none, d) => (false, d)
  | (some onLink, d) =>
    let d := { d with counters := d.counters.setDiscovered (UInt32.ofNat onLink.length) }
    match d.dumpRoutes .main { dstType := some d.types.ad, gwType := some d.types.ether } with
    | (none, d) => (false, d)
    | (some prefixes, d) => d.send dest (.neighborList (listNeighbors d.link onLink prefixes))

omit [RouteTable σ] in
/-- The host has an entry in the neighbor table. -/
def register (hwaddr : HwAddr) (identity : Xid) : Daemon σ :=
  match d.neighbors.getOrCreate hwaddr identity with
  | ((_, true), neighbors) =>
    { d with neighbors := neighbors, metrics := d.metrics.recordAdded }.reportNeighbors
  | ((_, false), _) => d

/-- Routes every prefix through one gateway. -/
def installPrefixes (d : Daemon σ) (gateway : Xid) : List Identifier → Daemon σ
  | [] => d
  | id :: ids => (d.installRoute (d.adXid id) (some gateway)).2.installPrefixes gateway ids

/-- The announcing host becomes a neighbor and the gateway of its prefix; perhaps it is sent a list. -/
def acceptAnnounce (sender : HwAddr) (a : Announce) : Daemon σ :=
  let identity := d.etherXid sender
  let d := (d.installRoute identity none).2
  let d := d.register sender identity
  let d := d.installPrefixes identity a.xids
  let d :=
    match d.myTurn with
    | (true, d) => (d.sendNeighborList sender).2
    | (false, d) => d
  { d with counters := d.counters.addDiscovered 1 }

def processAnnounce (sender : HwAddr) (a : Announce) : Except Error Unit × Daemon σ :=
  match a.rejection? d.link sender with
  | some cause => (.error (.rejected cause), d)
  | none => (.ok (), d.acceptAnnounce sender a)

/-- The one host of a record becomes a neighbor and the gateway of the prefix. A record of several
hosts, of none, or of this host is passed over. -/
def acceptRecord (r : NeighborRecord) : Daemon σ :=
  match r.hwaddrs with
  | [hwaddr] =>
    if hwaddr = d.link.hwaddr then d
    else
      let identity := d.etherXid hwaddr
      let d := (d.installRoute identity none).2
      let d := (d.installRoute (d.adXid r.xid) (some identity)).2
      d.register hwaddr identity
  | _ => d

def acceptRecords (d : Daemon σ) : List NeighborRecord → Daemon σ
  | [] => d
  | r :: rs => (d.acceptRecord r).acceptRecords rs

def processNeighborList (list : NeighborList) : Except Error Unit × Daemon σ :=
  if list.haddrLen.toNat ≠ d.link.hwaddr.length then (.error (.rejected .listLength), d)
  else (.ok (), d.acceptRecords list.neighbors)

end Daemon

end Neighborhood
