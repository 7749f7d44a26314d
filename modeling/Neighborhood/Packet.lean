import Neighborhood.Xid

/-!
# Packets of the neighbor watch protocol

Four kinds of content, six packet types.

* `Packet.kind` — which of the six types a packet has
* `Packet.Kind.code`, `Packet.Kind.label` — the number and the name of a type
-/

namespace Neighborhood

namespace Packet

/-- What the second byte of every packet says. -/
inductive Kind where
  | announce
  | neighborList
  | ping
  | ack
  | pingRequest
  | investigatePing
deriving DecidableEq, Inhabited

namespace Kind

def code : Kind → UInt8
  | announce => 1
  | neighborList => 2
  | ping => 3
  | ack => 4
  | pingRequest => 5
  | investigatePing => 6

def ofCode? : UInt8 → Option Kind
  | 1 => some announce
  | 2 => some neighborList
  | 3 => some ping
  | 4 => some ack
  | 5 => some pingRequest
  | 6 => some investigatePing
  | _ => none

/-- The name used in metrics and logs. -/
def label : Kind → String
  | announce => "announce"
  | neighborList => "neighbor_list"
  | ping => "ping"
  | ack => "ack"
  | pingRequest => "ping_request"
  | investigatePing => "investigate_ping"

/-- All kinds, by code. -/
def all : List Kind :=
  [announce, neighborList, ping, ack, pingRequest, investigatePing]

end Kind

end Packet

/-- A host's address and the prefixes it owns. -/
structure Announce where
  hwaddr : HwAddr
  xids : List Identifier
deriving DecidableEq

/-- A prefix and the hosts that lead to it. -/
structure NeighborRecord where
  xid : Identifier
  hwaddrs : List HwAddr
deriving DecidableEq

/-- The prefixes behind the sender's neighbors; all addresses have the declared length. -/
structure NeighborList where
  haddrLen : UInt8
  neighbors : List NeighborRecord
deriving DecidableEq

inductive Monitor.Role where
  | ping
  | ack
deriving DecidableEq

/-- A liveness probe, or the answer to one. -/
structure Monitor where
  role : Monitor.Role
  clock : Int32
  src : HwAddr
  dest : HwAddr
deriving DecidableEq

/-- The role `request` goes from the investigator to a relay, `probe` from the relay to the suspect. -/
inductive Investigation.Role where
  | request
  | probe
deriving DecidableEq

/-- A liveness probe through a third host; `src` is the investigator on both legs. -/
structure Investigation where
  role : Investigation.Role
  clock : Int32
  src : HwAddr
  dest : HwAddr
  investigate : HwAddr
deriving DecidableEq

inductive Packet where
  | announce (p : Announce)
  | neighborList (p : NeighborList)
  | monitor (p : Monitor)
  | investigation (p : Investigation)
deriving DecidableEq

namespace Packet

def kind : Packet → Kind
  | announce _ => .announce
  | neighborList _ => .neighborList
  | monitor p =>
    match p.role with
    | .ping => .ping
    | .ack => .ack
  | investigation p =>
    match p.role with
    | .request => .pingRequest
    | .probe => .investigatePing

end Packet

end Neighborhood
