import Neighborhood.Errno
import Neighborhood.Netlink.Message
import Neighborhood.Route

/-!
# The kernel's route tables

A client sends one request at a time over a netlink socket and reads replies until one of them ends the
request. Replies with another sequence number belong to other requests and are passed over.

* `NetlinkClient.transact` — one request and the routes its replies hold
* `readDatagram`, `readReplies` — the replies up to the one that decides
* `Route.ofMessage?`, `requestMessage` — routes as route messages
* `NetlinkClient.open?` — a new client, unless the socket cannot be set up
-/

namespace Neighborhood

namespace Netlink

/-! ## Routes as messages -/

/-- The address family of XIA. -/
def family : UInt8 := 41

/-- How near a destination is. -/
inductive Scope where
  | anywhere
  | link
  | nowhere
deriving DecidableEq

def Scope.code : Scope → UInt8
  | anywhere => 0
  | link => 253
  | nowhere => 255

/-- An attribute that holds an XID. -/
def xidAttribute (kind : Nat) (x : Xid) : Attribute := ⟨kind, x.toWire⟩

/-- What a request says of a route: its table, and its destination and gateway as far as given. -/
def requestMessage (table : TableId) (scope : Scope) (dst gateway : Option Xid) : RouteMessage where
  family := family
  dstLength := 24
  table := UInt8.ofNat table.index
  protocol := 3
  scope := scope.code
  type := 1
  attributes :=
    (dst.map (xidAttribute Attribute.destination)).toList ++
      (gateway.map (xidAttribute Attribute.gateway)).toList

/-- The number that four bytes hold. -/
def tableValue : List UInt8 → Nat
  | [b₀, b₁, b₂, b₃] => (wordLE b₀ b₁ b₂ b₃).toNat
  | _ => 0

/-- The last attribute of a kind. -/
def lastOf? (kind : Nat) (attributes : List Attribute) : Option Attribute :=
  (attributes.filter (·.kind = kind)).getLast?

/-- The XID in the last attribute of a kind, if the attribute is there and holds one. -/
def xidOf? (kind : Nat) (attributes : List Attribute) : Option Xid :=
  (lastOf? kind attributes).bind (Xid.ofWire? ·.value)

/-- The index of the route's table; an attribute wins over the header. -/
def tableIndex (m : RouteMessage) : Nat :=
  match lastOf? Attribute.table m.attributes with
  | some a => tableValue a.value
  | none => m.table.toNat

end Netlink

/-- The route that a message describes, if it is one between XIDs in a known table. -/
def Route.ofMessage? (m : Netlink.RouteMessage) : Option Route :=
  if m.family = Netlink.family ∧ m.dstLength = 24 then do
    let table ← TableId.ofIndex? (Netlink.tableIndex m)
    let dst ← Netlink.xidOf? Netlink.Attribute.destination m.attributes
    some ⟨table, dst, Netlink.xidOf? Netlink.Attribute.gateway m.attributes⟩
  else none

namespace Netlink

/-! ## Replies -/

/-- What the socket hands out next. -/
inductive Incoming where
  | datagram (bytes : List UInt8)
  | failure (errno : Errno)
deriving DecidableEq

abbrev Answer := Except Error (List RouteMessage)

/-- Where the reading of replies stands after a datagram. -/
inductive Verdict where
  | decided (answer : Answer)
  | undecided (routes : List RouteMessage)

/-- The answer that an error message gives: success if the code is zero or says that the route was
there already. -/
def answerOfCode (code : Int32) (routes : List RouteMessage) : Answer :=
  let errno : Errno := ⟨(-code).toInt⟩
  if code = 0 ∨ errno = Errno.alreadyExists then .ok routes else .error (.route errno.message)

section
variable (d : Deserializer) (sequence : UInt32)

/-- Reads the messages of a datagram in order, routes collected so far at hand. -/
def readDatagram (bytes : List UInt8) (routes : List RouteMessage) : Verdict :=
  match bytes with
  | [] => .undecided routes
  | b :: bs =>
    match _h : d.read (b :: bs) with
    | none => .decided (.error (.netlink "Failed to parse message"))
    | some m =>
      let rest := (b :: bs).drop (aligned m.length)
      if m.sequence ≠ sequence then readDatagram rest routes
      else
        match m.payload with
        | .done _ => .decided (.ok routes)
        | .error code => .decided (answerOfCode code routes)
        | .newRoute route => readDatagram rest (routes ++ [route])
        | .other => readDatagram rest routes
termination_by bytes.length
decreasing_by
  all_goals
    have := (d.length_of_read _h).1
    have := le_aligned m.length
    simp only [Message.headerLength] at *
    simp only [List.length_drop, List.length_cons]
    omega

/-- The room for one datagram; the end of a longer one is lost. -/
def bufferSize : Nat := 64 * 1024

/-- Reads what the socket hands out until the answer is decided; the second part has not been read. A
socket with nothing to hand out fails. -/
def readReplies : List Incoming → List RouteMessage → Answer × List Incoming
  | [], _ => (.error (.netlink ("Failed to receive: " ++ Errno.wouldBlock.message)), [])
  | .failure errno :: rest, _ => (.error (.netlink ("Failed to receive: " ++ errno.message)), rest)
  | .datagram bytes :: rest, routes =>
    match readDatagram d sequence (bytes.take bufferSize) routes with
    | .decided answer => (answer, rest)
    | .undecided routes => readReplies rest routes

end

/-! ## Requests -/

/-- The flags of requests: acknowledge; create, exclusively; dump. -/
def addFlags : UInt16 := 0x0605
def delFlags : UInt16 := 0x0005
def dumpFlags : UInt16 := 0x0301

end Netlink

open Netlink

/-- A netlink socket as its user sees it. -/
structure Netlink.Socket where
  incoming : List Incoming := []
  /-- Why sends fail, if they do. -/
  sendFailure : Option Errno := none
  /-- The requests handed to the socket, in order. -/
  sent : List (List UInt8) := []
deriving DecidableEq

structure NetlinkClient where
  socket : Netlink.Socket := {}
  /-- The number of the next request. -/
  sequence : UInt32 := 1
  /-- How replies are read. -/
  deserializer : Deserializer := Message.deserializer

namespace NetlinkClient

/-- The stages of setting up a socket. -/
inductive Stage where
  | create
  | bind
  | connect
deriving DecidableEq

def Stage.verb : Stage → String
  | create => "create"
  | bind => "bind"
  | connect => "connect"

/-- A new client, unless a stage of its setting up fails. -/
def open? (failure : Option (Stage × Errno)) : Except Error NetlinkClient :=
  match failure with
  | none => .ok {}
  | some (stage, errno) => .error (.netlink s!"Failed to {stage.verb} socket: {errno.message}")

variable (c : NetlinkClient)

/-- Sends one request and reads its replies. -/
def transact (type : Nat) (flags : UInt16) (message : RouteMessage) : Answer × NetlinkClient :=
  let request := Message.frame type flags c.sequence message.toBytes
  let socket := { c.socket with sent := c.socket.sent ++ [request] }
  let c' := { c with socket := socket, sequence := c.sequence + 1 }
  match socket.sendFailure with
  | some errno => (.error (.netlink ("Failed to send request: " ++ errno.message)), c')
  | none =>
    let (answer, incoming) := readReplies c.deserializer c.sequence socket.incoming []
    (answer, { c' with socket := { socket with incoming := incoming } })

def add (dst : Xid) (gateway : Option Xid) : Except Error Unit × NetlinkClient :=
  let (answer, c) := c.transact newRouteType addFlags (requestMessage .main .link (some dst) gateway)
  (answer.map fun _ => (), c)

def del (dst : Xid) : Except Error Unit × NetlinkClient :=
  let (answer, c) := c.transact delRouteType delFlags (requestMessage .main .nowhere (some dst) none)
  (answer.map fun _ => (), c)

def dump (table : TableId) (filter : RouteFilter) : Except Error (List Route) × NetlinkClient :=
  let (answer, c) := c.transact getRouteType dumpFlags (requestMessage table .anywhere none none)
  let select routes := (routes.filterMap Route.ofMessage?).filter fun r => r.table = table && filter.accepts r
  (answer.map select, c)

instance : RouteTable NetlinkClient where
  add := add
  del := del
  dump := dump

end NetlinkClient

end Neighborhood
