import Neighborhood.Error
import Neighborhood.Xid

/-!
# Routes and the tables that hold them

A host has two tables: its own XIDs, which it announces, and the main table, which says through which
gateway a destination is reached. A route without a gateway leads to a host on the link.

* `RouteFilter.accepts` — the routes that a dump shows
* `RouteTable` — what the daemon asks of a routing subsystem, which may refuse any request
-/

namespace Neighborhood

inductive TableId where
  /-- XIDs that this host owns. -/
  | own
  /-- Where to forward. -/
  | main
deriving DecidableEq

namespace TableId

def index : TableId → Nat
  | own => 0
  | main => 1

def ofIndex? : Nat → Option TableId
  | 0 => some own
  | 1 => some main
  | _ => none

end TableId

structure Route where
  table : TableId
  dst : Xid
  gateway : Option Xid
deriving DecidableEq

/-- Conditions on a route, each of which may be absent. -/
structure RouteFilter where
  dstType : Option XidType := none
  gwType : Option XidType := none
  gw : Option Xid := none
deriving DecidableEq

namespace RouteFilter

/-- Routes to destinations of one type. -/
def destinations (type : XidType) : RouteFilter := { dstType := some type }

/-- A condition, where it is present, holds of `a`. -/
def holds {α : Type} [DecidableEq α] (condition : Option α) (a : α) : Bool :=
  match condition with
  | some wanted => wanted = a
  | none => true

/-- A route without a gateway is accepted whatever gateway type is asked for, but not if one gateway is. -/
def accepts (f : RouteFilter) (r : Route) : Bool :=
  holds f.dstType r.dst.type &&
    match r.gateway with
    | some gw => holds f.gwType gw.type && holds f.gw gw
    | none => f.gw.isNone

end RouteFilter

/-- A routing subsystem with state `σ`. A refused request may still change the state, and is not repeated. -/
class RouteTable (σ : Type) where
  /-- Route `dst` through a gateway, or on the link if there is none. -/
  add : σ → Xid → Option Xid → Except Error Unit × σ
  /-- Withdraw the main route to `dst`. -/
  del : σ → Xid → Except Error Unit × σ
  /-- The routes of a table that the filter accepts. -/
  dump : σ → TableId → RouteFilter → Except Error (List Route) × σ

end Neighborhood
