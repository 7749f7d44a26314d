import Neighborhood.Route

/-!
# A route table with a journal

The journal wraps a table, notes every request in order and can be told to refuse requests.

* `Journal.requests` — every request so far, refused ones included
-/

namespace Neighborhood

inductive RouteRequest where
  | add (dst : Xid) (gateway : Option Xid)
  | del (dst : Xid)
  | dump (table : TableId) (filter : RouteFilter)
deriving DecidableEq

structure Journal (σ : Type) where
  table : σ
  requests : List RouteRequest := []
  refusesAdd : Bool := false
  refusesDel : Bool := false
  refusesDump : Bool := false

namespace Journal

variable {σ : Type}

def note (j : Journal σ) (request : RouteRequest) : Journal σ :=
  { j with requests := j.requests ++ [request] }

/-- Ask the table, or refuse without asking it. -/
def ask {α : Type} (j : Journal σ) (refuses : Bool) (request : σ → Except Error α × σ) :
    Except Error α × Journal σ :=
  if refuses then (.error (.route "request refused"), j)
  else
    let (answer, table) := request j.table
    (answer, { j with table := table })

instance [RouteTable σ] : RouteTable (Journal σ) where
  add j dst gateway := (j.note (.add dst gateway)).ask j.refusesAdd (RouteTable.add · dst gateway)
  del j dst := (j.note (.del dst)).ask j.refusesDel (RouteTable.del · dst)
  dump j table filter := (j.note (.dump table filter)).ask j.refusesDump (RouteTable.dump · table filter)

end Journal

end Neighborhood
