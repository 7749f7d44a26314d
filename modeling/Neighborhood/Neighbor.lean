import Neighborhood.Draws
import Neighborhood.Timer
import Neighborhood.Xid

/-!
# Neighbors and the table of them

An entry of the table is made once and keeps its number for ever, so that a reference to it can tell
whether the table still holds this very entry or a later one for the same address.

* `NeighborTable.getOrCreate`, `NeighborTable.get?`, `NeighborTable.remove` — by address
* `NeighborTable.find?`, `NeighborTable.update` — by reference, entries that have left included
* `NeighborTable.evict` — removes an entry if the given timer still bounds its last probe
* `NeighborTable.idle` — the neighbors that may be probed or asked to probe
-/

namespace Neighborhood

/-- What is awaited from a neighbor. -/
inductive Liveness where
  | idle
  /-- An ack to a ping. -/
  | awaitingAck
  /-- A sign of life, while others have been asked to probe the neighbor. -/
  | awaitingInvestigativeAck
deriving DecidableEq

/-- The number of an entry. -/
structure NeighborRef where
  serial : Nat
deriving DecidableEq

structure Neighbor where
  ref : NeighborRef
  hwaddr : HwAddr
  /-- The XID under which routes know the neighbor. -/
  identity : Xid
  /-- The last clock that the neighbor sent. -/
  clock : Int32 := 0
  liveness : Liveness := .idle
  /-- The timer that bounds the waiting. -/
  timer? : Option TimerId := none
deriving DecidableEq

namespace Neighbor

variable (n : Neighbor)

def isIdle : Bool := n.liveness = .idle

/-- The timer is the one that bounds the neighbor's state. -/
def ownsTimer (timer : TimerId) : Bool := n.timer? = some timer

/-- Something is awaited, for as long as `timer` runs. -/
def armed (liveness : Liveness) (timer : TimerId) : Neighbor :=
  { n with liveness := liveness, timer? := some timer }

/-- Nothing is awaited any more, and no timer is held. -/
def settled : Neighbor := { n with liveness := .idle, timer? := none }

end Neighbor

structure NeighborTable where
  /-- The entries of the table, oldest first. -/
  entries : List Neighbor := []
  /-- Entries that were in the table, as they are now. -/
  departed : List Neighbor := []
  /-- The number of the next entry. -/
  fresh : Nat := 0
deriving DecidableEq

namespace NeighborTable

variable (t : NeighborTable)

def size : Nat := t.entries.length

def get? (hwaddr : HwAddr) : Option Neighbor :=
  t.entries.find? (·.hwaddr = hwaddr)

/-- The entry with the given number, in the table or departed. -/
def find? (ref : NeighborRef) : Option Neighbor :=
  (t.entries ++ t.departed).find? (·.ref = ref)

/-- The entry for an address, made with the given identity if there is none; the flag says which. -/
def getOrCreate (hwaddr : HwAddr) (identity : Xid) : (Neighbor × Bool) × NeighborTable :=
  match t.get? hwaddr with
  | some n => ((n, false), t)
  | none =>
    let n : Neighbor := { ref := ⟨t.fresh⟩, hwaddr, identity }
    ((n, true), { t with entries := t.entries ++ [n], fresh := t.fresh + 1 })

/-- The function `f` where the number is `ref`. -/
def updateIn (ref : NeighborRef) (f : Neighbor → Neighbor) (l : List Neighbor) : List Neighbor :=
  l.map fun n => if n.ref = ref then f n else n

/-- The entry with the given number becomes what `f` makes of it. -/
def update (ref : NeighborRef) (f : Neighbor → Neighbor) : NeighborTable :=
  { t with entries := updateIn ref f t.entries, departed := updateIn ref f t.departed }

def arm (ref : NeighborRef) (liveness : Liveness) (timer : TimerId) : NeighborTable :=
  t.update ref fun n => n.armed liveness timer

def settle (ref : NeighborRef) : NeighborTable :=
  t.update ref Neighbor.settled

def setClock (ref : NeighborRef) (clock : Int32) : NeighborTable :=
  t.update ref fun n => { n with clock := clock }

/-- The entry `n` leaves the table, and nothing is awaited from it any more. -/
def depart (n : Neighbor) : NeighborTable :=
  { t with entries := t.entries.filter (·.ref ≠ n.ref), departed := n.settled :: t.departed }

/-- The entry for an address leaves the table; the answer is the entry as it was. -/
def remove (hwaddr : HwAddr) : Option Neighbor × NeighborTable :=
  match t.get? hwaddr with
  | some n => (some n, t.depart n)
  | none => (none, t)

/-- The table's entry for its address, if it is the referenced one and `timer` bounds its investigation. -/
def expired? (ref : NeighborRef) (timer : TimerId) : Option Neighbor :=
  t.entries.find? fun n => n.ref = ref && n.liveness = .awaitingInvestigativeAck && n.ownsTimer timer

/-- The referenced entry leaves the table if it is under an investigation bounded by `timer`; the answer tells
whether it was. Once it has left, `withdraw` does to the rest `a` of the state what goes with that. -/
def evict {α : Type} (ref : NeighborRef) (timer : TimerId) (withdraw : Neighbor → α → α) (a : α) :
    Bool × NeighborTable × α :=
  match t.expired? ref timer with
  | some n => (true, t.depart n, withdraw n.settled a)
  | none => (false, t, a)

def idle : List Neighbor :=
  t.entries.filter (·.isIdle)

/-- The idle neighbors at other addresses. -/
def idleExcept (hwaddr : HwAddr) : List Neighbor :=
  t.idle.filter (·.hwaddr ≠ hwaddr)

/-- One idle neighbor, if there is one. -/
def pick? (lots : Draws Nat) : Option Neighbor × Draws Nat :=
  lots.pick? t.idle

/-- Up to `count` different idle neighbors at other addresses. -/
def pickExcept (hwaddr : HwAddr) (count : Nat) (lots : Draws Nat) : List Neighbor × Draws Nat :=
  lots.sample (t.idleExcept hwaddr) count

end NeighborTable

end Neighborhood
