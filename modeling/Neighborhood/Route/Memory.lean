import Neighborhood.Route

/-!
# Routes held in memory

Routes stand in the order in which they were added; adding a main route again moves it to the end.

* `MemoryRoutes.add`, `MemoryRoutes.del?`, `MemoryRoutes.dump` — the requests of `RouteTable`
* `MemoryRoutes.get?` — the main route to a destination
* `MemoryRoutes.addOwn` — one more XID of this host
-/

namespace Neighborhood

structure MemoryRoutes where
  routes : List Route := []
deriving DecidableEq

namespace MemoryRoutes

variable (m : MemoryRoutes)

/-- The route is the main route to `dst`. -/
def leadsTo (dst : Xid) (r : Route) : Bool :=
  r.table = .main && r.dst = dst

def addOwn (dst : Xid) : MemoryRoutes :=
  ⟨m.routes ++ [⟨.own, dst, none⟩]⟩

def add (dst : Xid) (gateway : Option Xid) : MemoryRoutes :=
  ⟨m.routes.filter (!leadsTo dst ·) ++ [⟨.main, dst, gateway⟩]⟩

/-- Fails, and changes nothing, unless there is a main route to `dst`. -/
def del? (dst : Xid) : Except Error MemoryRoutes :=
  if m.routes.any (leadsTo dst) then .ok ⟨m.routes.filter (!leadsTo dst ·)⟩
  else .error (.route s!"no route to {dst}")

def get? (dst : Xid) : Option Route :=
  m.routes.find? (leadsTo dst)

def dump (table : TableId) (filter : RouteFilter) : List Route :=
  m.routes.filter fun r => r.table = table && filter.accepts r

/-- The main routes, in order. -/
def mainRoutes : List Route :=
  m.routes.filter (·.table = .main)

/-- The routes to this host's own XIDs, in order. -/
def ownRoutes : List Route :=
  m.routes.filter (·.table = .own)

instance : RouteTable MemoryRoutes where
  add m dst gateway := (.ok (), m.add dst gateway)
  del m dst :=
    match m.del? dst with
    | .ok m' => (.ok (), m')
    | .error e => (.error e, m)
  dump m table filter := (.ok (m.dump table filter), m)

end MemoryRoutes

end Neighborhood
