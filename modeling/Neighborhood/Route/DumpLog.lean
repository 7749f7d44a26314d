import Neighborhood.Route

/-!
# A route table that remembers its dumps

The log wraps a table and keeps of every dump what was asked for, what the table was like then, and the answer.

* `DumpLog.dumps` — one entry for every dump so far, in order
-/

namespace Neighborhood

structure Dump (σ : Type) where
  /-- The table that was asked. -/
  asked : σ
  table : TableId
  filter : RouteFilter
  answer : Except Error (List Route)

structure DumpLog (σ : Type) where
  routes : σ
  dumps : List (Dump σ) := []

instance {σ : Type} [RouteTable σ] : RouteTable (DumpLog σ) where
  add l dst gateway :=
    let (answer, routes) := RouteTable.add l.routes dst gateway
    (answer, { l with routes := routes })
  del l dst :=
    let (answer, routes) := RouteTable.del l.routes dst
    (answer, { l with routes := routes })
  dump l table filter :=
    let (answer, routes) := RouteTable.dump l.routes table filter
    (answer, { routes := routes, dumps := l.dumps ++ [⟨l.routes, table, filter, answer⟩] })

end Neighborhood
