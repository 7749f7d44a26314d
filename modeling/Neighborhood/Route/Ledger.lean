import Neighborhood.Route

/-!
# A route table with a ledger

The ledger wraps a table and notes of every request whether it was granted.

* `Ledger.answers` — one entry for every request so far, in order
-/

namespace Neighborhood

structure Ledger (σ : Type) where
  table : σ
  answers : List Bool := []

namespace Ledger

variable {σ α : Type}

/-- The ledger after a request that was answered so. -/
def note (l : Ledger σ) (answered : Except Error α × σ) : Except Error α × Ledger σ :=
  (answered.1, { table := answered.2, answers := l.answers ++ [answered.1.isOk] })

instance [RouteTable σ] : RouteTable (Ledger σ) where
  add l dst gateway := l.note (RouteTable.add l.table dst gateway)
  del l dst := l.note (RouteTable.del l.table dst)
  dump l table filter := l.note (RouteTable.dump l.table table filter)

end Ledger

end Neighborhood
