import Neighborhood.Packet

/-!
# What a daemon counts

* `Histogram.observe` — one more sample, in microseconds
* `Metrics.record…` — one more event of a kind
-/

namespace Neighborhood

/-- How many samples there were, and the samples themselves, the latest first. -/
structure Histogram where
  samples : List Nat := []
deriving DecidableEq

namespace Histogram

def observe (h : Histogram) (micros : Nat) : Histogram := ⟨micros :: h.samples⟩

def count (h : Histogram) : Nat := h.samples.length

/-- The samples of at most `micros`. -/
def countUpTo (h : Histogram) (micros : Nat) : Nat :=
  h.samples.countP (· ≤ micros)

end Histogram

/-- One number for every kind of packet. -/
abbrev Tally := Packet.Kind → Nat

namespace Tally

def zero : Tally := fun _ => 0

def increment (t : Tally) (kind : Packet.Kind) : Tally :=
  fun k => if k = kind then t k + 1 else t k

end Tally

structure Metrics where
  received : Tally := .zero
  sent : Tally := .zero
  malformed : Nat := 0
  sendErrors : Nat := 0
  investigations : Nat := 0
  added : Nat := 0
  evicted : Nat := 0
  routeErrors : Nat := 0
  routeLatency : Histogram := {}
  /-- The size of the neighbor table when it was last reported. -/
  neighbors : Nat := 0

namespace Metrics

variable (m : Metrics)

def recordReceived (kind : Packet.Kind) : Metrics := { m with received := m.received.increment kind }

def recordSent (kind : Packet.Kind) : Metrics := { m with sent := m.sent.increment kind }

def recordMalformed : Metrics := { m with malformed := m.malformed + 1 }

def recordSendError : Metrics := { m with sendErrors := m.sendErrors + 1 }

def recordInvestigation : Metrics := { m with investigations := m.investigations + 1 }

def recordAdded : Metrics := { m with added := m.added + 1 }

def recordEvicted : Metrics := { m with evicted := m.evicted + 1 }

def recordRouteError : Metrics := { m with routeErrors := m.routeErrors + 1 }

/-- A request to the routing subsystem took so many microseconds. -/
def recordRouteLatency (micros : Nat) : Metrics := { m with routeLatency := m.routeLatency.observe micros }

def reportNeighbors (count : Nat) : Metrics := { m with neighbors := count }

end Metrics

end Neighborhood
