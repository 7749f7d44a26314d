import Neighborhood.Draws

/-!
# Taking turns

Hosts share the work of announcing in proportion to the prefixes they own and the prefixes they have
learned.

* `PrefixCounters.checkTotalChange` — whether the total has moved since the last look
* `turnProbability` — own prefixes over all prefixes, as the nearest binary fraction of 53 bits
* `isMyTurn` — the decision; it takes a draw only if both counts are positive
* `shouldAnnounce` — the decision of a periodic attempt to announce
-/

namespace Neighborhood

/-! ## Counters -/

structure PrefixCounters where
  own : UInt32 := 0
  discovered : UInt32 := 0
  /-- The total at the last look. -/
  lastTotal : UInt32 := 0
deriving DecidableEq

namespace PrefixCounters

variable (c : PrefixCounters)

def setOwn (n : UInt32) : PrefixCounters := { c with own := n }

def setDiscovered (n : UInt32) : PrefixCounters := { c with discovered := n }

/-- Counts past the greatest word begin again at zero. -/
def addDiscovered (n : UInt32) : PrefixCounters := { c with discovered := c.discovered + n }

/-- The sum of both counts, at most the greatest word. -/
def total : UInt32 :=
  UInt32.ofNat (min (c.own.toNat + c.discovered.toNat) (UInt32.size - 1))

/-- Whether the total differs from the one noted before, which it replaces. -/
def checkTotalChange : Bool × PrefixCounters :=
  (c.lastTotal != c.total, { c with lastTotal := c.total })

end PrefixCounters

/-! ## Probabilities -/

/-- The number `numerator / 2 ^ scale`. -/
structure Dyadic where
  numerator : Nat
  scale : Nat
deriving DecidableEq

namespace Dyadic

/-- The quotient `a / b` to the nearest integer, a half to the even one. -/
def roundDiv (a b : Nat) : Nat :=
  let q := a / b
  let twice := 2 * (a % b)
  if twice < b then q
  else if b < twice then q + 1
  else q + q % 2

/-- The scale at which `a / b`, a fraction below one, has 53 bits. -/
def scaleOf (a b : Nat) : Nat :=
  let guess := 52 + b.log2 - a.log2
  if a <<< guess < b <<< 52 then guess + 1 else guess

/-- The positive fraction `a / b` below one, rounded to 53 bits, a tie to the even neighbor. -/
def ofFraction (a b : Nat) : Dyadic :=
  ⟨roundDiv (a <<< scaleOf a b) b, scaleOf a b⟩

/-- The bits of the number as a double, for numbers in the range of the normal ones and for zero. -/
def bits (p : Dyadic) : Nat :=
  if p.numerator = 0 then 0
  else
    let exponent := p.numerator.log2
    (1023 + exponent - p.scale) <<< 52 + (p.numerator <<< 52 >>> exponent - 1 <<< 52)

/-- The integer part of `p * 2 ^ 64`. -/
def threshold (p : Dyadic) : Nat :=
  p.numerator <<< 64 >>> p.scale

end Dyadic

/-- The chance that a host takes the turn. -/
def turnProbability (own discovered : UInt32) : Dyadic :=
  if own = 0 then ⟨0, 0⟩
  else if discovered = 0 then ⟨1, 0⟩
  else Dyadic.ofFraction own.toNat (own.toNat + discovered.toNat)

/-- Whether to take the turn: certain if one of the counts is zero, and else a matter of a draw. -/
def isMyTurn (own discovered : UInt32) (draws : Draws UInt64) : Bool × Draws UInt64 :=
  if own = 0 then (false, draws)
  else if discovered = 0 then (true, draws)
  else
    let (draw, draws) := draws.next
    (draw.toNat < (turnProbability own discovered).threshold, draws)

/-- Whether to announce now: always after a change of the total, and else by turns. -/
def shouldAnnounce (counters : PrefixCounters) (draws : Draws UInt64) :
    Bool × PrefixCounters × Draws UInt64 :=
  let (changed, counters) := counters.checkTotalChange
  if changed then (true, counters, draws)
  else
    let (mine, draws) := isMyTurn counters.own counters.discovered draws
    (mine, counters, draws)

end Neighborhood
