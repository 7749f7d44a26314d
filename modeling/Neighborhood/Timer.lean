import Neighborhood.Error

/-!
# Timers on a virtual clock

Time is counted in milliseconds from zero. A timer fires once after a delay, or again and again with a
period; its number tells it from every other timer.

* `Sleep` — when sleeps are over, which is up to the runtime; `Sleep.exact` is never late or early
* `Timers.onClock` — no timers yet, on a clock that shows some time
* `Timers.once`, `Timers.repeating` — a new timer and its number
* `Timers.cancel` — the timer never fires again
* `Timers.next?` — the first timer due by a given time, taken off or set to its next turn
* `Timers.load` — a bound on how often `next?` succeeds, and on what follows
* `Timers.runTo` — the timers due by a given time, one after another
-/

namespace Neighborhood

/-- The number of a timer, never used twice. -/
structure TimerId where
  serial : Nat
deriving DecidableEq

/-- A timer that is set, and what it is for. -/
structure Timer (α : Type) where
  id : TimerId
  due : Nat
  /-- The time between turns of a timer that repeats. -/
  period : Option Nat
  task : α
deriving DecidableEq

/-- The sleeps of the runtime that timers run on. One that begins at `now` and is to last `delay` is over at
`ends now delay`, which is when it should be unless the runtime knows a longest delay. -/
structure Sleep where
  ends : Nat → Nat → Nat
  le_ends : ∀ now delay, now ≤ ends now delay

/-- Every sleep lasts as long as it is to. -/
def Sleep.exact : Sleep where
  ends now delay := now + delay
  le_ends := Nat.le_add_right

structure Timers (α : Type) where
  now : Nat := 0
  /-- The number of the next timer. -/
  fresh : Nat := 1
  pending : List (Timer α) := []
  sleep : Sleep := .exact

namespace Timers

/-- Without a clock there are no timers. -/
def onClock {α : Type} (clock : Option Nat) : Except Error (Timers α) :=
  match clock with
  | some now => .ok { now := now }
  | none => .error (.config "no clock for timers")

variable {α : Type} (ts : Timers α)

def set (due : Nat) (period : Option Nat) (task : α) : TimerId × Timers α :=
  let id := ⟨ts.fresh⟩
  (id, { ts with fresh := ts.fresh + 1, pending := ts.pending ++ [⟨id, due, period, task⟩] })

/-- A timer that fires once, when a sleep of `delay` from now is over. -/
def once (delay : Nat) (task : α) : TimerId × Timers α :=
  ts.set (ts.sleep.ends ts.now delay) none task

/-- A timer that fires every `period`, first after one period; with no time between turns there is
nothing to set. -/
def repeating (period : Nat) (task : α) : TimerId × Timers α :=
  if period = 0 then (⟨ts.fresh⟩, { ts with fresh := ts.fresh + 1 })
  else ts.set (ts.now + period) (some period) task

def cancel (id : TimerId) : Timers α :=
  { ts with pending := ts.pending.filter (·.id ≠ id) }

/-- The timer will not fire any more. -/
def isFinished (id : TimerId) : Bool :=
  ts.pending.all (·.id ≠ id)

/-- Of two timers the one that is due first; of two that are due together the older one. -/
def sooner (a b : Timer α) : Timer α :=
  if b.due < a.due then b else a

def soonest? : Option (Timer α) :=
  match ts.pending with
  | [] => none
  | t :: rest => some (rest.foldl sooner t)

/-- What remains of a timer after it has fired. -/
def again (t : Timer α) : Option (Timer α) :=
  t.period.map fun period => { t with due := t.due + period }

/-- The clock shows the time at which `t` is due, and `t` has fired. -/
def fire (t : Timer α) : Timers α :=
  { ts with
    now := max ts.now t.due
    pending := ts.pending.filterMap fun u => if u.id = t.id then again u else some u }

/-- The first timer that is due by `limit`, and the timers after it has fired. -/
def next? (limit : Nat) : Option (Timer α × Timers α) :=
  match ts.soonest? with
  | some t => if t.due ≤ limit then some (t, ts.fire t) else none
  | none => none

/-- The clock shows `limit`, or what it showed if that is later. -/
def passTo (limit : Nat) : Timers α :=
  { ts with now := max ts.now limit }

/-- How often a timer fires by `limit` if nothing stops it. -/
def turnsOf (limit : Nat) (t : Timer α) : Nat :=
  if t.due ≤ limit then
    match t.period with
    | none => 1
    | some period => 1 + (limit - t.due) / period
  else 0

/-- How often the timers of a list fire by `limit`, every firing counted with the weight of its task. -/
def loadOf (weight : α → Nat) (limit : Nat) : List (Timer α) → Nat
  | [] => 0
  | t :: ts => weight t.task * turnsOf limit t + loadOf weight limit ts

def load (weight : α → Nat) (limit : Nat) : Nat :=
  loadOf weight limit ts.pending

/-- At most `fuel` timers that are due by `limit`, as they were before they fired. -/
def fireUpTo (limit : Nat) : Nat → Timers α → List (Timer α) × Timers α
  | 0, ts => ([], ts)
  | fuel + 1, ts =>
    match ts.next? limit with
    | none => ([], ts.passTo limit)
    | some (t, ts) =>
      let (more, ts) := fireUpTo limit fuel ts
      (t :: more, ts)

/-- The timers due by `limit` fire in order, and the clock shows `limit`. -/
def runTo (limit : Nat) : List (Timer α) × Timers α :=
  fireUpTo limit (ts.load (fun _ => 1) limit + 1) ts

end Timers

end Neighborhood
