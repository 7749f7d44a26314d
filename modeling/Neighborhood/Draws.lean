/-!
# Unending sequences of random values

* `Draws.next` — the next value and the sequence after it; one value is used up
-/

namespace Neighborhood

/-- A sequence of values of which the first `used` have been taken. -/
structure Draws (α : Type) where
  value : Nat → α
  used : Nat := 0

namespace Draws

variable {α : Type}

def next (d : Draws α) : α × Draws α :=
  (d.value d.used, { d with used := d.used + 1 })

/-- The values of a list, and then `last` for ever. -/
def ofList (l : List α) (last : α) : Draws α where
  value := fun i => l.getD i last

/-- One member of `l`, the draw taken modulo its length; an empty list takes no draw. -/
def pick? (l : List α) (d : Draws Nat) : Option α × Draws Nat :=
  match l with
  | [] => (none, d)
  | _ :: _ =>
    let (i, d) := d.next
    (l[i % l.length]?, d)

/-- As many as `count` members of `l` at different places, or all of them if there are fewer, in the order drawn. -/
def sample (l : List α) (count : Nat) (d : Draws Nat) : List α × Draws Nat :=
  match count with
  | 0 => ([], d)
  | count + 1 =>
    match l with
    | [] => ([], d)
    | _ :: _ =>
      let (i, d) := d.next
      let place := i % l.length
      let (chosen, d) := sample (l.eraseIdx place) count d
      (l[place]?.toList ++ chosen, d)

end Draws

end Neighborhood
