import Neighborhood.Pattern.Escape

/-!
# Classes of characters between brackets

* `Pattern.layered` — the depth of several parts side by side
* `Pattern.named` — a class by its name, such as `[:digit:]`
* `Pattern.charClass` — a class, in which others may lie; its answer is the depth
-/

namespace Neighborhood

namespace Pattern

/-- One part is as deep as it is, and several lie one level deeper. -/
def layered : List Nat → Nat
  | [] => 0
  | [depth] => depth
  | depths => depths.foldl max 0 + 1

/-! ## Members -/

/-- A single character, or none for a kind of them. -/
def member (m : Mode) : Scan (Option Char) := do
  match ← anyChar with
  | '\\' => do
    match ← escape m with
    | .literal c => pure (some c)
    | .kind => pure none
    | _ => failure
  | c => pure (some c)

/-- What follows a hyphen, which the sign of a comment does not hide. -/
def follower? (m : Mode) (cs : List Char) : Option Char :=
  if m.spaced then
    match cs.dropWhile Text.isBlank with
    | '#' :: cs => (cs.dropWhile Text.isBlank).head?
    | cs => cs.head?
  else cs.head?

/-- The hyphen at the front of the text stands between the ends of a range. -/
def beginsRange (m : Mode) : List Char → Bool
  | '-' :: cs => follower? m cs ≠ some ']' && follower? m cs ≠ some '-'
  | _ => false

/-- One character, one kind, or a range whose ends are in order. -/
def members (m : Mode) : Scan Unit := do
  let first ← member m
  skip m
  if beginsRange m (← get) then
    Scan.char '-'
    skip m
    match first, ← member m with
    | some first, some last => guard (m.admitsInClass first && m.admitsInClass last && first ≤ last)
    | _, _ => failure
  else
    guard (first.all m.admitsInClass)

/-! ## Names -/

def classNames : List String :=
  ["alnum", "alpha", "ascii", "blank", "cntrl", "digit", "graph", "lower", "print", "punct", "space", "upper", "word",
    "xdigit"]

/-- A caret makes the class one of all other characters. -/
def negation : Scan Bool :=
  (do Scan.char '^'; pure true) <|> pure false

/-- Whether the class with a name between colons and brackets is negated. -/
def named : Scan Bool := do
  Scan.literal ['[', ':']
  let negated ← negation
  let name ← Scan.takeWhile (· ≠ ':')
  Scan.literal [':', ']']
  guard (classNames.contains (String.ofList name))
  pure negated

/-! ## Classes -/

/-- The members at the beginning that could not stand later: hyphens, or else a closing bracket. -/
def firstMembers (m : Mode) : Scan Nat := do
  let hyphens ← Scan.many (do Scan.char '-'; skip m)
  if hyphens.isEmpty then (do Scan.char ']'; skip m; pure 1) <|> pure 0
  else pure hyphens.length

/-- The opening of a class; bytes have no negated classes. The answer counts the first members. -/
def classOpening (m : Mode) : Scan Nat := do
  Scan.char '['
  skip m
  let negated ← negation
  guard (m.unicode || !negated)
  skip m
  let count ← firstMembers m
  guard (count = 0 ∨ m.admits)
  pure count

/-- The part of a class that has been read: the depths of what stands before the last operator and of the members
after it. -/
structure ClassPart where
  left : Option Nat := none
  members : List Nat := []

namespace ClassPart

def add (p : ClassPart) (depth : Nat) : ClassPart :=
  { p with members := depth :: p.members }

/-- The depth of all of it. -/
def depth (p : ClassPart) : Nat :=
  match p.left with
  | none => layered p.members
  | some left => layered [left, layered p.members]

def operate (p : ClassPart) : ClassPart :=
  ⟨some p.depth, []⟩

end ClassPart

/-- Reads on to the closing bracket. -/
def classRest : Nat → Mode → ClassPart → Scan Nat
  | 0, _, _ => failure
  | fuel + 1, m, p => do
    skip m
    match ← get with
    | ']' :: cs => do
      set cs
      pure (p.depth + 1)
    | '&' :: '&' :: cs | '-' :: '-' :: cs | '~' :: '~' :: cs => do
      set cs
      classRest fuel m p.operate
    | '[' :: cs =>
      match named ('[' :: cs) with
      | some (negated, cs) => do
        guard (m.admits && (m.unicode || !negated))
        set cs
        classRest fuel m (p.add 0)
      | none => do
        let count ← classOpening m
        let depth ← classRest fuel m ⟨none, List.replicate count 0⟩
        classRest fuel m (p.add depth)
    | _ => do
      members m
      classRest fuel m (p.add 0)

def charClass (m : Mode) : Scan Nat := fun cs =>
  (do
    let count ← classOpening m
    classRest cs.length m ⟨none, List.replicate count 0⟩ : Scan Nat) cs

end Pattern

end Neighborhood
