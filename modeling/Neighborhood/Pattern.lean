import Neighborhood.Pattern.Class
import Neighborhood.Text.Alphanumeric

/-!
# Patterns

Regular expressions over characters, or over bytes where they say so, as far as they can be compiled without tables
of the properties and cases of characters.

* `Pattern.opening` — what a parenthesis opens
* `Pattern.body` — the alternatives of a group
* `Pattern.check` — why a text cannot be compiled, if it cannot
-/

namespace Neighborhood

/-- Why a text cannot be compiled as a pattern. -/
inductive PatternError where
  | form
  /-- The edges of words are asked for, which are not known for characters. -/
  | edge
deriving DecidableEq

namespace Pattern

/-! ## Openings -/

inductive Opening where
  /-- A group, with the mode of its body. -/
  | group (name : Option String) (mode : Mode)
  /-- A mode for the rest of the group around it. -/
  | setting (mode : Mode)
deriving DecidableEq

/-- A letter or underscore, and then also digits, points and brackets. -/
def isName : List Char → Bool
  | [] => false
  | c :: cs =>
    (c == '_' || Text.isAlphabetic c) &&
      cs.all fun c => c == '_' || c == '.' || c == '[' || c == ']' || Text.isAlphanumeric c

def groupName (m : Mode) : Scan Opening := do
  let name ← Scan.takeWhile (· ≠ '>')
  Scan.char '>'
  guard (isName name)
  pure (.group (some (String.ofList name)) m)

/-- Different flags, one hyphen among them, but not at the end. -/
def areFlags (cs : List Char) : Bool :=
  cs.all ['i', 'm', 's', 'U', 'u', 'R', 'x', '-'].contains && cs.Nodup && cs.getLast? ≠ some '-'

/-- Flags before a colon hold for the group, and without one for what follows them. -/
def flags (m : Mode) : Scan Opening := do
  let flags ← Scan.takeWhile fun c => c ≠ ':' && c ≠ ')'
  guard (areFlags flags)
  match ← anyChar with
  | ':' => pure (.group none (m.set flags))
  | _ => do
    guard (!flags.isEmpty)
    pure (.setting (m.set flags))

def opening (m : Mode) : Scan Opening := do
  Scan.char '('
  skip m
  match ← get with
  | '?' :: 'P' :: '<' :: cs | '?' :: '<' :: cs => do
    set cs
    groupName m
  | '?' :: cs => do
    set cs
    flags m
  | _ => pure (.group none m)

/-! ## Groups -/

/-- The part of a group that has been read. -/
structure Group where
  mode : Mode := {}
  /-- The depths of all alternatives but the last. -/
  alternatives : List Nat := []
  /-- The depths of the items of the last one, the latest first; what sets a mode has none. -/
  items : List (Option Nat) := []

namespace Group

def add (g : Group) (depth : Nat) : Group :=
  { g with items := some depth :: g.items }

/-- The last alternative is complete. -/
def alternative (g : Group) : Group :=
  { g with alternatives := layered (g.items.map (·.getD 0)) :: g.alternatives, items := [] }

def depth (g : Group) : Nat :=
  layered g.alternative.alternatives

/-- The latest item is repeated. -/
def repeated? (g : Group) : Option Group :=
  match g.items with
  | some depth :: items => some { g with items := some (depth + 1) :: items }
  | _ => none

end Group

/-- What has been met in a pattern so far. -/
structure Found where
  names : List String := []
  edge : Bool := false

abbrev Reading := StateT Found Scan

/-- No two groups have one name. -/
def note (name : Option String) : Reading Unit := do
  let found ← get
  match name with
  | none => pure ()
  | some name => do
    guard (!found.names.contains name)
    set { found with names := name :: found.names }

/-- One character or escape outside of classes. -/
def atom (m : Mode) : Reading Unit := do
  match ← anyChar with
  | '.' => guard m.unicode
  | '^' | '$' => pure ()
  | '\\' => do
    match ← escape m with
    | .literal _ => guard m.admits
    | .edge => modify fun found => { found with edge := true }
    | _ => pure ()
  | _ => guard m.admits

/-- Reads on to the end of the group or of the text; the answer is the depth. Counted repetitions are left out, since
their closing brace also ends the field whose value a pattern is. -/
def body : Nat → Group → Reading Nat
  | 0, _ => failure
  | fuel + 1, g => do
    skip g.mode
    match ← next? with
    | none | some ')' => pure g.depth
    | some '|' => do
      Scan.char '|'
      body fuel g.alternative
    | some '(' => do
      match ← opening g.mode with
      | .setting mode => body fuel { g with mode := mode, items := none :: g.items }
      | .group name mode => do
        note name
        let depth ← body fuel { mode := mode }
        Scan.char ')'
        body fuel (g.add (depth + 1))
    | some '[' => do
      let depth ← charClass g.mode
      body fuel (g.add depth)
    | some '?' | some '*' | some '+' => do
      let _ ← anyChar
      Scan.optional (Scan.char '?')
      match g.repeated? with
      | some g => body fuel g
      | none => failure
    | some '\x7b' => failure
    | some _ => do
      atom g.mode
      body fuel (g.add 0)

/-! ## Patterns -/

def maxDepth : Nat := 250

def check (cs : List Char) : Except PatternError Unit :=
  match Scan.whole ((body (cs.length + 1) {}).run {}) cs with
  | none => .error .form
  | some (depth, found) =>
    if maxDepth < depth then .error .form
    else if found.edge then .error .edge
    else .ok ()

end Pattern

end Neighborhood
