/-!
# Scanning text

A scan reads characters from the front of a text. It gives its answer and the text that is left, or fails; the
alternative `p <|> q` begins again where `p` began.

* `Scan.char`, `Scan.literal` — exactly these characters
* `Scan.takeWhile`, `Scan.takeWhile1` — the longest run of characters with a property
* `Scan.many`, `Scan.optional` — one scan as often as it succeeds, or once if it does
* `Scan.whole` — a scan that leaves nothing
-/

namespace Neighborhood

abbrev Scan := StateT (List Char) Option

namespace Scan

/-- The next character, which has the property. -/
def satisfy (p : Char → Bool) : Scan Char
  | c :: rest => if p c then some (c, rest) else none
  | [] => none

def char (c : Char) : Scan Unit
  | d :: rest => if d = c then some ((), rest) else none
  | [] => none

def literal : List Char → Scan Unit
  | [] => pure ()
  | c :: cs => do char c; literal cs

def takeWhile (p : Char → Bool) : Scan (List Char) := fun cs =>
  some (cs.takeWhile p, cs.dropWhile p)

/-- As `takeWhile`, but not empty. -/
def takeWhile1 (p : Char → Bool) : Scan (List Char) := do
  let found ← takeWhile p
  guard (!found.isEmpty)
  pure found

/-- Exactly `n` characters with a property. -/
def exactly (p : Char → Bool) : Nat → Scan (List Char)
  | 0 => pure []
  | n + 1 => do
    let c ← satisfy p
    let cs ← exactly p n
    pure (c :: cs)

def optional (m : Scan Unit) : Scan Unit :=
  m <|> pure ()

/-- At most `n` times. -/
def upTo {α : Type} (m : Scan α) : Nat → Scan (List α)
  | 0 => pure []
  | n + 1 =>
    (do
      let a ← m
      let as ← upTo m n
      pure (a :: as)) <|>
    pure []

/-- As often as it succeeds, for a scan that takes one character at least. -/
def many {α : Type} (m : Scan α) : Scan (List α) := fun cs =>
  upTo m cs.length cs

def endOfText : Scan Unit := fun cs =>
  if cs.isEmpty then some ((), cs) else none

def whole {α : Type} (m : Scan α) (cs : List Char) : Option α :=
  match m cs with
  | some (a, []) => some a
  | _ => none

end Scan

end Neighborhood
