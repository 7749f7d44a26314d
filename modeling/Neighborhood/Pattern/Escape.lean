import Neighborhood.Text.Fields
import Neighborhood.Text.Hex
import Neighborhood.Text.Numeral
import Neighborhood.Text.Scan

/-!
# Single characters of a pattern

* `Mode` — how the characters of a pattern are read
* `Pattern.skip` — what stands between them without a meaning
* `Pattern.escape` — what a backslash and the characters after it stand for
-/

namespace Neighborhood

namespace Pattern

/-! ## Modes -/

structure Mode where
  /-- A letter stands for both of its cases. -/
  anyCase : Bool := false
  /-- The text that is matched is one of characters, not of bytes. -/
  unicode : Bool := true
  /-- Blanks and comments have no meaning. -/
  spaced : Bool := false
deriving DecidableEq

namespace Mode

/-- Flags, the ones after a hyphen being taken away. -/
def set (m : Mode) (flags : List Char) : Mode :=
  let on := flags.takeWhile (· ≠ '-')
  let off := flags.dropWhile (· ≠ '-')
  let change (flag : Char) (before : Bool) : Bool := (before || on.contains flag) && !off.contains flag
  ⟨change 'i' m.anyCase, change 'u' m.unicode, change 'x' m.spaced⟩

/-- A single character can be matched; the cases of characters beyond bytes are not known. -/
def admits (m : Mode) : Bool :=
  !(m.anyCase && m.unicode)

/-- The character can be in a class, which holds whole bytes if characters are bytes. -/
def admitsInClass (m : Mode) (c : Char) : Bool :=
  m.admits && (m.unicode || c.toNat < 128)

end Mode

/-! ## Characters -/

def anyChar : Scan Char := Scan.satisfy fun _ => true

/-- The next character, which stays in place. -/
def next? : Scan (Option Char) := fun cs => some (cs.head?, cs)

/-- A number sign and the rest of its line. -/
def comment : Scan Unit := do
  Scan.char '#'
  let _ ← Scan.takeWhile (· ≠ '\n')
  Scan.optional (Scan.char '\n')

def blanks : Scan Unit := do
  let _ ← Scan.takeWhile1 Text.isBlank

def skip (m : Mode) : Scan Unit :=
  if m.spaced then do let _ ← Scan.many (blanks <|> comment)
  else pure ()

/-! ## Escapes -/

inductive Atom where
  | literal (c : Char)
  /-- Any character of a kind. -/
  | kind
  /-- A place in the text. -/
  | anchor
  /-- A place where a word begins or ends. -/
  | edge
deriving DecidableEq

/-- Exactly `n` hexadecimal digits. -/
def hexDigits (m : Mode) : Nat → Scan (List Char)
  | 0 => pure []
  | n + 1 => do
    skip m
    let c ← Scan.satisfy fun c => (Hex.value? c).isSome
    let cs ← hexDigits m n
    pure (c :: cs)

/-- The character whose code point `n` digits write. -/
def codePoint (m : Mode) (n : Nat) : Scan Char := do
  let digits ← hexDigits m n
  let code ← (Numeral.parse? 16 0x10FFFF digits : Option Nat)
  guard code.isValidChar
  pure (Char.ofNat code)

/-- The characters that stand for themselves after a backslash. -/
def isEscapable (c : Char) : Bool :=
  c.toNat < 128 && !c.isAlphanum && c ≠ '<' && c ≠ '>'

/-- What follows a backslash. Kinds of characters and edges of words are known for bytes alone, and a byte beyond
the first half is no text by itself. -/
def escape (m : Mode) : Scan Atom := do
  match ← anyChar with
  | 'a' => pure (.literal '\x07')
  | 'f' => pure (.literal '\x0c')
  | 'n' => pure (.literal '\n')
  | 'r' => pure (.literal '\r')
  | 't' => pure (.literal '\t')
  | 'v' => pure (.literal '\x0b')
  | 'x' => do
    let c ← codePoint m 2
    guard (m.unicode ∨ c.toNat < 128)
    pure (.literal c)
  | 'u' => do pure (.literal (← codePoint m 4))
  | 'U' => do pure (.literal (← codePoint m 8))
  | 'd' | 's' | 'w' => do
    guard (!m.unicode)
    pure .kind
  | 'A' | 'z' => pure .anchor
  | 'b' | 'B' | '<' | '>' => pure (if m.unicode then .edge else .anchor)
  | c => do
    guard (isEscapable c)
    pure (.literal c)

end Pattern

end Neighborhood
