import Neighborhood.Text.Hex
import Neighborhood.Text.Numeral
import Neighborhood.Text.Scan

/-!
# Blanks, strings and keys of TOML

* `Toml.gap` — what may stand between the parts of an array
* `Toml.string` — the four kinds of strings
* `Toml.key` — the parts of a key, between dots
-/

namespace Neighborhood.Toml

/-! ## Blanks -/

def isBlank (c : Char) : Bool := c == ' ' || c == '\t'

/-- Everything but the controls, of which only the tab is text. -/
def isText (c : Char) : Bool :=
  c == '\t' || (' ' ≤ c && c != '\x7f')

def blanks : Scan Unit := do
  let _ ← Scan.takeWhile isBlank

def newline : Scan Unit :=
  Scan.char '\n' <|> Scan.literal ['\r', '\n']

def comment : Scan Unit := do
  Scan.char '#'
  let _ ← Scan.takeWhile isText

/-- A run of blanks or a line break. -/
def space : Scan Unit :=
  (do let _ ← Scan.takeWhile1 isBlank) <|> newline

/-- Blanks, line breaks and comments. -/
def gap : Scan Unit := do
  let _ ← Scan.many (space <|> comment)

/-- Blanks and a comment up to the end of the line or text. -/
def lineEnd : Scan Unit := do
  blanks
  Scan.optional comment
  newline <|> Scan.endOfText

/-! ## Strings -/

/-- The character with the code point that exactly `n` hexadecimal digits write. -/
def codePoint (n : Nat) : Scan Char := do
  let digits ← Scan.exactly (fun c => (Hex.value? c).isSome) n
  let code ← (Numeral.parse? 16 0x10FFFF digits : Option Nat)
  guard (code.isValidChar)
  pure (Char.ofNat code)

/-- What a backslash and the next characters stand for. -/
def escaped : Scan Char := do
  Scan.char '\\'
  match ← Scan.satisfy fun _ => true with
  | 'b' => pure '\x08'
  | 't' => pure '\t'
  | 'n' => pure '\n'
  | 'f' => pure '\x0c'
  | 'r' => pure '\r'
  | 'e' => pure '\x1b'
  | '"' => pure '"'
  | '\\' => pure '\\'
  | 'x' => codePoint 2
  | 'u' => codePoint 4
  | 'U' => codePoint 8
  | _ => failure

/-- A backslash at the end of a line, which the break and all blanks and breaks after it go with. -/
def joined : Scan Unit := do
  Scan.char '\\'
  blanks
  newline
  let _ ← Scan.many space

/-- One or two quotation marks inside a text that three of them end. -/
def innerMarks (mark : Char) : Scan (List Char) := do
  let marks ← Scan.takeWhile1 (· == mark)
  guard (marks.length ≤ 2)
  pure marks

/-- Three quotation marks, after up to two that belong to the text. -/
def closingMarks (mark : Char) : Scan (List Char) := do
  let marks ← Scan.takeWhile1 (· == mark)
  guard (3 ≤ marks.length ∧ marks.length ≤ 5)
  pure (marks.drop 3)

/-- A line break inside a text stands for the characters it is made of. -/
def innerBreak : Scan (List Char) :=
  (do Scan.char '\n'; pure ['\n']) <|> (do Scan.literal ['\r', '\n']; pure ['\r', '\n'])

/-- A text between three quotation marks; a line break right after the first three is no part of it. -/
def block (mark : Char) (piece : Scan (List Char)) : Scan String := do
  Scan.literal [mark, mark, mark]
  Scan.optional newline
  let pieces ← Scan.many (piece <|> innerMarks mark <|> innerBreak)
  let marks ← closingMarks mark
  pure (String.ofList (pieces.flatten ++ marks))

def basicChar : Scan Char :=
  escaped <|> Scan.satisfy fun c => isText c && c != '"' && c != '\\'

def basicString : Scan String := do
  Scan.char '"'
  let text ← Scan.many basicChar
  Scan.char '"'
  pure (String.ofList text)

def basicBlock : Scan String :=
  block '"' ((do joined; pure []) <|> (do let c ← basicChar; pure [c]))

def isLiteral (c : Char) : Bool := isText c && c != '\''

def literalString : Scan String := do
  Scan.char '\''
  let text ← Scan.takeWhile isLiteral
  Scan.char '\''
  pure (String.ofList text)

def literalBlock : Scan String :=
  block '\'' (Scan.takeWhile1 isLiteral)

def string : Scan String :=
  basicBlock <|> basicString <|> literalBlock <|> literalString

/-! ## Keys -/

def isBareChar (c : Char) : Bool :=
  c.isAlphanum || c == '_' || c == '-'

def simpleKey : Scan String :=
  (do let bare ← Scan.takeWhile1 isBareChar; pure (String.ofList bare)) <|> basicString <|> literalString

/-- The most parts that a key has. -/
def maxParts : Nat := 80

def key : Scan (List String) := do
  let first ← simpleKey
  let more ← Scan.many (do blanks; Scan.char '.'; blanks; simpleKey)
  guard (more.length < maxParts)
  pure (first :: more)

end Neighborhood.Toml
