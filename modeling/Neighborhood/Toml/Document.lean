import Neighborhood.Toml.Scalar

/-!
# TOML documents

* `Toml.value` — a value of a limited nesting
* `Toml.statement` — one line: a header, a key with its value, or nothing
* `Toml.parse?` — the entries of a document; a key defined twice makes it none
-/

namespace Neighborhood.Toml

/-! ## Values -/

/-- Items between brackets, a comma after each and one allowed after the last. -/
def array (item : Scan Value) : Scan Value := do
  Scan.char '['
  gap
  let items ←
    (do
      let first ← item
      let more ← Scan.many (do gap; Scan.char ','; gap; item)
      gap
      Scan.optional (Scan.char ',')
      pure (first :: more)) <|>
    pure []
  gap
  Scan.char ']'
  pure (.array items)

/-- A key and its value, with what `between` allows on both sides of the sign between them. -/
def pair (between : Scan Unit) (item : Scan Value) : Scan (List String × Value) := do
  let k ← key
  between
  Scan.char '='
  between
  let v ← item
  pure (k, v)

/-- Keys with their values between braces, separated as the items of an array; lines may end anywhere but
inside a key. -/
def inlineTable (item : Scan Value) : Scan Value := do
  Scan.char '\x7b'
  gap
  let pairs ←
    (do
      let first ← pair gap item
      let more ← Scan.many (do gap; Scan.char ','; gap; pair gap item)
      gap
      Scan.optional (Scan.char ',')
      pure (first :: more)) <|>
    pure []
  gap
  Scan.char '\x7d'
  let entries ← (pairs.foldlM (fun entries (k, v) => Entries.assign k v entries) [] : Option Entries)
  pure (.table .inline entries)

/-- Arrays and inline tables lie at most `depth` deep within each other. -/
def value : Nat → Scan Value
  | 0 => (do let text ← string; pure (.string text)) <|> scalar
  | depth + 1 =>
    (do let text ← string; pure (.string text)) <|> scalar <|> array (value depth) <|> inlineTable (value depth)

def maxDepth : Nat := 80

/-! ## Statements -/

inductive Statement where
  | nothing
  | assign (key : List String) (value : Value)
  | table (path : List String)
  | element (path : List String)

def tableHeader : Scan Statement := do
  Scan.char '['
  blanks
  let path ← key
  blanks
  Scan.char ']'
  pure (.table path)

def elementHeader : Scan Statement := do
  Scan.literal ['[', '[']
  blanks
  let path ← key
  blanks
  Scan.literal [']', ']']
  pure (.element path)

def assignment : Scan Statement := do
  let (k, v) ← pair blanks (value maxDepth)
  pure (.assign k v)

def statement : Scan Statement := do
  blanks
  let s ← elementHeader <|> tableHeader <|> assignment <|> pure .nothing
  lineEnd
  pure s

/-- At most `n` statements up to the end of the text. -/
def statements : Nat → Scan (List Statement)
  | 0 => failure
  | n + 1 =>
    (do Scan.endOfText; pure []) <|>
    (do
      let s ← statement
      let more ← statements n
      pure (s :: more))

/-! ## Documents -/

/-- The entries so far, and the path of the header that keys now stand under. -/
structure Document where
  entries : Entries := []
  current : List String := []

namespace Document

/-- Opens the entry that a header names and makes it the current one. -/
def enter (d : Document) (path : List String) (change : String → Entries → Option Entries) : Option Document := do
  let last ← path.getLast?
  let entries ← Entries.descend path.dropLast (change last) d.entries
  pure ⟨entries, path⟩

def apply (d : Document) : Statement → Option Document
  | .nothing => some d
  | .assign key value => do
    let entries ← Entries.descend d.current (Entries.assign key value) d.entries
    pure { d with entries := entries }
  | .table path => d.enter path Entries.openTable
  | .element path => d.enter path Entries.openElement

end Document

/-- A byte order mark may precede the first statement. -/
def parse? (text : String) : Option Entries := do
  let cs :=
    match text.toList with
    | '\uFEFF' :: cs => cs
    | cs => cs
  let found ← Scan.whole (statements (cs.length + 1)) cs
  let d ← found.foldlM Document.apply {}
  pure d.entries

end Neighborhood.Toml
