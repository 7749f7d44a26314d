/-!
# Values of a TOML document

* `Value.assign` — a key, possibly dotted, gets its value within one table
* `Value.descend` — changes the table that a header names
* `Value.openTable`, `Value.openElement` — what a header does to the entry it names

No entry is ever replaced: a second definition is refused.
-/

namespace Neighborhood.Toml

/-- What made a table, which decides what may add to it. -/
inductive Origin where
  /-- Its own header. -/
  | header
  /-- The header of a table inside it. -/
  | implied
  /-- A dotted key. -/
  | dotted
  /-- Braces; nothing adds to it any more. -/
  | inline
deriving DecidableEq

/-- A number with a fraction or exponent, and a date or time, are kept as written. -/
inductive Value where
  | string (text : String)
  | integer (n : Int)
  | boolean (b : Bool)
  | float (written : String)
  | moment (written : String)
  | array (items : List Value)
  | table (origin : Origin) (entries : List (String × Value))
  /-- The tables of one double-bracketed header, in order. -/
  | tables (items : List (List (String × Value)))

abbrev Entries := List (String × Value)

namespace Entries

/-- The value of the first entry of the key is exchanged. -/
def replace (key : String) (value : Value) : Entries → Entries
  | [] => []
  | (k, v) :: rest => if k = key then (k, value) :: rest else (k, v) :: replace key value rest

/-- The last part of a key is new to its table; a table on the way is new or of dotted keys, and one that
headers have implied, or the last of several, may be passed but not added to. -/
def assign : List String → Value → Entries → Option Entries
  | [], _, _ => none
  | [key], value, entries =>
    match entries.lookup key with
    | none => some (entries ++ [(key, value)])
    | some _ => none
  | key :: path, value, entries =>
    match entries.lookup key with
    | none => do
      let inner ← assign path value []
      pure (entries ++ [(key, .table .dotted inner)])
    | some (.table .dotted inner) => do
      let inner ← assign path value inner
      pure (replace key (.table .dotted inner) entries)
    | some (.table .implied inner) =>
      if path.length = 1 then none
      else do
        let inner ← assign path value inner
        pure (replace key (.table .implied inner) entries)
    | some (.tables items) =>
      if path.length = 1 then none
      else do
        let last ← items.getLast?
        let last ← assign path value last
        pure (replace key (.tables (items.dropLast ++ [last])) entries)
    | some _ => none

/-- Changes the table at a path of headers: the last one of several, and an empty one if there is none. -/
def descend : List String → (Entries → Option Entries) → Entries → Option Entries
  | [], change, entries => change entries
  | key :: path, change, entries =>
    match entries.lookup key with
    | none => do
      let inner ← descend path change []
      pure (entries ++ [(key, .table .implied inner)])
    | some (.table .inline _) => none
    | some (.table origin inner) => do
      let inner ← descend path change inner
      pure (replace key (.table origin inner) entries)
    | some (.tables items) => do
      let last ← items.getLast?
      let last ← descend path change last
      pure (replace key (.tables (items.dropLast ++ [last])) entries)
    | some _ => none

/-- The table of a single-bracketed header is new, or so far only implied. -/
def openTable (key : String) (entries : Entries) : Option Entries :=
  match entries.lookup key with
  | none => some (entries ++ [(key, .table .header [])])
  | some (.table .implied inner) => some (replace key (.table .header inner) entries)
  | some _ => none

/-- A double-bracketed header adds one more table under its key. -/
def openElement (key : String) (entries : Entries) : Option Entries :=
  match entries.lookup key with
  | none => some (entries ++ [(key, .tables [[]])])
  | some (.tables items) => some (replace key (.tables (items ++ [[]])) entries)
  | some _ => none

end Entries

end Neighborhood.Toml
