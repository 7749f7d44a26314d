import Neighborhood.Log
import Neighborhood.Pattern
import Neighborhood.Text.Alphanumeric
import Neighborhood.Text.Fields
import Neighborhood.Text.Numeral

/-!
# Which log events are shown

A filter is a list of directives between commas. A directive has the form `target[span{field=value}]=level`, of
which every part may be missing, or it is a level alone.

* `LogFilter.readLevel?` — a level by its name in any case, or by its number from zero
* `Directive.checkValue` — the value of a field is a number or a pattern
* `Directive.parse` — one directive, or what is wrong with it
* `LogFilter.parse` — a filter; one without directives shows nothing
* `LogFilter.shows` — the most specific directive for an event decides
-/

namespace Neighborhood

/-- Why a text is no directive. -/
inductive DirectiveError where
  | form
  | level
  /-- The value of a field is no pattern. -/
  | value (cause : PatternError)
deriving DecidableEq

/-- Why no machine was built for a pattern. -/
def PatternError.message : PatternError → String
  | form => "error building NFA"
  | edge =>
    "unsupported regex feature for DFAs: cannot build DFAs for regexes with Unicode word boundaries; " ++
      "switch to ASCII word boundaries, or heuristically enable Unicode word boundaries or use a different regex engine"

def DirectiveError.message : DirectiveError → String
  | form => "invalid filter directive"
  | level =>
    "error parsing level filter: expected one of \"off\", \"error\", \"warn\", \"info\", \"debug\", \"trace\", " ++
      "or a number 0-5"
  | value cause => "invalid field filter: " ++ cause.message ++ ": " ++ cause.message

/-- Shows the events up to a rank that the other parts admit. -/
structure Directive where
  /-- The rank of the last level shown, zero for none. -/
  limit : Nat := LogLevel.trace.rank
  /-- The beginning of the targets. -/
  target : Option String := none
  span : Option String := none
  /-- Fields by name, and whether a value is asked for. -/
  fields : List (String × Bool) := []
deriving DecidableEq

namespace LogFilter

/-! ## Levels -/

def levelNames : List (String × Nat) :=
  [("", 1), ("error", 1), ("warn", 2), ("info", 3), ("debug", 4), ("trace", 5), ("off", 0)]

def readLevel? (cs : List Char) : Option Nat :=
  match (Numeral.parse? 10 (UInt64.size - 1) cs).filter (· ≤ 5) with
  | some n => some n
  | none => levelNames.lookup (String.ofList (cs.map Char.toLower))

end LogFilter

/-! ## Directives -/

namespace Directive

/-- The part of a directive that is being read, with the place where it began. -/
inductive Stage where
  | start
  | levelOrTarget (first : Nat)
  | span (first : Nat)
  | field (first : Nat)
  | afterFields
  | afterSpan
  | level (first : Nat)

/-- The characters from one place up to another. -/
def slice (cs : List Char) (first last : Nat) : List Char :=
  (cs.take last).drop first

/-- Digits with a point among them or at one end, and an exponent; or the name of no finite number. -/
def isNumber (cs : List Char) : Bool :=
  let mantissa : Scan Unit := do
    let whole ← Scan.takeWhile Char.isDigit
    let fraction ← (do Scan.char '.'; Scan.takeWhile Char.isDigit) <|> pure []
    guard (!(whole ++ fraction).isEmpty)
  let exponent : Scan Unit := do
    let _ ← Scan.satisfy fun c => c == 'e' || c == 'E'
    Scan.optional (Scan.char '+' <|> Scan.char '-')
    let _ ← Scan.takeWhile1 Char.isDigit
  (Scan.whole (do mantissa; Scan.optional exponent) cs).isSome ||
    ["inf", "infinity", "nan"].contains (String.ofList (cs.map Char.toLower))

/-- A number or a pattern. No pattern begins with a plus sign, and a number without one is a pattern as well. -/
def checkValue (cs : List Char) : Except DirectiveError Unit :=
  match cs with
  | '+' :: rest => if isNumber rest then .ok () else .error (.value .form)
  | _ => (Pattern.check cs).mapError .value

/-- A field by its name alone, or with a value after the first equals sign that a second one ends. -/
def field (cs : List Char) : Except DirectiveError (String × Bool) :=
  let (name, values) := (cs.takeWhile (· ≠ '='), cs.dropWhile (· ≠ '='))
  match values with
  | [] => .ok (String.ofList name, false)
  | _ :: rest => (checkValue (rest.takeWhile (· ≠ '='))).map fun _ => (String.ofList name, true)

/-- Reads the character at place `i` of the text `cs`. -/
def step (cs : List Char) (d : Directive) (stage : Stage) (i : Nat) (c : Char) :
    Except DirectiveError (Directive × Stage) :=
  match stage with
  | .start =>
    if c = '[' then .ok (d, .span (i + 1))
    else if c = '-' ∨ c = ':' ∨ c = '_' ∨ Text.isAlphanumeric c then .ok (d, .levelOrTarget i)
    else .error .form
  | .levelOrTarget first =>
    let target := some (String.ofList (slice cs first i))
    if c = '=' then .ok ({ d with target := target }, .level (i + 1))
    else if c = '[' then .ok ({ d with target := target }, .span (i + 1))
    else .ok (d, stage)
  | .span first =>
    let name := slice cs first i
    if c = ']' then .ok ({ d with span := some (String.ofList name) }, .afterSpan)
    else if c = '\x7b' then
      .ok ({ d with span := if name.isEmpty then none else some (String.ofList name) }, .field (i + 1))
    else .ok (d, stage)
  | .field first =>
    if c = '\x7d' then
      let text := slice cs first i
      if text.isEmpty then .error .form
      else (field text).map fun f => ({ d with fields := d.fields ++ [f] }, .afterFields)
    else .ok (d, stage)
  | .afterFields => if c = ']' then .ok (d, .afterSpan) else .error .form
  | .afterSpan => if c = '=' then .ok (d, .level (i + 1)) else .error .form
  | .level _ => .ok (d, stage)

/-- The end of the text: a level, a word that is none and so a target of all levels, or nothing more. -/
def finish (cs : List Char) (d : Directive) : Stage → Except DirectiveError Directive
  | .levelOrTarget first =>
    let word := cs.drop first
    match LogFilter.readLevel? word with
    | some n => .ok { d with limit := n }
    | none => .ok { d with target := some (String.ofList word) }
  | .level first =>
    let word := cs.drop first
    if word.isEmpty then .ok d
    else
      match LogFilter.readLevel? word with
      | some n => .ok { d with limit := n }
      | none => .error .level
  | .afterSpan => .ok d
  | _ => .error .form

/-- Reads on from place `i`; the parts are cut out of `cs`. -/
def run (cs : List Char) : Directive → Stage → Nat → List Char → Except DirectiveError Directive
  | d, stage, _, [] => finish cs d stage
  | d, stage, i, c :: rest => do
    let (d, stage) ← step cs d stage i c
    run cs d stage (i + 1) rest

/-- Blanks around a directive are passed over but count as part of the text that its parts are cut out of. -/
def parse (cs : List Char) : Except DirectiveError Directive :=
  run cs {} .start 0 (Text.trim cs)

/-- The directive can show an event outside of all spans. -/
def isStatic (d : Directive) : Bool :=
  d.span.isNone && d.fields.all fun (_, valued) => !valued

/-- The target begins as asked for, and no field is missing. -/
def admits (d : Directive) (e : LogEvent) : Bool :=
  d.target.all (fun t => t.toList.isPrefixOf e.target.toList) &&
    d.fields.all fun (name, _) => name == "message" || (e.fields.lookup name).isSome

/-- A longer target is more specific, then more fields are, then the order of their names decides. -/
def specificity (d : Directive) : Nat × Nat × List String :=
  (d.target.elim 0 fun t => t.length + 1, d.fields.length, d.fields.map (·.1))

def compareSpecificity (a b : Directive) : Ordering :=
  let (ta, na, fa) := a.specificity
  let (tb, nb, fb) := b.specificity
  ((compare ta tb).then (compare na nb)).then (compare fa fb)

end Directive

/-! ## Filters -/

abbrev LogFilter := List Directive

namespace LogFilter

def parse (text : String) : Except DirectiveError LogFilter :=
  ((Text.splitOn ',' text.toList).filter (!·.isEmpty)).mapM Directive.parse

/-- Some directive asks for levels that are never written, which is worth a warning. -/
def asksTooMuch (f : LogFilter) : Bool :=
  f.any (LogLevel.debug.rank < ·.limit)

/-- Of two directives the more specific one, and the later one of two that differ in their level alone. -/
def decisive (best : Option Directive) (d : Directive) : Option Directive :=
  match best with
  | none => some d
  | some b => if (Directive.compareSpecificity d b).isGE then some d else some b

def shows (f : LogFilter) (e : LogEvent) : Bool :=
  match (f.filter fun d => d.isStatic && d.admits e).foldl decisive none with
  | none => false
  | some d => e.level.rank ≤ d.limit

end LogFilter

end Neighborhood
