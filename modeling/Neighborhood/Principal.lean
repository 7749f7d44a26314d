import Neighborhood.Error
import Neighborhood.File
import Neighborhood.Text.Fields
import Neighborhood.Text.Numeral
import Neighborhood.Xid

/-!
# Names of principal types

A principal map relates names and types one to one. Names are kept in lower case and found in any case.

* `PrincipalMap.insert` — refuses a bad name, the type zero, and a name or type that is taken
* `PrincipalMap.readLine` — a line of a name and a type; a comment starts with `#`
* `PrincipalMap.read` — the map that a text describes, and the lines of it that say nothing
* `PrincipalTypes.resolve` — the types that a daemon works with, by their names
-/

namespace Neighborhood

inductive PrincipalError where
  | invalid (name : String) (type : XidType)
  | duplicated (name : String) (type : XidType)
  | unknown (name : String)
  | unreadable (path : String) (cause : FileError)
deriving DecidableEq

namespace PrincipalError

def message : PrincipalError → String
  | invalid name type => "invalid principal name or type '" ++ name ++ "' (" ++ toString type ++ ")"
  | duplicated name type => "duplicated principal '" ++ name ++ "' (" ++ toString type ++ ")"
  | unknown name => "unknown principal '" ++ name ++ "'"
  | unreadable path cause => "couldn't read " ++ path ++ ": " ++ cause.message

def toError (e : PrincipalError) : Error := .principal e.message

end PrincipalError

/-! ## The map -/

/-- The types of the names and the names of the types, each in the order of insertion. -/
structure PrincipalMap where
  byName : List (String × XidType) := []
  byType : List (XidType × String) := []
deriving DecidableEq

namespace PrincipalMap

/-- Letters and digits of ASCII, the underscore and the hyphen. -/
def isNameChar (c : Char) : Bool :=
  c.isAlphanum || c == '_' || c == '-'

/-- One to fifteen characters of names. -/
def isName (name : String) : Bool :=
  let cs := name.toList
  !cs.isEmpty && cs.length ≤ 15 && cs.all isNameChar

/-- The letters of ASCII in lower case. -/
def folded (name : String) : String :=
  String.ofList (name.toList.map Char.toLower)

variable (m : PrincipalMap)

def size : Nat := m.byName.length

def isEmpty : Bool := m.byName.isEmpty

def typeOf? (name : String) : Option XidType :=
  m.byName.lookup (folded name)

def nameOf? (type : XidType) : Option String :=
  m.byType.lookup type

/-- The answer, and the map afterwards. -/
def insert (name : String) (type : XidType) : Except PrincipalError Unit × PrincipalMap :=
  if !isName name ∨ type.code = 0 then (.error (.invalid name type), m)
  else
    let name := folded name
    if (m.byName.lookup name).isSome ∨ (m.byType.lookup type).isSome then (.error (.duplicated name type), m)
    else (.ok (), ⟨m.byName ++ [(name, type)], m.byType ++ [(type, name)]⟩)

def resolve (name : String) : Except PrincipalError XidType :=
  match m.typeOf? name with
  | some type => .ok type
  | none => .error (.unknown name)

/-! ## The text form -/

/-- A numeral of 32 bits, hexadecimal after `0x` or `0X` and decimal without. -/
def readType? (cs : List Char) : Option XidType :=
  let number :=
    match cs with
    | '0' :: 'x' :: digits | '0' :: 'X' :: digits => Numeral.parse? 16 (UInt32.size - 1) digits
    | digits => Numeral.parse? 10 (UInt32.size - 1) digits
  number.map fun n => ⟨UInt32.ofNat n⟩

/-- Why a line says nothing, with what is left of it without comment and blank ends. -/
inductive LineError where
  | fields (text : String)
  | type (text : String)
  | refused (cause : PrincipalError)
deriving DecidableEq

/-- A line without comment and blank ends is empty or two words. -/
def readLine (line : List Char) : Except LineError Unit × PrincipalMap :=
  let text := Text.trim (line.takeWhile (· ≠ '#'))
  if text.isEmpty then (.ok (), m)
  else
    match Text.words text with
    | [name, type] =>
      match readType? type with
      | none => (.error (.type (String.ofList text)), m)
      | some type =>
        let (answer, m) := m.insert (String.ofList name) type
        (answer.mapError .refused, m)
    | _ => (.error (.fields (String.ofList text)), m)

/-- Reads on from line `number`, whether lines say something or not. -/
def readLines (m : PrincipalMap) : Nat → List (List Char) → PrincipalMap × List (Nat × LineError)
  | _, [] => (m, [])
  | number, line :: rest =>
    let (answer, m) := m.readLine line
    let (m, skipped) := readLines m (number + 1) rest
    match answer with
    | .ok () => (m, skipped)
    | .error e => (m, (number, e) :: skipped)

/-- The map of a text, and its skipped lines by their numbers from one. -/
def read (text : String) : PrincipalMap × List (Nat × LineError) :=
  readLines {} 1 (Text.lines text.toList)

def load (files : Files) (path : String) : Except PrincipalError (PrincipalMap × List (Nat × LineError)) :=
  match files.text? path with
  | .ok text => .ok (read text)
  | .error e => .error (.unreadable path e)

end PrincipalMap

/-! ## The types of a daemon -/

/-- The two principal types that a daemon works with. -/
structure PrincipalTypes where
  /-- Prefixes. -/
  ad : XidType
  /-- Hosts on the link. -/
  ether : XidType
deriving DecidableEq

/-- The types by the names `ad` and `ether`, the first one missing reported. -/
def PrincipalTypes.resolve (m : PrincipalMap) : Except PrincipalError PrincipalTypes := do
  let ad ← m.resolve "ad"
  let ether ← m.resolve "ether"
  pure ⟨ad, ether⟩

end Neighborhood
