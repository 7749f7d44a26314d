import Neighborhood.CommandLine
import Neighborhood.Interface
import Neighborhood.LogFilter
import Neighborhood.Principal

/-!
# From the command line to a daemon

* `Startup.prepare` — the checks before the link is opened, in order, and the events they log
* `Startup.begin` — what the command line, the files and the environment lead to
-/

namespace Neighborhood

/-- All that has to be known before a daemon starts. -/
structure Readiness where
  config : Config
  types : PrincipalTypes
  ifindex : UInt32
deriving DecidableEq

/-- How a start ends. -/
inductive Startup where
  | help
  | misuse
  /-- The events logged and the lines on standard error, and what is ready unless the start failed. -/
  | attempted (log : List LogEvent) (complaints : List String) (ready : Option Readiness)

namespace Startup

/-! ## Events -/

def principalTarget : String := "xia_nwpd::principal"

def skippedLine (number : Nat) (e : PrincipalMap.LineError) : LogEvent :=
  let line := ("line", toString number)
  match e with
  | .fields text => ⟨.warn, principalTarget, "Ignoring invalid principal line", [line, ("input", Text.quoted text)]⟩
  | .type text => ⟨.warn, principalTarget, "Ignoring invalid principal type", [line, ("input", Text.quoted text)]⟩
  | .refused cause =>
    ⟨.warn, principalTarget, "Ignoring principal", [line, ("error", cause.toError.message)]⟩

def loadedMap (path : String) (m : PrincipalMap) : LogEvent :=
  ⟨.debug, principalTarget, "Loaded principal map", [("path", path), ("count", toString m.size)]⟩

def failed (reason : String) : LogEvent :=
  ⟨.error, "nwpd", "nwpd: Daemon exiting with error", [("error", reason)]⟩

/-! ## Checks -/

/-- A failure is reported with what was being done. -/
def during {α : Type} (doing : String) (r : Except Error α) : Except String α :=
  r.mapError fun e => doing ++ ": " ++ e.message

/-- The map of principals and the events of loading it. -/
def loadMap (files : Files) (path : String) : Except String (PrincipalMap × List LogEvent) :=
  let loaded := (PrincipalMap.load files path).mapError (·.toError)
  (during ("loading principals from " ++ path) loaded).map fun (m, skipped) =>
    (m, skipped.map (fun (number, e) => skippedLine number e) ++ [loadedMap path m])

/-- The configuration, the principals and the interface are looked at in this order. -/
def prepare (files : Files) (known : Interfaces) (c : Config) : List LogEvent × Except String Readiness :=
  match c.validate with
  | .error e => ([], .error e.message)
  | .ok () =>
    match loadMap files c.principalsFile with
    | .error reason => ([], .error reason)
    | .ok (m, events) =>
      (events, do
        let types ← (PrincipalTypes.resolve m).mapError (·.toError.message)
        let ifindex ← during ("opening interface " ++ c.interface) (Interface.find known c.interface)
        pure ⟨c, types, ifindex⟩)

/-! ## The start -/

/-- The filter of the environment if it is one, else the one of the configuration. -/
def chooseFilter (environment : Option String) (level : String) : Except String LogFilter :=
  match environment.map LogFilter.parse with
  | some (.ok f) => .ok f
  | _ => (LogFilter.parse level).mapError fun e => "invalid log level " ++ Text.quoted level ++ ": " ++ e.message

/-- Text that a terminal shows in a style. -/
def styled (style text : String) : String :=
  "\x1b[" ++ style ++ "m" ++ text ++ "\x1b[0m"

def tooMuch : String :=
  styled "1;33" "warning" ++ styled "1" ":" ++ " " ++
    styled "1" "some trace filter directives would enable traces that are disabled statically"

def complain (reason : String) : Startup :=
  .attempted [] ["nwpd: " ++ reason] none

/-- Runs with a configuration; only events that the filter shows are logged. -/
def run (files : Files) (known : Interfaces) (environment : Option String) (c : Config) : Startup :=
  match chooseFilter environment c.logLevel with
  | .error reason => complain reason
  | .ok f =>
    let (events, outcome) := prepare files known c
    let log := events ++ match outcome with | .ok _ => [] | .error reason => [failed reason]
    .attempted (log.filter f.shows) (if f.asksTooMuch then [tooMuch] else []) outcome.toOption

def begin (files : Files) (known : Interfaces) (environment : Option String) (arguments : List String) : Startup :=
  match CommandLine.parse arguments with
  | .help => .help
  | .misuse => .misuse
  | .run a =>
    match Config.load files a.configPath with
    | .error e => complain e.toError.message
    | .ok c => run files known environment (a.apply c)

/-- Misuse has a status of its own. -/
def status : Startup → UInt32
  | help => 0
  | misuse => 2
  | attempted _ _ (some _) => 0
  | attempted _ _ none => 1

end Startup

end Neighborhood
