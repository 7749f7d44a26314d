import Neighborhood.Error
import Neighborhood.File
import Neighborhood.SocketAddr
import Neighborhood.Toml.Document

/-!
# Configuration

* `Config.ofEntries?`, `Config.load` — what a file says, with defaults for what it leaves open
* `Config.validate` — an interface is named, and every period is positive
-/

namespace Neighborhood

structure Config where
  /-- The interface to listen on. -/
  interface : String := ""
  logLevel : String := "info"
  principalsFile : String := "/etc/xia/principals"
  /-- Seconds between attempts to announce. -/
  tryAnnouncePeriod : Nat := 2
  /-- Seconds between pings. -/
  pingPeriod : Nat := 5
  /-- Seconds to wait for an ack before investigating. -/
  ackTimeout : Nat := 5
  /-- Seconds to wait for an investigative ack before evicting. -/
  investigativeAckTimeout : Nat := 5
  /-- The neighbors asked to investigate a silent one. -/
  investigativeCount : Nat := 10
  /-- Where metrics are served, if anywhere. -/
  metricsListen : Option SocketAddr := none
deriving DecidableEq

/-- Why there is no configuration. -/
inductive ConfigError where
  | malformed (path : String)
  | unreadable (cause : FileError)
deriving DecidableEq

def ConfigError.toError : ConfigError → Error
  | malformed path => .config ("Failed to parse config file " ++ path)
  | unreadable cause => .io cause.message

namespace Config

/-! ## The file -/

/-- The text under a key, or the default if there is no such key; another kind of value is refused. -/
def textOr (entries : Toml.Entries) (key default : String) : Option String :=
  match entries.lookup key with
  | none => some default
  | some (.string text) => some text
  | some _ => none

/-- A number of 64 bits without sign. -/
def numberOr (entries : Toml.Entries) (key : String) (default : Nat) : Option Nat :=
  match entries.lookup key with
  | none => some default
  | some (.integer n) => if 0 ≤ n ∧ n.toNat < UInt64.size then some n.toNat else none
  | some _ => none

def addressOr (entries : Toml.Entries) (key : String) (default : Option SocketAddr) : Option (Option SocketAddr) :=
  match entries.lookup key with
  | none => some default
  | some (.string text) => (SocketAddr.parse? text).map some
  | some _ => none

/-- Keys of other names say nothing. -/
def ofEntries? (entries : Toml.Entries) : Option Config := do
  let d : Config := {}
  pure {
    interface := ← textOr entries "interface" d.interface
    logLevel := ← textOr entries "log_level" d.logLevel
    principalsFile := ← textOr entries "principals_file" d.principalsFile
    tryAnnouncePeriod := ← numberOr entries "try_announce_period_secs" d.tryAnnouncePeriod
    pingPeriod := ← numberOr entries "monitor_ping_period_secs" d.pingPeriod
    ackTimeout := ← numberOr entries "monitor_ack_timeout_secs" d.ackTimeout
    investigativeAckTimeout :=
      ← numberOr entries "monitor_investigative_ack_timeout_secs" d.investigativeAckTimeout
    investigativeCount := ← numberOr entries "monitor_investigative_neigh_count" d.investigativeCount
    metricsListen := ← addressOr entries "metrics_listen" d.metricsListen }

/-- A file that does not exist leaves everything open. -/
def load (files : Files) (path : String) : Except ConfigError Config :=
  match files.text? path with
  | .ok text =>
    match (Toml.parse? text).bind ofEntries? with
    | some c => .ok c
    | none => .error (.malformed path)
  | .error e => if e.isMissing then .ok {} else .error (.unreadable e)

/-! ## Validity -/

/-- The periods and their names in files, in the order in which they are checked. -/
def periods (c : Config) : List (String × Nat) :=
  [("try_announce_period_secs", c.tryAnnouncePeriod), ("monitor_ping_period_secs", c.pingPeriod),
    ("monitor_ack_timeout_secs", c.ackTimeout),
    ("monitor_investigative_ack_timeout_secs", c.investigativeAckTimeout)]

def validate (c : Config) : Except Error Unit :=
  if c.interface.isEmpty then .error (.config "interface not specified")
  else
    match c.periods.find? (·.2 = 0) with
    | some (name, _) => .error (.config s!"{name} must be > 0")
    | none => .ok ()

end Config

end Neighborhood
