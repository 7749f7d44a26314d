import Neighborhood.Config

/-!
# The command line

* `CommandLine.parse` — the arguments, a wish for help, or a misuse
* `Arguments.apply` — what the arguments say wins over the configuration
-/

namespace Neighborhood

/-! ## Options -/

/-- The options, each of which takes a value. -/
inductive CommandOption where
  | config
  | logLevel
  | principals
  | tryAnnouncePeriod
  | pingPeriod
  | ackTimeout
  | investigativeAckTimeout
  | investigativeCount
  | metricsListen
deriving DecidableEq

namespace CommandOption

def name : CommandOption → String
  | config => "config"
  | logLevel => "log-level"
  | principals => "principals"
  | tryAnnouncePeriod => "try-announce-period"
  | pingPeriod => "ping-period"
  | ackTimeout => "ack-timeout"
  | investigativeAckTimeout => "investigative-ack-timeout"
  | investigativeCount => "investigative-neigh-count"
  | metricsListen => "metrics-listen"

def all : List CommandOption :=
  [config, logLevel, principals, tryAnnouncePeriod, pingPeriod, ackTimeout, investigativeAckTimeout,
    investigativeCount, metricsListen]

def ofName? (name : List Char) : Option CommandOption :=
  all.find? (·.name.toList == name)

def ofLetter? : Char → Option CommandOption
  | 'c' => some config
  | 'l' => some logLevel
  | _ => none

end CommandOption

/-! ## Arguments -/

/-- What the command line has said so far. -/
structure Arguments where
  interface : Option String := none
  configFile : Option String := none
  logLevel : Option String := none
  principalsFile : Option String := none
  tryAnnouncePeriod : Option Nat := none
  pingPeriod : Option Nat := none
  ackTimeout : Option Nat := none
  investigativeAckTimeout : Option Nat := none
  investigativeCount : Option Nat := none
  metricsListen : Option SocketAddr := none
deriving DecidableEq

namespace Arguments

variable (a : Arguments)

/-- A thing said once; a value that cannot be read is refused as a second one is. -/
def once {α : Type} (old new : Option α) : Option (Option α) :=
  match old, new with
  | none, some value => some (some value)
  | _, _ => none

/-- A decimal number of 64 bits. -/
def number? (value : String) : Option Nat :=
  Numeral.parse? 10 (UInt64.size - 1) value.toList

/-- The name of a configuration file is not empty. -/
def fileName? (value : String) : Option String :=
  if value.isEmpty then none else some value

def set (option : CommandOption) (value : String) : Option Arguments :=
  match option with
  | .config => (once a.configFile (fileName? value)).map fun v => { a with configFile := v }
  | .logLevel => (once a.logLevel (some value)).map fun v => { a with logLevel := v }
  | .principals => (once a.principalsFile (some value)).map fun v => { a with principalsFile := v }
  | .tryAnnouncePeriod => (once a.tryAnnouncePeriod (number? value)).map fun v => { a with tryAnnouncePeriod := v }
  | .pingPeriod => (once a.pingPeriod (number? value)).map fun v => { a with pingPeriod := v }
  | .ackTimeout => (once a.ackTimeout (number? value)).map fun v => { a with ackTimeout := v }
  | .investigativeAckTimeout =>
    (once a.investigativeAckTimeout (number? value)).map fun v => { a with investigativeAckTimeout := v }
  | .investigativeCount => (once a.investigativeCount (number? value)).map fun v => { a with investigativeCount := v }
  | .metricsListen =>
    (once a.metricsListen (SocketAddr.parse? value)).map fun v => { a with metricsListen := v }

/-- The one operand names the interface. -/
def setOperand (value : String) : Option Arguments :=
  (once a.interface (some value)).map fun v => { a with interface := v }

def configPath : String :=
  a.configFile.getD "/etc/xia/nwpd.conf"

def apply (c : Config) : Config where
  interface := a.interface.getD c.interface
  logLevel := a.logLevel.getD c.logLevel
  principalsFile := a.principalsFile.getD c.principalsFile
  tryAnnouncePeriod := a.tryAnnouncePeriod.getD c.tryAnnouncePeriod
  pingPeriod := a.pingPeriod.getD c.pingPeriod
  ackTimeout := a.ackTimeout.getD c.ackTimeout
  investigativeAckTimeout := a.investigativeAckTimeout.getD c.investigativeAckTimeout
  investigativeCount := a.investigativeCount.getD c.investigativeCount
  metricsListen := a.metricsListen.or c.metricsListen

end Arguments

/-! ## Parsing -/

inductive CommandLine where
  | run (arguments : Arguments)
  | help
  | misuse
deriving DecidableEq

namespace CommandLine

/-- One argument by its form. -/
inductive Form where
  | operand
  /-- A value is missing, and the next argument is to give it. -/
  | option (option : CommandOption)
  | valued (option : CommandOption) (value : String)
  | help
  | endOfOptions
  | unknown

/-- After two dashes: a name, and a value after an equals sign. -/
def longForm (body : List Char) : Form :=
  let name := body.takeWhile (· ≠ '=')
  match CommandOption.ofName? name, body.dropWhile (· ≠ '=') with
  | some option, [] => .option option
  | some option, _ :: value => .valued option (String.ofList value)
  | none, [] => if name = "help".toList then .help else .unknown
  | none, _ => .unknown

/-- After one dash: a letter, and a value right behind it or behind an equals sign. -/
def shortForm (letter : Char) (body : List Char) : Form :=
  match CommandOption.ofLetter? letter, body with
  | some option, [] => .option option
  | some option, '=' :: value => .valued option (String.ofList value)
  | some option, value => .valued option (String.ofList value)
  | none, _ => if letter = 'h' then .help else .unknown

/-- A dash alone is an operand. -/
def form (argument : String) : Form :=
  match argument.toList with
  | ['-', '-'] => .endOfOptions
  | '-' :: '-' :: body => longForm body
  | '-' :: letter :: body => shortForm letter body
  | _ => .operand

def operands (a : Arguments) : List String → CommandLine
  | [] => .run a
  | argument :: rest =>
    match a.setOperand argument with
    | some a => operands a rest
    | none => .misuse

/-- The first argument that is wrong or asks for help decides. -/
def parseFrom (a : Arguments) : List String → CommandLine
  | [] => .run a
  | argument :: rest =>
    match form argument with
    | .operand =>
      match a.setOperand argument with
      | some a => parseFrom a rest
      | none => .misuse
    | .valued option value =>
      match a.set option value with
      | some a => parseFrom a rest
      | none => .misuse
    | .option option =>
      match rest with
      | [] => .misuse
      | value :: rest =>
        match form value with
        | .operand =>
          match a.set option value with
          | some a => parseFrom a rest
          | none => .misuse
        | _ => .misuse
    | .help => .help
    | .endOfOptions => operands a rest
    | .unknown => .misuse

def parse (arguments : List String) : CommandLine :=
  parseFrom {} arguments

end CommandLine

end Neighborhood
