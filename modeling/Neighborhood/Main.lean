import Neighborhood.Startup

/-!
# The program

Reads the files that the command line names, prepares a daemon and reports what was logged. The link itself is not
opened: no interface is known here.
-/

namespace Neighborhood

def usage : String :=
  "\n".intercalate
    ["XIA neighbor discovery and liveness monitoring daemon", "", "Usage: nwpd [OPTIONS] [INTERFACE]", "",
      "Options:", "  -c, --config <FILE>                        Configuration file",
      "  -l, --log-level <LEVEL>                    Minimum log level (trace, debug, info, warn, error)",
      "      --principals <FILE>                    Principal name map file",
      "      --try-announce-period <SECONDS>        Seconds between announce attempts",
      "      --ping-period <SECONDS>                Seconds between liveness pings",
      "      --ack-timeout <SECONDS>                Seconds to wait for an ack before investigating",
      "      --investigative-ack-timeout <SECONDS>  Seconds to wait before removing a neighbor",
      "      --investigative-neigh-count <COUNT>    Neighbors asked to investigate a silent neighbor",
      "      --metrics-listen <ADDRESS>             Address for the metrics endpoint",
      "  -h, --help                                 Print help"]

def errnoOf : IO.Error → Errno
  | .noFileOrDirectory _ code _ => ⟨code.toNat⟩
  | .permissionDenied _ code _ => ⟨code.toNat⟩
  | .inappropriateType _ code _ => ⟨code.toNat⟩
  | .invalidArgument _ code _ => ⟨code.toNat⟩
  | _ => ⟨5⟩

/-- The file at a path, with its path. -/
def readFile (path : String) : IO (String × Except Errno (List UInt8)) := do
  try
    let bytes ← IO.FS.readBinFile path
    pure (path, .ok bytes.toList)
  catch e =>
    pure (path, .error (errnoOf e))

def filesOf (found : List (String × Except Errno (List UInt8))) : Files := fun path =>
  (found.lookup path).getD (.error Errno.notFound)

/-- The files that a start with the arguments can ask for. -/
def readFiles (arguments : List String) : IO Files := do
  match CommandLine.parse arguments with
  | .run a =>
    let config ← readFile a.configPath
    match Config.load (filesOf [config]) a.configPath with
    | .ok c =>
      let principals ← readFile (a.apply c).principalsFile
      pure (filesOf [config, principals])
    | .error _ => pure (filesOf [config])
  | _ => pure (filesOf [])

end Neighborhood

open Neighborhood in
def main (arguments : List String) : IO UInt32 := do
  let s := Startup.begin (← readFiles arguments) [] (← IO.getEnv "RUST_LOG") arguments
  match s with
  | .help => IO.println usage
  | .misuse => IO.eprintln "error: the arguments are not as described by 'nwpd --help'"
  | .attempted log complaints _ =>
    for complaint in complaints do
      IO.eprintln complaint
    for event in log do
      IO.println event.line
  pure s.status
