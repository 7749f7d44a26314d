import Neighborhood.HwAddr

/-!
# Why a frame is no packet, and why a packet has no frame

* `DecodeError.message`, `EncodeError.message` — the wording
-/

namespace Neighborhood

/-- Why a frame is refused. -/
inductive DecodeError where
  | truncated (needed remaining : Nat)
  | unknownKind (code : UInt8)
  | unsupportedVersion (version : UInt8)
  | invalidHaddrLen (length : UInt8)
  | trailingBytes (count : Nat)
deriving DecidableEq

/-- What a count byte counts. -/
inductive CountField where
  | announcedXids
  | neighborRecords
  | recordHosts
  | named (name : String)
deriving DecidableEq

/-- Why a packet cannot be written. -/
inductive EncodeError where
  | tooMany (field : CountField) (count : Nat)
  | haddrLenMismatch (addr : HwAddr) (expected : Nat)
deriving DecidableEq

namespace DecodeError

def message : DecodeError → String
  | truncated needed remaining => s!"truncated frame: need {needed} bytes, {remaining} remaining"
  | unknownKind code => "unknown packet type " ++ Hex.marked code
  | unsupportedVersion version => "unsupported protocol version " ++ Hex.marked version
  | invalidHaddrLen length => s!"invalid hardware address length {length}"
  | trailingBytes count => s!"{count} trailing bytes after packet"

end DecodeError

namespace CountField

def name : CountField → String
  | announcedXids => "announced XIDs"
  | neighborRecords => "neighbor records"
  | recordHosts => "hardware addresses per record"
  | named name => name

end CountField

namespace EncodeError

def message : EncodeError → String
  | tooMany field count => "too many " ++ field.name ++ s!": {count} exceeds 255"
  | haddrLenMismatch addr expected =>
    s!"hardware address {addr} does not match declared length {expected}"

end EncodeError

end Neighborhood
