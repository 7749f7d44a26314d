import Neighborhood.Packet.Error

/-!
# What can go wrong

* `Error.message` — the wording, the area of the failure first
* `Error.isMalformed` — the failure is a peer's and not this host's
-/

namespace Neighborhood

/-- The protocol rules that a well-formed packet can break. -/
inductive Rejection where
  | severalPrefixes
  | announceLength
  | announceLocal
  | listLength
  | monitorLength
  | noted (reason : String)
deriving DecidableEq

namespace Rejection

def message : Rejection → String
  | severalPrefixes => "announce carries more than one prefix"
  | announceLength => "announce hardware address length mismatch"
  | announceLocal => "announce duplicates local hardware address"
  | listLength => "neighbor list hardware address length mismatch"
  | monitorLength => "monitor hardware address length mismatch"
  | noted reason => reason

end Rejection

inductive Error where
  | socket (reason : String)
  | interface (name reason : String)
  | netlink (reason : String)
  | route (reason : String)
  | principal (reason : String)
  | config (reason : String)
  | decode (cause : DecodeError)
  | encode (cause : EncodeError)
  | rejected (cause : Rejection)
  | io (reason : String)
deriving DecidableEq

namespace Error

def message : Error → String
  | socket reason => "Socket error: " ++ reason
  | interface name reason => "Interface error for " ++ name ++ ": " ++ reason
  | netlink reason => "Netlink error: " ++ reason
  | route reason => "Route error: " ++ reason
  | principal reason => "Principal error: " ++ reason
  | config reason => "Configuration error: " ++ reason
  | decode cause => "Decode error: " ++ cause.message
  | encode cause => "Encode error: " ++ cause.message
  | rejected cause => "Rejected packet: " ++ cause.message
  | io reason => "IO error: " ++ reason

/-- Bad input from a peer: the frame is no packet, or the packet breaks a rule. -/
def isMalformed : Error → Bool
  | decode _ | rejected _ => true
  | _ => false

end Error

end Neighborhood
