import Neighborhood.Packet
import Neighborhood.Packet.Reader

/-!
# Packets as frames

Every frame starts with a version byte and a type byte. The layouts behind them are

    announce         count | length | address | identifier × count
    neighbor list    count | length | (identifier | number | address × number) × count
    ping, ack        length | 0 | clock | source | destination
    investigation    length | 0 | clock | source | destination | suspect

where `length` is the length of every address of the frame and the clock is a big-endian word. The
zero is ignored by readers.

* `Packet.decode` — the packet that a frame holds, or the first reason why it holds none
* `Packet.encode` — the frame of a packet, or the first field that does not fit
* `Announce.wireLength`, `Monitor.wireLength`, `Investigation.wireLength` — sizes of frames
-/

namespace Neighborhood

namespace Packet

/-- The version byte of every frame. -/
def version : UInt8 := 1

/-- Bytes of the header. -/
def headerLength : Nat := 2

def header (kind : Kind) : List UInt8 :=
  [version, kind.code]

end Packet

/-! ## Sizes -/

/-- Bytes of an announce with `count` prefixes and an address of `length` bytes. -/
def Announce.wireLength (length count : Nat) : Nat := 4 + length + count * 20

/-- Bytes of a ping or an ack with addresses of `length` bytes. -/
def Monitor.wireLength (length : Nat) : Nat := 8 + 2 * length

/-- Bytes of an investigation with addresses of `length` bytes. -/
def Investigation.wireLength (length : Nat) : Nat := 8 + 3 * length

/-! ## Reading -/

namespace Reader

/-- A length byte that some address has. -/
def haddrLen : Reading UInt8 := do
  let length ← byte
  if length = 0 ∨ 8 < length then throw (.invalidHaddrLen length)
  pure length

def announce : Reading Announce := do
  ensure 2
  let count ← byte
  let length ← haddrLen
  ensure (length.toNat + count.toNat * 20)
  let hwaddr ← hwaddr length
  let xids ← times count.toNat identifier
  pure { hwaddr, xids }

/-- A record is checked against the bytes left before it is read, since its own counts size it. -/
def neighborRecord (length : UInt8) : Reading NeighborRecord := do
  ensure 21
  let xid ← identifier
  let number ← byte
  ensure (number.toNat * length.toNat)
  let hwaddrs ← times number.toNat (hwaddr length)
  pure { xid, hwaddrs }

def neighborList : Reading NeighborList := do
  ensure 2
  let count ← byte
  let haddrLen ← haddrLen
  let neighbors ← times count.toNat (neighborRecord haddrLen)
  pure { haddrLen, neighbors }

/-- What all liveness packets begin with: the length of their addresses, the clock and two addresses;
`suspects` more addresses follow. -/
def probe (suspects : Nat) : Reading (UInt8 × Int32 × HwAddr × HwAddr) := do
  ensure 6
  let length ← haddrLen
  let _ ← byte
  let clock ← int32
  ensure ((2 + suspects) * length.toNat)
  let src ← hwaddr length
  let dest ← hwaddr length
  pure (length, clock, src, dest)

def monitor (role : Monitor.Role) : Reading Monitor := do
  let (_, clock, src, dest) ← probe 0
  pure { role, clock, src, dest }

def investigation (role : Investigation.Role) : Reading Investigation := do
  let (length, clock, src, dest) ← probe 1
  let investigate ← hwaddr length
  pure { role, clock, src, dest, investigate }

/-- The kind that a header names; it is judged before the version. -/
def header : Reading Packet.Kind := do
  ensure Packet.headerLength
  let version ← byte
  let code ← byte
  match Packet.Kind.ofCode? code with
  | none => throw (.unknownKind code)
  | some kind =>
    if version = Packet.version then pure kind else throw (.unsupportedVersion version)

def body : Packet.Kind → Reading Packet
  | .announce => .announce <$> announce
  | .neighborList => .neighborList <$> neighborList
  | .ping => .monitor <$> monitor .ping
  | .ack => .monitor <$> monitor .ack
  | .pingRequest => .investigation <$> investigation .request
  | .investigatePing => .investigation <$> investigation .probe

def packet : Reading Packet := do
  let kind ← header
  let packet ← body kind
  finish
  pure packet

end Reader

/-- The packet whose frame is `frame`. -/
def Packet.decode (frame : List UInt8) : Except DecodeError Packet :=
  (Reader.packet.run ⟨frame⟩).1

/-! ## Writing -/

/-- A count that fits into its byte. -/
def writeCount (field : CountField) (count : Nat) : Except EncodeError UInt8 :=
  if count ≤ 255 then .ok (UInt8.ofNat count) else .error (.tooMany field count)

/-- An address of the declared length. -/
def writeAddr (length : Nat) (addr : HwAddr) : Except EncodeError (List UInt8) :=
  if addr.length = length then .ok addr.bytes else .error (.haddrLenMismatch addr length)

def writeAddrs (length : Nat) (addrs : List HwAddr) : Except EncodeError (List UInt8) := do
  let parts ← addrs.mapM (writeAddr length)
  pure parts.flatten

def Announce.encode (p : Announce) : Except EncodeError (List UInt8) := do
  let count ← writeCount .announcedXids p.xids.length
  let length := UInt8.ofNat p.hwaddr.length
  pure (Packet.header .announce ++ [count, length] ++ p.hwaddr.bytes ++ p.xids.flatMap (·.bytes))

def NeighborRecord.write (length : Nat) (r : NeighborRecord) : Except EncodeError (List UInt8) := do
  let number ← writeCount .recordHosts r.hwaddrs.length
  let addrs ← writeAddrs length r.hwaddrs
  pure (r.xid.bytes ++ [number] ++ addrs)

def NeighborList.encode (p : NeighborList) : Except EncodeError (List UInt8) := do
  let count ← writeCount .neighborRecords p.neighbors.length
  let records ← p.neighbors.mapM (NeighborRecord.write p.haddrLen.toNat)
  pure (Packet.header .neighborList ++ [count, p.haddrLen] ++ records.flatten)

/-- The common form of liveness packets: the length of the first address is the declared one. -/
def writeProbe (kind : Packet.Kind) (clock : Int32) (src : HwAddr) (others : List HwAddr) :
    Except EncodeError (List UInt8) := do
  let addrs ← writeAddrs src.length others
  pure (Packet.header kind ++ [UInt8.ofNat src.length, 0] ++ bytesBE clock.toUInt32 ++ src.bytes ++ addrs)

namespace Packet

def encode : Packet → Except EncodeError (List UInt8)
  | announce p => p.encode
  | neighborList p => p.encode
  | monitor p => writeProbe (monitor p).kind p.clock p.src [p.dest]
  | investigation p => writeProbe (investigation p).kind p.clock p.src [p.dest, p.investigate]

end Packet

end Neighborhood
