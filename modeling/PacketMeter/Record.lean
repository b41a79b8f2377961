import PacketMeter.ClockTime

/-!
# Packet records

A record is what the capture engine reports about one packet: who sent it to
whom, over which protocol, when, and the captured bytes.  A record whose id is
`PacketRecord.heartbeatId` reports nothing; the engine sends it to show that it
is alive.

The length of a packet on the wire is `originalLen`.  An engine that does not
know it reports zero, and then the captured length stands in.
-/

namespace PacketMeter

/-- A moment after the start of 1970, to the microsecond. -/
structure Timestamp where
  sec : UInt64
  usec : UInt32
  deriving Repr, DecidableEq, Inhabited

namespace Timestamp

/-- The zero moment. -/
def epoch : Timestamp := ⟨0, 0⟩

/-- The timestamp of a moment that lies `nanos` nanoseconds after the start of
1970.  Parts of a microsecond are dropped, and every earlier moment becomes
zero. -/
def ofNanos (nanos : Int) : Timestamp :=
  if nanos < 0 then epoch
  else ⟨UInt64.ofNat (nanos.toNat / 1000000000), UInt32.ofNat (nanos.toNat % 1000000000 / 1000)⟩

/-- The timestamp of a time on the clock. -/
def ofClock (c : ClockTime) : Timestamp := ofNanos c.toNanos

/-- The nanoseconds from the start of 1970 to the moment. -/
def nanos (t : Timestamp) : Nat := t.sec.toNat * 1000000000 + t.usec.toNat * 1000

/-- The time on the clock, which is the seconds and then the microseconds after the
start of 1970. -/
def clock? (t : Timestamp) : Option ClockTime :=
  (ClockTime.start.add? (.ofSeconds t.sec.toNat)).bind fun c => c.add? (.ofMicros t.usec.toNat)

/-- The moment in nanoseconds, when the clock has it. -/
def nanos? (t : Timestamp) : Option Nat := t.clock?.map fun c => c.toNanos.toNat

/-- Earlier seconds come first, and among equal seconds earlier microseconds. -/
def le (a b : Timestamp) : Bool :=
  a.sec < b.sec || (a.sec == b.sec && a.usec ≤ b.usec)

/-- The timestamps in order of time. -/
def sort (ts : List Timestamp) : List Timestamp := ts.mergeSort le

end Timestamp

/-- What the engine reports about one packet. -/
structure PacketRecord where
  id : Int32
  srcPort : UInt16
  dstPort : UInt16
  protocol : String
  srcIp : String
  dstIp : String
  srcMac : String
  dstMac : String
  host : String
  captureLen : UInt32
  originalLen : UInt32
  timestamp : Timestamp
  raw : List UInt8
  deriving Repr, DecidableEq, Inhabited

namespace PacketRecord

/-- The id of records that report no packet. -/
def heartbeatId : Int32 := 1000

/-- Whether a record reports no packet. -/
def isHeartbeat (r : PacketRecord) : Bool := r.id == heartbeatId

/-- The bytes of the packet on the wire. -/
def bytes (r : PacketRecord) : UInt64 :=
  if r.originalLen = 0 then r.captureLen.toUInt64 else r.originalLen.toUInt64

def text (r : PacketRecord) : String :=
  "#" ++ toString r.id.toInt ++ " " ++ r.protocol ++ " " ++
    r.srcIp ++ ":" ++ toString r.srcPort.toNat ++ " -> " ++
    r.dstIp ++ ":" ++ toString r.dstPort.toNat ++
    " (" ++ toString r.bytes.toNat ++ " bytes)"

end PacketRecord

end PacketMeter
