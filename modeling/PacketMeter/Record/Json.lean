import PacketMeter.Json.Fields
import PacketMeter.Record

/-!
# Packet records in JSON

Timestamps and packet records are values with named fields.  The captured bytes
are an array of whole numbers.
-/

namespace PacketMeter

namespace Timestamp

/-- The names of the fields of a timestamp. -/
def fieldNames : List String := ["sec", "usec"]

/-- A timestamp as a JSON value. -/
def toJson (t : Timestamp) : Json :=
  Json.ofFields [("sec", Json.ofInt t.sec.toNat), ("usec", Json.ofInt t.usec.toNat)]

/-- The timestamp that a JSON value describes. -/
def ofJson? (v : Json) : Option Timestamp := do
  match ← v.allFields? fieldNames with
  | [sec, usec] =>
    return ⟨(← sec.natural? UInt64.size).toUInt64, (← usec.natural? UInt32.size).toUInt32⟩
  | _ => none

end Timestamp

namespace PacketRecord

/-- The names of the fields of a record. -/
def fieldNames : List String :=
  ["id", "src_port", "dst_port", "protocol", "src_ip", "dst_ip", "src_mac", "dst_mac", "host",
    "capture_len", "original_len", "timestamp", "raw"]

/-- A record as a JSON value. -/
def toJson (r : PacketRecord) : Json :=
  Json.ofFields [
    ("id", Json.ofInt r.id.toInt),
    ("src_port", Json.ofInt r.srcPort.toNat),
    ("dst_port", Json.ofInt r.dstPort.toNat),
    ("protocol", Json.ofText r.protocol),
    ("src_ip", Json.ofText r.srcIp),
    ("dst_ip", Json.ofText r.dstIp),
    ("src_mac", Json.ofText r.srcMac),
    ("dst_mac", Json.ofText r.dstMac),
    ("host", Json.ofText r.host),
    ("capture_len", Json.ofInt r.captureLen.toNat),
    ("original_len", Json.ofInt r.originalLen.toNat),
    ("timestamp", r.timestamp.toJson),
    ("raw", .array (r.raw.map fun b => Json.ofInt b.toNat))]

/-- The bytes that an array of whole numbers below 256 describes. -/
def bytesOfJson? : Json → Option (List UInt8)
  | .array elements => elements.mapM fun v => (v.natural? 256).map Nat.toUInt8
  | _ => none

/-- The record that a JSON value describes. -/
def ofJson? (v : Json) : Option PacketRecord := do
  match ← v.allFields? fieldNames with
  | [id, srcPort, dstPort, protocol, srcIp, dstIp, srcMac, dstMac, host, captureLen, originalLen,
      timestamp, raw] =>
    return {
      id := Int32.ofInt (← id.integerBetween? Int32.minValue.toInt Int32.maxValue.toInt)
      srcPort := (← srcPort.natural? UInt16.size).toUInt16
      dstPort := (← dstPort.natural? UInt16.size).toUInt16
      protocol := ← protocol.text?
      srcIp := ← srcIp.text?
      dstIp := ← dstIp.text?
      srcMac := ← srcMac.text?
      dstMac := ← dstMac.text?
      host := ← host.text?
      captureLen := (← captureLen.natural? UInt32.size).toUInt32
      originalLen := (← originalLen.natural? UInt32.size).toUInt32
      timestamp := ← Timestamp.ofJson? timestamp
      raw := ← bytesOfJson? raw }
  | _ => none

end PacketRecord

end PacketMeter
