import PacketMeter.Json.Float
import PacketMeter.Number.Tenths
import PacketMeter.Record.Json
import PacketMeter.Stats.Rates
import PacketMeter.Stats.Service
import PacketMeter.Stats.Tally

/-!
# Snapshots

A snapshot is a tally with the rates, the elapsed time and the wall clock of its
moment.  Every ranked key has its share of all packets in percent, which is zero
when there are no packets.

A snapshot is shown as one line, whose times are hours, minutes and seconds and
whose fractions have one decimal place, or as JSON with all that it holds.
-/

namespace PacketMeter.Stats

/-- A moment: the time since a fixed start, and the wall clock. -/
structure Moment where
  instant : Duration
  clock : Timestamp
  deriving Repr, DecidableEq, Inhabited

/-- The share that a key has of all packets. -/
structure Share where
  key : String
  count : UInt64
  percent : Float
  deriving Repr, Inhabited

/-- The share that a destination port has of all packets. -/
structure PortShare where
  port : UInt16
  service? : Option String
  count : UInt64
  percent : Float
  deriving Repr, Inhabited

/-- The statistics of one moment. -/
structure Snapshot where
  time : Timestamp
  packets : UInt64
  bytes : UInt64
  rate : Rate Float
  elapsed : Duration
  protocols : List Share
  talkers : List Share
  destinations : List Share
  ports : List PortShare
  uniqueProtocols : Nat
  uniqueIps : Nat
  deriving Repr, Inhabited

/-- The share of `count` in `total` in percent. -/
def percent (count total : UInt64) : Float :=
  if total = 0 then 0 else count.toFloat / total.toFloat * 100

namespace Share

/-- The share of a counted key in `total`. -/
def ofCount (total : UInt64) (entry : String × UInt64) : Share :=
  ⟨entry.1, entry.2, Stats.percent entry.2 total⟩

def text (s : Share) : String :=
  s.key ++ " " ++ toString s.count.toNat ++ " " ++ Number.onePlace s.percent ++ "%"

/-- A share as a JSON value. -/
def toJson (s : Share) : Json :=
  Json.ofFields [
    ("key", Json.ofText s.key),
    ("count", Json.ofInt s.count.toNat),
    ("percent", Json.ofFloat s.percent)]

end Share

namespace PortShare

/-- The share of a counted port in `total`, with the service that is known there. -/
def ofCount (total : UInt64) (entry : UInt16 × UInt64) : PortShare :=
  ⟨entry.1, serviceName? entry.1, entry.2, Stats.percent entry.2 total⟩

def text (s : PortShare) : String :=
  let name := match s.service? with
    | some service => " (" ++ service ++ ")"
    | none => ""
  toString s.port.toNat ++ name ++ " " ++ toString s.count.toNat ++ " " ++
    Number.onePlace s.percent ++ "%"

/-- A share as a JSON value. -/
def toJson (s : PortShare) : Json :=
  Json.ofFields [
    ("port", Json.ofInt s.port.toNat),
    ("service", match s.service? with
      | some service => Json.ofText service
      | none => .null),
    ("count", Json.ofInt s.count.toNat),
    ("percent", Json.ofFloat s.percent)]

end PortShare

namespace Snapshot

def ofTally (t : Tally) (rate : Rate Float) (elapsed : Duration) (time : Timestamp) :
    Snapshot where
  time
  packets := t.packets
  bytes := t.bytes
  rate
  elapsed
  protocols := t.protocols.map (Share.ofCount t.packets)
  talkers := t.sources.map (Share.ofCount t.packets)
  destinations := t.destinations.map (Share.ofCount t.packets)
  ports := t.ports.map (PortShare.ofCount t.packets)
  uniqueProtocols := t.uniqueProtocols
  uniqueIps := t.uniqueIps

/-- A span of time as hours, minutes and seconds. -/
def clockText (d : Duration) : String :=
  let n := d.seconds
  Decimal.padded 2 (n / 3600) ++ ":" ++ Decimal.padded 2 (n / 60 % 60) ++ ":" ++
    Decimal.padded 2 (n % 60)

/-- The numbers of packets and bytes. -/
def totalsText (s : Snapshot) : String :=
  toString s.packets.toNat ++ " packets, " ++ toString s.bytes.toNat ++ " bytes"

def rateText (r : Rate Float) : String :=
  Number.onePlace r.current ++ " pps (avg " ++ Number.onePlace r.average ++ ", max " ++
    Number.onePlace r.greatest ++ ")"

/-- The shares of the protocols, a comma before each. -/
def protocolsText (s : Snapshot) : String :=
  String.join (s.protocols.map fun share => ", " ++ share.text)

/-- The line that shows a snapshot. -/
def text (s : Snapshot) : String :=
  clockText s.elapsed ++ " " ++ s.totalsText ++ ", " ++ rateText s.rate ++ s.protocolsText

def rateJson (r : Rate Float) : Json :=
  Json.ofFields [
    ("current", Json.ofFloat r.current),
    ("average", Json.ofFloat r.average),
    ("max", Json.ofFloat r.greatest)]

/-- A span of time as a JSON value. -/
def elapsedJson (d : Duration) : Json :=
  Json.ofFields [("secs", Json.ofInt d.seconds), ("nanos", Json.ofInt d.subNanos)]

/-- The members of a snapshot that depend only on what was counted. -/
def countsJson (s : Snapshot) : List (String × Json) := [
  ("protocols", .array (s.protocols.map Share.toJson)),
  ("talkers", .array (s.talkers.map Share.toJson)),
  ("destinations", .array (s.destinations.map Share.toJson)),
  ("ports", .array (s.ports.map PortShare.toJson)),
  ("unique_protocols", Json.ofInt s.uniqueProtocols),
  ("unique_ips", Json.ofInt s.uniqueIps)]

/-- A snapshot as a JSON value, with what stands for its moment given apart. -/
def jsonWith (s : Snapshot) (time rate elapsed : Json) : Json :=
  Json.ofFields ([
    ("time", time),
    ("packets", Json.ofInt s.packets.toNat),
    ("bytes", Json.ofInt s.bytes.toNat),
    ("rate", rate),
    ("elapsed", elapsed)] ++ s.countsJson)

/-- A snapshot as a JSON value. -/
def toJson (s : Snapshot) : Json :=
  s.jsonWith s.time.toJson (rateJson s.rate) (elapsedJson s.elapsed)

end Snapshot

end PacketMeter.Stats
