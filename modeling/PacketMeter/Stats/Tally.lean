import PacketMeter.Config
import PacketMeter.Record
import PacketMeter.Stats.Ranking

/-!
# Counters and tallies

Counters count packets: how many, how many bytes, and how often each protocol,
source, destination and destination port was seen.  A field that is empty and the
port zero are not counted under a key.

A tally is what counters say at one moment, with the keys ranked and cut to the
limits of the configuration.
-/

namespace PacketMeter.Stats

/-- What counters say at one moment. -/
structure Tally where
  packets : UInt64
  bytes : UInt64
  protocols : Counts String
  sources : Counts String
  destinations : Counts String
  ports : Counts UInt16
  uniqueProtocols : Nat
  uniqueIps : Nat
  deriving Repr, DecidableEq, Inhabited

/-- Counters of packets.  Numbers of packets and bytes are words, and start at
zero again after the greatest. -/
structure Counters where
  packets : UInt64
  bytes : UInt64
  protocols : Counts String
  sources : Counts String
  destinations : Counts String
  ports : Counts UInt16
  deriving Repr, DecidableEq, Inhabited

namespace Counters

/-- Counters that have seen nothing. -/
def empty : Counters := ⟨0, 0, [], [], [], []⟩

/-- Counts a text field, unless it is empty. -/
def bumpText (key : String) (counts : Counts String) : Counts String :=
  if key.isEmpty then counts else counts.bump key

/-- Counts a port, unless it is zero. -/
def bumpPort (port : UInt16) (counts : Counts UInt16) : Counts UInt16 :=
  if port = 0 then counts else counts.bump port

def record (c : Counters) (r : PacketRecord) : Counters where
  packets := c.packets + 1
  bytes := c.bytes + r.bytes
  protocols := bumpText r.protocol c.protocols
  sources := bumpText r.srcIp c.sources
  destinations := bumpText r.dstIp c.destinations
  ports := bumpPort r.dstPort c.ports

/-- Counts packets one after the other. -/
def recordAll (c : Counters) (records : List PacketRecord) : Counters := records.foldl record c

/-- The addresses that were seen, each once. -/
def addresses (c : Counters) : List String :=
  c.sources.keys ++ c.destinations.keys.filter fun ip => !c.sources.keys.contains ip

/-- What the counters say. -/
def tally (c : Counters) (cfg : StatsConfig) : Tally where
  packets := c.packets
  bytes := c.bytes
  protocols := rank c.protocols cfg.protocols
  sources := rank c.sources cfg.talkers
  destinations := rank c.destinations cfg.talkers
  ports := rank c.ports cfg.ports
  uniqueProtocols := c.protocols.length
  uniqueIps := c.addresses.length

@[simp] theorem recordAll_nil (c : Counters) : c.recordAll [] = c := rfl

@[simp] theorem recordAll_cons (c : Counters) (r : PacketRecord) (rs : List PacketRecord) :
    c.recordAll (r :: rs) = (c.record r).recordAll rs := rfl

/-- Counting in parts is counting all. -/
@[simp] theorem recordAll_append (c : Counters) (rs qs : List PacketRecord) :
    c.recordAll (rs ++ qs) = (c.recordAll rs).recordAll qs := by
  simp [recordAll]

end Counters

end PacketMeter.Stats
