import PacketMeter.Failure
import PacketMeter.Stats.Tally

/-!
# Native feeds

An engine may count packets itself.  Its counters are a native feed, which is
asked for totals and for its most frequent keys, and can be cleared and switched
on and off.  Every question may fail.

Whatever answers the questions is a parameter: a type of states with an answer
for every feed, every question and every state.  Feeds are known by number.

A feed may answer a question for its most frequent keys with more keys than it
was asked for, and in any order, so its answers are ranked again.
-/

namespace PacketMeter.Stats

/-- The totals of a native feed. -/
structure FeedTotals where
  packets : UInt64
  bytes : UInt64
  protocols : UInt64
  sources : UInt64
  destinations : UInt64
  deriving Repr, DecidableEq, Inhabited

/-- A question to a native feed, with the type of its answer. -/
inductive FeedCall : Type → Type 1 where
  | enable (on : Bool) : FeedCall Unit
  | clear : FeedCall Unit
  | totals : FeedCall FeedTotals
  | protocols (limit : Nat) : FeedCall (Counts String)
  | sources (limit : Nat) : FeedCall (Counts String)
  | destinations (limit : Nat) : FeedCall (Counts String)
  | ports (limit : Nat) : FeedCall (Counts UInt16)

/-- States in which native feeds answer questions. -/
class FeedHost (σ : Type) where
  answer {α : Type} : Nat → FeedCall α → σ → Except Failure α × σ

namespace Feed

variable {σ : Type} [FeedHost σ]

/-- Asks a feed to count or to stop counting. -/
def enable (feed : Nat) (on : Bool) (s : σ) : Except Failure Unit × σ :=
  FeedHost.answer feed (.enable on) s

/-- Asks a feed to start counting from zero. -/
def clear (feed : Nat) (s : σ) : Except Failure Unit × σ :=
  FeedHost.answer feed .clear s

/-- What is done with the answer to one question before the next is asked. -/
def andThen {α β : Type} (asked : Except Failure α × σ) (next : α → σ → Except Failure β × σ) :
    Except Failure β × σ :=
  match asked with
  | (.ok a, s) => next a s
  | (.error f, s) => (.error f, s)

/-- What a feed says.  The first question that fails ends the asking. -/
def tally (feed : Nat) (cfg : StatsConfig) (s : σ) : Except Failure Tally × σ :=
  andThen (FeedHost.answer feed .totals s) fun totals s =>
  andThen (FeedHost.answer feed (.protocols cfg.protocols) s) fun protocols s =>
  andThen (FeedHost.answer feed (.sources cfg.talkers) s) fun sources s =>
  andThen (FeedHost.answer feed (.destinations cfg.talkers) s) fun destinations s =>
  andThen (FeedHost.answer feed (.ports cfg.ports) s) fun ports s =>
    (.ok {
      packets := totals.packets
      bytes := totals.bytes
      protocols := rank protocols cfg.protocols
      sources := rank sources cfg.talkers
      destinations := rank destinations cfg.talkers
      ports := rank ports cfg.ports
      uniqueProtocols := totals.protocols.toNat
      uniqueIps := (totals.sources + totals.destinations).toNat }, s)

end Feed

end PacketMeter.Stats
