import PacketMeter.Stats.Feed
import PacketMeter.Stats.Snapshot

/-!
# The aggregator

The aggregator turns packets into snapshots.  Its counts come from its own
counters or from a native feed, and `switch` chooses which.  While a capture
session runs it also samples the packet rate, and it knows how long the session
lasts or lasted.

Operations that read or change counts may ask the native feed and fail with it.
They give the answer and the new states of the aggregator and of the feeds.
-/

namespace PacketMeter.Stats

/-- Where counts come from. -/
inductive Source where
  | managed
  | native
  deriving Repr, DecidableEq, Inhabited

/-- Everything that snapshots are made from.  Recording looks at `native`, all
other operations look at `feed?`. -/
structure Aggregator where
  cfg : StatsConfig
  counters : Counters
  feed? : Option Nat
  native : Bool
  rates : Rates Float
  started? : Option Duration
  frozen : Duration
  deriving Repr, Inhabited

namespace Aggregator

/-- An aggregator that has counted nothing. -/
def make (cfg : StatsConfig) : Aggregator where
  cfg
  counters := Counters.empty
  feed? := none
  native := false
  rates := Rates.make cfg.history
  started? := none
  frozen := ⟨0⟩

/-- Counts a packet, unless a native feed counts. -/
def record (a : Aggregator) (r : PacketRecord) : Aggregator :=
  if a.native then a else { a with counters := a.counters.record r }

/-- Counts packets one after the other. -/
def recordAll (a : Aggregator) (records : List PacketRecord) : Aggregator :=
  records.foldl record a

def source (a : Aggregator) : Source := if a.native then .native else .managed

/-- How long the running session lasts, or the last one lasted. -/
def elapsed (a : Aggregator) (now : Duration) : Duration :=
  match a.started? with
  | some start => now.since start
  | none => a.frozen

/-- Starts the time of a session. -/
def begin (a : Aggregator) (now : Duration) : Aggregator :=
  { a with started? := some now, frozen := ⟨0⟩, rates := a.rates.restart }

/-- Ends the time of a session. -/
def finish (a : Aggregator) (now : Duration) : Aggregator :=
  { a with frozen := a.elapsed now, started? := none }

variable {σ : Type} [FeedHost σ]

/-- What the chosen source says. -/
def tally (a : Aggregator) (s : σ) : Except Failure Tally × σ :=
  match a.feed? with
  | some feed => Feed.tally feed a.cfg s
  | none => (.ok (a.counters.tally a.cfg), s)

/-- The rates at a moment with a packet total.  A sample is taken only in a
session. -/
def sampled (a : Aggregator) (now : Duration) (total : UInt64) : Rates Float :=
  if a.started?.isSome then a.rates.sample now total else a.rates

def tick (a : Aggregator) (now : Moment) (s : σ) :
    Except Failure Snapshot × Aggregator × σ :=
  match a.tally s with
  | (.error f, s) => (.error f, a, s)
  | (.ok t, s) =>
    let rates := a.sampled now.instant t.packets
    (.ok (Snapshot.ofTally t rates.rate (a.elapsed now.instant) now.clock), { a with rates }, s)

/-- Sets the counts of the chosen source to zero. -/
def clearCounts (a : Aggregator) (s : σ) : Except Failure Unit × Aggregator × σ :=
  match a.feed? with
  | some feed =>
    let (outcome, s) := Feed.clear feed s
    (outcome, a, s)
  | none => (.ok (), { a with counters := Counters.empty }, s)

/-- Starts the statistics anew, also the time of a running session. -/
def clear (a : Aggregator) (now : Duration) (s : σ) : Except Failure Unit × Aggregator × σ :=
  match a.clearCounts s with
  | (.error f, a, s) => (.error f, a, s)
  | (.ok (), a, s) =>
    (.ok (), { a with
      rates := a.rates.clear
      frozen := ⟨0⟩
      started? := a.started?.map fun _ => now }, s)

/-- Lets go of the native feed, which is switched off.  It does not matter whether
that fails. -/
def release (a : Aggregator) (s : σ) : Aggregator × σ :=
  match a.feed? with
  | some feed =>
    let (_, s) := Feed.enable feed false s
    ({ a with feed? := none, native := false }, s)
  | none => ({ a with native := false }, s)

/-- Takes a native feed, which is switched on and starts from zero. -/
def install (a : Aggregator) (feed : Nat) (s : σ) : Except Failure Unit × Aggregator × σ :=
  match Feed.enable feed true s with
  | (.error f, s) => (.error f, a, s)
  | (.ok (), s) =>
    match Feed.clear feed s with
    | (.error f, s) => (.error f, a, s)
    | (.ok (), s) => (.ok (), { a with feed? := some feed, native := true }, s)

/-- The failure of an engine that does not count. -/
def noFeed : Failure := .engineUnavailable "engine keeps no native statistics"

/-- Starts the own counters and the rates anew. -/
def reset (a : Aggregator) : Aggregator :=
  { a with counters := Counters.empty, rates := a.rates.clear }

/-- Chooses the source of counts and starts the statistics anew.  The native
source needs a feed. -/
def switch (a : Aggregator) (source : Source) (feed? : Option Nat) (s : σ) :
    Except Failure Unit × Aggregator × σ :=
  match source, feed? with
  | .managed, _ =>
    let (a, s) := a.release s
    (.ok (), a.reset, s)
  | .native, none => (.error noFeed, a, s)
  | .native, some feed =>
    let (a, s) := a.release s
    match a.install feed s with
    | (.error f, a, s) => (.error f, a, s)
    | (.ok (), a, s) => (.ok (), a.reset, s)

@[simp] theorem recordAll_nil (a : Aggregator) : a.recordAll [] = a := rfl

@[simp] theorem recordAll_cons (a : Aggregator) (r : PacketRecord) (rs : List PacketRecord) :
    a.recordAll (r :: rs) = (a.record r).recordAll rs := rfl

/-- Recording in batches is recording all. -/
@[simp] theorem recordAll_append (a : Aggregator) (rs qs : List PacketRecord) :
    a.recordAll (rs ++ qs) = (a.recordAll rs).recordAll qs := by
  simp [recordAll]

/-- A native feed counts by itself. -/
theorem record_of_native {a : Aggregator} (r : PacketRecord) (h : a.native = true) :
    a.record r = a := by
  simp [record, h]

theorem record_of_managed {a : Aggregator} (r : PacketRecord) (h : a.native = false) :
    a.record r = { a with counters := a.counters.record r } := by
  simp [record, h]

end Aggregator

end PacketMeter.Stats
