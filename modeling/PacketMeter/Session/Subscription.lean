import PacketMeter.Channel.Handles
import PacketMeter.Filter

/-!
# Subscriptions

A subscription yields the batches of one queue of records.  It may have a filter,
and then every batch is cut down to the records that the filter selects, and a
batch of which nothing is left is passed over.  The filter changes neither the
order of the records nor the end of the batches.
-/

namespace PacketMeter.Session

/-- The batches of a queue of a channel, both known by number. -/
structure Subscription where
  channel : Nat
  stream : ItemStream
  filter? : Option Filter
  deriving Repr, Inhabited

namespace Subscription

/-- A subscription that has yielded nothing. -/
def make (channel queue : Nat) (filter? : Option Filter) : Subscription :=
  ⟨channel, ⟨queue, .batch, none, false⟩, filter?⟩

/-- The records of a batch that a filter, if there is one, selects. -/
def selected (filter? : Option Filter) (batch : List PacketRecord) : List PacketRecord :=
  match filter? with
  | some f => f.select batch
  | none => batch

/-- Asks for the next batch, up to so many times. -/
def askWithin (rounds : Nat) (s : Subscription) (packets : Channel PacketRecord) :
    Poll PacketRecord × Subscription × Channel PacketRecord :=
  match rounds with
  | 0 => (.pending, s, packets)
  | rounds + 1 =>
    let (result, stream, packets) := ChannelHandles.askStream packets s.stream
    let s := { s with stream }
    match result with
    | .ready batch =>
      let kept := selected s.filter? batch
      if kept.isEmpty then askWithin rounds s packets else (.ready kept, s, packets)
    | .ended => (.ended, s, packets)
    | .pending => (.pending, s, packets)

/-- The number of records in the queue of a subscription. -/
def waiting (s : Subscription) (packets : Channel PacketRecord) : Nat :=
  match packets.queue? s.stream.queue with
  | some q => q.items.length
  | none => 0

def ask (s : Subscription) (packets : Channel PacketRecord) :
    Poll PacketRecord × Subscription × Channel PacketRecord :=
  s.askWithin (s.waiting packets + 1) packets

/-- Up to so many of the batches that are there, and whether the end was reached. -/
def collectWithin (rounds : Nat) (s : Subscription) (packets : Channel PacketRecord) :
    List (List PacketRecord) × Bool × Subscription × Channel PacketRecord :=
  match rounds with
  | 0 => ([], false, s, packets)
  | rounds + 1 =>
    match s.ask packets with
    | (.ready batch, s, packets) =>
      let (batches, ended, s, packets) := s.collectWithin rounds packets
      (batch :: batches, ended, s, packets)
    | (.ended, s, packets) => ([], true, s, packets)
    | (.pending, s, packets) => ([], false, s, packets)

/-- All batches that are there, and whether the end was reached. -/
def collect (s : Subscription) (packets : Channel PacketRecord) :
    List (List PacketRecord) × Bool × Subscription × Channel PacketRecord :=
  s.collectWithin (s.waiting packets + 1) packets

@[simp] theorem selected_none (batch : List PacketRecord) : selected none batch = batch := rfl

end Subscription

end PacketMeter.Session
