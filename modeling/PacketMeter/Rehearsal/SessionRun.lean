import PacketMeter.Rehearsal.Clock
import PacketMeter.Rehearsal.Wire
import PacketMeter.Session.Controller
import PacketMeter.Session.Subscription

/-!
# Rehearsing sessions

A run takes a controller through steps on a stage.  After every step everything
that it leads to happens: readers come to their end, the feeder counts what is
there, and pending requests to stop are granted.  While a session runs, a snapshot
is published after every step.
-/

namespace PacketMeter.Rehearsal

open PacketMeter.Session PacketMeter.Stats

/-- A controller on its stage, the subscriptions by name, and the time. -/
structure SessionRun where
  controller : Controller
  stage : Stage
  packets : List (String × Subscription)
  statistics : List (String × ItemStream)
  time : Nat
  deriving Inhabited

/-- A step of a run. -/
inductive SessionStep where
  | devices (limit listingTime : Duration) (faults : Faults)
  | start (device : Nat) (faults : Faults)
  | stop (faults : Faults)
  | close (faults : Faults)
  | observe
  | status
  | subscribe (name : String) (filter? : Option Filter)
  | drain (name : String)
  | askClosed
  | latest
  | statistics (name : String)
  | drainStatistics (name : String)
  | clear
  | ledger (l : Ledger)
  | configure (source : Source)
  | feed (pieces : List (List UInt8))
  | hangup
  | pause
  deriving Repr, Inhabited

/-- The answer of a step. -/
inductive SessionAnswer where
  | devices (result : Except Failure (List Device))
  | state (result : Except Failure State)
  | unit (result : Except Failure Unit)
  | nothing
  | unknownName
  | noConnection
  | status (s : Status)
  | batches (all : List (List PacketRecord)) (ended : Bool)
  | closed (isClosed : Bool)
  | latest (snapshot? : Option Snapshot)
  | statistics (last? : Option Snapshot) (ended : Bool)
  | readFailed (ever : Bool)
  deriving Inhabited

namespace SessionRun

/-- A run before its first step. -/
def make (cfg : SessionConfig) (feed? : Option Nat) (stage : Stage) : SessionRun :=
  ⟨Controller.make cfg feed?, stage, [], [], 0⟩

/-- The moment of a step. -/
def now (r : SessionRun) : Moment := moment r.time

/-- Grants pending requests to stop, at most so many. -/
def departWithin (now : Moment) : Nat → Controller → Stage → Controller × Stage
  | 0, c, s => (c, s)
  | rounds + 1, c, s =>
    let (c, s) := c.depart now s
    departWithin now rounds c s

/-- Lets readers whose connection has ended come to their end. -/
def endReaders (c : Controller) (s : Stage) : Controller :=
  { c with bridge := Wire.settle c.cfg.capture s c.bridge }

/-- Lets everything happen that is due. -/
def settle (r : SessionRun) : SessionRun :=
  let r := { r with time := r.time + 1 }
  let c := (endReaders r.controller r.stage).feedAll
  let (c, s) := departWithin r.now c.departures.length c r.stage
  let (c, s) := (endReaders c s).tick r.now s
  { r with controller := c, stage := s, time := r.time + 1 }

/-- Adds a named thing, in place of the one that may have the name. -/
def named {β : Type} (name : String) (b : β) (entries : List (String × β)) :
    List (String × β) :=
  (name, b) :: ChannelHandles.without name entries

/-- Takes all batches that a subscription has. -/
def drain (r : SessionRun) (name : String) : SessionAnswer × SessionRun :=
  match r.packets.lookup name with
  | none => (.unknownName, r)
  | some sub =>
    match r.controller.bridge.channel? sub.channel with
    | none => (.unknownName, r)
    | some packets =>
      let (batches, ended, sub, packets) := sub.collect packets
      let bridge := r.controller.bridge.modifyChannel sub.channel fun _ => packets
      (.batches batches ended,
        { r with controller := { r.controller with bridge }, packets := named name sub r.packets })

/-- Takes all snapshots that a subscription has. -/
def drainStatistics (r : SessionRun) (name : String) : SessionAnswer × SessionRun :=
  match r.statistics.lookup name with
  | none => (.unknownName, r)
  | some stream =>
    let publisher := r.controller.publisher
    let (results, ended, stream, channel) :=
      ChannelHandles.collectStream publisher.channel stream
    (.statistics results.flatten.getLast? ended,
      { r with
        controller := { r.controller with publisher := { publisher with channel } }
        statistics := named name stream r.statistics })

/-- Takes a step, without what follows from it. -/
def act (r : SessionRun) : SessionStep → SessionAnswer × SessionRun
  | .devices limit listingTime faults =>
    let (result, stage) := Controller.devices limit { r.stage with faults, listingTime }
    (.devices result, { r with stage })
  | .start device faults =>
    let (result, controller, stage) :=
      r.controller.start device r.now { r.stage with faults }
    (.state result, { r with controller, stage })
  | .stop faults =>
    let (state, controller, stage) := r.controller.stop none r.now { r.stage with faults }
    (.state (.ok state), { r with controller, stage })
  | .close faults =>
    let (result, controller, stage) := r.controller.close r.now { r.stage with faults }
    (.unit result, { r with controller, stage })
  | .observe => (.nothing, r)
  | .status => (.status r.controller.status, r)
  | .subscribe name filter? =>
    let ((channel, queue), controller) := r.controller.subscribe
    (.unit (.ok ()), { r with
      controller
      packets := named name (Subscription.make channel queue filter?) r.packets })
  | .drain name => r.drain name
  | .askClosed =>
    match r.controller.bridge.channel? r.controller.channel with
    | none => (.unknownName, r)
    | some packets => (.closed packets.closed, r)
  | .latest => (.latest r.controller.latest?, r)
  | .statistics name =>
    let (queue, controller) := r.controller.statistics
    (.unit (.ok ()), { r with
      controller
      statistics := named name ⟨queue, .one, none, false⟩ r.statistics })
  | .drainStatistics name => r.drainStatistics name
  | .clear =>
    let (result, controller, stage) := r.controller.clear r.now r.stage
    (.unit result, { r with controller, stage })
  | .ledger l => (.unit (.ok ()), { r with
      stage := { r.stage with ledgers := r.stage.ledgers.set 0 l } })
  | .configure source =>
    let (result, controller, stage) := r.controller.configure source r.now r.stage
    (.unit result, { r with controller, stage })
  | .feed pieces =>
    match Wire.reading? r.stage r.controller.bridge with
    | none => (.noConnection, r)
    | some worker => (.unit (.ok ()),
        { r with controller := r.controller.deliver worker (pieces.map .data) })
  | .hangup => (.unit (.ok ()), { r with stage := { r.stage with connected := false } })
  | .pause =>
    let controller := match Wire.reading? r.stage r.controller.bridge with
      | none => r.controller
      | some worker => r.controller.deliver worker (Wire.pauseDeliveries r.stage)
    (.readFailed (Wire.hasFailed controller.bridge), { r with controller })

/-- Takes a step with all that follows from it. -/
def step (r : SessionRun) (s : SessionStep) : SessionAnswer × SessionRun :=
  let (answer, r) := r.act s
  (answer, r.settle)

end SessionRun

end PacketMeter.Rehearsal
