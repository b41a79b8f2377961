import PacketMeter.Engine.Rig
import PacketMeter.Frame.File
import PacketMeter.Pattern.Parser
import PacketMeter.Program.Event
import PacketMeter.Program.Request
import PacketMeter.Session.Controller
import PacketMeter.Session.Subscription

/-!
# Capturing

The program captures from one device until it is told to shut down.  It shows every
snapshot, counts the records that its filter selects, and may write them to a frame
file.

A capture begins with the choice of the device.  While it goes on, frames arrive and
snapshots are published.  It ends with the number of the selected records, or with
the problem of the frame file, which does not end the capture before.  Whatever
happens, the engine is closed.
-/

namespace PacketMeter.Program

open PacketMeter.Session PacketMeter.Stats

/-- A capture of the program: its controller, its subscriptions, what it has written
to the frame file, how many records were selected, and what it has said. -/
structure Capturing (σ : Type) where
  request : CaptureRequest
  controller : Controller
  rig : Engine.Rig σ
  packets : Subscription
  statistics : ItemStream
  written : List UInt8
  consumed : Except Problem Nat
  events : List Event
  deriving Inhabited

namespace Capturing

variable {σ : Type}

/-- A capture before it begins. -/
def make (request : CaptureRequest) (env : Environment) (system : σ) : Capturing σ where
  request
  controller := Controller.make request.cfg none
  rig := ⟨request.engine, Marker.named env.runtimeDir request.cfg.capture.signal, system⟩
  packets := Subscription.make 0 0 none
  statistics := ⟨0, .one, none, false⟩
  written := []
  consumed := .ok 0
  events := []

def say (p : Capturing σ) (events : List Event) : Capturing σ :=
  { p with events := p.events ++ events }

/-- The device that an argument names: by its place, or as the first one that holds
a pattern. -/
def choose (devices : List Device) (argument : String) : Except Problem Device :=
  match CommandLine.word? 64 argument with
  | some place =>
    match devices[place]? with
    | some device => .ok device
    | none => .error (.other ("no device " ++ toString place))
  | none =>
    match Pattern.parse? argument with
    | none => .error .badPattern
    | some pattern =>
      match Device.find? devices pattern with
      | some device => .ok device
      | none => .error (.other ("no device matches '" ++ argument ++ "'"))

/-- Subscribes to the snapshots and to the selected records. -/
def subscribe (p : Capturing σ) : Capturing σ :=
  let (queue, controller) := p.controller.statistics
  let ((channel, packets), controller) := controller.subscribe
  { p with
    controller
    statistics := ⟨queue, .one, none, false⟩
    packets := Subscription.make channel packets (some p.request.filter) }

/-- Shows the snapshots that were published. -/
def showAll (p : Capturing σ) : Capturing σ :=
  let publisher := p.controller.publisher
  let (snapshots, _, statistics, channel) :=
    ChannelHandles.collectStream publisher.channel p.statistics
  { p with
    controller := { p.controller with publisher := { publisher with channel } }
    statistics
    events := p.events ++ snapshots.flatten.map (.shown p.request.output) }

variable [Engine.SystemHost σ]

/-- Writes to the frame file, if there is one. -/
def write (p : Capturing σ) (bytes : List UInt8) : Except Problem Unit × Capturing σ :=
  match p.request.save? with
  | none => (.ok (), p)
  | some path =>
    let written := p.written ++ bytes
    match (Engine.SystemHost.files p.rig.system).write path written with
    | .error f => (.error (.fault f), p)
    | .ok files =>
      let rig := { p.rig with system := Engine.SystemHost.setFiles files p.rig.system }
      (.ok (), { p with rig, written })

def openFile (p : Capturing σ) : Capturing σ :=
  match p.write [] with
  | (.error e, p) => { p with consumed := .error e }
  | (.ok (), p) => p

/-- Counts a batch of selected records and writes them to the frame file. -/
def consume (p : Capturing σ) (batch : List PacketRecord) : Capturing σ :=
  match p.consumed with
  | .error _ => p
  | .ok n =>
    let p := p.say (batch.map fun r => .logged .debug r.text)
    match p.write (batch.flatMap Frame.encode) with
    | (.error e, p) => { p with consumed := .error e }
    | (.ok (), p) => { p with consumed := .ok (n + batch.length) }

/-- Counts all selected records that are there. -/
def consumeAll (p : Capturing σ) : Capturing σ :=
  match p.controller.bridge.channel? p.packets.channel with
  | none => p
  | some channel =>
    let (batches, _, packets, channel) := p.packets.collect channel
    let bridge := p.controller.bridge.modifyChannel packets.channel fun _ => channel
    batches.foldl consume
      { p with packets, controller := { p.controller with bridge } }

/-- Chooses the source of the counts. -/
def chooseSource (p : Capturing σ) (now : Moment) : Except Problem Unit × Capturing σ :=
  if p.request.native then
    let (result, controller, rig) := p.controller.configure .native now p.rig
    (result.mapError .failure, { p with controller, rig })
  else (.ok (), p)

def start (p : Capturing σ) (device : Device) (now : Moment) :
    Except Problem Unit × Capturing σ :=
  let p := p.subscribe.openFile.say [.logged .info ("capturing on " ++ device.text)]
  let (result, controller, rig) := p.controller.start device.index now p.rig
  let p := { p with controller, rig }
  match result with
  | .error f => (.error (.failure f), p)
  | .ok _ => (.ok (), p)

def begin (p : Capturing σ) (now : Moment) : Except Problem Unit × Capturing σ :=
  let (listed, rig) := Controller.devices p.controller.cfg.enumeration p.rig
  let p := { p with rig }
  match listed with
  | .error f => (.error (.failure f), p)
  | .ok devices =>
    match choose devices p.request.device with
    | .error e => (.error e, p)
    | .ok device =>
      match p.chooseSource now with
      | (.error e, p) => (.error e, p)
      | (.ok (), p) => p.start device now

/-- Deals with what arrives on the connection, and publishes a snapshot. -/
def serve (p : Capturing σ) (arrivals : List Delivery) (now : Moment) : Capturing σ :=
  let controller := match p.controller.bridge.active? with
    | some active => p.controller.deliver active.worker arrivals
    | none => p.controller
  let (controller, rig) := controller.feedAll.tick now p.rig
  consumeAll (showAll { p with controller, rig })

/-- What is said about the selected records in the end. -/
def verdict (p : Capturing σ) : Event :=
  match p.consumed with
  | .ok n => .logged .info (toString n ++ " packets matched")
  | .error e => .logged .warn ("packet consumer failed: " ++ e.report)

def finish (p : Capturing σ) (now : Moment) : Capturing σ :=
  let p := p.say [.logged .info "shutting down"]
  let (_, controller, rig) := p.controller.stop none now p.rig
  let p := consumeAll (showAll { p with controller, rig })
  p.say [p.verdict]

def close (p : Capturing σ) (now : Moment) : Capturing σ :=
  let (result, controller, rig) := p.controller.close now p.rig
  let p := { p with controller, rig }
  match result with
  | .ok () => p
  | .error f => p.say [.logged .warn ("failed to close engine: " ++ f.message)]

end Capturing

end PacketMeter.Program
