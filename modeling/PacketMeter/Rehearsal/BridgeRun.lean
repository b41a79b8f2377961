import PacketMeter.Rehearsal.Wire

/-!
# Rehearsing a bridge

A run takes a bridge through steps on a stage, with a channel for its records and
one receiver of that channel.  After every step the readers whose connection has
ended come to their end.

What a step shows is its answer, the calls that it led to and the lines that it
added to the log.
-/

namespace PacketMeter.Rehearsal

open PacketMeter.Capture

/-- A bridge on its stage.  Records go to `channel`, of which `queue` is the
receiver. -/
structure BridgeRun where
  cfg : CaptureConfig
  stage : Stage
  bridge : Bridge
  channel : Nat
  queue : Nat
  deriving Inhabited

/-- A step of a run. -/
inductive BridgeStep where
  | start (device : Nat) (faults : Faults)
  | stop (faults : Faults)
  | drop (faults : Faults)
  | engine (faults : Faults)
  | feed (pieces : List (List UInt8))
  | hangup
  | pause
  | channel
  | close
  | drain
  | info
  deriving Repr, Inhabited

/-- The answer of a step. -/
inductive BridgeAnswer where
  | outcome (o : Outcome Unit)
  | noConnection
  | readFailed (ever : Bool)
  | records (batch : List PacketRecord)
  | inspected (length dropped : Nat) (closed senderClosed : Bool)
  | devices (o : Outcome (List String))
  deriving Repr, Inhabited

namespace BridgeRun

/-- A run before its first step. -/
def make (cfg : CaptureConfig) (stage : Stage) : BridgeRun :=
  let (channel, bridge) := Bridge.empty.openChannel cfg.capacity cfg.batch
  { cfg, stage, bridge := bridge.modifyChannel channel fun p => p.subscribe.2, channel, queue := 0 }

/-- Takes a step, without what follows from it. -/
def act (r : BridgeRun) : BridgeStep → BridgeAnswer × BridgeRun
  | .start device faults =>
    let stage := { r.stage with faults }
    let (outcome, bridge, stage) := r.bridge.start r.cfg device r.channel stage
    (.outcome outcome, { r with bridge, stage })
  | .stop faults =>
    let (outcome, bridge, stage) := r.bridge.stop r.cfg { r.stage with faults }
    (.outcome outcome, { r with bridge, stage })
  | .drop faults =>
    let (outcome, bridge, stage) := r.bridge.release r.cfg { r.stage with faults }
    (.outcome outcome, { r with bridge, stage })
  | .engine faults =>
    let (outcome, stage) := perform (.devices r.cfg.connectTimeout) { r.stage with faults }
    (.devices outcome, { r with stage })
  | .feed pieces =>
    match Wire.reading? r.stage r.bridge with
    | none => (.noConnection, r)
    | some worker =>
      (.outcome (.done ()), { r with bridge := r.bridge.deliver worker (pieces.map .data) })
  | .hangup => (.outcome (.done ()), { r with stage := { r.stage with connected := false } })
  | .pause =>
    let bridge := match Wire.reading? r.stage r.bridge with
      | none => r.bridge
      | some worker => r.bridge.deliver worker (Wire.pauseDeliveries r.stage)
    (.readFailed (Wire.hasFailed bridge), { r with bridge })
  | .channel =>
    let (channel, bridge) := r.bridge.openChannel r.cfg.capacity r.cfg.batch
    (.outcome (.done ()),
      { r with bridge := bridge.modifyChannel channel fun p => p.subscribe.2, channel, queue := 0 })
  | .close =>
    (.outcome (.done ()), { r with bridge := r.bridge.modifyChannel r.channel Channel.close })
  | .drain =>
    match r.bridge.channel? r.channel with
    | none => (.records [], r)
    | some packets =>
      let (batch, packets) := packets.tryBatch r.queue
      (.records batch, { r with bridge := r.bridge.modifyChannel r.channel fun _ => packets })
  | .info =>
    match (r.bridge.channel? r.channel).bind fun p => (p.queue? r.queue).map fun q => (p, q) with
    | none => (.inspected 0 0 true true, r)
    | some (packets, q) => (.inspected q.items.length q.dropped q.closed packets.closed, r)

/-- Takes a step with all that follows from it. -/
def step (r : BridgeRun) (s : BridgeStep) : BridgeAnswer × BridgeRun :=
  let (answer, r) := r.act s
  (answer, { r with bridge := Wire.settle r.cfg r.stage r.bridge })

/-- The lines of the log since a moment at which there were `n`. -/
def reportsSince (r : BridgeRun) (n : Nat) : List Report := r.bridge.reports.drop n

end BridgeRun

end PacketMeter.Rehearsal
