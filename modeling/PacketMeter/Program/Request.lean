import PacketMeter.CommandLine
import PacketMeter.Config
import PacketMeter.Engine.Command
import PacketMeter.Program.Problem

/-!
# Requests

A request is what a command line asks for, with all values read.  The first value
that cannot be read is the problem, in a fixed order: the settings come first, then
what the subcommand needs, then the engine.  A replay needs neither settings nor an
engine.
-/

namespace PacketMeter.Program

open PacketMeter.CommandLine

/-- To list the devices of an engine. -/
structure DevicesRequest where
  cfg : SessionConfig
  engine : Engine.Command
  deriving Inhabited

/-- To capture from a device, given by its place or a pattern. -/
structure CaptureRequest where
  cfg : SessionConfig
  device : String
  filter : Filter
  output : Output
  native : Bool
  save? : Option String
  engine : Engine.Command
  deriving Inhabited

/-- To count the records of a frame file. -/
structure ReplayRequest where
  path : String
  filter : Filter
  output : Output
  deriving Repr, Inhabited

/-- What a command line asks for. -/
inductive Request where
  | devices (r : DevicesRequest)
  | capture (r : CaptureRequest)
  | replay (r : ReplayRequest)
  deriving Inhabited

namespace Request

def endpoint (m : Matches) (default : Endpoint) : Except Problem Endpoint :=
  match m.value? "endpoint" with
  | none => .ok default
  | some text =>
    match Endpoint.parse text with
    | .ok e => .ok e
    | .error message => .error (.other message)

def limit (m : Matches) (name : String) (default : Duration) : Except Problem Duration := do
  return (← checked (value? millis? (m.value? name))).getD default

def settings (env : Environment) (m : Matches) : Except Problem SessionConfig := do
  let cfg := SessionConfig.default env
  let endpoint ← endpoint m cfg.capture.endpoint
  let signal := (m.value? "signal").getD cfg.capture.signal
  let connectTimeout ← limit m "connect-timeout" cfg.capture.connectTimeout
  let enumeration ← limit m "enumeration-timeout" cfg.enumeration
  return { cfg with capture := { cfg.capture with endpoint, signal, connectTimeout }, enumeration }

/-- The settings with those that only a capture has. -/
def captureSettings (cfg : SessionConfig) (m : Matches) : Except Problem SessionConfig := do
  let cadence ← limit m "cadence" cfg.stats.cadence
  let capacity := (← checked (value? (word? 64) (m.value? "capacity"))).getD cfg.capture.capacity
  return { cfg with
    stats := { cfg.stats with cadence }
    capture := { cfg.capture with capacity } }

def argument (m : Matches) (name : String) : Except Problem String :=
  match m.value? name with
  | some value => .ok value
  | none => .error (.missingArgument name)

/-- The filter.  Without one every record is selected. -/
def filter (m : Matches) : Except Problem Filter := do
  return (← checked (value? filter? (m.value? "filter"))).getD .any

def output (m : Matches) : Except Problem Output := do
  return (← checked (value? output? (m.value? "output"))).getD .log

def engine (m : Matches) : Except Problem Engine.Command := do
  return Engine.Command.make (← argument m "engine") (m.given "engine-arg").values

def ofDevices (env : Environment) (m : Matches) : Except Problem DevicesRequest := do
  let cfg ← settings env m
  return ⟨cfg, ← engine m⟩

def ofCapture (env : Environment) (m : Matches) : Except Problem CaptureRequest := do
  let cfg ← settings env m
  let device ← argument m "device"
  let filter ← filter m
  let output ← output m
  let cfg ← captureSettings cfg m
  return ⟨cfg, device, filter, output, m.has "native", m.value? "save", ← engine m⟩

def ofReplay (m : Matches) : Except Problem ReplayRequest := do
  let path ← argument m "file"
  let filter ← filter m
  return ⟨path, filter, ← output m⟩

/-- What a command line asks for. -/
def ofInvocation (env : Environment) (i : Invocation) : Except Problem Request :=
  match i.subcommand with
  | .devices => (ofDevices env i.arguments).map .devices
  | .capture => (ofCapture env i.arguments).map .capture
  | .replay => (ofReplay i.arguments).map .replay

end Request

end PacketMeter.Program
