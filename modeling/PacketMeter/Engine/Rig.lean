import PacketMeter.Capture.Connect
import PacketMeter.Capture.Host
import PacketMeter.Engine.Command
import PacketMeter.Signal
import PacketMeter.Stats.Aggregator

/-!
# Rigs

A rig is a host of a capture that is made of a program as the engine, a marker file
as the signal, and the system that both are on.

What a system does is a parameter.  It runs processes, has a file system, and says
what comes of an attempt to connect to an endpoint.
-/

namespace PacketMeter.Engine

/-- States of a system. -/
class SystemHost (σ : Type) extends ProcessHost σ where
  files : σ → FileSystem
  setFiles : FileSystem → σ → σ
  attempt : Endpoint → Duration → σ → Except Fault Unit

/-- An engine that is a program, with its signal, on a system. -/
structure Rig (σ : Type) where
  engine : Command
  marker : Marker
  system : σ
  deriving Inhabited

namespace Rig

variable {σ : Type} [SystemHost σ]

/-- Makes a call to the signal. -/
def signal (call : FileSystem → Except Failure Unit × FileSystem) (r : Rig σ) :
    Outcome Unit × Rig σ :=
  let (result, files) := call (SystemHost.files r.system)
  (.ofResult result, { r with system := SystemHost.setFiles files r.system })

/-- Makes a call to the engine that may change which child captures. -/
def control (call : Command → σ → Except Failure Unit × Command × σ) (r : Rig σ) :
    Outcome Unit × Rig σ :=
  let (result, engine, system) := call r.engine r.system
  (.ofResult result, { r with engine, system })

/-- Lists the devices.  That takes some time, so that no time is never enough. -/
def list (limit : Duration) (r : Rig σ) : Outcome (List String) × Rig σ :=
  let (result, system) := r.engine.devices r.system
  let r := { r with system }
  if limit.nanoseconds = 0 then (.failed (.enumerationTimeout limit), r)
  else (.ofResult result, r)

/-- Makes a call.  The reader of a connection that was shut down exits at once. -/
def perform {α : Type} (question : HostCall α) (r : Rig σ) : Outcome α × Rig σ :=
  match question with
  | .set => r.signal r.marker.set
  | .reset => r.signal r.marker.reset
  | .devices limit => r.list limit
  | .start device => r.control fun engine => engine.start device
  | .select device =>
    let (result, system) := r.engine.select device r.system
    (.ofResult result, { r with system })
  | .stop => r.control Command.stop
  | .close => r.control Command.close
  | .connect endpoint limit =>
    (.ofResult (Capture.connect limit fun elapsed =>
      SystemHost.attempt endpoint elapsed r.system), r)
  | .share => (.done (), r)
  | .shutdown => (.done (), r)
  | .join _ => (.done true, r)

instance : CaptureHost (Rig σ) where
  perform := perform

/-- An engine that is a program has no native feed. -/
instance : Stats.FeedHost (Rig σ) where
  answer _ _ r := (.error Stats.Aggregator.noFeed, r)

end Rig

end PacketMeter.Engine
