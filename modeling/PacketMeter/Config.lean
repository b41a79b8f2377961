import PacketMeter.Duration
import PacketMeter.Endpoint

/-!
# Configuration

The settings of capturing, of the statistics and of a session, with their
defaults.  The endpoint of the engine and the marker of the arming signal lie in
the runtime directory, which the environment names.
-/

namespace PacketMeter

/-- The part of the environment that the defaults depend on. -/
structure Environment where
  runtimeDir? : Option String
  temporaryDir? : Option String
  deriving Repr, DecidableEq, Inhabited

namespace Environment

/-- The directory for sockets and markers. -/
def runtimeDir (env : Environment) : String :=
  match env.runtimeDir?, env.temporaryDir? with
  | some dir, _ => dir
  | none, some dir => dir
  | none, none => "/tmp"

end Environment

/-- Settings of capturing. -/
structure CaptureConfig where
  endpoint : Endpoint
  signal : String
  connectTimeout : Duration
  joinTimeout : Duration
  retryPause : Duration
  capacity : Nat
  batch : Nat
  deriving Repr, Inhabited

/-- Settings of the statistics: how often and how many snapshots, how many rate
samples, and how many entries of each ranking are kept. -/
structure StatsConfig where
  cadence : Duration
  history : Nat
  snapshots : Nat
  protocols : Nat
  talkers : Nat
  ports : Nat
  deriving Repr, DecidableEq, Inhabited

/-- Settings of a session. -/
structure SessionConfig where
  capture : CaptureConfig
  stats : StatsConfig
  enumeration : Duration
  deriving Repr, Inhabited

namespace CaptureConfig

/-- The default settings in an environment. -/
def default (env : Environment) : CaptureConfig where
  endpoint := .unix (Path.join env.runtimeDir "tapline.sock")
  signal := "tapline"
  connectTimeout := .ofSeconds 5
  joinTimeout := .ofSeconds 2
  retryPause := .ofMillis 10
  capacity := 10000
  batch := 100

end CaptureConfig

namespace StatsConfig

def default : StatsConfig where
  cadence := .ofMillis 300
  history := 60
  snapshots := 10
  protocols := 10
  talkers := 5
  ports := 5

end StatsConfig

namespace SessionConfig

/-- The default settings in an environment. -/
def default (env : Environment) : SessionConfig where
  capture := CaptureConfig.default env
  stats := StatsConfig.default
  enumeration := .ofSeconds 30

end SessionConfig

end PacketMeter
