import PacketMeter.CommandLine
import PacketMeter.CommandLine.Value
import PacketMeter.Stats.Snapshot

/-!
# What the program says

While it works the program prints lines, logs lines of different weight, and shows
snapshots, as lines of the log or as JSON.  Which lines of the log are written
depends on how often the program was told to be verbose.
-/

namespace PacketMeter.Program

open PacketMeter.CommandLine (Output)

/-- The weight of a line of the log. -/
inductive Level where
  | debug
  | info
  | warn
  deriving Repr, DecidableEq, Inhabited

def Level.name : Level → String
  | debug => "DEBUG"
  | info => "INFO"
  | warn => "WARN"

/-- Something that the program says. -/
inductive Event where
  | printed (line : String)
  | logged (level : Level) (text : String)
  | shown (output : Output) (snapshot : Stats.Snapshot)
  deriving Inhabited

namespace Event

/-- Whether an event is seen when the program was told to be verbose so many
times. -/
def isHeard (verbosity : Nat) : Event → Bool
  | logged .debug _ => 0 < verbosity
  | _ => true

/-- The line that an event writes to standard output. -/
def output? : Event → Option String
  | printed line => some line
  | logged _ _ => none
  | shown .json snapshot => some snapshot.toJson.render
  | shown .log _ => none

/-- The line that an event adds to the log, with its weight. -/
def logLine? : Event → Option (Level × String)
  | printed _ => none
  | logged level text => some (level, text)
  | shown .log snapshot => some (.info, snapshot.text)
  | shown .json _ => none

end Event

/-- The name under which the first line is logged. -/
def mainTarget : String := CommandLine.programName

/-- The name under which all other lines are logged. -/
def workTarget : String := CommandLine.programName ++ "::agent"

/-- The line that is logged before anything else. -/
def greeting : String :=
  "initializing " ++ CommandLine.programName ++ " " ++ CommandLine.programVersion

end PacketMeter.Program
