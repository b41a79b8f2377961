import PacketMeter.Program.Bare
import PacketMeter.Program.Capture
import PacketMeter.Program.Listing
import PacketMeter.Program.Replay
import Std.Time.DateTime.Timestamp

/-!
# The program

Replays are carried out here.  Engines are programs, and nothing is run from here, so
that a listing or a capture reports that its engine is not available.
-/

namespace PacketMeter.Program

def usage : List String := [
  "tapline 0.1.0",
  "live packet capture statistics",
  "",
  "USAGE:",
  "    tapline [OPTIONS] <SUBCOMMAND>",
  "",
  "SUBCOMMANDS:",
  "    capture    capture packets and report statistics",
  "    devices    list capture devices",
  "    help       show this text",
  "    replay     report statistics for a frame file"]

def wallClock : IO Timestamp := do
  let now ← Std.Time.Timestamp.now
  return Timestamp.ofNanos now.toNanosecondsSinceUnixEpoch.val

/-- Writes a line of the log. -/
def writeLog (target : String) (level : Level) (text : String) : IO Unit :=
  IO.eprintln ("[" ++ level.name ++ " " ++ target ++ "] " ++ text)

def writeEvent (e : Event) : IO Unit := do
  if let some line := e.output? then IO.println line
  if let some (level, text) := e.logLine? then writeLog workTarget level text

def writeProblem (p : Problem) : IO UInt32 := do
  p.lines.forM IO.eprintln
  return 1

/-- Writes what came of a request. -/
def writeOutcome (verbosity : Nat) (result : Except Problem Unit) (events : List Event) :
    IO UInt32 := do
  (events.filter (Event.isHeard verbosity)).forM writeEvent
  match result with
  | .ok () => return 0
  | .error p => writeProblem p

/-- The fault with an error number, which may be given with a minus sign. -/
def numbered (number : UInt32) : Fault := .system number.toInt32.toInt.natAbs

/-- The fault behind an error of the system. -/
def faultOf : IO.Error → Fault
  | .noFileOrDirectory _ number _ => numbered number
  | .permissionDenied _ number _ => numbered number
  | .inappropriateType _ number _ => numbered number
  | .invalidArgument _ number _ => numbered number
  | e => .described .other e.toString

def find (path : String) : IO (Except Fault Node) := do
  try
    return .ok (.file (← IO.FS.readBinFile path).toList)
  catch e =>
    let fault := faultOf e
    return if fault.kind = .isADirectory then .ok .directory else .error fault

def carryOut (verbosity : Nat) (env : Environment) : Request → IO UInt32
  | .replay r => do
    let clock ← wallClock
    let (result, events) := Replay.run r (← find r.path) ⟨⟨0⟩, clock⟩
    writeOutcome verbosity result events
  | .devices r =>
    let (result, events, _) := Listing.run r (⟨FileSystem.empty⟩ : Bare)
    writeOutcome verbosity result events
  | .capture r => do
    let now : Stats.Moment := ⟨⟨0⟩, ← wallClock⟩
    let (result, p) := (Capturing.make r env (⟨FileSystem.empty⟩ : Bare)).begin now
    writeOutcome verbosity result (p.close now).events

/-- Answers a command line that is not carried out. -/
def refuse (r : CommandLine.Refusal) : IO UInt32 := do
  match r.error with
  | .helpDisplayed => usage.forM IO.println; return 0
  | .versionDisplayed => IO.println r.versionLine; return 0
  | e => IO.eprintln ("error: " ++ e.name); return 1

end PacketMeter.Program

open PacketMeter Program in
def main (args : List String) : IO UInt32 := do
  match CommandLine.parse args with
  | .error r => refuse r
  | .ok i =>
    let env : Environment := ⟨← IO.getEnv "XDG_RUNTIME_DIR", ← IO.getEnv "TMPDIR"⟩
    writeLog mainTarget .info greeting
    match Request.ofInvocation env i with
    | .error p => writeProblem p
    | .ok request => carryOut (i.arguments.given "verbose").count env request
