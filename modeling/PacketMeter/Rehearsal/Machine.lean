import PacketMeter.Program.Capture
import PacketMeter.Program.Listing
import PacketMeter.Program.Replay
import PacketMeter.Rehearsal.Clock
import PacketMeter.Rehearsal.Script
import PacketMeter.Rehearsal.Site

/-!
# Rehearsing the program

A machine is a system on which the whole program is rehearsed: with a script as the
engine, files, sockets at which somebody listens, and what arrives on a connection
before the program is told to shut down.
-/

namespace PacketMeter.Rehearsal

open PacketMeter.Program PacketMeter.Stats

/-- A system for the program.  Sockets are files, known by their locations. -/
structure Machine where
  script : Script
  files : FileSystem
  sockets : List (List String)
  arrivals : List Delivery
  deriving Inhabited

namespace Machine

/-- A machine with one directory, which holds the script, files, and a socket when
somebody listens there. -/
def make (directory : String) (script : Script) (files : List (String × List UInt8))
    (socket? : Option String) (arrivals : List Delivery) : Machine where
  script
  files := (files ++ socket?.toList.map fun name => (name, [])).foldl
    (fun fs (name, content) => fs.put [directory, name] (.file content))
    (FileSystem.empty.put [directory] .directory)
  sockets := socket?.toList.map fun name => [directory, name]
  arrivals

/-- The fault of a socket path with a NUL character. -/
def nulInPath : Fault := .described .invalidInput "paths must not contain interior null bytes"

/-- The greatest length of a socket path. -/
def longestPath : Nat := 107

/-- What comes of an attempt to connect to a path. -/
def attemptPath (m : Machine) (path : String) : Except Fault Unit :=
  if path.toList.contains '\x00' then .error nulInPath
  else if longestPath < path.utf8ByteSize then .error Site.pathTooLong
  else if path.isEmpty then .error (.system 22)
  else match m.files.stat path with
    | .error f => .error f
    | .ok _ =>
      match m.files.target path with
      | .ok (.entry loc) => if m.sockets.contains loc then .ok () else .error (.system 111)
      | _ => .error (.system 111)

/-- What comes of an attempt to connect. -/
def attempt (m : Machine) : Endpoint → Except Fault Unit
  | .unix path => m.attemptPath path
  | .tcp _ => .error (.system 101)

instance : Engine.SystemHost Machine where
  ask question m :=
    let (result, script) := Engine.ProcessHost.ask question m.script
    (result, { m with script })
  files m := m.files
  setFiles files m := { m with files }
  attempt endpoint _ m := m.attempt endpoint

/-- What came of running the program: its result, what it said, the machine after
it, and whether a marker was there once it was connected. -/
structure Outcome where
  result : Except Problem Unit
  events : List Event
  machine : Machine
  armed? : Option Bool
  deriving Inhabited

/-- Runs a capture.  When it has begun, it is seen whether something stands at the
path of a marker. -/
def runCapture (request : CaptureRequest) (env : Environment) (markerPath : String)
    (m : Machine) : Outcome :=
  match (Capturing.make request env m).begin (moment 0) with
  | (.error problem, p) =>
    let p := p.close (moment 1)
    ⟨.error problem, p.events, p.rig.system, none⟩
  | (.ok (), p) =>
    let armed := p.rig.system.files.holds markerPath
    let p := ((p.serve m.arrivals (moment 1)).finish (moment 2)).close (moment 3)
    ⟨.ok (), p.events, p.rig.system, some armed⟩

def runRequest (request : Request) (env : Environment) (markerPath : String) (m : Machine) :
    Outcome :=
  match request with
  | .devices r =>
    let (result, events, m) := Listing.run r m
    ⟨result, events, m, none⟩
  | .replay r =>
    let (result, events) := Replay.run r (m.files.stat r.path) (moment 0)
    ⟨result, events, m, none⟩
  | .capture r => runCapture r env markerPath m

/-- Runs the program with what its command line asks for. -/
def run (invocation : CommandLine.Invocation) (env : Environment) (markerPath : String)
    (m : Machine) : Outcome :=
  match Request.ofInvocation env invocation with
  | .error problem => ⟨.error problem, [], m, none⟩
  | .ok request => m.runRequest request env markerPath

/-- The records of the frame file at a path. -/
def savedRecords? (m : Machine) (path : String) : Option (List PacketRecord) :=
  match Replay.records (m.files.stat path) with
  | .ok records => some records
  | .error _ => none

end Machine

end PacketMeter.Rehearsal
