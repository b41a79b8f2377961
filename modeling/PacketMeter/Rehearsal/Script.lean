import PacketMeter.Engine.Process
import PacketMeter.Text.Search

/-!
# Rehearsed engine programs

A script stands in for the program of an engine.  It keeps a log: its arguments when
it is run, and the lines of its input.

Asked for devices, it writes what it was told to write, and ends as it was told to
end.  Asked to capture, it reads its input until a line tells it to stop or the input
is closed, which it notes; or it exits at once, if it was told to.

The script is run by the shell.  Of all other programs only those are known that do
nothing but succeed or fail.
-/

namespace PacketMeter.Rehearsal

open PacketMeter.Engine

/-- A script by its path, what it was told, its log, and for every child whether it
still runs. -/
structure Script where
  path : String
  output : List UInt8
  exit : ExitStatus
  exitsAtOnce : Bool
  directories : List String
  files : List String
  log : List String
  children : List Bool
  deriving Repr, Inhabited

/-- What a program is. -/
inductive Executable where
  | script (args : List String)
  | ends (code : Nat)
  deriving Repr, DecidableEq, Inhabited

namespace Script

def systemDirectories : List String :=
  ["/", ".", "..", "/tmp", "/bin", "/etc", "/usr", "/dev", "/proc", "/root"]

/-- Files of the system that are no programs. -/
def systemFiles : List String := ["/etc/passwd", "/etc/hosts", "/dev/null"]

/-- A script that was not run, in a directory with other files that are no
programs. -/
def make (path : String) (output : List UInt8) (exit : ExitStatus) (exitsAtOnce : Bool)
    (directory : String) (files : List String) : Script where
  path
  output
  exit
  exitsAtOnce
  directories := directory :: systemDirectories
  files := path :: files ++ systemFiles
  log := []
  children := []

/-- The fault of a text that cannot be handed to the system. -/
def nulInside : Fault := .described .invalidInput "nul byte found in provided data"

/-- The places where programs are found by name. -/
def binaries : List String := ["", "/bin/", "/usr/bin/"]

/-- Whether a program is the one with a name. -/
def isProgram (program name : String) : Bool := binaries.any fun place => place ++ name == program

/-- Finds the program with a name or a path, for the arguments that it gets. -/
def find (s : Script) (program : String) (args : List String) : Except Fault Executable :=
  if (program :: args).any fun text => text.toList.contains '\x00' then .error nulInside
  else if isProgram program "sh" then
    match args with
    | [] => .ok (.ends 0)
    | path :: rest => .ok (if path == s.path then .script rest else .ends 2)
  else if isProgram program "true" then .ok (.ends 0)
  else if isProgram program "false" then .ok (.ends 1)
  else if s.directories.contains program || s.files.contains program then .error (.system 13)
  else .error (.system 2)

def note (s : Script) (text : String) : Script :=
  { s with log := s.log ++ ((Text.lines (text.toList ++ ['\n'])).map String.ofList) }

def noteArgs (s : Script) (args : List String) : Script := s.note (String.intercalate " " args)

/-- Runs a program to its end. -/
def run (s : Script) (program : String) (args : List String) :
    Except Fault (ExitStatus × List UInt8) × Script :=
  match s.find program args with
  | .error f => (.error f, s)
  | .ok (.ends code) => (.ok (.code code, []), s)
  | .ok (.script args) => (.ok (s.exit, s.output), s.noteArgs args)

/-- Starts a program as a child. -/
def spawn (s : Script) (program : String) (args : List String) : Except Fault Nat × Script :=
  let child := s.children.length
  match s.find program args with
  | .error f => (.error f, s)
  | .ok (.ends _) => (.ok child, { s with children := s.children ++ [false] })
  | .ok (.script args) =>
    (.ok child, { s.noteArgs args with children := s.children ++ [!s.exitsAtOnce] })

def isRunning (s : Script) (child : Nat) : Bool := s.children[child]?.getD false

def finish (s : Script) (child : Nat) : Script := { s with children := s.children.set child false }

/-- Writes a line to a child. -/
def write (s : Script) (child : Nat) (line : String) : Except Fault Unit × Script :=
  if s.isRunning child then
    let s := s.note line
    (.ok (), if line = "stop" then s.finish child else s)
  else (.error (.system 32), s)

/-- Closes the input of a child. -/
def closeInput (s : Script) (child : Nat) : Script :=
  if s.isRunning child then (s.note "eof").finish child else s

def ask {α : Type} (question : ProcessCall α) (s : Script) : Except Fault α × Script :=
  match question with
  | .run program args => s.run program args
  | .spawn program args => s.spawn program args
  | .hasExited child => (.ok (!s.isRunning child), s)
  | .write child line => s.write child line
  | .closeInput child => (.ok (), s.closeInput child)
  | .graceLasts _ => (.ok true, s)
  | .kill child => (.ok (), s.finish child)
  | .reap _ => (.ok (), s)

instance : ProcessHost Script where
  ask := ask

/-- The signals that do not end a process that has not asked for them. -/
def harmless : List Nat := [0, 17, 18, 23, 28]

/-- How a script ends that is told to signal itself and then to exit with a code. -/
def ending (code : Nat) (signal? : Option Nat) : ExitStatus :=
  match signal? with
  | some n => if harmless.contains n then .code (code % 256) else .signal n
  | none => .code (code % 256)

/-- The lines of the log since a moment at which there were `n`. -/
def logSince (s : Script) (n : Nat) : List String := s.log.drop n

end Script

end PacketMeter.Rehearsal
