import PacketMeter.Engine.Process
import PacketMeter.Failure
import PacketMeter.Text.Blank
import PacketMeter.Text.Search
import PacketMeter.Text.Utf8

/-!
# Engines that are programs

A capture engine may be a program.  `<program> devices` writes its devices, one on
a line.  `<program> capture <n>` captures from a device, and takes commands from its
input until it is told to stop.

At most one child captures at a time.  Starting while it runs changes nothing, and
a child that has exited by itself is replaced.  Stopping tells the child to stop;
stopping and closing both close its input and wait for it to exit, and it is killed
when it does not.
-/

namespace PacketMeter.Engine

/-- A program with its first arguments, and the child that captures. -/
structure Command where
  program : String
  args : List String
  child? : Option Nat
  deriving Repr, DecidableEq, Inhabited

namespace Command

/-- A program that was not started. -/
def make (program : String) (args : List String) : Command := ⟨program, args, none⟩

/-- The devices that an output names: its lines without blanks at their ends,
except for those that are blank. -/
def deviceNames (output : List UInt8) : List String :=
  (((Text.lines (Text.Utf8.decode output)).map Text.trim).filter fun line => !line.isEmpty).map
    String.ofList

/-- The failure that a fault counts as. -/
def unavailable (f : Fault) : Failure := .engineUnavailable f.message

/-- The failure when no child captures. -/
def notRunning : Failure := .engineUnavailable "engine not running"

variable {σ : Type} [ProcessHost σ]

def devices (c : Command) (s : σ) : Except Failure (List String) × σ :=
  match ProcessHost.ask (.run c.program (c.args ++ ["devices"])) s with
  | (.error f, s) => (.error (unavailable f), s)
  | (.ok (status, output), s) =>
    if status.isSuccess then (.ok (deviceNames output), s)
    else (.error (.engineUnavailable ("device listing exited with " ++ status.text)), s)

/-- Starts a child that captures from a device. -/
def spawn (c : Command) (device : Nat) (s : σ) : Except Failure Unit × Command × σ :=
  match ProcessHost.ask (.spawn c.program (c.args ++ ["capture", toString device])) s with
  | (.error f, s) => (.error (.engineUnavailable (c.program ++ ": " ++ f.message)), c, s)
  | (.ok child, s) => (.ok (), { c with child? := some child }, s)

/-- Starts capturing from a device, unless a child captures already. -/
def start (c : Command) (device : Nat) (s : σ) : Except Failure Unit × Command × σ :=
  match c.child? with
  | none => c.spawn device s
  | some child =>
    match ProcessHost.ask (.hasExited child) s with
    | (.error f, s) => (.error (.io f), c, s)
    | (.ok false, s) => (.ok (), c, s)
    | (.ok true, s) => c.spawn device s

/-- Writes a line to the child. -/
def send (c : Command) (line : String) (s : σ) : Except Failure Unit × σ :=
  match c.child? with
  | none => (.error notRunning, s)
  | some child =>
    match ProcessHost.ask (.write child line) s with
    | (.error f, s) => (.error (unavailable f), s)
    | (.ok (), s) => (.ok (), s)

def select (c : Command) (device : Nat) (s : σ) : Except Failure Unit × σ :=
  c.send ("select " ++ toString device) s

/-- Kills a child that does not exit. -/
def kill (child : Nat) (s : σ) : Except Failure Unit × σ :=
  match ProcessHost.ask (.kill child) s with
  | (.error f, s) => (.error (.io f), s)
  | (.ok (), s) =>
    match ProcessHost.ask (.reap child) s with
    | (.error f, s) => (.error (.io f), s)
    | (.ok (), s) => (.ok (), s)

/-- How long a child has to exit by itself. -/
def grace : Duration := .ofSeconds 1

/-- The pause after a child was asked whether it has exited. -/
def pause : Duration := .ofMillis 20

/-- How often a child can be asked before its grace is over. -/
def rounds : Nat := grace.nanoseconds / pause.nanoseconds

/-- Asks a child up to some times whether it has exited, while its grace lasts, and
then kills it. -/
def awaitRounds (child : Nat) : Nat → σ → Except Failure Unit × σ
  | 0, s => kill child s
  | n + 1, s =>
    match ProcessHost.ask (.graceLasts child) s with
    | (.error _, s) => kill child s
    | (.ok false, s) => kill child s
    | (.ok true, s) =>
      match ProcessHost.ask (.hasExited child) s with
      | (.error f, s) => (.error (.io f), s)
      | (.ok true, s) => (.ok (), s)
      | (.ok false, s) => awaitRounds child n s

/-- Waits for a child to exit. -/
def await (child : Nat) (s : σ) : Except Failure Unit × σ :=
  awaitRounds child rounds (ProcessHost.ask (.closeInput child) s).2

/-- Lets go of the child. -/
def close (c : Command) (s : σ) : Except Failure Unit × Command × σ :=
  match c.child? with
  | none => (.ok (), c, s)
  | some child =>
    let (outcome, s) := await child s
    (outcome, { c with child? := none }, s)

/-- Stops capturing.  When the child cannot be told so, that is the failure, but
the child is let go of all the same. -/
def stop (c : Command) (s : σ) : Except Failure Unit × Command × σ :=
  let (told, s) := c.send "stop" s
  match c.close s with
  | (.error f, c, s) => (.error f, c, s)
  | (.ok (), c, s) => (told, c, s)

/-- Closing lets go of the child whatever comes of it. -/
@[simp] theorem child?_close (c : Command) (s : σ) : (c.close s).2.1.child? = none := by
  unfold close
  split
  · assumption
  · rfl

/-- So does stopping. -/
@[simp] theorem child?_stop (c : Command) (s : σ) : (c.stop s).2.1.child? = none := by
  have h := child?_close c (c.send "stop" s).2
  unfold stop
  simp only []
  split <;> simp_all

end Command

end PacketMeter.Engine
