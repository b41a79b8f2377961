import PacketMeter.CommandLine.Grammar

/-!
# The command line

The program has three subcommands: `devices` lists the devices of an engine,
`capture` captures from one of them, and `replay` counts the records of a frame
file.  Some options may stand before or after the name of the subcommand; those
after it take the place of those before it.

`help`, with or without the name of a subcommand, asks for help like `--help`.
-/

namespace PacketMeter.CommandLine

/-- A subcommand of the program. -/
inductive Subcommand where
  | devices
  | capture
  | replay
  deriving Repr, DecidableEq, Inhabited

/-- What the program is asked to do. -/
structure Invocation where
  subcommand : Subcommand
  arguments : Matches
  deriving Repr, Inhabited

/-- An option with a value of free choice. -/
def valued (name : String) (short? : Option Char) : OptionSpec :=
  ⟨name, short?, some name, .value, false, [], none⟩

/-- The options that every command has. -/
def commonOptions : List OptionSpec := [
  ⟨"help", some 'h', some "help", .help, false, [], none⟩,
  ⟨"version", some 'V', some "version", .version, false, [], none⟩,
  ⟨"verbose", some 'v', none, .flag, true, [], none⟩,
  valued "engine" none,
  ⟨"engine-arg", none, some "engine-arg", .value, true, [], none⟩,
  valued "endpoint" none,
  valued "signal" none,
  valued "connect-timeout" none,
  valued "enumeration-timeout" none]

/-- The options that choose records and the form of snapshots. -/
def reportOptions : List OptionSpec := [
  valued "filter" (some 'f'),
  ⟨"output", some 'o', some "output", .value, false, ["log", "json"], some "log"⟩]

def captureOptions : List OptionSpec := [
  ⟨"native", none, some "native", .flag, false, [], none⟩,
  valued "save" none,
  valued "cadence" none,
  valued "capacity" none]

namespace Subcommand

def name : Subcommand → String
  | devices => "devices"
  | capture => "capture"
  | replay => "replay"

/-- The command that a subcommand is. -/
def command : Subcommand → Command
  | devices => ⟨commonOptions, [], []⟩
  | capture => ⟨commonOptions ++ reportOptions ++ captureOptions, ["device"], []⟩
  | replay => ⟨commonOptions ++ reportOptions, ["file"], []⟩

def all : List Subcommand := [devices, capture, replay]

def named? (name : String) : Option Subcommand := all.find? fun s => s.name == name

end Subcommand

def programName : String := "tapline"

def programVersion : String := "0.1.0"

/-- Why a command line is not carried out, and the subcommand whose words were being
read. -/
structure Refusal where
  error : UsageError
  subcommand? : Option Subcommand
  deriving Repr, DecidableEq, Inhabited

namespace Refusal

/-- The line that answers a request for the version.  Subcommands have none of their
own. -/
def versionLine (r : Refusal) : String :=
  match r.subcommand? with
  | none => programName ++ " " ++ programVersion
  | some subcommand => programName ++ "-" ++ subcommand.name ++ " "

end Refusal

def program : Command := ⟨commonOptions, [], Subcommand.all.map Subcommand.name ++ ["help"]⟩

/-- What comes of asking for help about subcommands. -/
def askHelp : List String → UsageError
  | [] => .helpDisplayed
  | [name] => if program.subcommands.contains name then .helpDisplayed else .unrecognizedSubcommand
  | _ => .unrecognizedSubcommand

/-- Reads the words of a subcommand. -/
def readSubcommand (subcommand : Subcommand) (words : List String) : Except Refusal Matches :=
  match subcommand.command.read subcommand.command.start words with
  | .error e => .error ⟨e, some subcommand⟩
  | .ok (p, _) => (subcommand.command.check p).mapError fun e => ⟨e, some subcommand⟩

/-- What a command line, without the name of the program, asks for. -/
def parse (words : List String) : Except Refusal Invocation :=
  match program.read program.start words with
  | .error e => .error ⟨e, none⟩
  | .ok (_, none) => .error ⟨.missingArgumentOrSubcommand, none⟩
  | .ok (p, some (name, rest)) =>
    match Subcommand.named? name with
    | none => .error ⟨askHelp rest, none⟩
    | some subcommand =>
      match readSubcommand subcommand rest with
      | .error e => .error e
      | .ok inner =>
        match program.check p with
        | .error e => .error ⟨e, none⟩
        | .ok outer => .ok ⟨subcommand, outer.override inner⟩

end PacketMeter.CommandLine
