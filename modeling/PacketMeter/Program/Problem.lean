import PacketMeter.CommandLine.Value
import PacketMeter.Failure
import PacketMeter.Text.Search

/-!
# Why the program gives up

A problem ends the program.  It is reported in one line, and below it stands the
error that caused it, when there is one.
-/

namespace PacketMeter.Program

/-- Why the program gives up. -/
inductive Problem where
  | missingArgument (name : String)
  | invalidValue (error : CommandLine.InvalidValue)
  | fault (fault : Fault)
  | failure (failure : Failure)
  | badPattern
  | other (text : String)
  deriving Repr, DecidableEq, Inhabited

namespace Problem

def message : Problem → String
  | missingArgument name => "error: The argument '" ++ name ++ "' wasn't found\n"
  | invalidValue error => error.message
  | fault f => f.message
  | failure f => f.message
  | badPattern => "regex"
  | other text => text

/-- The text of the error underneath. -/
def cause? : Problem → Option String
  | failure f => f.cause?
  | _ => none

def report (p : Problem) : String :=
  match p.cause? with
  | some cause => p.message ++ "\n\nCaused by:\n    " ++ cause
  | none => p.message

/-- The lines that report a problem on standard error. -/
def lines (p : Problem) : List String :=
  (Text.lines ("Error: " ++ p.report ++ "\n").toList).map String.ofList

end Problem

/-- The result of reading an option, with an invalid value as a problem. -/
def checked {α : Type} : Except CommandLine.InvalidValue α → Except Problem α
  | .ok a => .ok a
  | .error e => .error (.invalidValue e)

end PacketMeter.Program
