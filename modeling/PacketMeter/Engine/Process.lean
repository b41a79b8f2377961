import PacketMeter.Fault

/-!
# Processes

What a library needs of an operating system to use another program: running it to
its end, or starting it as a child and writing lines to its input until it exits.

A host of processes has states, and for every call and every state it says what
comes of the call and what the next state is.
-/

namespace PacketMeter.Engine

/-- How a process ended. -/
inductive ExitStatus where
  | code (n : Nat)
  | signal (n : Nat)
  deriving Repr, DecidableEq, Inhabited

namespace ExitStatus

/-- The names of the signals, the first of them that of signal 1. -/
def signalNames : List String := [
  "SIGHUP", "SIGINT", "SIGQUIT", "SIGILL", "SIGTRAP", "SIGABRT", "SIGBUS", "SIGFPE", "SIGKILL",
  "SIGUSR1", "SIGSEGV", "SIGUSR2", "SIGPIPE", "SIGALRM", "SIGTERM", "SIGSTKFLT", "SIGCHLD",
  "SIGCONT", "SIGSTOP", "SIGTSTP", "SIGTTIN", "SIGTTOU", "SIGURG", "SIGXCPU", "SIGXFSZ",
  "SIGVTALRM", "SIGPROF", "SIGWINCH", "SIGIO", "SIGPWR", "SIGSYS"]

/-- The name of a signal in parentheses, when it has one. -/
def signalName (n : Nat) : String :=
  match signalNames[n - 1]? with
  | some name => " (" ++ name ++ ")"
  | none => ""

def text : ExitStatus → String
  | code n => "exit status: " ++ toString n
  | signal n => "signal: " ++ toString n ++ signalName n

/-- Whether the process ended without an error. -/
def isSuccess (status : ExitStatus) : Bool := status == code 0

end ExitStatus

/-- A call to a host of processes, with the type of what it gives.  Children are
known by number.

`run` gives the status and the output of a program that has ended.  `hasExited`
asks whether a child has exited, and a child of which it says so is gone for good, as
after `reap`.  `graceLasts` asks whether a child that is to exit still has time. -/
inductive ProcessCall : Type → Type 1 where
  | run (program : String) (args : List String) : ProcessCall (ExitStatus × List UInt8)
  | spawn (program : String) (args : List String) : ProcessCall Nat
  | hasExited (child : Nat) : ProcessCall Bool
  | write (child : Nat) (line : String) : ProcessCall Unit
  | closeInput (child : Nat) : ProcessCall Unit
  | graceLasts (child : Nat) : ProcessCall Bool
  | kill (child : Nat) : ProcessCall Unit
  | reap (child : Nat) : ProcessCall Unit

/-- States in which calls are answered. -/
class ProcessHost (σ : Type) where
  ask {α : Type} : ProcessCall α → σ → Except Fault α × σ

end PacketMeter.Engine
