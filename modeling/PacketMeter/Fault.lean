import PacketMeter.Fault.System

/-!
# Faults

A fault of reading, writing or the file system comes either from the operating
system, which reports a number, or from this library, which gives its kind and
describes it in words.
-/

namespace PacketMeter

/-- Why reading, writing or a file operation failed. -/
inductive Fault where
  | system (number : Int)
  | described (kind : FaultKind) (text : String)
  deriving Repr, DecidableEq, Inhabited

namespace Fault

def kind : Fault → FaultKind
  | system number => SystemFault.kindOf number
  | described kind _ => kind

def message : Fault → String
  | system number => SystemFault.textOf number ++ " (os error " ++ toString number ++ ")"
  | described _ text => text

/-- Whether the fault means that the peer is gone, and not that one operation
failed and the next may succeed. -/
def isDisconnect (f : Fault) : Bool :=
  match f.kind with
  | .unexpectedEof | .connectionReset | .connectionAborted | .brokenPipe | .notConnected => true
  | _ => false

/-- Whether the fault only says that nothing listens yet, so that a later attempt
to connect may succeed. -/
def isPending (f : Fault) : Bool :=
  match f.kind with
  | .notFound | .connectionRefused | .timedOut | .wouldBlock => true
  | _ => false

/-- Whether the operation was only interrupted and is to be repeated. -/
def isInterruption (f : Fault) : Bool := f.kind == .interrupted

@[simp] theorem kind_described (k : FaultKind) (s : String) : (described k s).kind = k := rfl

@[simp] theorem message_described (k : FaultKind) (s : String) : (described k s).message = s := rfl

end Fault

end PacketMeter
