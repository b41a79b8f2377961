import PacketMeter.Fault
import PacketMeter.Frame

/-!
# Failures

Why an operation of the library failed.  `Failure.message` is the one text of
each cause, `isRetryable` tells the causes after which the same operation may
succeed, and `cause?` is the text of the error underneath, when there is one.
-/

namespace PacketMeter

/-- Why an operation of the library failed. -/
inductive Failure where
  | connectTimeout (limit : Duration)
  | enumerationTimeout (limit : Duration)
  | engineUnavailable (reason : String)
  | shutdownTimeout (limit : Duration)
  | decode (error : DecodeError)
  | closed
  | io (fault : Fault)
  deriving Repr, DecidableEq, Inhabited

namespace Failure

def message : Failure → String
  | connectTimeout limit => "no capture stream after " ++ limit.text
  | enumerationTimeout limit => "device enumeration timed out after " ++ limit.text
  | engineUnavailable reason => "capture engine unavailable: " ++ reason
  | shutdownTimeout limit => "reader did not exit within " ++ limit.text
  | decode error => error.message
  | closed => "channel closed"
  | io fault => fault.message

/-- Whether the same operation may succeed later. -/
def isRetryable : Failure → Bool
  | connectTimeout _ | enumerationTimeout _ => true
  | _ => false

/-- The text of the error that caused the failure. -/
def cause? : Failure → Option String
  | decode error => some error.message
  | io fault => some fault.message
  | _ => none

end Failure

end PacketMeter
