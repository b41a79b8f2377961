import PacketMeter.Capture.Connect

/-!
# Rehearsed sites

A site is what a capture finds at the place of its engine: somebody who listens,
nobody yet, something that is no socket, or a place that cannot be reached at all.
-/

namespace PacketMeter.Rehearsal

/-- What is found at the place of an engine.  `absent` gives the time after which
somebody listens, if that happens at all. -/
inductive Site where
  | listening
  | absent (opens? : Option Duration)
  | plainFile
  | underFile
  | longPath
  | unreachable
  deriving Repr, DecidableEq, Inhabited

namespace Site

/-- The fault of the path of a socket that does not fit into an address. -/
def pathTooLong : Fault := .described .invalidInput "path must be shorter than SUN_LEN"

/-- What comes of an attempt to connect at a time after the first one. -/
def attempt (site : Site) (elapsed : Duration) : Except Fault Unit :=
  match site with
  | listening => .ok ()
  | absent none => .error (.system 2)
  | absent (some opens) =>
    if opens.nanoseconds ≤ elapsed.nanoseconds then .ok () else .error (.system 2)
  | plainFile => .error (.system 111)
  | underFile => .error (.system 20)
  | longPath => .error pathTooLong
  | unreachable => .error (.system 101)

def connect (site : Site) (limit : Duration) : Except Failure Unit :=
  Capture.connect limit site.attempt

end Site

end PacketMeter.Rehearsal
