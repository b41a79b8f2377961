import PacketMeter.Endpoint
import PacketMeter.Failure

/-!
# Hosts

A capture needs things outside the library: the capture engine, the signal that
arms it, the connection that its frames arrive on, and the thread that reads
them.  A host is whatever does these things.  It has states, and for every call
and every state it says what comes of the call and what the next state is.

A call works, fails or crashes.  A crash ends whatever asked for the call, while
a failure can be dealt with.
-/

namespace PacketMeter

/-- What comes of a call. -/
inductive Outcome (α : Type) where
  | done (a : α)
  | failed (failure : Failure)
  | crashed (message : String)
  deriving Repr, DecidableEq, Inhabited

namespace Outcome

variable {α : Type}

/-- Whether the call worked. -/
def isDone : Outcome α → Bool
  | done _ => true
  | _ => false

/-- A text in quotes, with escapes for quotes, backslashes and control
characters. -/
def quoted (s : String) : String :=
  let part (c : Char) : String :=
    if c = '"' then "\\\""
    else if c = '\\' then "\\\\"
    else if c = '\n' then "\\n"
    else if c = '\r' then "\\r"
    else if c = '\t' then "\\t"
    else if c = '\x00' then "\\0"
    else if c.toNat < 0x20 ∨ (0x7F ≤ c.toNat ∧ c.toNat < 0xA0) then
      "\\u\x7b" ++ String.ofList (Nat.toDigits 16 c.toNat) ++ "\x7d"
    else c.toString
  "\"" ++ String.join (s.toList.map part) ++ "\""

/-- The outcome of a call that cannot crash. -/
def ofResult : Except Failure α → Outcome α
  | .ok a => done a
  | .error f => failed f

/-- The failure that the crash of a task counts as. -/
def crashFailure (message : String) : Failure :=
  .engineUnavailable ("task N panicked with message " ++ quoted message)

/-- The outcome of a task for those who wait for it, to whom a crash is a failure
like others. -/
def result : Outcome α → Except Failure α
  | done a => .ok a
  | failed f => .error f
  | crashed message => .error (crashFailure message)

end Outcome

/-- A call to a host, with the type of what it gives.

`share` makes a second handle on the connection, for the reader.  `join` waits for
the reader to exit and says whether it did in time. -/
inductive HostCall : Type → Type 1 where
  | set : HostCall Unit
  | reset : HostCall Unit
  | devices (limit : Duration) : HostCall (List String)
  | start (device : Nat) : HostCall Unit
  | select (device : Nat) : HostCall Unit
  | stop : HostCall Unit
  | close : HostCall Unit
  | connect (endpoint : Endpoint) (limit : Duration) : HostCall Unit
  | share : HostCall Unit
  | shutdown : HostCall Unit
  | join (limit : Duration) : HostCall Bool

/-- States in which calls are answered. -/
class CaptureHost (σ : Type) where
  perform {α : Type} : HostCall α → σ → Outcome α × σ

export CaptureHost (perform)

end PacketMeter
