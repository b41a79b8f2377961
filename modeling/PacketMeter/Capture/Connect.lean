import PacketMeter.Failure

/-!
# Connecting

An engine that was just started may not listen yet.  Connecting is therefore
attempted again and again, with a pause between the attempts, until one attempt
works, fails for good, or the limit has passed.

What comes of an attempt is a parameter, a function of the time since the first
one.
-/

namespace PacketMeter.Capture

def attemptPause : Duration := .ofMillis 25

/-- The attempts that are left, the next of them after `elapsed` nanoseconds. -/
def connectFrom {α : Type} (limit : Duration) (attempt : Duration → Except Fault α) :
    Nat → Nat → Except Failure α
  | _, 0 => .error (.connectTimeout limit)
  | elapsed, rounds + 1 =>
    if limit.nanoseconds ≤ elapsed then .error (.connectTimeout limit)
    else match attempt ⟨elapsed⟩ with
      | .ok a => .ok a
      | .error f =>
        if f.isPending then
          connectFrom limit attempt (elapsed + attemptPause.nanoseconds) rounds
        else .error (.io f)

def connect {α : Type} (limit : Duration) (attempt : Duration → Except Fault α) :
    Except Failure α :=
  connectFrom limit attempt 0 (limit.nanoseconds / attemptPause.nanoseconds + 1)

end PacketMeter.Capture
