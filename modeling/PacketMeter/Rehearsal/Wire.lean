import PacketMeter.Capture.Bridge
import PacketMeter.Rehearsal.Stage

/-!
# The wire

Between the engine on a stage and the bridge there is at most one connection, that
of the last reader.  Readers whose connection has ended come to their end by
themselves, unless they pause for longer than anybody waits.
-/

namespace PacketMeter.Rehearsal.Wire

open PacketMeter.Capture

/-- The reader on the connection that the engine holds, when it still reads. -/
def reading? (stage : Stage) (bridge : Bridge) : Option Nat :=
  let last := bridge.workers.length - 1
  if stage.connected && bridge.isReading last then some last else none

/-- Lets every reader whose connection has ended come to its end, unless it pauses
for longer than anybody waits. -/
def settle (cfg : CaptureConfig) (stage : Stage) (bridge : Bridge) : Bridge :=
  if stage.outlasts cfg.joinTimeout then bridge
  else (List.range bridge.workers.length).foldl
    (fun b worker => if reading? stage b = some worker then b else b.disconnect worker) bridge

/-- The fault of a read that has waited too long. -/
def stalled : Fault := .system 11

/-- What a paused reader meets. -/
def pauseDeliveries (stage : Stage) : List Delivery :=
  if stage.stalls then [.fault stalled] else []

/-- Whether a line tells of a failed read. -/
def isReadFailure : Report → Bool
  | .readFailed _ => true
  | _ => false

/-- Whether a read has failed so far. -/
def hasFailed (bridge : Bridge) : Bool := bridge.reports.any isReadFailure

end PacketMeter.Rehearsal.Wire
