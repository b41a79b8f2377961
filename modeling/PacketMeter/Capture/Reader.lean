import PacketMeter.Channel
import PacketMeter.Frame.Stream

/-!
# The capture reader

The reader takes the frames off the connection and sends their records to a
channel.  Heartbeats are not sent, and what is no frame is dropped, which the
reader reports.

It exits at the end of the stream, when the peer is gone, when the channel takes
no more records, and when it is told to stop.  Any other fault costs nothing and
the reader goes on.  Whatever the reason, it closes its channel as it exits and
reports how many frames of each kind there were.
-/

namespace PacketMeter.Capture

/-- A line of the log. -/
inductive Report where
  | readFailed (fault : Fault)
  | frameDropped (error : DecodeError)
  | readerDone (forwarded heartbeats rejected : Nat)
  | stopFailed (failure : Failure)
  deriving Repr, DecidableEq, Inhabited

def Report.text : Report → String
  | readFailed fault => "capture read failed: " ++ fault.message
  | frameDropped error => "dropping frame: " ++ error.message
  | readerDone forwarded heartbeats rejected =>
    "capture reader done: " ++ toString forwarded ++ " forwarded, " ++
      toString heartbeats ++ " heartbeats, " ++ toString rejected ++ " rejected"
  | stopFailed failure => "capture stop failed: " ++ failure.message

/-- Whether a line is about a frame that was dropped. -/
def Report.isFrameDropped : Report → Bool
  | frameDropped _ => true
  | _ => false

/-- Whether a line is that of a reader which exits. -/
def Report.isReaderDone : Report → Bool
  | readerDone _ _ _ => true
  | _ => false

/-- Whether a line is about a stop that failed. -/
def Report.isStopFailed : Report → Bool
  | stopFailed _ => true
  | _ => false

/-- A reader: the frame that it is in, whether it was told to stop and whether it
has exited, and how many frames of each kind it has seen.  These numbers are exact, and
words of 64 bits show the same of fewer than 2^64 frames. -/
structure Reader where
  frames : FrameReader
  stopping : Bool
  exited : Bool
  forwarded : Nat
  heartbeats : Nat
  rejected : Nat
  deriving Inhabited

/-- The channel that records are sent to. -/
abbrev Packets := Channel PacketRecord

namespace Reader

/-- A reader at the start of a stream. -/
def start : Reader := ⟨FrameReader.empty, false, false, 0, 0, 0⟩

def exit (r : Reader) (packets : Packets) : Reader × Packets × List Report :=
  ({ r with exited := true }, packets.close, [.readerDone r.forwarded r.heartbeats r.rejected])

def forward (r : Reader) (packets : Packets) (record : PacketRecord) :
    Reader × Packets × List Report :=
  let r := { r with forwarded := r.forwarded + 1 }
  match packets.send record with
  | (.ok (), packets) => (r, packets, [])
  | (.error _, packets) => r.exit packets

/-- Deals with one result of reading. -/
def handle (r : Reader) (packets : Packets) : Reading → Reader × Packets × List Report
  | .ended => r.exit packets
  | .failed fault =>
    if fault.isDisconnect || r.stopping then r.exit packets
    else (r, packets, [.readFailed fault])
  | .frame bytes =>
    match Frame.decode bytes with
    | .error e => ({ r with rejected := r.rejected + 1 }, packets, [.frameDropped e])
    | .ok record =>
      if record.isHeartbeat then ({ r with heartbeats := r.heartbeats + 1 }, packets, [])
      else r.forward packets record

/-- One round of the reader: deals with one result of reading, and then exits if
it was told to stop. -/
def round (r : Reader) (packets : Packets) (reading : Reading) :
    Reader × Packets × List Report :=
  let (r, packets, reports) := r.handle packets reading
  if r.stopping && !r.exited then
    let (r, packets, more) := r.exit packets
    (r, packets, reports ++ more)
  else (r, packets, reports)

/-- Deals with what the connection delivers, until that is used up or the reader
exits. -/
def take (r : Reader) (packets : Packets) (script : List Delivery) :
    Reader × Packets × List Report :=
  if r.exited then (r, packets, [])
  else match _h : r.frames.advance script with
    | (none, frames, _) => ({ r with frames }, packets, [])
    | (some reading, frames, rest) =>
      let (r, packets, reports) := { r with frames }.round packets reading
      let (r, packets, more) := r.take packets rest
      (r, packets, reports ++ more)
  termination_by Delivery.weight script
  decreasing_by exact FrameReader.weight_advance_lt _h

/-- Deals with the end of the stream. -/
def finish (r : Reader) (packets : Packets) : Reader × Packets × List Report :=
  if r.exited then (r, packets, []) else r.round packets r.frames.endReading

/-- Reads a whole stream. -/
def poll (r : Reader) (packets : Packets) (script : List Delivery) :
    Reader × Packets × List Report :=
  let (r, packets, reports) := r.take packets script
  let (r, packets, more) := r.finish packets
  (r, packets, reports ++ more)

def tellToStop (r : Reader) : Reader := { r with stopping := true }

@[simp] theorem exited_exit (r : Reader) (packets : Packets) :
    (r.exit packets).1.exited = true := rfl

/-- The reader closes its channel as it exits. -/
@[simp] theorem closed_exit (r : Reader) (packets : Packets) :
    (r.exit packets).2.1.closed = true := rfl

end Reader

end PacketMeter.Capture
