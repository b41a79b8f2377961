import PacketMeter.Failure
import PacketMeter.Frame.Stream

/-!
# Frame files

A frame file holds the frames of its records one after another.  `save` writes
records to a sink that may take its bytes in parts or fail, and `load` reads all
records of a stream.

A sink that takes nothing ends the writing with a fault, an interrupted write is
repeated, and every other fault ends the writing with what was taken before it.
A stream that fails, or holds bytes that are no frame, has no records.
-/

namespace PacketMeter

/-- What a sink does at one write: take at most so many bytes, or fail. -/
inductive Acceptance where
  | takes (limit : Nat)
  | fault (fault : Fault)
  deriving Repr, DecidableEq, Inhabited

/-- Where bytes are written to.  The script says what the next writes meet; after
it every write takes all bytes. -/
structure Sink where
  script : List Acceptance
  flushFault? : Option Fault
  deriving Repr, DecidableEq, Inhabited

namespace FrameFile

/-- The fault of a sink that takes no bytes. -/
def nothingTaken : Fault := .described .writeZero "failed to write whole buffer"

/-- Writes all bytes.  The result is the outcome, the bytes that were taken and
the rest of the script. -/
def writeAll (bytes : List UInt8) :
    List Acceptance → Except Fault Unit × List UInt8 × List Acceptance
  | [] => (.ok (), bytes, [])
  | .fault f :: rest =>
    if bytes.isEmpty then (.ok (), [], .fault f :: rest)
    else if f.isInterruption then writeAll bytes rest
    else (.error f, [], rest)
  | .takes n :: rest =>
    if bytes.isEmpty then (.ok (), [], .takes n :: rest)
    else if n = 0 then (.error nothingTaken, [], rest)
    else
      let (outcome, taken, left) := writeAll (bytes.drop n) rest
      (outcome, bytes.take n ++ taken, left)

/-- Writes the frames of all records.  The result is the outcome, the bytes that
were taken and the rest of the script. -/
def writeRecords : List PacketRecord → List Acceptance →
    Except Fault Unit × List UInt8 × List Acceptance
  | [], script => (.ok (), [], script)
  | r :: rs, script =>
    match writeAll (Frame.encode r) script with
    | (.error f, taken, left) => (.error f, taken, left)
    | (.ok (), taken, left) =>
      let (outcome, more, left) := writeRecords rs left
      (outcome, taken ++ more, left)

/-- Writes the frames of all records and flushes the sink.  The result is the
number of records, and the bytes that were taken. -/
def save (records : List PacketRecord) (sink : Sink) : Except Failure Nat × List UInt8 :=
  match writeRecords records sink.script with
  | (.error f, taken, _) => (.error (.io f), taken)
  | (.ok (), taken, _) =>
    match sink.flushFault? with
    | some f => (.error (.io f), taken)
    | none => (.ok records.length, taken)

/-- The records of the frames before the end of a stream, or the first failure. -/
def collect : List Reading → Except Failure (List PacketRecord)
  | [] | .ended :: _ => .ok []
  | .failed f :: _ => .error (.io f)
  | .frame bytes :: rest =>
    match Frame.decode bytes with
    | .error e => .error (.decode e)
    | .ok r => (collect rest).map (r :: ·)

/-- The records of a stream. -/
def load (script : List Delivery) : Except Failure (List PacketRecord) :=
  collect (FrameReader.empty.readings script)

@[simp] theorem writeAll_nil_script (bytes : List UInt8) :
    writeAll bytes [] = (.ok (), bytes, []) := rfl

/-- A sink without a script takes the concatenation of all frames. -/
theorem writeRecords_nil_script (records : List PacketRecord) :
    writeRecords records [] = (.ok (), records.flatMap Frame.encode, []) := by
  induction records with
  | nil => rfl
  | cons r rs ih => simp [writeRecords, ih]

end FrameFile

end PacketMeter
