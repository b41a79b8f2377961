import PacketMeter.Fault
import PacketMeter.Frame

/-!
# Frames out of a byte stream

A stream delivers bytes in pieces of any size, now and then a fault, and ends.
`FrameReader` puts the pieces together into frames.  It keeps the bytes of the
frame that is not complete yet, so that a fault in the middle of a frame costs
nothing: the next attempt goes on where the last one stopped.

`advance` works through the deliveries that are there and stops at the first
result; with none left it keeps what it has and reports nothing.  `read` is the
same on a stream that has no more to deliver, where running out of deliveries is
the end of the stream.

An interrupted read is repeated without a result.  The end of the stream inside
a frame is a fault that names the number of bytes that were there, and they are
dropped.
-/

namespace PacketMeter

/-- What a stream delivers at one read: some bytes, or a fault.  Delivering no
bytes is the end of the stream for that read. -/
inductive Delivery where
  | data (bytes : List UInt8)
  | fault (fault : Fault)
  deriving Repr, DecidableEq, Inhabited

namespace Delivery

/-- The work that a list of deliveries holds: its bytes and its pieces. -/
def weight : List Delivery → Nat
  | [] => 0
  | data bytes :: rest => bytes.length + 1 + weight rest
  | fault _ :: rest => 1 + weight rest

end Delivery

/-- The result of asking a stream for one frame. -/
inductive Reading where
  | frame (bytes : List UInt8)
  | ended
  | failed (fault : Fault)
  deriving Repr, DecidableEq, Inhabited

/-- The bytes of the frame that is not complete yet. -/
structure FrameReader where
  pending : List UInt8
  pending_lt : pending.length < Frame.length

namespace FrameReader

/-- The reader at the start of a frame. -/
def empty : FrameReader := ⟨[], by decide⟩

instance : Inhabited FrameReader := ⟨empty⟩

/-- The fault of a stream that ends after `n` bytes of a frame. -/
def truncated (n : Nat) : Fault :=
  .described .unexpectedEof
    ("stream closed after " ++ toString n ++ " of " ++ toString Frame.length ++ " frame bytes")

/-- The result when the stream ends here. -/
def endReading (r : FrameReader) : Reading :=
  if r.pending.isEmpty then .ended else .failed (truncated r.pending.length)

/-- Works through deliveries up to the first result, and reports nothing when
they run out first.  A piece that reaches beyond its frame leaves the rest of
its bytes for the next result. -/
def advance (r : FrameReader) : List Delivery → Option Reading × FrameReader × List Delivery
  | [] => (none, r, [])
  | .fault f :: rest =>
    if f.isInterruption then advance r rest else (some (.failed f), r, rest)
  | .data bytes :: rest =>
    if bytes.isEmpty then (some r.endReading, empty, rest)
    else if h : (r.pending ++ bytes).length < Frame.length then advance ⟨r.pending ++ bytes, h⟩ rest
    else
      let missing := Frame.length - r.pending.length
      let left := bytes.drop missing
      (some (.frame (r.pending ++ bytes.take missing)), empty,
        if left.isEmpty then rest else .data left :: rest)

/-- Asks a stream with the given deliveries, and no more after them, for one
frame. -/
def read (r : FrameReader) (script : List Delivery) : Reading × FrameReader × List Delivery :=
  match r.advance script with
  | (some reading, r', rest) => (reading, r', rest)
  | (none, r', rest) => (r'.endReading, empty, rest)

/-- The results of asking `n` times. -/
def reads (r : FrameReader) (script : List Delivery) : Nat → List Reading
  | 0 => []
  | n + 1 =>
    let (reading, r', rest) := r.read script
    reading :: reads r' rest n

/-- Every result uses up some of the deliveries. -/
theorem weight_advance_lt {r r' : FrameReader} {script rest : List Delivery} {x : Reading}
    (h : r.advance script = (some x, r', rest)) :
    Delivery.weight rest < Delivery.weight script := by
  induction script generalizing r with
  | nil => simp [advance] at h
  | cons d ds ih =>
    cases d with
    | fault f =>
      simp only [advance] at h
      split at h
      · have := ih h
        simp only [Delivery.weight]; omega
      · simp only [Prod.mk.injEq] at h
        simp only [Delivery.weight, h.2.2]; omega
    | data bytes =>
      simp only [advance] at h
      split at h
      · simp only [Prod.mk.injEq] at h
        simp only [Delivery.weight, h.2.2]; omega
      · split at h
        · have := ih h
          simp only [Delivery.weight]; omega
        · simp only [Prod.mk.injEq] at h
          have hp := r.pending_lt
          rw [← h.2.2]
          split
          · simp only [Delivery.weight]; omega
          · simp only [Delivery.weight, List.length_drop]
            rename_i hne _ _
            have : bytes.length ≠ 0 := by
              intro h0
              exact hne (by simp [List.length_eq_zero_iff.1 h0])
            omega

/-- All results of a stream, the last of them its end. -/
def readings (r : FrameReader) (script : List Delivery) : List Reading :=
  match _h : r.advance script with
  | (some reading, r', rest) => reading :: readings r' rest
  | (none, r', _) => [r'.endReading]
  termination_by Delivery.weight script
  decreasing_by exact weight_advance_lt _h

@[simp] theorem advance_nil (r : FrameReader) : r.advance [] = (none, r, []) := rfl

/-- An interruption has no effect. -/
theorem advance_cons_interruption (r : FrameReader) {f : Fault} (rest : List Delivery)
    (h : f.isInterruption = true) : r.advance (.fault f :: rest) = r.advance rest := by
  simp [advance, h]

/-- Any other fault is reported and costs no byte. -/
theorem advance_cons_fault (r : FrameReader) {f : Fault} (rest : List Delivery)
    (h : f.isInterruption = false) :
    r.advance (.fault f :: rest) = (some (.failed f), r, rest) := by
  simp [advance, h]

/-- Every frame that is reported has the length of a frame. -/
theorem length_of_advance_frame {r r' : FrameReader} {script rest : List Delivery}
    {bytes : List UInt8} (h : r.advance script = (some (.frame bytes), r', rest)) :
    bytes.length = Frame.length := by
  induction script generalizing r with
  | nil => simp [advance] at h
  | cons d ds ih =>
    cases d with
    | fault f =>
      simp only [advance] at h
      split at h
      · exact ih h
      · simp at h
    | data piece =>
      simp only [advance] at h
      split at h
      · simp only [endReading, Prod.mk.injEq, Option.some.injEq] at h
        split at h <;> simp at h
      · split at h
        · exact ih h
        · simp only [Prod.mk.injEq, Option.some.injEq, Reading.frame.injEq] at h
          rename_i _ hl
          have hp := r.pending_lt
          simp only [List.length_append, Nat.not_lt] at hl
          rw [← h.1, List.length_append, List.length_take]
          omega

end FrameReader

end PacketMeter
