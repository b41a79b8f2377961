import Mathlib.Data.List.Basic
import PacketMeter.Frame.Stream

/-!
# A reader with one buffer

A reader of frames that has room for one frame, and a count of the bytes of it that are
filled.  It asks the stream for as many bytes as are missing and puts what it gets after
those that are there.  Only the count is set back, when a frame was returned or given
up: what was in the buffer stays there and is written over.

Nothing of the bytes beyond the count is ever seen.  The buffer answers every question
as a `FrameReader` does that holds the filled bytes.
-/

namespace PacketMeter

/-- Asks a stream once for up to `room` bytes.  A piece that is larger stays with what is
left of it. -/
def Delivery.receive (room : Nat) :
    List Delivery → Except Fault (List UInt8) × List Delivery
  | [] => (.ok [], [])
  | .fault f :: rest => (.error f, rest)
  | .data bytes :: rest =>
    (.ok (bytes.take room),
      if (bytes.drop room).isEmpty then rest else .data (bytes.drop room) :: rest)

/-- The buffer of a frame with the number of its bytes that are filled. -/
structure FrameBuffer where
  bytes : List UInt8
  fill : Nat
  deriving Repr, DecidableEq, Inhabited

namespace FrameBuffer

/-- A buffer of which nothing is filled. -/
def blank : FrameBuffer := ⟨List.replicate Frame.length 0, 0⟩

/-- The buffer with bytes put after those that are filled. -/
def put (b : FrameBuffer) (bytes : List UInt8) : FrameBuffer :=
  ⟨b.bytes.take b.fill ++ bytes ++ b.bytes.drop (b.fill + bytes.length), b.fill + bytes.length⟩

theorem weight_receive_lt_of_error {room : Nat} {script rest : List Delivery} {f : Fault}
    (h : Delivery.receive room script = (.error f, rest)) :
    Delivery.weight rest < Delivery.weight script := by
  cases script with
  | nil => cases h
  | cons d script =>
      cases d with
      | fault g =>
          simp only [Delivery.receive, Prod.mk.injEq] at h
          rw [Delivery.weight, h.2]
          omega
      | data bytes => cases h

theorem weight_receive_lt_of_ok {room : Nat} {script rest : List Delivery} {b : UInt8}
    {bs : List UInt8} (h : Delivery.receive room script = (.ok (b :: bs), rest)) :
    Delivery.weight rest < Delivery.weight script := by
  cases script with
  | nil => cases h
  | cons d script =>
      cases d with
      | fault g => cases h
      | data bytes =>
          simp only [Delivery.receive, Prod.mk.injEq, Except.ok.injEq] at h
          obtain ⟨ht, rfl⟩ := h
          have hlen := congrArg List.length ht
          rw [List.length_take, List.length_cons] at hlen
          split
          · rw [Delivery.weight]
            omega
          · rw [Delivery.weight, Delivery.weight, List.length_drop]
            omega

/-- Asks a stream, with no more than the given deliveries, for one frame. -/
def read (b : FrameBuffer) (script : List Delivery) : Reading × FrameBuffer × List Delivery :=
  if b.fill < Frame.length then
    match _h : Delivery.receive (Frame.length - b.fill) script with
    | (.ok [], rest) =>
      if b.fill = 0 then (.ended, b, rest)
      else (.failed (FrameReader.truncated b.fill), { b with fill := 0 }, rest)
    | (.ok (x :: xs), rest) => (b.put (x :: xs)).read rest
    | (.error f, rest) => if f.isInterruption then b.read rest else (.failed f, b, rest)
  else (.frame b.bytes, { b with fill := 0 }, script)
  termination_by Delivery.weight script
  decreasing_by
    · exact weight_receive_lt_of_ok _h
    · exact weight_receive_lt_of_error _h

/-- The results of asking `n` times. -/
def reads (b : FrameBuffer) (script : List Delivery) : Nat → List Reading
  | 0 => []
  | n + 1 =>
    let (reading, b', rest) := b.read script
    reading :: reads b' rest n

/-- The filled bytes are those that a reader holds. -/
structure Holds (b : FrameBuffer) (r : FrameReader) : Prop where
  length_eq : b.bytes.length = Frame.length
  fill_eq : b.fill = r.pending.length
  filled_eq : b.bytes.take b.fill = r.pending

theorem holds_blank : blank.Holds FrameReader.empty where
  length_eq := List.length_replicate
  fill_eq := rfl
  filled_eq := rfl

variable {b : FrameBuffer} {r : FrameReader}

/-- A buffer whose count was set back holds nothing. -/
theorem Holds.reset (h : b.bytes.length = Frame.length) :
    Holds { b with fill := 0 } FrameReader.empty where
  length_eq := h
  fill_eq := rfl
  filled_eq := rfl

theorem Holds.put (h : b.Holds r) {bytes : List UInt8}
    (hl : (r.pending ++ bytes).length < Frame.length) :
    (b.put bytes).Holds ⟨r.pending ++ bytes, hl⟩ where
  length_eq := by
    have hb := h.length_eq
    have hf := h.fill_eq
    rw [List.length_append] at hl
    simp only [FrameBuffer.put, List.length_append, List.length_take, List.length_drop]
    omega
  fill_eq := by
    rw [FrameBuffer.put, List.length_append, h.fill_eq]
  filled_eq := by
    rw [FrameBuffer.put, h.filled_eq]
    apply List.take_left'
    rw [List.length_append, h.fill_eq]

/-- Bytes that complete the frame fill the buffer, and nothing old is left in it. -/
theorem Holds.bytes_put (h : b.Holds r) {bytes : List UInt8}
    (hl : (r.pending ++ bytes).length = Frame.length) :
    (b.put bytes).bytes = r.pending ++ bytes ∧ (b.put bytes).fill = Frame.length := by
  rw [List.length_append, ← h.fill_eq] at hl
  refine ⟨?_, hl⟩
  rw [FrameBuffer.put, h.filled_eq, List.drop_of_length_le, List.append_nil]
  exact Nat.le_of_eq (h.length_eq.trans hl.symm)

theorem Holds.fill_lt (h : b.Holds r) : b.fill < Frame.length := by
  rw [h.fill_eq]
  exact r.pending_lt

/-! ## One question -/

theorem read_of_full (hf : b.fill = Frame.length) (script : List Delivery) :
    b.read script = (.frame b.bytes, { b with fill := 0 }, script) := by
  rw [read, if_neg (by rw [hf]; exact Nat.lt_irrefl _)]

theorem read_of_room (hf : b.fill < Frame.length) (script : List Delivery) :
    b.read script =
      match Delivery.receive (Frame.length - b.fill) script with
      | (.ok [], rest) =>
        if b.fill = 0 then (.ended, b, rest)
        else (.failed (FrameReader.truncated b.fill), { b with fill := 0 }, rest)
      | (.ok (x :: xs), rest) => (b.put (x :: xs)).read rest
      | (.error f, rest) => if f.isInterruption then b.read rest else (.failed f, b, rest) := by
  rw [read, if_pos hf]
  split <;> rename_i heq <;> rw [heq]

/-- Where nothing comes the frame is given up, and the count is set back. -/
theorem Holds.read_of_end (h : b.Holds r) {script rest : List Delivery}
    (hr : Delivery.receive (Frame.length - b.fill) script = (.ok [], rest)) :
    b.read script = (r.endReading, { b with fill := 0 }, rest) := by
  rw [read_of_room h.fill_lt, hr, FrameReader.endReading]
  simp only
  by_cases hz : b.fill = 0
  · have hb : b = { b with fill := 0 } := by rw [← hz]
    rw [if_pos hz, if_pos (by rw [List.isEmpty_iff_length_eq_zero, ← h.fill_eq, hz]), ← hb]
  · rw [if_neg hz, if_neg (by rw [List.isEmpty_iff_length_eq_zero, ← h.fill_eq]; exact hz),
      ← h.fill_eq]

theorem receive_data_of_le {room : Nat} {bytes : List UInt8} (hl : bytes.length ≤ room)
    (rest : List Delivery) :
    Delivery.receive room (.data bytes :: rest) = (.ok bytes, rest) := by
  rw [Delivery.receive, List.take_of_length_le hl, List.drop_of_length_le hl]
  rfl

/-- A piece that does not complete the frame is put into the buffer. -/
theorem Holds.read_of_lt (h : b.Holds r) {bytes : List UInt8} (hne : bytes ≠ [])
    (hl : (r.pending ++ bytes).length < Frame.length) (rest : List Delivery) :
    b.read (.data bytes :: rest) = (b.put bytes).read rest := by
  rw [List.length_append, ← h.fill_eq] at hl
  obtain ⟨x, xs, rfl⟩ := List.exists_cons_of_ne_nil hne
  rw [read_of_room h.fill_lt, receive_data_of_le (by omega)]

/-- A piece that completes the frame is put into the buffer as far as there is room. -/
theorem Holds.read_of_ge (h : b.Holds r) {bytes : List UInt8}
    (hl : ¬ (r.pending ++ bytes).length < Frame.length) (rest : List Delivery) :
    ∃ b', b.read (.data bytes :: rest) =
        (.frame (r.pending ++ bytes.take (Frame.length - r.pending.length)), b',
          if (bytes.drop (Frame.length - r.pending.length)).isEmpty then rest
          else .data (bytes.drop (Frame.length - r.pending.length)) :: rest) ∧
      b'.Holds FrameReader.empty := by
  have hp := r.pending_lt
  rw [List.length_append] at hl
  have hlen : (r.pending ++ bytes.take (Frame.length - r.pending.length)).length =
      Frame.length := by
    rw [List.length_append, List.length_take]
    omega
  obtain ⟨hb, hf⟩ := h.bytes_put hlen
  obtain ⟨x, xs, hx⟩ : ∃ x xs, bytes.take (Frame.length - r.pending.length) = x :: xs := by
    apply List.exists_cons_of_ne_nil
    intro he
    rw [he, List.append_nil] at hlen
    omega
  refine ⟨{ b.put (bytes.take (Frame.length - r.pending.length)) with fill := 0 }, ?_, ?_⟩
  · rw [read_of_room h.fill_lt, h.fill_eq, Delivery.receive, hx]
    simp only
    rw [← hx, read_of_full hf, hb]
  · apply Holds.reset
    rw [hb, hlen]

/-- The buffer answers a question as the reader does, and holds what the reader holds
afterwards. -/
theorem Holds.read (h : b.Holds r) (script : List Delivery) :
    ∃ b', b.read script = ((r.read script).1, b', (r.read script).2.2) ∧
      b'.Holds (r.read script).2.1 := by
  induction script generalizing b r with
  | nil => exact ⟨_, h.read_of_end rfl, Holds.reset h.length_eq⟩
  | cons d script ih =>
      cases d with
      | fault f =>
          by_cases hf : f.isInterruption = true
          · have hr : r.read (.fault f :: script) = r.read script := by
              rw [FrameReader.read, FrameReader.advance_cons_interruption r script hf]
              rfl
            have hb : b.read (.fault f :: script) = b.read script := by
              rw [read_of_room h.fill_lt, Delivery.receive]
              simp only [if_pos hf]
            rw [hr, hb]
            exact ih h
          · have hr : r.read (.fault f :: script) = (.failed f, r, script) := by
              rw [FrameReader.read,
                FrameReader.advance_cons_fault r script (Bool.eq_false_iff.2 hf)]
            refine ⟨b, ?_, by rw [hr]; exact h⟩
            rw [hr, read_of_room h.fill_lt, Delivery.receive]
            simp only [if_neg hf]
      | data bytes =>
          by_cases hne : bytes = []
          · subst hne
            exact ⟨_, h.read_of_end (receive_data_of_le (Nat.zero_le _) script),
              Holds.reset h.length_eq⟩
          · have hne' : ¬ bytes.isEmpty = true := by rwa [List.isEmpty_iff]
            by_cases hl : (r.pending ++ bytes).length < Frame.length
            · have hr : r.read (.data bytes :: script) =
                  FrameReader.read ⟨r.pending ++ bytes, hl⟩ script := by
                rw [FrameReader.read, FrameReader.advance, if_neg hne', dif_pos hl]
                rfl
              rw [hr, h.read_of_lt hne hl]
              exact ih (h.put hl)
            · obtain ⟨b', hb, hh⟩ := h.read_of_ge hl script
              refine ⟨b', ?_, ?_⟩
              · rw [hb, FrameReader.read, FrameReader.advance, if_neg hne', dif_neg hl]
              · rw [FrameReader.read, FrameReader.advance, if_neg hne', dif_neg hl]
                exact hh

/-- Whatever was in the buffer before, its answers are those of the reader. -/
theorem Holds.reads (h : b.Holds r) (script : List Delivery) (n : Nat) :
    b.reads script n = r.reads script n := by
  induction n generalizing b r script with
  | zero => rfl
  | succ n ih =>
      obtain ⟨b', hb, hh⟩ := h.read script
      rw [FrameBuffer.reads, FrameReader.reads, hb]
      exact congrArg ((r.read script).1 :: ·) (ih hh _)

end FrameBuffer

end PacketMeter
