import Mathlib.Data.List.Basic
import Mathlib.Data.List.TakeWhile
import PacketMeter.Frame.Stream

/-!
# Streams byte by byte

What a stream delivers, with the pieces forgotten: bytes one at a time, faults, and the
reads that delivered nothing.  `walk` goes through these and reports what there is to
report, with the bytes of the frame that is not complete yet carried along.  It knows
neither pieces nor a limit of a read, so it is what readers of frames are compared with.

As long as the stream does not end, the frames are the consecutive parts of the bytes,
each of the length of a frame, whatever faults there are among the bytes.
-/

namespace PacketMeter

/-- What a stream brings next: a byte, a fault, or its end for one read. -/
inductive Arrival where
  | byte (b : UInt8)
  | fault (fault : Fault)
  | ending
  deriving Repr, DecidableEq, Inhabited

/-- What a delivery brings, one after the other. -/
def Delivery.arrivals : Delivery → List Arrival
  | .data bytes => if bytes.isEmpty then [.ending] else bytes.map .byte
  | .fault f => [.fault f]

/-- The bytes of a frame, and none of any other result. -/
def Reading.bytes : Reading → List UInt8
  | .frame bytes => bytes
  | .ended | .failed _ => []

namespace Arrival

/-- What the deliveries of a stream bring. -/
def ofScript (script : List Delivery) : List Arrival := script.flatMap Delivery.arrivals

/-- The byte that has come, if it is one. -/
def byte? : Arrival → Option UInt8
  | byte b => some b
  | _ => none

/-- What is reported of an arrival, and the bytes that wait for the rest of their frame
after it. -/
def meet (pending : List UInt8) : Arrival → Option Reading × List UInt8
  | byte b =>
    if (pending ++ [b]).length = Frame.length then (some (.frame (pending ++ [b])), [])
    else (none, pending ++ [b])
  | fault f => if f.isInterruption then (none, pending) else (some (.failed f), pending)
  | ending =>
    (some (if pending.isEmpty then .ended else .failed (FrameReader.truncated pending.length)), [])

/-- All that is reported of arrivals, one after the other. -/
def walk (pending : List UInt8) : List Arrival → List Reading
  | [] => []
  | a :: as => (meet pending a).1.toList ++ walk (meet pending a).2 as

/-- The bytes that wait after arrivals. -/
def held (pending : List UInt8) : List Arrival → List UInt8
  | [] => pending
  | a :: as => held (meet pending a).2 as

/-! ## Scripts -/

@[simp] theorem ofScript_cons (d : Delivery) (script : List Delivery) :
    ofScript (d :: script) = d.arrivals ++ ofScript script := rfl

theorem ofScript_append (script rest : List Delivery) :
    ofScript (script ++ rest) = ofScript script ++ ofScript rest := List.flatMap_append

theorem arrivals_data {bytes : List UInt8} (h : bytes ≠ []) :
    (Delivery.data bytes).arrivals = bytes.map .byte := by
  rw [Delivery.arrivals, if_neg (by rwa [List.isEmpty_iff])]

/-- A piece and its two parts bring the same bytes. -/
theorem ofScript_split (before after : List Delivery) {a b : List UInt8} (ha : a ≠ [])
    (hb : b ≠ []) :
    ofScript (before ++ .data (a ++ b) :: after) =
      ofScript (before ++ .data a :: .data b :: after) := by
  have hab : a ++ b ≠ [] := by
    intro h
    exact ha (List.append_eq_nil_iff.1 h).1
  rw [ofScript_append, ofScript_append, ofScript_cons, ofScript_cons, ofScript_cons,
    arrivals_data ha, arrivals_data hb, arrivals_data hab, List.map_append, List.append_assoc]

/-! ## Walking -/

section Walk

variable {pending : List UInt8}

theorem walk_cons (pending : List UInt8) (a : Arrival) (as : List Arrival) :
    walk pending (a :: as) = (meet pending a).1.toList ++ walk (meet pending a).2 as := rfl

@[simp] theorem held_nil (pending : List UInt8) : held pending [] = pending := rfl

theorem held_cons (pending : List UInt8) (a : Arrival) (as : List Arrival) :
    held pending (a :: as) = held (meet pending a).2 as := rfl

theorem walk_append (pending : List UInt8) (as bs : List Arrival) :
    walk pending (as ++ bs) = walk pending as ++ walk (held pending as) bs := by
  induction as generalizing pending with
  | nil => rfl
  | cons a as ih => rw [List.cons_append, walk_cons, walk_cons, held_cons, ih, List.append_assoc]

theorem held_append (pending : List UInt8) (as bs : List Arrival) :
    held pending (as ++ bs) = held (held pending as) bs := by
  induction as generalizing pending with
  | nil => rfl
  | cons a as ih => rw [List.cons_append, held_cons, held_cons, ih]

/-- What waits is always less than a frame. -/
theorem length_meet_lt (h : pending.length < Frame.length) (a : Arrival) :
    (meet pending a).2.length < Frame.length := by
  have hnil : ([] : List UInt8).length < Frame.length := by decide
  cases a with
  | byte b =>
      rw [meet]
      split
      · exact hnil
      · rename_i hne
        rw [List.length_append, List.length_singleton] at hne ⊢
        omega
  | fault f =>
      rw [meet]
      split <;> exact h
  | ending => exact hnil

theorem length_held_lt (h : pending.length < Frame.length) (as : List Arrival) :
    (held pending as).length < Frame.length := by
  induction as generalizing pending with
  | nil => exact h
  | cons a as ih => exact ih (length_meet_lt h a)

/-- Bytes that do not complete a frame only wait. -/
theorem walk_bytes_of_lt {bytes : List UInt8} (h : (pending ++ bytes).length < Frame.length) :
    walk pending (bytes.map .byte) = [] ∧ held pending (bytes.map .byte) = pending ++ bytes := by
  induction bytes generalizing pending with
  | nil => exact ⟨rfl, (List.append_nil _).symm⟩
  | cons b bytes ih =>
      have hne : ¬ (pending ++ [b]).length = Frame.length := by
        simp only [List.length_append, List.length_cons, List.length_nil] at h ⊢
        omega
      rw [List.map_cons, walk_cons, held_cons, meet, if_neg hne]
      rw [List.append_cons pending b bytes] at h ⊢
      exact ih h

/-- The byte that completes a frame reports it. -/
theorem meet_byte_of_eq {b : UInt8} (h : (pending ++ [b]).length = Frame.length) :
    meet pending (.byte b) = (some (.frame (pending ++ [b])), []) := by
  rw [meet, if_pos h]

/-- A frame is reported of its last byte, and nothing waits after it. -/
theorem of_meet_eq_frame {a : Arrival} {bytes rest : List UInt8}
    (h : meet pending a = (some (.frame bytes), rest)) :
    ∃ b, a = .byte b ∧ bytes = pending ++ [b] ∧ rest = [] ∧ bytes.length = Frame.length := by
  cases a with
  | byte b =>
      rw [meet] at h
      split at h
      · rename_i hl
        simp only [Prod.mk.injEq, Option.some.injEq, Reading.frame.injEq] at h
        obtain ⟨rfl, rfl⟩ := h
        exact ⟨b, rfl, rfl, rfl, hl⟩
      · cases h
  | fault f =>
      rw [meet] at h
      split at h <;> cases h
  | ending =>
      rw [meet] at h
      split at h <;> cases h

/-! ## Bytes -/

/-- As long as the stream does not end, every byte is in a frame or waits. -/
theorem bytes_walk {as : List Arrival} (h : .ending ∉ as) (pending : List UInt8) :
    (walk pending as).flatMap Reading.bytes ++ held pending as =
      pending ++ as.filterMap byte? := by
  induction as generalizing pending with
  | nil => exact (List.append_nil pending).symm
  | cons a as ih =>
      rw [List.mem_cons, not_or] at h
      rw [walk_cons, held_cons, List.flatMap_append, List.append_assoc, ih h.2]
      cases a with
      | byte b =>
          have hb : (byte b).byte? = some b := rfl
          rw [List.filterMap_cons_some hb, List.append_cons, ← List.append_assoc]
          congr 1
          rw [meet]
          split
          · rw [Option.toList_some, List.flatMap_singleton, List.append_nil]
            rfl
          · rfl
      | fault f =>
          have hf : (fault f).byte? = none := rfl
          rw [List.filterMap_cons_none hf, meet]
          split <;> rfl
      | ending => exact absurd rfl h.1

/-- An end never goes without a result. -/
theorem ending_not_mem {as : List Arrival} {pending : List UInt8} (h : walk pending as = []) :
    .ending ∉ as := by
  induction as generalizing pending with
  | nil => exact List.not_mem_nil
  | cons a as ih =>
      rw [walk_cons, List.append_eq_nil_iff] at h
      rw [List.mem_cons, not_or]
      refine ⟨?_, ih h.2⟩
      rintro rfl
      cases h.1

theorem length_of_mem_walk {as : List Arrival} {pending bytes : List UInt8}
    (h : .frame bytes ∈ walk pending as) : bytes.length = Frame.length := by
  induction as generalizing pending with
  | nil => cases h
  | cons a as ih =>
      rw [walk_cons, List.mem_append, Option.mem_toList] at h
      rcases h with h | h
      · obtain ⟨-, -, -, -, hl⟩ := of_meet_eq_frame (Prod.ext h rfl)
        exact hl
      · exact ih h

/-! ## Ends -/

/-- The results of reading a stream that has come to its end, as often as one likes. -/
theorem walk_endings (n : Nat) (pending : List UInt8) :
    (walk pending (List.replicate n .ending)).length = n := by
  induction n generalizing pending with
  | zero => rfl
  | succ n ih =>
      rw [List.replicate_succ, walk_cons, List.length_append, ih]
      exact Nat.add_comm 1 n

/-- More ends than results that are asked for make no difference. -/
theorem take_walk_endings (pending : List UInt8) (as : List Arrival) {m n : Nat} (h : m ≤ n) :
    (walk pending (as ++ List.replicate n .ending)).take m =
      (walk pending (as ++ List.replicate m .ending)).take m := by
  obtain ⟨k, rfl⟩ := Nat.exists_eq_add_of_le h
  rw [List.replicate_add, ← List.append_assoc, walk_append _ (as ++ _)]
  apply List.take_append_of_le_length
  rw [walk_append, List.length_append, walk_endings]
  exact Nat.le_add_left _ _

end Walk

end Arrival

end PacketMeter
