import PacketMeter.Proofs.Frame.Arrival
import PacketMeter.Proofs.Frame.Buffer

/-!
# Reassembly

A reader of frames reports what `Arrival.walk` reports.  A piece that does not complete
a frame is walked through without a result, and one that does is walked through up to
the last byte of the frame.  So every question consumes arrivals of which only the last
has a result.

Since the walk does not know the pieces, the answers do not depend on them.  A fault that
is put in between two bytes is one more answer, and the other answers stay.
-/

namespace PacketMeter

open Arrival (ofScript walk held)

namespace FrameReader

variable {r r' : FrameReader} {script rest : List Delivery} {x : Reading}

/-- A question that is answered consumes arrivals without a result and then the one that
it reports. -/
structure Consumes (r : FrameReader) (script : List Delivery) (x : Reading)
    (r' : FrameReader) (rest : List Delivery) (quiet : List Arrival) (last : Arrival) : Prop where
  script_eq : ofScript script = quiet ++ last :: ofScript rest
  walk_eq : walk r.pending quiet = []
  meet_eq : Arrival.meet (held r.pending quiet) last = (some x, r'.pending)

theorem Consumes.prepend {quiet quiet₀ : List Arrival} {last : Arrival} {r₀ : FrameReader}
    {script₀ : List Delivery} (h : Consumes r script x r' rest quiet last)
    (hs : ofScript script₀ = quiet₀ ++ ofScript script) (hw : walk r₀.pending quiet₀ = [])
    (hh : held r₀.pending quiet₀ = r.pending) :
    Consumes r₀ script₀ x r' rest (quiet₀ ++ quiet) last where
  script_eq := by rw [hs, h.script_eq, List.append_assoc]
  walk_eq := by rw [Arrival.walk_append, hw, hh, h.walk_eq, List.nil_append]
  meet_eq := by rw [Arrival.held_append, hh, h.meet_eq]

/-- The walk reports the answer and goes on with what the reader keeps. -/
theorem Consumes.walk_append {quiet : List Arrival} {last : Arrival}
    (h : Consumes r script x r' rest quiet last) (as : List Arrival) :
    walk r.pending (ofScript script ++ as) = x :: walk r'.pending (ofScript rest ++ as) := by
  rw [h.script_eq, List.append_assoc, Arrival.walk_append, h.walk_eq, List.nil_append,
    List.cons_append, Arrival.walk_cons, h.meet_eq]
  rfl

theorem walk_interruption {f : Fault} (h : f.isInterruption = true) (pending : List UInt8) :
    walk pending [.fault f] = [] ∧ held pending [.fault f] = pending := by
  rw [Arrival.walk_cons, Arrival.held_cons, Arrival.meet, if_pos h]
  exact ⟨rfl, rfl⟩

theorem walk_fault {f : Fault} (h : ¬ f.isInterruption = true) (pending : List UInt8) :
    walk pending [.fault f] = [.failed f] ∧ held pending [.fault f] = pending := by
  rw [Arrival.walk_cons, Arrival.held_cons, Arrival.meet, if_neg h]
  exact ⟨rfl, rfl⟩

theorem meet_ending (r : FrameReader) :
    Arrival.meet r.pending .ending = (some r.endReading, empty.pending) := rfl

/-- The answer to a piece that completes a frame. -/
theorem consumes_frame {bytes : List UInt8} (hl : ¬ (r.pending ++ bytes).length < Frame.length)
    (rest : List Delivery) :
    ∃ quiet last, Consumes r (.data bytes :: rest)
      (.frame (r.pending ++ bytes.take (Frame.length - r.pending.length))) empty
      (if (bytes.drop (Frame.length - r.pending.length)).isEmpty then rest
        else .data (bytes.drop (Frame.length - r.pending.length)) :: rest) quiet last := by
  have hp := r.pending_lt
  rw [List.length_append] at hl
  generalize hm : Frame.length - r.pending.length = missing
  -- The frame ends with the last of the bytes that were missing.
  have hlen : (bytes.take missing).length = missing := List.length_take_of_le (by omega)
  obtain ⟨init, b, hb⟩ := (List.eq_nil_or_concat' (bytes.take missing)).resolve_left (by
    intro he
    rw [he, List.length_nil] at hlen
    omega)
  rw [hb, List.length_append, List.length_singleton] at hlen
  have hlt : (r.pending ++ init).length < Frame.length := by
    rw [List.length_append]
    omega
  obtain ⟨hw, hh⟩ := Arrival.walk_bytes_of_lt hlt
  refine ⟨init.map .byte, .byte b, ?_, hw, ?_⟩
  · have hne : bytes ≠ [] := by
      rintro rfl
      rw [List.take_nil] at hb
      exact List.append_ne_nil_of_right_ne_nil init (List.cons_ne_nil b []) hb.symm
    rw [Arrival.ofScript_cons, Arrival.arrivals_data hne]
    conv_lhs => rw [← List.take_append_drop missing bytes]
    rw [hb, List.map_append, List.map_append, List.append_assoc, List.append_assoc]
    congr 2
    split
    · rename_i he
      rw [List.isEmpty_iff.1 he]
      rfl
    · rename_i he
      rw [List.isEmpty_iff] at he
      rw [Arrival.ofScript_cons, Arrival.arrivals_data he]
      rfl
  · rw [hh, hb, ← List.append_assoc, Arrival.meet_byte_of_eq]
    · rfl
    · rw [List.length_append, List.length_append, List.length_singleton]
      omega

theorem exists_consumes (h : r.advance script = (some x, r', rest)) :
    ∃ quiet last, Consumes r script x r' rest quiet last := by
  induction script generalizing r with
  | nil => simp at h
  | cons d script ih =>
      cases d with
      | fault f =>
          rw [advance] at h
          split at h
          · rename_i hf
            obtain ⟨quiet, last, hc⟩ := ih h
            obtain ⟨hw, hh⟩ := walk_interruption hf r.pending
            exact ⟨_, last, hc.prepend rfl hw hh⟩
          · rename_i hf
            simp only [Prod.mk.injEq, Option.some.injEq] at h
            obtain ⟨rfl, rfl, rfl⟩ := h
            exact ⟨[], .fault f, rfl, rfl, by rw [Arrival.held_nil, Arrival.meet, if_neg hf]⟩
      | data bytes =>
          rw [advance] at h
          split at h
          · rename_i hb
            obtain rfl := List.isEmpty_iff.1 hb
            simp only [Prod.mk.injEq, Option.some.injEq] at h
            obtain ⟨rfl, rfl, rfl⟩ := h
            exact ⟨[], .ending, rfl, rfl, meet_ending r⟩
          · rename_i hb
            rw [List.isEmpty_iff] at hb
            split at h
            · rename_i hl
              obtain ⟨quiet, last, hc⟩ := ih h
              obtain ⟨hw, hh⟩ := Arrival.walk_bytes_of_lt hl
              refine ⟨_, last, hc.prepend ?_ hw hh⟩
              rw [Arrival.ofScript_cons, Arrival.arrivals_data hb]
            · rename_i hl
              simp only [Prod.mk.injEq, Option.some.injEq] at h
              obtain ⟨rfl, rfl, rfl⟩ := h
              exact consumes_frame hl script

/-- A question that finds too little reports nothing, keeps all bytes and uses up the
deliveries. -/
theorem walk_of_advance_none (h : r.advance script = (none, r', rest)) :
    walk r.pending (ofScript script) = [] ∧ held r.pending (ofScript script) = r'.pending ∧
      rest = [] := by
  induction script generalizing r with
  | nil =>
      rw [advance_nil] at h
      simp only [Prod.mk.injEq, true_and] at h
      obtain ⟨rfl, rfl⟩ := h
      exact ⟨rfl, rfl, rfl⟩
  | cons d script ih =>
      rw [Arrival.ofScript_cons, Arrival.walk_append, Arrival.held_append]
      cases d with
      | fault f =>
          rw [advance] at h
          split at h
          · rename_i hf
            obtain ⟨hw, hh⟩ := walk_interruption hf r.pending
            rw [Delivery.arrivals, hw, hh]
            exact ih h
          · cases h
      | data bytes =>
          rw [advance] at h
          split at h
          · cases h
          · rename_i hb
            rw [List.isEmpty_iff] at hb
            split at h
            · rename_i hl
              obtain ⟨hw, hh⟩ := Arrival.walk_bytes_of_lt hl
              rw [Arrival.arrivals_data hb, hw, hh]
              exact ih h
            · cases h

/-- The answers to any number of questions are what the walk reports first, the stream
ending for ever after its deliveries. -/
theorem reads_eq_walk (r : FrameReader) (script : List Delivery) (n : Nat) :
    r.reads script n =
      (walk r.pending (ofScript script ++ List.replicate n .ending)).take n := by
  induction n generalizing r script with
  | zero => rw [reads, List.take_zero]
  | succ n ih =>
      rw [reads, read]
      rcases h : r.advance script with ⟨_ | x, r', rest⟩
      · obtain ⟨hw, hh, rfl⟩ := walk_of_advance_none h
        rw [Arrival.walk_append, hw, hh, List.nil_append, List.replicate_succ,
          Arrival.walk_cons, meet_ending, Option.toList_some, List.singleton_append,
          List.take_succ_cons]
        exact congrArg (r'.endReading :: ·) (ih empty [])
      · obtain ⟨quiet, last, hc⟩ := exists_consumes h
        rw [hc.walk_append, List.take_succ_cons, Arrival.take_walk_endings _ _ (Nat.le_succ n)]
        exact congrArg (x :: ·) (ih r' rest)

theorem readings_of_none (h : r.advance script = (none, r', rest)) :
    r.readings script = [r'.endReading] := by
  rw [readings, h]

theorem readings_of_some (h : r.advance script = (some x, r', rest)) :
    r.readings script = x :: r'.readings rest := by
  rw [readings, h]

/-- All answers of a stream are what the walk reports up to the end of its deliveries. -/
theorem readings_eq_walk (r : FrameReader) (script : List Delivery) :
    r.readings script = walk r.pending (ofScript script ++ [.ending]) := by
  induction hn : Delivery.weight script using Nat.strong_induction_on generalizing r script with
  | h n ih =>
      rcases h : r.advance script with ⟨_ | x, r', rest⟩
      · obtain ⟨hw, hh, -⟩ := walk_of_advance_none h
        rw [readings_of_none h, Arrival.walk_append, hw, hh, Arrival.walk_cons, meet_ending]
        rfl
      · obtain ⟨quiet, last, hc⟩ := exists_consumes h
        rw [readings_of_some h, hc.walk_append, ih _ (hn ▸ weight_advance_lt h) r' rest rfl]

/-- Where the arrivals are split, the answers are those before the split and then those
of the walk that goes on with what waits there. -/
theorem reads_of_split {as bs : List Arrival} (h : ofScript script = as ++ bs) (m : Nat) :
    r.reads script ((walk r.pending as).length + m) =
      walk r.pending as ++
        (walk (held r.pending as) (bs ++ List.replicate m .ending)).take m := by
  rw [reads_eq_walk, h, List.append_assoc, Arrival.walk_append, List.take_length_add_append,
    Arrival.take_walk_endings _ _ (Nat.le_add_left _ _)]

/-- An interruption changes no answer. -/
theorem reads_insert_interruption {script' : List Delivery} {f : Fault}
    {as bs : List Arrival} (hs : ofScript script = as ++ bs)
    (hs' : ofScript script' = as ++ .fault f :: bs) (hf : f.isInterruption = true) (n : Nat) :
    r.reads script' n = r.reads script n := by
  obtain ⟨hw, hh⟩ := walk_interruption hf (held r.pending as)
  rw [reads_eq_walk, reads_eq_walk, hs, hs', ← List.singleton_append, List.append_assoc,
    List.append_assoc, List.append_assoc, Arrival.walk_append _ as,
    Arrival.walk_append _ [_], hw, hh, List.nil_append, ← Arrival.walk_append]

/-- Any other fault is one more answer, and the others are as they were. -/
theorem reads_insert_fault {script' : List Delivery} {f : Fault} {as bs : List Arrival}
    (hs : ofScript script = as ++ bs) (hs' : ofScript script' = as ++ .fault f :: bs)
    (hf : ¬ f.isInterruption = true) (m : Nat) :
    let k := (walk r.pending as).length
    r.reads script' (k + 1 + m) =
      (r.reads script (k + m)).take k ++ .failed f :: (r.reads script (k + m)).drop k := by
  intro k
  obtain ⟨hw, hh⟩ := walk_fault hf (held r.pending as)
  have hwalk : walk r.pending (as ++ [.fault f]) = walk r.pending as ++ [.failed f] := by
    rw [Arrival.walk_append, hw]
  have hheld : held r.pending (as ++ [.fault f]) = held r.pending as := by
    rw [Arrival.held_append, hh]
  have hk : (walk r.pending (as ++ [.fault f])).length = k + 1 := by
    rw [hwalk, List.length_append, List.length_singleton]
  have hs'' : ofScript script' = (as ++ [.fault f]) ++ bs := by
    rw [hs', List.append_assoc, List.singleton_append]
  have hafter := reads_of_split (r := r) hs'' m
  rw [hk, hwalk, hheld] at hafter
  rw [hafter, reads_of_split hs, List.take_left', List.drop_left', List.append_assoc,
    List.singleton_append]
  · rfl
  · rfl

/-- A frame that is returned is what waited and the bytes that were consumed, and no byte
waits after it. -/
theorem frame_of_read {bytes : List UInt8} (h : r.read script = (.frame bytes, r', rest)) :
    ∃ used, ofScript script = used ++ ofScript rest ∧
      bytes = r.pending ++ used.filterMap Arrival.byte? ∧ r'.pending = [] := by
  rw [read] at h
  rcases ha : r.advance script with ⟨_ | x, r₁, rest₁⟩
  · rw [ha] at h
    simp only [endReading, Prod.mk.injEq] at h
    obtain ⟨he, -⟩ := h
    split at he <;> cases he
  · rw [ha] at h
    simp only [Prod.mk.injEq] at h
    obtain ⟨rfl, rfl, rfl⟩ := h
    obtain ⟨quiet, last, hc⟩ := exists_consumes ha
    obtain ⟨b, rfl, hbytes, hr, -⟩ := Arrival.of_meet_eq_frame hc.meet_eq
    have hquiet := Arrival.bytes_walk (Arrival.ending_not_mem hc.walk_eq) r.pending
    rw [hc.walk_eq, List.flatMap_nil, List.nil_append] at hquiet
    refine ⟨quiet ++ [.byte b], by rw [hc.script_eq, List.append_assoc]; rfl, ?_, hr⟩
    rw [hbytes, hquiet, List.filterMap_append, List.append_assoc]
    rfl

/-- The answers to any number of questions are those of the walk through what the stream
brings and then its end for ever, whether the reader keeps a list or a buffer.  So they
are the same however the bytes are cut into pieces; an interruption among the bytes
changes nothing and any other fault adds its own answer; and a question that is answered
with a frame takes no byte beyond it. -/
theorem reads_independent_of_pieces (script : List Delivery) (n : Nat) :
    let answers := (walk [] (ofScript script ++ List.replicate n .ending)).take n
    empty.reads script n = answers ∧ FrameBuffer.blank.reads script n = answers ∧
      (∀ before after a b, a ≠ [] → b ≠ [] →
        empty.reads (before ++ .data (a ++ b) :: after) n =
          empty.reads (before ++ .data a :: .data b :: after) n) ∧
      (∀ script' f as bs, ofScript script = as ++ bs →
        ofScript script' = as ++ .fault f :: bs →
          if f.isInterruption then empty.reads script' n = empty.reads script n
          else
            let k := (walk [] as).length
            empty.reads script' (k + 1 + n) =
              (empty.reads script (k + n)).take k ++
                .failed f :: (empty.reads script (k + n)).drop k) ∧
      ∀ (r r' : FrameReader) rest bytes, r.read script = (.frame bytes, r', rest) →
        ∃ used, ofScript script = used ++ ofScript rest ∧
          bytes = r.pending ++ used.filterMap Arrival.byte? ∧ r'.pending = [] := by
  intro answers
  have hreads : empty.reads script n = answers := reads_eq_walk empty script n
  refine ⟨hreads, ?_, ?_, ?_, fun r r' rest bytes h => frame_of_read h⟩
  · rw [FrameBuffer.holds_blank.reads, hreads]
  · intro before after a b ha hb
    rw [reads_eq_walk, reads_eq_walk, Arrival.ofScript_split before after ha hb]
  · intro script' f as bs hs hs'
    split
    · rename_i hf
      exact reads_insert_interruption hs hs' hf n
    · rename_i hf
      exact reads_insert_fault hs hs' hf n

/-- A reader that lacks one byte. -/
def almostComplete : FrameReader where
  pending := List.replicate 65699 0
  pending_lt := by rw [List.length_replicate]; decide

theorem read_almostComplete :
    almostComplete.read [.data [1, 2]] =
      (.frame (List.replicate 65699 0 ++ [1]), empty, [.data [2]]) := by
  have hlen : almostComplete.pending.length = 65699 := List.length_replicate
  have hfull : ¬ (almostComplete.pending ++ [1, 2]).length < Frame.length := by
    rw [List.length_append, hlen]
    decide
  have hmissing : Frame.length - almostComplete.pending.length = 1 := by rw [hlen]; rfl
  rw [read, advance, if_neg (by decide), dif_neg hfull, hmissing]
  rfl

/-- A fault between two bytes is the first answer, and of two bytes a reader that lacks
one takes one. -/
theorem reads_independent_of_pieces_short :
    empty.reads [.data [1], .fault (.system 11), .data [2]] 3 =
        .failed (.system 11) :: empty.reads [.data [1, 2]] 2 ∧
      ∃ used, ofScript [.data [1, 2]] = used ++ ofScript [.data [2]] ∧
        List.replicate 65699 0 ++ [1] =
          List.replicate 65699 0 ++ used.filterMap Arrival.byte? := by
  obtain ⟨-, -, -, hfault, hframe⟩ := reads_independent_of_pieces [.data [1, 2]] 2
  constructor
  · exact hfault [.data [1], .fault (.system 11), .data [2]] (.system 11) [.byte 1] [.byte 2]
      rfl rfl
  · obtain ⟨used, hs, hb, -⟩ := hframe almostComplete empty [.data [2]] _ read_almostComplete
    exact ⟨used, hs, hb⟩

end FrameReader

end PacketMeter
