import PacketMeter.Proofs.Frame.Codec
import PacketMeter.Proofs.Frame.Reassembly
import PacketMeter.Proofs.Frame.Saving

/-!
# Loading a file

A file is loaded by going through the results of its stream up to the first end.  The first
fault, or the first frame without a record, is what loading gives, and without one it gives
the records of all frames, so there is never only a part of them.

The frames of records one after the other are found again however the bytes come in pieces.
When the file was cut off between two frames the records before are there, and when it was
cut off inside a frame loading fails.
-/

namespace PacketMeter

open Arrival (ofScript walk held)

namespace Reading

/-- The record of a frame that has one. -/
def record? : Reading → Option PacketRecord
  | .frame bytes => (Frame.decode bytes).toOption
  | .ended | .failed _ => none

/-- The failure of a result that ends the loading with one. -/
def failure? : Reading → Option Failure
  | .frame bytes =>
    match Frame.decode bytes with
    | .ok _ => none
    | .error e => some (.decode e)
  | .failed fault => some (.io fault)
  | .ended => none

/-- Every result is the end, or has a record or a failure. -/
theorem cases_record (x : Reading) :
    x = .ended ∨ (∃ r, x.record? = some r ∧ x.failure? = none) ∨
      ∃ f, x.failure? = some f ∧ x.record? = none := by
  cases x with
  | ended => exact .inl rfl
  | failed fault => exact .inr (.inr ⟨_, rfl, rfl⟩)
  | frame bytes =>
      rw [record?, failure?]
      cases Frame.decode bytes with
      | ok r => exact .inr (.inl ⟨r, rfl, rfl⟩)
      | error e => exact .inr (.inr ⟨_, rfl, rfl⟩)

end Reading

/-! ## The bytes of frames -/

namespace Arrival

theorem ofScript_pieces {pieces : List (List UInt8)} (h : ∀ piece ∈ pieces, piece ≠ []) :
    ofScript (pieces.map .data) = pieces.flatten.map .byte := by
  induction pieces with
  | nil => rfl
  | cons piece pieces ih =>
      rw [List.forall_mem_cons] at h
      rw [List.map_cons, ofScript_cons, arrivals_data h.1, ih h.2, List.flatten_cons,
        List.map_append]

/-- The bytes of a frame are reported as that frame, and nothing waits after them. -/
theorem walk_frame {bs : List UInt8} (h : bs.length = Frame.length) (as : List Arrival) :
    walk [] (bs.map .byte ++ as) = .frame bs :: walk [] as := by
  obtain ⟨init, b, rfl⟩ := (List.eq_nil_or_concat' bs).resolve_left (by
    rintro rfl
    cases h)
  have hlt : ([] ++ init).length < Frame.length := by
    rw [List.nil_append]
    rw [List.length_append, List.length_singleton] at h
    omega
  obtain ⟨hw, hh⟩ := walk_bytes_of_lt hlt
  rw [List.map_append, List.append_assoc, walk_append, hw, hh, List.nil_append, List.nil_append,
    List.map_singleton, List.singleton_append, walk_cons, meet_byte_of_eq h]
  rfl

/-- Bytes that are less than a frame, and then the end. -/
theorem walk_cut {bs : List UInt8} (h : bs.length < Frame.length) :
    walk [] (bs.map .byte ++ [.ending]) =
      [if bs.isEmpty then .ended else .failed (FrameReader.truncated bs.length)] := by
  have hlt : ([] ++ bs).length < Frame.length := h
  obtain ⟨hw, hh⟩ := walk_bytes_of_lt hlt
  rw [walk_append, hw, hh, List.nil_append, List.nil_append, walk_cons]
  rfl

/-- The last result of a stream has no record. -/
theorem exists_walk_concat (pending : List UInt8) (as : List Arrival) :
    ∃ x, walk pending (as ++ [.ending]) = walk pending as ++ [x] ∧ x.record? = none := by
  rw [walk_append, walk_cons]
  refine ⟨_, rfl, ?_⟩
  split <;> rfl

end Arrival

namespace FrameFile

/-! ## The results of a stream -/

theorem collect_cons_of_record {x : Reading} {r : PacketRecord} (h : x.record? = some r)
    (xs : List Reading) : collect (x :: xs) = (collect xs).map (r :: ·) := by
  cases x with
  | ended | failed => cases h
  | frame bytes =>
      rw [Reading.record?] at h
      rw [collect]
      cases hd : Frame.decode bytes with
      | ok r' =>
          rw [hd] at h
          obtain rfl := Option.some.inj h
          rfl
      | error e =>
          rw [hd] at h
          cases h

theorem collect_cons_of_failure {x : Reading} {f : Failure} (h : x.failure? = some f)
    (xs : List Reading) : collect (x :: xs) = .error f := by
  cases x with
  | ended => cases h
  | failed fault =>
      obtain rfl := Option.some.inj h
      rfl
  | frame bytes =>
      rw [Reading.failure?] at h
      rw [collect]
      cases hd : Frame.decode bytes with
      | ok r =>
          rw [hd] at h
          cases h
      | error e =>
          rw [hd] at h
          obtain rfl := Option.some.inj h
          rfl

/-- The first failure is what is found, with records only before it. -/
theorem collect_eq_error_iff (xs : List Reading) (f : Failure) :
    collect xs = .error f ↔ ∃ before x after, xs = before ++ x :: after ∧
      (∀ y ∈ before, y.record?.isSome) ∧ x.failure? = some f := by
  constructor
  · intro h
    induction xs with
    | nil => cases h
    | cons x xs ih =>
        rcases x.cases_record with rfl | ⟨r, hr, -⟩ | ⟨g, hg, -⟩
        · cases h
        · rw [collect_cons_of_record hr] at h
          have he : collect xs = .error f := by
            cases hc : collect xs with
            | ok rs =>
                rw [hc] at h
                cases h
            | error e =>
                rw [hc] at h
                exact h
          obtain ⟨before, y, after, rfl, hbefore, hy⟩ := ih he
          refine ⟨x :: before, y, after, rfl, ?_, hy⟩
          rw [List.forall_mem_cons]
          exact ⟨Option.isSome_iff_exists.2 ⟨r, hr⟩, hbefore⟩
        · rw [collect_cons_of_failure hg] at h
          obtain rfl := Except.error.inj h
          exact ⟨[], x, xs, rfl, List.forall_mem_nil _, hg⟩
  · rintro ⟨before, x, after, rfl, hbefore, hx⟩
    induction before with
    | nil => exact collect_cons_of_failure hx after
    | cons y before ih =>
        rw [List.forall_mem_cons] at hbefore
        obtain ⟨r, hr⟩ := Option.isSome_iff_exists.1 hbefore.1
        rw [List.cons_append, collect_cons_of_record hr, ih hbefore.2]
        rfl

/-- Records are found when there is nothing else before the end. -/
theorem collect_eq_ok_iff (xs : List Reading) (rs : List PacketRecord) :
    collect xs = .ok rs ↔ ∃ before, before.map Reading.record? = rs.map some ∧
      (xs = before ∨ ∃ after, xs = before ++ .ended :: after) := by
  constructor
  · intro h
    induction xs generalizing rs with
    | nil =>
        obtain rfl := Except.ok.inj h
        exact ⟨[], rfl, .inl rfl⟩
    | cons x xs ih =>
        rcases x.cases_record with rfl | ⟨r, hr, -⟩ | ⟨g, hg, -⟩
        · obtain rfl := Except.ok.inj h
          exact ⟨[], rfl, .inr ⟨xs, rfl⟩⟩
        · rw [collect_cons_of_record hr] at h
          cases hc : collect xs with
          | error e =>
              rw [hc] at h
              cases h
          | ok rs' =>
              rw [hc] at h
              obtain rfl := Except.ok.inj h
              obtain ⟨before, hbefore, hxs⟩ := ih rs' hc
              refine ⟨x :: before, by rw [List.map_cons, hr, hbefore, List.map_cons], ?_⟩
              rcases hxs with rfl | ⟨after, rfl⟩
              · exact .inl rfl
              · exact .inr ⟨after, rfl⟩
        · rw [collect_cons_of_failure hg] at h
          cases h
  · rintro ⟨before, hbefore, hxs⟩
    induction before generalizing xs rs with
    | nil =>
        obtain rfl := List.map_eq_nil_iff.1 hbefore.symm
        rcases hxs with rfl | ⟨after, rfl⟩ <;> rfl
    | cons y before ih =>
        cases rs with
        | nil => cases hbefore
        | cons r rs =>
            rw [List.map_cons, List.map_cons, List.cons.injEq] at hbefore
            have hmore : ∀ ys, (ys = before ∨ ∃ after, ys = before ++ .ended :: after) →
                collect (y :: ys) = .ok (r :: rs) := by
              intro ys hys
              rw [collect_cons_of_record hbefore.1, ih ys rs hbefore.2 hys]
              rfl
            rcases hxs with rfl | ⟨after, rfl⟩
            · exact hmore before (.inl rfl)
            · exact hmore _ (.inr ⟨after, rfl⟩)

/-- The results of a stream, up to the end of its deliveries. -/
def results (script : List Delivery) : List Reading := walk [] (ofScript script ++ [.ending])

theorem load_eq_collect (script : List Delivery) : load script = collect (results script) :=
  congrArg collect (FrameReader.readings_eq_walk FrameReader.empty script)

/-- A stream always comes to an end, so its records are all those before the end. -/
theorem load_eq_ok_iff (script : List Delivery) (rs : List PacketRecord) :
    load script = .ok rs ↔ ∃ before after, results script = before ++ .ended :: after ∧
      before.map Reading.record? = rs.map some := by
  rw [load_eq_collect, collect_eq_ok_iff]
  constructor
  · rintro ⟨before, hbefore, hxs | ⟨after, hxs⟩⟩
    · obtain ⟨x, hx, hr⟩ := Arrival.exists_walk_concat [] (ofScript script)
      have hmem : x ∈ before := by
        rw [← hxs, results, hx]
        exact List.mem_concat_self
      have hnone := List.mem_map_of_mem (f := Reading.record?) hmem
      rw [hbefore, hr] at hnone
      obtain ⟨r, -, hr⟩ := List.mem_map.1 hnone
      cases hr
    · exact ⟨before, after, hxs, hbefore⟩
  · rintro ⟨before, after, hxs, hbefore⟩
    exact ⟨before, hbefore, .inr ⟨after, hxs⟩⟩

/-! ## The first bytes of a file -/

theorem results_pieces {pieces : List (List UInt8)} (h : ∀ piece ∈ pieces, piece ≠ []) :
    results (pieces.map .data) = walk [] (pieces.flatten.map .byte ++ [.ending]) := by
  rw [results, Arrival.ofScript_pieces h]

/-- What the first bytes of a file hold: the records of their frames when they end with a
frame, and a fault otherwise. -/
theorem collect_walk_of_isPrefix {records : List PacketRecord} {bytes : List UInt8}
    (h : bytes <+: records.flatMap Frame.encode) :
    collect (walk [] (bytes.map .byte ++ [.ending])) =
      if bytes.length % Frame.length = 0 then
        .ok ((records.take (bytes.length / Frame.length)).map Frame.reread)
      else .error (.io (FrameReader.truncated (bytes.length % Frame.length))) := by
  induction records generalizing bytes with
  | nil =>
      obtain rfl := List.prefix_nil.1 h
      rfl
  | cons r records ih =>
      rw [List.flatMap_cons] at h
      by_cases hl : bytes.length < Frame.length
      · rw [Arrival.walk_cut hl, Nat.mod_eq_of_lt hl, Nat.div_eq_of_lt hl]
        cases bytes with
        | nil => rfl
        | cons b bytes => rfl
      · -- The first frame is whole, and the rest is the beginning of the other frames.
        have hwhole : Frame.encode r <+: bytes := by
          refine List.prefix_of_prefix_length_le (List.prefix_append _ _) h ?_
          rw [Frame.length_encode]
          exact Nat.not_lt.1 hl
        obtain ⟨more, rfl⟩ := hwhole
        have hmore := ih ((List.prefix_append_right_inj _).1 h)
        have hfirst : (Reading.frame (Frame.encode r)).record? = some (Frame.reread r) := by
          rw [Reading.record?, Frame.decode_encode]
          rfl
        rw [List.map_append, List.append_assoc, Arrival.walk_frame (Frame.length_encode r),
          collect_cons_of_record hfirst, hmore, List.length_append, Frame.length_encode,
          Nat.add_mod_left, Nat.add_div_left _ (by decide)]
        split <;> rfl

theorem load_pieces {records : List PacketRecord} {pieces : List (List UInt8)}
    (hne : ∀ piece ∈ pieces, piece ≠ []) (h : pieces.flatten <+: records.flatMap Frame.encode) :
    load (pieces.map .data) =
      if pieces.flatten.length % Frame.length = 0 then
        .ok ((records.take (pieces.flatten.length / Frame.length)).map Frame.reread)
      else .error (.io (FrameReader.truncated (pieces.flatten.length % Frame.length))) := by
  rw [load_eq_collect, results_pieces hne, collect_walk_of_isPrefix h]

theorem length_flatMap_encode (records : List PacketRecord) :
    (records.flatMap Frame.encode).length = 65700 * records.length := by
  induction records with
  | nil => rfl
  | cons r records ih =>
      rw [List.flatMap_cons, List.length_append, ih, Frame.length_encode, List.length_cons,
        Nat.mul_succ, Nat.add_comm]
      rfl

/-- The bytes of all frames. -/
theorem load_pieces_all {records : List PacketRecord} {pieces : List (List UInt8)}
    (hne : ∀ piece ∈ pieces, piece ≠ []) (h : pieces.flatten = records.flatMap Frame.encode) :
    load (pieces.map .data) = .ok (records.map Frame.reread) := by
  have hprefix : pieces.flatten <+: records.flatMap Frame.encode :=
    ⟨[], by rw [List.append_nil, h]⟩
  rw [load_pieces hne hprefix, h, length_flatMap_encode, Frame.length,
    if_pos (Nat.mul_mod_right 65700 _), Nat.mul_div_cancel_left _ (by decide), List.take_length]

/-- Whatever a sink does, the first bytes of a file reach it, and saving gives the number of
records exactly when all bytes do and the flush works.  The first `m` bytes of a file are
loaded as the records of its first `m / 65700` frames, each as it is read back from its frame,
when `m` is a multiple of the length of a frame, and as an unexpected end of file when it is
not, in whatever pieces they come.  What was saved to one sink one after the other is loaded
as one list.  Of any stream loading gives the first fault or error among the results in their
order, or else the records of all frames before the first end. -/
theorem saved_files_load (records : List PacketRecord) (sink : Sink)
    (batches : List (List PacketRecord × Option Fault)) (acceptances : List Acceptance)
    (script : List Delivery) :
    let file := records.flatMap Frame.encode
    let saves := saveEach batches acceptances
    (save records sink).2 <+: file ∧
      (∀ n, (save records sink).1 = .ok n ↔
        n = records.length ∧ (save records sink).2 = file ∧ sink.flushFault? = none) ∧
      (∀ r, Frame.decode (Frame.encode r) = .ok (Frame.reread r)) ∧
      (∀ (m : Nat) (pieces : List (List UInt8)), (∀ piece ∈ pieces, piece ≠ []) →
          pieces.flatten = file.take m →
        (m % 65700 = 0 →
          load (pieces.map .data) = .ok ((records.take (m / 65700)).map Frame.reread)) ∧
        (m % 65700 ≠ 0 → m ≤ file.length →
          ∃ fault, fault.kind = .unexpectedEof ∧ load (pieces.map .data) = .error (.io fault))) ∧
      ((∀ x ∈ saves, ∃ n, x.1 = .ok n) → ∀ pieces : List (List UInt8),
        (∀ piece ∈ pieces, piece ≠ []) → pieces.flatten = saves.flatMap Prod.snd →
          load (pieces.map .data) = .ok ((batches.flatMap Prod.fst).map Frame.reread)) ∧
      (∀ f, load script = .error f ↔ ∃ before x after, results script = before ++ x :: after ∧
        (∀ y ∈ before, y.record?.isSome) ∧ x.failure? = some f) ∧
      ∀ rs, load script = .ok rs ↔ ∃ before after, results script = before ++ .ended :: after ∧
        before.map Reading.record? = rs.map some := by
  intro file saves
  refine ⟨isPrefix_save records sink, save_eq_ok_iff records sink, fun r => Frame.decode_encode r,
    ?_, ?_, ?_, load_eq_ok_iff script⟩
  · intro m pieces hne hpieces
    have hload := load_pieces hne (hpieces ▸ List.take_prefix m file)
    rw [hpieces, List.length_take, Frame.length] at hload
    constructor
    · intro hm
      rcases Nat.le_total m file.length with hle | hle
      · rwa [Nat.min_eq_left hle, if_pos hm] at hload
      · -- There are no more bytes than those of the whole file.
        rw [List.take_of_length_le hle] at hpieces
        have hcount : records.length ≤ m / 65700 := by
          rw [Nat.le_div_iff_mul_le (by decide), Nat.mul_comm, ← length_flatMap_encode]
          exact hle
        rw [List.take_of_length_le hcount]
        exact load_pieces_all hne hpieces
    · intro hm hle
      rw [Nat.min_eq_left hle, if_neg hm] at hload
      exact ⟨_, rfl, hload⟩
  · intro hsaves pieces hne hpieces
    rw [flatMap_saveEach hsaves] at hpieces
    exact load_pieces_all hne hpieces
  · intro f
    rw [load_eq_collect]
    exact collect_eq_error_iff (results script) f

/-- A sink that takes some bytes and is then interrupted takes all of them in the end. -/
theorem writeAll_interrupted {bytes : List UInt8} (h : 7 < bytes.length) :
    writeAll bytes [.takes 7, .fault (.described .interrupted "")] = (.ok (), bytes, []) := by
  have hne : ¬ bytes.isEmpty = true := by
    rw [List.isEmpty_iff]
    rintro rfl
    cases h
  have hrest : ¬ (bytes.drop 7).isEmpty = true := by
    rw [List.isEmpty_iff, List.drop_eq_nil_iff]
    exact Nat.not_le.2 h
  rw [writeAll, if_neg hne, if_neg (by decide), writeAll, if_neg hrest, if_pos (by rfl),
    writeAll_nil_script]
  dsimp only
  rw [List.take_append_drop]

/-- Two saves of one record each, the first of them in parts, and a file of which seven bytes
are left. -/
theorem saved_files_load_twice :
    let saves := saveEach [([default], none), ([default], none)]
      [.takes 7, .fault (.described .interrupted "")]
    load ((saves.map Prod.snd).map .data) = .ok [Frame.reread default, Frame.reread default] ∧
      load [.data ((Frame.encode default).take 7), .data ((Frame.encode default).drop 7)] =
        .ok [Frame.reread default] ∧
      ∃ fault, fault.kind = .unexpectedEof ∧
        load [.data ((Frame.encode default).take 7)] = .error (.io fault) := by
  intro saves
  have hlength : (Frame.encode default).length = 65700 := Frame.length_encode default
  have htaken : (Frame.encode default).take 7 ≠ [] := by
    intro h
    have hl := congrArg List.length h
    rw [List.length_take, hlength] at hl
    cases hl
  have hleft : (Frame.encode default).drop 7 ≠ [] := by
    intro h
    have hl := congrArg List.length h
    rw [List.length_drop, hlength] at hl
    cases hl
  have hsaves : saves =
      [(.ok 1, Frame.encode default), (.ok 1, Frame.encode default)] := by
    have hlong : 7 < (Frame.encode default).length := by
      rw [hlength]
      decide
    have hfirst := writeAll_interrupted hlong
    simp [saves, saveEach, save, writeRecords, hfirst]
  obtain ⟨-, -, -, hbytes, hbatches, -⟩ := saved_files_load [default] ⟨[], none⟩
    [([default], none), ([default], none)] [.takes 7, .fault (.described .interrupted "")] []
  refine ⟨?_, ?_, ?_⟩
  · refine hbatches ?_ (saves.map Prod.snd) ?_ List.flatMap_def.symm
    · change ∀ x ∈ saves, _
      rw [hsaves]
      simp
    · rw [hsaves]
      simp [List.ne_nil_of_length_pos, hlength]
  · refine (hbytes 65700 [_, _] (by simp [htaken, hleft]) ?_).1 rfl
    rw [List.flatMap_singleton, ← hlength, List.take_length]
    simp
  · refine (hbytes 7 [_] (by simp [htaken]) ?_).2 (by decide) ?_
    · simp
    · rw [length_flatMap_encode]
      decide

end FrameFile

end PacketMeter
