import PacketMeter.Frame.File
import PacketMeter.Proofs.Frame.Codec

/-!
# Loading what was saved

A stream that holds frames one after another delivers them one by one, so the records
that are loaded from a saved file are those that are read back from the frames.
-/

namespace PacketMeter

namespace FrameReader

/-- The first frame of a piece is reported, and the rest of the piece is left. -/
theorem advance_empty_frame {bs : List UInt8} (more : List UInt8)
    (hbs : bs.length = Frame.length) :
    empty.advance [.data (bs ++ more)] =
      (some (.frame bs), empty, if more.isEmpty then [] else [.data more]) := by
  have hpos : 0 < bs.length := by
    rw [hbs]
    decide
  have hne : ¬ (bs ++ more).isEmpty = true := by
    rw [List.isEmpty_iff, List.append_eq_nil_iff]
    rintro ⟨rfl, -⟩
    exact Nat.lt_irrefl 0 hpos
  have hpending : empty.pending = [] := rfl
  have hlen : ¬ (empty.pending ++ (bs ++ more)).length < Frame.length := by
    rw [hpending, List.nil_append, List.length_append, hbs]
    exact Nat.not_lt.2 (Nat.le_add_right _ _)
  rw [advance, if_neg hne, dif_neg hlen]
  simp only [hpending, List.length_nil, Nat.sub_zero, List.nil_append, List.take_left' hbs,
    List.drop_left' hbs]

theorem readings_empty_frame {bs : List UInt8} (more : List UInt8)
    (hbs : bs.length = Frame.length) :
    empty.readings [.data (bs ++ more)] =
      .frame bs :: empty.readings (if more.isEmpty then [] else [.data more]) := by
  rw [readings, advance_empty_frame more hbs]

theorem readings_empty_nil : empty.readings [] = [.ended] := by
  rw [readings, advance_nil]
  rfl

theorem readings_empty_data_nil : empty.readings [.data []] = [.ended, .ended] := by
  rw [readings, advance, if_pos (by rfl)]
  simp only [readings_empty_nil]
  rfl

end FrameReader

namespace FrameFile

theorem load_data_nil : load [.data []] = .ok [] := by
  rw [load, FrameReader.readings_empty_data_nil]
  rfl

/-- The records of a piece are the record of its first frame and those of the rest. -/
theorem load_frame {bs : List UInt8} {r : PacketRecord} (more : List UInt8)
    (h : Frame.decode bs = .ok r) :
    load [.data (bs ++ more)] = (load [.data more]).map (r :: ·) := by
  have hbs := (Frame.decode_eq_ok_iff.1 h).1
  cases more with
  | nil =>
      rw [load_data_nil, load, FrameReader.readings_empty_frame [] hbs]
      simp only [List.isEmpty_nil, if_true, FrameReader.readings_empty_nil, collect, h]
  | cons b more =>
      rw [load, FrameReader.readings_empty_frame _ hbs]
      simp only [List.isEmpty_cons, Bool.false_eq_true, if_false, collect, h, load]

theorem load_flatMap_encode (rs : List PacketRecord) :
    load [.data (rs.flatMap Frame.encode)] = .ok (rs.map Frame.reread) := by
  induction rs with
  | nil => exact load_data_nil
  | cons r rs ih =>
      rw [List.flatMap_cons, load_frame _ (Frame.decode_encode r), ih]
      rfl

/-- What a sink without faults takes of a file is the frames of its records. -/
theorem save_whole (rs : List PacketRecord) :
    save rs ⟨[], none⟩ = (.ok rs.length, rs.flatMap Frame.encode) := by
  rw [save, writeRecords_nil_script]

/-- A file that was saved is loaded with every record as it is read back from its
frame. -/
theorem load_save (rs : List PacketRecord) :
    load [.data (save rs ⟨[], none⟩).2] = .ok (rs.map Frame.reread) := by
  rw [save_whole, load_flatMap_encode]

end FrameFile

end PacketMeter
