import PacketMeter.Proofs.Frame.Reencoding

/-!
# Normal forms

A record that went through a frame once is in normal form: its captured length is that
of its captured bytes, these fit into a frame, and each text is what its field keeps of
it.  A record in normal form goes through any number of frames as it is.

What a field keeps of a text is said twice.  `normalText` takes the first 21 bytes up to
a NUL and decodes them.  `fitted` goes through the characters and counts how many bytes
are left, so that a character for which too few are left becomes the replacement
character.  That the second pass changes nothing is shown of `fitted`: the replacement
character may again find too few bytes, but then it is replaced by itself.
-/

namespace PacketMeter.Frame

open Text

/-! ## Texts -/

/-- The characters that fit into `room` bytes, up to the first NUL, and a replacement
character for one that fits only in part. -/
def fitted : Nat → List Char → List Char
  | _, [] => []
  | room, c :: s =>
      if room = 0 ∨ c = '\x00' then []
      else if (String.utf8EncodeChar c).length ≤ room then
        c :: fitted (room - (String.utf8EncodeChar c).length) s
      else [Utf8.replacement]

theorem fitted_nil (room : Nat) : fitted room [] = [] := rfl

theorem fitted_cons_of_end {room : Nat} {c : Char} (s : List Char)
    (h : room = 0 ∨ c = '\x00') : fitted room (c :: s) = [] := by
  rw [fitted, if_pos h]

theorem fitted_cons_of_le {room : Nat} {c : Char} (s : List Char)
    (h : ¬ (room = 0 ∨ c = '\x00')) (hl : (String.utf8EncodeChar c).length ≤ room) :
    fitted room (c :: s) = c :: fitted (room - (String.utf8EncodeChar c).length) s := by
  rw [fitted, if_neg h, if_pos hl]

theorem fitted_cons_of_lt {room : Nat} {c : Char} (s : List Char)
    (h : ¬ (room = 0 ∨ c = '\x00')) (hl : room < (String.utf8EncodeChar c).length) :
    fitted room (c :: s) = [Utf8.replacement] := by
  rw [fitted, if_neg h, if_neg (Nat.not_le.2 hl)]

theorem takeWhile_utf8EncodeChar {c : Char} (hc : c ≠ '\x00') {bs : List UInt8}
    (hbs : ∀ b ∈ bs, b ∈ String.utf8EncodeChar c) : ∀ b ∈ bs, (b != 0) = true := by
  intro b hb
  have hmem : b ∈ Utf8.encode [c] := by
    rw [Utf8.encode_cons, Utf8.encode_nil, List.append_nil]
    exact hbs b hb
  rw [bne_iff_ne]
  exact Utf8.encode_ne_zero (by simpa using hc) b hmem

/-- Counting bytes along the characters is cutting the bytes and decoding them. -/
theorem decode_take_encode (room : Nat) (s : List Char) :
    Utf8.decode (((Utf8.encode s).take room).takeWhile (· != 0)) = fitted room s := by
  induction s generalizing room with
  | nil => rw [Utf8.encode_nil, List.take_nil, List.takeWhile_nil, Utf8.decode_nil, fitted_nil]
  | cons c s ih =>
      rw [Utf8.encode_cons]
      by_cases h : room = 0 ∨ c = '\x00'
      · rw [fitted_cons_of_end s h]
        rcases h with rfl | rfl
        · rw [List.take_zero, List.takeWhile_nil, Utf8.decode_nil]
        · have hzero : String.utf8EncodeChar '\x00' = [0] := rfl
          rw [hzero]
          cases room with
          | zero => rw [List.take_zero, List.takeWhile_nil, Utf8.decode_nil]
          | succ room =>
              rw [List.singleton_append, List.take_succ_cons,
                List.takeWhile_cons_of_neg (by decide), Utf8.decode_nil]
      · obtain ⟨hroom, hc⟩ := not_or.1 h
        rcases Nat.lt_or_ge room (String.utf8EncodeChar c).length with hl | hl
        · have hcut : ∀ b ∈ (String.utf8EncodeChar c).take room, (b != 0) = true :=
            takeWhile_utf8EncodeChar hc fun b hb => List.mem_of_mem_take hb
          rw [fitted_cons_of_lt s h hl, List.take_append_of_le_length (Nat.le_of_lt hl),
            List.takeWhile_eq_self_iff.2 hcut,
            Utf8.decode_take_utf8EncodeChar c (Nat.pos_of_ne_zero hroom) hl]
        · have hwhole : ∀ b ∈ String.utf8EncodeChar c, (b != 0) = true :=
            takeWhile_utf8EncodeChar hc fun b hb => hb
          rw [fitted_cons_of_le s h hl, List.take_append, List.take_of_length_le hl,
            List.takeWhile_append_of_pos hwhole, Utf8.decode_utf8EncodeChar_append, ih]

/-- What fits is fitted as it is, also when its last character was replaced. -/
theorem fitted_fitted (room : Nat) (s : List Char) :
    fitted room (fitted room s) = fitted room s := by
  induction s generalizing room with
  | nil => rfl
  | cons c s ih =>
      by_cases h : room = 0 ∨ c = '\x00'
      · rw [fitted_cons_of_end s h, fitted_nil]
      · rcases Nat.lt_or_ge room (String.utf8EncodeChar c).length with hl | hl
        · rw [fitted_cons_of_lt s h hl]
          have hr : ¬ (room = 0 ∨ Utf8.replacement = '\x00') :=
            not_or.2 ⟨(not_or.1 h).1, by decide⟩
          -- Three bytes are left for the replacement character, or it is replaced.
          rcases Nat.lt_or_ge room (String.utf8EncodeChar Utf8.replacement).length with hr' | hr'
          · rw [fitted_cons_of_lt [] hr hr']
          · rw [fitted_cons_of_le [] hr hr', fitted_nil]
        · rw [fitted_cons_of_le s h hl, fitted_cons_of_le _ h hl, ih]

example : fitted 3 (fitted 3 ['a', '𝄞', 'b']) = ['a', Utf8.replacement] := by decide

/-- What is at the front of a text that fits, fits. -/
theorem fitted_of_isPrefix {room : Nat} {s t : List Char} (hs : fitted room s = s)
    (ht : t <+: s) : fitted room t = t := by
  induction s generalizing room t with
  | nil => rw [List.prefix_nil.1 ht, fitted_nil]
  | cons c s ih =>
      rcases List.prefix_cons_iff.1 ht with rfl | ⟨u, rfl, hu⟩
      · rw [fitted_nil]
      · by_cases h : room = 0 ∨ c = '\x00'
        · rw [fitted_cons_of_end s h] at hs
          cases hs
        · rcases Nat.lt_or_ge room (String.utf8EncodeChar c).length with hl | hl
          · rw [fitted_cons_of_lt s h hl] at hs
            obtain ⟨rfl, rfl⟩ := List.cons.inj hs
            rw [fitted_cons_of_lt u h hl, List.prefix_nil.1 hu]
          · rw [fitted_cons_of_le s h hl] at hs
            rw [fitted_cons_of_le u h hl, ih (List.cons.inj hs).2 hu]

/-- The text that the first 21 bytes of a text hold, up to the first NUL and without
blanks at its end. -/
def normalText (s : String) : String :=
  String.ofList (trimEnd (Utf8.decode (((Utf8.bytes s).take 21).takeWhile (· != 0))))

theorem normalText_eq (s : String) :
    normalText s = String.ofList (trimEnd (fitted 21 s.toList)) := by
  rw [normalText, Utf8.bytes, decode_take_encode]

theorem takeWhile_append_zeros (bs : List UInt8) (n : Nat) :
    (bs ++ List.replicate n 0).takeWhile (· != 0) = bs.takeWhile (· != 0) := by
  induction bs with
  | nil => cases n <;> rfl
  | cons b bs ih => rw [List.cons_append, List.takeWhile_cons, List.takeWhile_cons, ih]

theorem stored_eq_normalText (s : String) : stored s = normalText s := by
  rw [stored, fieldText, textField, normalText]
  simp only [textLength, takeWhile_append_zeros]

theorem normalText_normalText (s : String) : normalText (normalText s) = normalText s := by
  have hfit : fitted 21 (trimEnd (fitted 21 s.toList)) = trimEnd (fitted 21 s.toList) :=
    fitted_of_isPrefix (fitted_fitted 21 s.toList) (isPrefix_trimEnd _)
  rw [normalText_eq (normalText s), normalText_eq s, String.toList_ofList, hfit,
    trimEnd_trimEnd]

/-! ## Records -/

/-- The record that a frame can hold: no more captured bytes than there is room for, the
captured length that goes with them, and the texts in normal form. -/
def normal (r : PacketRecord) : PacketRecord :=
  mapTexts normalText { r with
    captureLen := UInt32.ofNat (min r.raw.length 65536)
    raw := r.raw.take 65536 }

theorem reread_eq_normal (r : PacketRecord) : reread r = normal r := by
  have hraw : keptRaw r = r.raw.take 65536 := rfl
  simp only [reread, normal, mapTexts, stored_eq_normalText, hraw, List.length_take,
    Nat.min_comm]

theorem toNat_captureLen_normal (r : PacketRecord) :
    (normal r).captureLen.toNat = (normal r).raw.length := by
  rw [normal, mapTexts, UInt32.toNat_ofNat', List.length_take]
  omega

theorem normal_normal (r : PacketRecord) : normal (normal r) = normal r := by
  have hraw : (r.raw.take 65536).take 65536 = r.raw.take 65536 := by
    rw [List.take_take, Nat.min_self]
  have hcount : min (r.raw.take 65536).length 65536 = min r.raw.length 65536 := by
    rw [List.length_take]
    omega
  simp only [normal, mapTexts, normalText_normalText, hraw, hcount]

theorem load_save_eq_normal (rs : List PacketRecord) :
    FrameFile.load [.data (FrameFile.save rs ⟨[], none⟩).2] = .ok (rs.map normal) := by
  rw [FrameFile.load_save]
  exact congrArg Except.ok (List.map_congr_left fun r _ => reread_eq_normal r)

/-- A frame holds the normal form of its record, which is its own normal form.  So the
first reading settles a record, and every further frame or file gives it back. -/
theorem frame_holds_normal (r : PacketRecord) (rs : List PacketRecord) :
    (encode r).length = 65700 ∧ decode (encode r) = .ok (normal r) ∧
      (normal r).captureLen.toNat = (normal r).raw.length ∧
      (∀ s, normalText s = String.ofList (trimEnd (fitted 21 s.toList))) ∧
      normal (normal r) = normal r ∧
      decode (encode (normal r)) = .ok (normal r) ∧
      FrameFile.load [.data (FrameFile.save rs ⟨[], none⟩).2] = .ok (rs.map normal) ∧
      FrameFile.load [.data (FrameFile.save (rs.map normal) ⟨[], none⟩).2] =
        .ok (rs.map normal) := by
  have hread : ∀ r, decode (encode r) = .ok (normal r) := fun r => by
    rw [decode_encode, reread_eq_normal]
  refine ⟨length_encode r, hread r, toNat_captureLen_normal r, normalText_eq, normal_normal r,
    ?_, load_save_eq_normal rs, ?_⟩
  · rw [hread, normal_normal]
  · rw [load_save_eq_normal, List.map_map]
    exact congrArg Except.ok (List.map_congr_left fun r _ => normal_normal r)

end PacketMeter.Frame
