import PacketMeter.Frame
import PacketMeter.Proofs.Text.Trimming
import PacketMeter.Proofs.Text.Utf8

/-!
# What a text field keeps

`stored s` is the text that is read back from the field that `s` was written to.  A
field is wider by one byte when it is read than when it is written, since writing leaves
room for a NUL that reading does not ask for.  So not every text that was read from a
field is stored as it is: these are the texts that `FitsField` describes.
-/

namespace PacketMeter.Frame

open Text

/-- What holds of a text that was read from a field: it has no NUL and no blanks at its
end. -/
structure IsFieldText (s : String) : Prop where
  no_nul : ∀ c ∈ s.toList, c ≠ '\x00'
  trimmed : trimEnd s.toList = s.toList

theorem isFieldText_fieldText (field : List UInt8) : IsFieldText (fieldText field) where
  no_nul := by
    intro c hc
    rw [fieldText, String.toList_ofList] at hc
    refine Utf8.decode_ne_nul ?_ c ((isPrefix_trimEnd _).mem hc)
    intro b hb
    simpa using List.mem_takeWhile_imp hb
  trimmed := by rw [fieldText, String.toList_ofList, trimEnd_trimEnd]

/-- An ASCII field has no more bytes when it is read than it had before its first NUL. -/
theorem length_bytes_fieldText {field : List UInt8}
    (h : ∀ b ∈ field.takeWhile (· != 0), b < 0x80) :
    (Utf8.bytes (fieldText field)).length ≤ (field.takeWhile (· != 0)).length := by
  obtain ⟨blanks, hb⟩ := isPrefix_trimEnd (Utf8.decode (field.takeWhile (· != 0)))
  have hbytes := Utf8.encode_decode_of_ascii h
  rw [← hb, Utf8.encode_append] at hbytes
  rw [Utf8.bytes, fieldText, String.toList_ofList]
  conv_rhs => rw [← hbytes]
  rw [List.length_append]
  exact Nat.le_add_right _ _

/-- The text that is read back from the field of a text. -/
def stored (s : String) : String := fieldText (textField s)

/-- The text that the first 21 bytes of a text hold. -/
def shortened (s : String) : String :=
  String.ofList (trimEnd (Utf8.decode ((Utf8.bytes s).take 21)))

variable {s : String}

/-- A text without NUL is read up to the last byte that was kept of it. -/
theorem stored_eq (hs : ∀ c ∈ s.toList, c ≠ '\x00') : stored s = shortened s := by
  have hkept : ∀ b ∈ (Utf8.bytes s).take 21, (b != 0) = true := by
    intro b hb
    rw [bne_iff_ne]
    exact Utf8.encode_ne_zero hs b (List.mem_of_mem_take hb)
  have hzeros : ∀ n, (List.replicate n (0 : UInt8)).takeWhile (· != 0) = [] := by
    intro n
    cases n <;> rfl
  rw [stored, fieldText, textField, shortened]
  simp only [textLength]
  rw [List.takeWhile_append_of_pos hkept, hzeros, List.append_nil]

/-- A text that was read from a field can be read from its bytes. -/
theorem fieldText_bytes (hs : IsFieldText s) : fieldText (Utf8.bytes s) = s := by
  have hbytes : (Utf8.bytes s).takeWhile (· != 0) = Utf8.bytes s := by
    rw [List.takeWhile_eq_self_iff]
    intro b hb
    rw [bne_iff_ne]
    exact Utf8.encode_ne_zero hs.no_nul b hb
  rw [fieldText, hbytes, Utf8.bytes, Utf8.decode_encode, hs.trimmed, String.ofList_toList]

theorem shortened_of_take {t : String} (ht : IsFieldText t)
    (h : (Utf8.bytes s).take 21 = Utf8.bytes t) : shortened s = t := by
  rw [shortened, h, Utf8.bytes, Utf8.decode_encode, ht.trimmed, String.ofList_toList]

/-- A text that leaves room for a NUL is stored as it is. -/
theorem stored_of_short (hs : IsFieldText s) (hl : (Utf8.bytes s).length ≤ 21) :
    stored s = s := by
  rw [stored_eq hs.no_nul]
  exact shortened_of_take hs (List.take_of_length_le hl)

theorem isBlank_replacement : isBlank Utf8.replacement = false := by decide

theorem length_utf8EncodeChar_replacement :
    (String.utf8EncodeChar Utf8.replacement).length = 3 := by decide

/-- A replacement character that breaks off is replaced by itself. -/
theorem stored_of_replacement {t : List Char} (hs : s.toList = t ++ [Utf8.replacement])
    (hno : ∀ c ∈ s.toList, c ≠ '\x00')
    (hl : (Utf8.encode t).length = 19 ∨ (Utf8.encode t).length = 20) : stored s = s := by
  have htake : (Utf8.bytes s).take 21 = Utf8.encode t ++
      (String.utf8EncodeChar Utf8.replacement).take (21 - (Utf8.encode t).length) := by
    rw [Utf8.bytes, hs, Utf8.encode_append, Utf8.encode_cons, Utf8.encode_nil, List.append_nil,
      List.take_append, List.take_of_length_le (by omega)]
  rw [stored_eq hno, shortened, htake, Utf8.decode_encode_append,
    Utf8.decode_take_utf8EncodeChar _ (by omega)
      (by rw [length_utf8EncodeChar_replacement]; omega),
    trimEnd_concat_of_not_blank t isBlank_replacement, ← hs, String.ofList_toList]

/-- A text that leaves room for a NUL, or ends with a replacement character that breaks
off after its first or its second byte. -/
def FitsField (s : String) : Prop :=
  (Utf8.bytes s).length ≤ 21 ∨
    ∃ t, s.toList = t ++ [Utf8.replacement] ∧
      ((Utf8.encode t).length = 19 ∨ (Utf8.encode t).length = 20)

/-- Only the texts that fit are stored as they are. -/
theorem stored_eq_self_iff (hs : IsFieldText s) : stored s = s ↔ FitsField s := by
  constructor
  · intro h
    by_cases hl : (Utf8.bytes s).length ≤ 21
    · exact .inl hl
    · obtain ⟨t, c, rest, k, hst, htake, hk, hlen⟩ :=
        Utf8.take_encode s.toList 21 (Nat.lt_of_not_le hl)
      have h' := congrArg String.toList h
      rw [stored_eq hs.no_nul, shortened, Utf8.bytes, htake, Utf8.decode_encode_append,
        String.toList_ofList] at h'
      rcases Nat.eq_zero_or_pos k with rfl | hpos
      · -- The text breaks off between two characters, so it gets shorter.
        rw [List.take_zero, Utf8.decode_nil, List.append_nil] at h'
        have hle := (isPrefix_trimEnd t).length_le
        rw [h', hst, List.length_append, List.length_cons] at hle
        omega
      · rw [Utf8.decode_take_utf8EncodeChar c hpos hk,
          trimEnd_concat_of_not_blank t isBlank_replacement, hst] at h'
        obtain ⟨rfl, rfl⟩ := List.cons.inj (List.append_cancel_left h')
        rw [length_utf8EncodeChar_replacement] at hk
        exact .inr ⟨t, hst, by omega⟩
  · rintro (hl | ⟨t, hst, hl⟩)
    · exact stored_of_short hs hl
    · exact stored_of_replacement hst hs.no_nul hl

end PacketMeter.Frame
