import PacketMeter.Proofs.Frame.File

/-!
# Records that were read and are written again

A record that was read from a frame is written again with the same numbers and the same
captured bytes.  Only its texts can change, and they change when they do not leave room
for a NUL.
-/

namespace PacketMeter.Frame

open Text

/-! ## The texts of a record -/

def texts (r : PacketRecord) : List String :=
  [r.protocol, r.srcIp, r.dstIp, r.srcMac, r.dstMac, r.host]

def mapTexts (f : String → String) (r : PacketRecord) : PacketRecord :=
  { r with
    protocol := f r.protocol
    srcIp := f r.srcIp
    dstIp := f r.dstIp
    srcMac := f r.srcMac
    dstMac := f r.dstMac
    host := f r.host }

/-- Where the texts stand in a frame. -/
def textOffsets : List Nat := [12, 34, 56, 78, 100, 122]

variable {r : PacketRecord} {bs : List UInt8}

theorem mapTexts_congr {f g : String → String} (h : ∀ s ∈ texts r, f s = g s) :
    mapTexts f r = mapTexts g r := by
  simp only [texts, List.forall_mem_cons] at h
  obtain ⟨h₁, h₂, h₃, h₄, h₅, h₆, -⟩ := h
  rw [mapTexts, mapTexts, h₁, h₂, h₃, h₄, h₅, h₆]

theorem mapTexts_eq_self_iff {f : String → String} :
    mapTexts f r = r ↔ ∀ s ∈ texts r, f s = s := by
  constructor
  · intro h
    simp only [texts, List.forall_mem_cons]
    exact ⟨congrArg PacketRecord.protocol h, congrArg PacketRecord.srcIp h,
      congrArg PacketRecord.dstIp h, congrArg PacketRecord.srcMac h,
      congrArg PacketRecord.dstMac h, congrArg PacketRecord.host h, List.forall_mem_nil _⟩
  · intro h
    exact mapTexts_congr (g := fun s => s) h

/-! ## Records that were read -/

theorem texts_of_decode (h : decode bs = .ok r) :
    texts r = textOffsets.map fun offset => text offset bs := by
  obtain ⟨-, -, _, _, -, -, rfl⟩ := decode_eq_ok_iff.1 h
  rfl

theorem isFieldText_of_decode (h : decode bs = .ok r) : ∀ s ∈ texts r, IsFieldText s := by
  rw [texts_of_decode h]
  intro s hs
  obtain ⟨offset, -, rfl⟩ := List.mem_map.1 hs
  exact isFieldText_fieldText _

theorem length_raw_of_decode (h : decode bs = .ok r) :
    r.raw.length = r.captureLen.toNat ∧ r.captureLen.toNat ≤ rawLength := by
  obtain ⟨hl, hw, _, _, -, -, rfl⟩ := decode_eq_ok_iff.1 h
  refine ⟨?_, hw⟩
  have hroom : (word 144 bs).toNat ≤ (bs.drop 164).length := by
    rw [List.length_drop, hl]
    exact hw
  exact List.length_take_of_le hroom

/-- Nothing but texts changes in a record that was read and is written again. -/
theorem reread_of_decode (h : decode bs = .ok r) : reread r = mapTexts shortened r := by
  obtain ⟨hlen, hle⟩ := length_raw_of_decode h
  have hraw : keptRaw r = r.raw := List.take_of_length_le (hlen ▸ hle)
  have hcount : UInt32.ofNat r.raw.length = r.captureLen := by
    rw [hlen, UInt32.ofNat_toNat]
  have htexts : mapTexts stored r = mapTexts shortened r := by
    apply mapTexts_congr
    intro s hs
    exact stored_eq (isFieldText_of_decode h s hs).no_nul
  rw [← htexts, reread, hraw, hcount, mapTexts]

theorem shortened_eq_self_iff (h : decode bs = .ok r) :
    mapTexts shortened r = r ↔ ∀ s ∈ texts r, FitsField s := by
  rw [mapTexts_eq_self_iff]
  refine forall₂_congr fun s hs => ?_
  have hfield := isFieldText_of_decode h s hs
  rw [← stored_eq_self_iff hfield, stored_eq hfield.no_nul]

/-! ## A text without a NUL -/

/-- A frame whose first text takes all of its field. -/
def unterminatedFrame : List UInt8 :=
  List.replicate 12 0 ++ (Utf8.bytes "ABCDEFGHIJKLMNOPQRSTUV" ++ List.replicate 65666 0)

def unterminatedRecord : PacketRecord where
  id := 0
  srcPort := 0
  dstPort := 0
  protocol := "ABCDEFGHIJKLMNOPQRSTUV"
  srcIp := ""
  dstIp := ""
  srcMac := ""
  dstMac := ""
  host := ""
  captureLen := 0
  originalLen := 0
  timestamp := ⟨0, 0⟩
  raw := []

theorem length_bytes_unterminated : (Utf8.bytes "ABCDEFGHIJKLMNOPQRSTUV").length = 22 := by
  decide

theorem isFieldText_unterminated : IsFieldText "ABCDEFGHIJKLMNOPQRSTUV" where
  no_nul := List.forall_mem_ne'.2 (by decide)
  trimmed := by decide

theorem slice_unterminatedFrame_of_le {offset width : Nat} (h : offset + width ≤ 12) :
    slice offset width unterminatedFrame = List.replicate width 0 := by
  rw [unterminatedFrame, slice_append_of_le _ (by rw [List.length_replicate]; exact h),
    slice_replicate 0 h]

theorem slice_unterminatedFrame_of_ge {offset width : Nat} (h : 34 ≤ offset)
    (hw : offset + width ≤ 65700) :
    slice offset width unterminatedFrame = List.replicate width 0 := by
  rw [unterminatedFrame, slice_append_of_ge _ _ (by rw [List.length_replicate]; omega),
    List.length_replicate,
    slice_append_of_ge _ _ (by rw [length_bytes_unterminated]; omega),
    length_bytes_unterminated, slice_replicate 0 (by omega)]

theorem text_unterminatedFrame : text 12 unterminatedFrame = "ABCDEFGHIJKLMNOPQRSTUV" := by
  have hslice : slice 12 textLength unterminatedFrame =
      Utf8.bytes "ABCDEFGHIJKLMNOPQRSTUV" := by
    rw [unterminatedFrame, slice_append_of_ge _ _ (by rw [List.length_replicate]),
      List.length_replicate, slice_append_of_le _ (by rw [length_bytes_unterminated]; decide),
      slice, List.drop_zero, List.take_of_length_le (by rw [length_bytes_unterminated]; decide)]
  rw [text, hslice, fieldText_bytes isFieldText_unterminated]

theorem text_of_zeros {offset : Nat} (h : slice offset textLength bs = List.replicate 22 0) :
    text offset bs = "" := by
  have hzeros : (List.replicate 22 (0 : UInt8)).takeWhile (· != 0) = [] := by decide
  rw [text, fieldText, h, hzeros, Utf8.decode_nil]
  rfl

theorem word_of_zeros {offset : Nat} (h : slice offset 4 bs = List.replicate 4 0) :
    word offset bs = 0 :=
  word_of_slice (n := 0) h

theorem decode_unterminatedFrame : decode unterminatedFrame = .ok unterminatedRecord := by
  have hlen : unterminatedFrame.length = length := by
    rw [unterminatedFrame, List.length_append, List.length_append, List.length_replicate,
      List.length_replicate, length_bytes_unterminated]
    rfl
  have hword : ∀ offset, 34 ≤ offset → offset + 4 ≤ 65700 → word offset unterminatedFrame = 0 :=
    fun offset h hw => word_of_zeros (slice_unterminatedFrame_of_ge h hw)
  have htext : ∀ offset, 34 ≤ offset → offset + 22 ≤ 65700 → text offset unterminatedFrame = "" :=
    fun offset h hw => text_of_zeros (slice_unterminatedFrame_of_ge h hw)
  have hport : ∀ offset, offset + 4 ≤ 12 → port offset unterminatedFrame = .ok 0 :=
    fun offset h => port_of_slice (p := 0) (slice_unterminatedFrame_of_le h)
  have hid : integer 0 unterminatedFrame = 0 := by
    rw [integer, word_of_zeros (slice_unterminatedFrame_of_le (by decide))]
    rfl
  have hsec : longWord 152 unterminatedFrame = 0 :=
    longWord_of_slice (n := 0) (slice_unterminatedFrame_of_ge (by decide) (by decide))
  have hcount : word 144 unterminatedFrame = 0 := hword 144 (by decide) (by decide)
  refine decode_eq_ok_iff.2
    ⟨hlen, ?_, 0, 0, hport 4 (by decide), hport 8 (by decide), ?_⟩
  · rw [hcount]
    exact Nat.zero_le _
  · rw [recordOf, hid, text_unterminatedFrame, htext 34 (by decide) (by decide),
      htext 56 (by decide) (by decide), htext 78 (by decide) (by decide),
      htext 100 (by decide) (by decide), htext 122 (by decide) (by decide), hcount,
      hword 148 (by decide) (by decide), hsec, hword 160 (by decide) (by decide)]
    rfl

theorem shortened_unterminated :
    mapTexts shortened unterminatedRecord =
      { unterminatedRecord with protocol := "ABCDEFGHIJKLMNOPQRSTU" } := by
  have hprotocol : shortened "ABCDEFGHIJKLMNOPQRSTUV" = "ABCDEFGHIJKLMNOPQRSTU" :=
    shortened_of_take ⟨List.forall_mem_ne'.2 (by decide), by decide⟩ (by decide)
  have hempty : shortened "" = "" :=
    shortened_of_take ⟨List.forall_mem_ne'.2 (by decide), by decide⟩ (by decide)
  simp only [mapTexts, unterminatedRecord, hprotocol, hempty]

/-- The last character of the text is lost. -/
theorem unterminated_text_lost :
    decode unterminatedFrame = .ok unterminatedRecord ∧
      decode (encode unterminatedRecord) =
        .ok { unterminatedRecord with protocol := "ABCDEFGHIJKLMNOPQRSTU" } ∧
      decode (encode unterminatedRecord) ≠ .ok unterminatedRecord ∧
      FrameFile.load [.data (FrameFile.save [unterminatedRecord] ⟨[], none⟩).2] ≠
        .ok [unterminatedRecord] := by
  have hr : reread unterminatedRecord =
      { unterminatedRecord with protocol := "ABCDEFGHIJKLMNOPQRSTU" } := by
    rw [reread_of_decode decode_unterminatedFrame, shortened_unterminated]
  have hne : reread unterminatedRecord ≠ unterminatedRecord := by
    rw [hr]
    intro h
    exact absurd (congrArg PacketRecord.protocol h) (by decide)
  refine ⟨decode_unterminatedFrame, ?_, ?_, ?_⟩
  · rw [decode_encode, hr]
  · rw [decode_encode]
    exact fun h => hne (Except.ok.inj h)
  · rw [FrameFile.load_save, List.map_singleton]
    exact fun h => hne (List.singleton_inj.1 (Except.ok.inj h))

/-! ## Reading again -/

/-- A record that was read, written again and read once more, whether from its frame or
from a file, has its texts shortened to what their first 21 bytes hold.  It is the same
record exactly when all its texts fit. -/
theorem decoded_read_again (h : decode bs = .ok r) :
    decode (encode r) = .ok (mapTexts shortened r) ∧
      FrameFile.load [.data (FrameFile.save [r] ⟨[], none⟩).2] =
        .ok [mapTexts shortened r] ∧
      (decode (encode r) = .ok r ↔ ∀ s ∈ texts r, FitsField s) ∧
      (FrameFile.load [.data (FrameFile.save [r] ⟨[], none⟩).2] = .ok [r] ↔
        ∀ s ∈ texts r, FitsField s) := by
  have hread : decode (encode r) = .ok (mapTexts shortened r) := by
    rw [decode_encode, reread_of_decode h]
  have hload : FrameFile.load [.data (FrameFile.save [r] ⟨[], none⟩).2] =
      .ok [mapTexts shortened r] := by
    rw [FrameFile.load_save, List.map_singleton, reread_of_decode h]
  refine ⟨hread, hload, ?_, ?_⟩
  · rw [hread, Except.ok.injEq, shortened_eq_self_iff h]
  · rw [hload, Except.ok.injEq, List.singleton_inj, shortened_eq_self_iff h]

theorem decoded_read_again_unterminated :
    decode unterminatedFrame = .ok unterminatedRecord ∧
      FrameFile.load [.data (FrameFile.save [unterminatedRecord] ⟨[], none⟩).2] =
        .ok [{ unterminatedRecord with protocol := "ABCDEFGHIJKLMNOPQRSTU" }] := by
  refine ⟨decode_unterminatedFrame, ?_⟩
  rw [← shortened_unterminated]
  exact (decoded_read_again decode_unterminatedFrame).2.1

/-- A frame whose texts are ASCII and end with a NUL, as the format asks for, is read
again as the same record. -/
theorem decode_encode_of_terminated (h : decode bs = .ok r)
    (hascii : ∀ offset ∈ textOffsets,
      ∀ b ∈ (slice offset textLength bs).takeWhile (· != 0), b < 0x80)
    (hnul : ∀ offset ∈ textOffsets, 0 ∈ slice offset textLength bs) :
    decode (encode r) = .ok r := by
  rw [decode_encode, reread_of_decode h, Except.ok.injEq, shortened_eq_self_iff h,
    texts_of_decode h]
  intro s hs
  obtain ⟨offset, ho, rfl⟩ := List.mem_map.1 hs
  apply Or.inl
  have hwidth : (slice offset textLength bs).length ≤ 22 := List.length_take_le _ _
  have hshort := (List.takeWhile_prefix (· != 0) (l := slice offset textLength bs)).length_le
  have hne : (slice offset textLength bs).takeWhile (· != 0) ≠ slice offset textLength bs := by
    intro he
    rw [List.takeWhile_eq_self_iff] at he
    exact absurd (he 0 (hnul offset ho)) (by decide)
  have hlt : ((slice offset textLength bs).takeWhile (· != 0)).length < 22 := by
    by_contra hge
    apply hne
    exact (List.takeWhile_prefix _).eq_of_length (by omega)
  exact (length_bytes_fieldText (hascii offset ho)).trans (Nat.le_of_lt_succ hlt)

end PacketMeter.Frame
