import PacketMeter.Proofs.Frame.Acceptance
import PacketMeter.Proofs.Frame.NormalForm

/-!
# What is behind the content of a field

A text field is read up to its first NUL, and the area for captured bytes as far as the
captured length says.  `SameContent` relates two frames that agree so far and may hold
anything behind it; these are read alike.  Which bytes are compared depends on the bytes
themselves, and the first frame says which.

A text field may also be filled up with spaces, since blanks at the end of a text are
dropped.
-/

namespace PacketMeter.Frame

open Text

/-- Two frames agree on the numbers, on each text field up to its first NUL, and on the
captured bytes.  Frames that are refused for their captured length have none. -/
structure SameContent (bs cs : List UInt8) : Prop where
  numbers : ∀ i, i < 12 ∨ 144 ≤ i ∧ i < 164 → bs[i]? = cs[i]?
  texts : ∀ offset ∈ textOffsets, ∀ i < 22, (∀ j < i, bs[offset + j]? ≠ some 0) →
    bs[offset + i]? = cs[offset + i]?
  raw : numberAt bs 144 4 ≤ 65536 → ∀ i < numberAt bs 144 4, bs[164 + i]? = cs[164 + i]?

section Congruence

variable {bs cs : List UInt8} {offset width : Nat}

theorem getElem?_slice (offset width : Nat) (bs : List UInt8) (i : Nat) :
    (slice offset width bs)[i]? = if i < width then bs[offset + i]? else none := by
  rw [slice, List.getElem?_take, List.getElem?_drop]

theorem slice_congr (h : ∀ i < width, bs[offset + i]? = cs[offset + i]?) :
    slice offset width bs = slice offset width cs := by
  refine List.ext_getElem? fun i => ?_
  rw [getElem?_slice, getElem?_slice]
  split
  · exact h i ‹_›
  · rfl

/-- Lists that agree up to the first NUL of one of them are the same up to there. -/
theorem takeWhile_congr {bs cs : List UInt8}
    (h : ∀ i : Nat, (∀ j < i, bs[j]? ≠ some 0) → bs[i]? = cs[i]?) :
    bs.takeWhile (· != 0) = cs.takeWhile (· != 0) := by
  induction bs generalizing cs with
  | nil =>
      have h₀ := h 0 (by simp)
      rw [List.getElem?_nil, eq_comm, List.getElem?_eq_none_iff, Nat.le_zero,
        List.length_eq_zero_iff] at h₀
      rw [h₀]
  | cons b bs ih =>
      have h₀ := h 0 (by simp)
      cases cs with
      | nil => cases h₀
      | cons c cs =>
          obtain rfl : b = c := Option.some.inj h₀
          by_cases hb : b = 0
          · rw [List.takeWhile_cons_of_neg (by simpa), List.takeWhile_cons_of_neg (by simpa)]
          · rw [List.takeWhile_cons_of_pos (by simpa), List.takeWhile_cons_of_pos (by simpa)]
            refine congrArg (b :: ·) (ih fun i hi => h (i + 1) fun j hj => ?_)
            cases j with
            | zero => simpa using hb
            | succ j => exact hi j (Nat.lt_of_succ_lt_succ hj)

theorem fieldText_congr {bs cs : List UInt8}
    (h : bs.takeWhile (· != 0) = cs.takeWhile (· != 0)) : fieldText bs = fieldText cs := by
  rw [fieldText, fieldText, h]

/-- What is read of a frame is its numbers, its texts and as many captured bytes as it
says. -/
theorem decode_congr (size : bs.length = cs.length)
    (numbers : ∀ offset width, offset + width ≤ 12 ∨ 144 ≤ offset ∧ offset + width ≤ 164 →
      slice offset width bs = slice offset width cs)
    (texts : ∀ offset ∈ textOffsets, text offset bs = text offset cs)
    (raw : (word 144 cs).toNat ≤ 65536 →
      slice 164 (word 144 cs).toNat bs = slice 164 (word 144 cs).toNat cs) :
    decode bs = decode cs := by
  have hword : ∀ offset, offset + 4 ≤ 12 ∨ 144 ≤ offset ∧ offset + 4 ≤ 164 →
      word offset bs = word offset cs := fun offset h => by
    rw [word, word, numbers offset 4 h]
  have hport : ∀ offset, offset + 4 ≤ 12 → port offset bs = port offset cs := fun offset h => by
    rw [port, port, integer, integer, hword offset (.inl h)]
  have hsec : longWord 152 bs = longWord 152 cs := by
    rw [longWord, longWord, numbers 152 8 (by decide)]
  have hcount : word 144 bs = word 144 cs := hword 144 (by decide)
  rw [decode, decode, size, hcount]
  by_cases h : rawLength < (word 144 cs).toNat
  · rw [if_pos h, if_pos h]
  · simp only [textOffsets, List.forall_mem_cons] at texts
    obtain ⟨h₁, h₂, h₃, h₄, h₅, h₆, -⟩ := texts
    rw [if_neg h, if_neg h, hport 4 (by decide), hport 8 (by decide), integer, integer,
      hword 0 (by decide), h₁, h₂, h₃, h₄, h₅, h₆, hword 148 (by decide), hsec,
      hword 160 (by decide), raw (Nat.not_lt.1 h)]

end Congruence

/-! ## Frames with the same content -/

section Content

variable {bs cs : List UInt8}

theorem SameContent.slice_eq (h : SameContent bs cs) (offset width : Nat)
    (hw : offset + width ≤ 12 ∨ 144 ≤ offset ∧ offset + width ≤ 164) :
    slice offset width bs = slice offset width cs :=
  slice_congr fun i hi => h.numbers (offset + i) (by omega)

theorem SameContent.text_eq (h : SameContent bs cs) {offset : Nat} (ho : offset ∈ textOffsets) :
    text offset bs = text offset cs := by
  refine fieldText_congr (takeWhile_congr fun i hi => ?_)
  rw [getElem?_slice, getElem?_slice]
  by_cases hw : i < textLength
  · rw [if_pos hw, if_pos hw]
    refine h.texts offset ho i hw fun j hj => ?_
    have hj' := hi j hj
    rwa [getElem?_slice, if_pos (hj.trans hw)] at hj'
  · rw [if_neg hw, if_neg hw]

theorem SameContent.decode_eq (h : SameContent bs cs) (size : bs.length = cs.length) :
    decode bs = decode cs := by
  have hcount : (word 144 cs).toNat = numberAt bs 144 4 := by
    rw [← toNat_word, word, word, h.slice_eq 144 4 (by decide)]
  refine decode_congr size h.slice_eq (fun _ ho => h.text_eq ho) fun hfits => ?_
  rw [hcount] at hfits ⊢
  exact slice_congr (h.raw hfits)

end Content

/-! ## Fields that are filled up -/

theorem decode_replicate_space (n : Nat) :
    Utf8.decode (List.replicate n 0x20) = List.replicate n ' ' := by
  induction n with
  | zero => rw [List.replicate_zero, Utf8.decode_nil, List.replicate_zero]
  | succ n ih =>
      rw [List.replicate_succ, Utf8.decode_cons_of_ascii _ (by decide), ih]
      rfl

/-- Spaces behind a text are decoded to spaces, even if its last character breaks off. -/
theorem decode_append_spaces (t : List UInt8) (n : Nat) :
    Utf8.decode (t ++ List.replicate n 0x20) = Utf8.decode t ++ List.replicate n ' ' := by
  cases n with
  | zero => rw [List.replicate_zero, List.append_nil, List.replicate_zero, List.append_nil]
  | succ n =>
      rw [List.replicate_succ, Utf8.decode_append_of_ascii t (by decide), ← List.replicate_succ,
        decode_replicate_space]

theorem fieldText_append_spaces {t : List UInt8} (ht : 0 ∉ t) (n : Nat) :
    fieldText (t ++ List.replicate n 0x20) = fieldText (t ++ List.replicate n 0) := by
  have hkeep : ∀ b ∈ t ++ List.replicate n 0x20, (b != 0) = true := by
    intro b hb
    rw [bne_iff_ne]
    rintro rfl
    rcases List.mem_append.1 hb with hb | hb
    · exact ht hb
    · exact absurd (List.eq_of_mem_replicate hb) (by decide)
  have hkept : t.takeWhile (· != 0) = t :=
    List.takeWhile_eq_self_iff.2 fun b hb => hkeep b (List.mem_append_left _ hb)
  have hblank : ∀ c ∈ List.replicate n ' ', isBlank c = true := by
    intro c hc
    rw [List.eq_of_mem_replicate hc]
    rfl
  rw [fieldText, fieldText, List.takeWhile_eq_self_iff.2 hkeep, takeWhile_append_zeros, hkept,
    decode_append_spaces, trimEnd_append_of_blank _ hblank]

section Field

variable {before field field' after : List UInt8} {offset width : Nat}

/-- A slice beside a field does not see it. -/
theorem slice_of_field (size : field.length = field'.length)
    (h : offset + width ≤ before.length ∨ before.length + field.length ≤ offset) :
    slice offset width (before ++ (field ++ after)) =
      slice offset width (before ++ (field' ++ after)) := by
  rcases h with h | h
  · rw [slice_append_of_le _ h, slice_append_of_le _ h]
  · rw [slice_append_of_ge _ _ (by omega), slice_append_of_ge _ _ (by omega),
      slice_append_of_ge _ _ (by omega), slice_append_of_ge _ _ (by omega), size]

theorem text_of_field (h : field.length = textLength) :
    text before.length (before ++ (field ++ after)) = fieldText field := by
  rw [text, slice_append_of_ge _ _ Nat.le.refl, Nat.sub_self,
    slice_append_of_le _ (by rw [h, Nat.zero_add]), slice, List.drop_zero,
    List.take_of_length_le h.le]

/-- Text fields that hold the same text are read alike. -/
theorem decode_of_field (ho : before.length ∈ textOffsets) (h : field.length = textLength)
    (h' : field'.length = textLength) (same : fieldText field = fieldText field') :
    decode (before ++ (field ++ after)) = decode (before ++ (field' ++ after)) := by
  have hrange : 12 ≤ before.length ∧ before.length + 22 ≤ 144 := by
    revert ho
    generalize before.length = n
    revert n
    decide
  have hsize : field.length = field'.length := h.trans h'.symm
  have hside : ∀ {offset width : Nat},
      offset + width ≤ before.length ∨ before.length + 22 ≤ offset →
      slice offset width (before ++ (field ++ after)) =
        slice offset width (before ++ (field' ++ after)) :=
    fun hw => slice_of_field hsize (by rwa [h])
  refine decode_congr ?_ ?_ ?_ ?_
  · simp only [List.length_append, hsize]
  · exact fun offset width hw => hside (by omega)
  · intro offset hoffset
    by_cases heq : offset = before.length
    · rw [heq, text_of_field h, text_of_field h', same]
    · have hapart : ∀ m ∈ textOffsets, ∀ n ∈ textOffsets, m ≠ n → m + 22 ≤ n ∨ n + 22 ≤ m := by
        decide
      exact congrArg fieldText (hside (hapart offset hoffset _ ho heq))
  · exact fun _ => hside (by omega)

end Field

/-! ## A frame in a used buffer -/

/-- The first bytes of `unterminatedFrame`, with `b` behind the NUL of each text. -/
def staleHead (b : UInt8) : List UInt8 :=
  List.replicate 12 0 ++ (Utf8.bytes "ABCDEFGHIJKLMNOPQRSTUV" ++
    ((List.replicate 5 (0 :: List.replicate 21 b)).flatten ++ List.replicate 20 0))

/-- The content of `unterminatedFrame` in a buffer that was full of `b`. -/
def staleFrame (b : UInt8) : List UInt8 := staleHead b ++ List.replicate 65536 b

theorem unterminatedFrame_eq : unterminatedFrame = staleFrame 0 := by
  have hhead : staleHead 0 =
      List.replicate 12 0 ++ (Utf8.bytes "ABCDEFGHIJKLMNOPQRSTUV" ++ List.replicate 130 0) := by
    decide
  rw [unterminatedFrame, staleFrame, hhead, List.append_assoc, List.append_assoc,
    List.replicate_append_replicate]

theorem length_staleHead (b : UInt8) : (staleHead b).length = 164 := by
  simp [staleHead, length_bytes_unterminated]

theorem length_staleFrame (b : UInt8) : (staleFrame b).length = 65700 := by
  rw [staleFrame, List.length_append, length_staleHead, List.length_replicate]

theorem getElem?_staleFrame (b : UInt8) {i : Nat} (hi : i < 164) :
    (staleFrame b)[i]? = (staleHead b)[i]? :=
  List.getElem?_append_left (by rwa [length_staleHead])

theorem sameContent_staleFrame : SameContent (staleFrame 0) (staleFrame 0xFF) where
  numbers := by
    have hfirst : ∀ i < 12, (staleHead 0)[i]? = (staleHead 0xFF)[i]? := by decide
    have hlast : ∀ i < 20, (staleHead 0)[144 + i]? = (staleHead 0xFF)[144 + i]? := by decide
    intro i hi
    rw [getElem?_staleFrame 0 (by omega), getElem?_staleFrame 0xFF (by omega)]
    rcases hi with hi | ⟨hge, hlt⟩
    · exact hfirst i hi
    · obtain ⟨j, rfl⟩ := Nat.exists_eq_add_of_le hge
      exact hlast j (by omega)
  texts := by
    have hfirst : ∀ i < 22, (staleHead 0)[12 + i]? = (staleHead 0xFF)[12 + i]? := by decide
    have hnul : ∀ offset ∈ textOffsets, offset ≠ 12 → offset < 164 ∧
        (staleHead 0)[offset]? = some 0 ∧ (staleHead 0xFF)[offset]? = some 0 := by decide
    intro offset ho i hi hbefore
    by_cases h : offset = 12
    · subst h
      rw [getElem?_staleFrame 0 (by omega), getElem?_staleFrame 0xFF (by omega)]
      exact hfirst i hi
    · obtain ⟨hlt, h₀, h₁⟩ := hnul offset ho h
      cases i with
      | zero => rw [Nat.add_zero, getElem?_staleFrame 0 hlt, getElem?_staleFrame 0xFF hlt, h₀, h₁]
      | succ i =>
          refine absurd ?_ (hbefore 0 (Nat.succ_pos i))
          rw [Nat.add_zero, getElem?_staleFrame 0 hlt, h₀]
  raw := by
    have hcount : numberAt (staleFrame 0) 144 4 = 0 := by
      have hzero : word 144 unterminatedFrame = 0 :=
        word_of_zeros (slice_unterminatedFrame_of_ge (by decide) (by decide))
      rw [← toNat_word, ← unterminatedFrame_eq, hzero]
      rfl
    intro _ i hi
    rw [hcount] at hi
    exact absurd hi (Nat.not_lt_zero i)

/-! ## What is ignored -/

/-- Frames with the same content are read alike, whatever is behind it.  A text field that
is filled up with zeros is read like one that is filled up with spaces. -/
theorem padding_is_ignored :
    (∀ bs cs : List UInt8, bs.length = 65700 → cs.length = 65700 → SameContent bs cs →
      decode bs = decode cs) ∧
      ∀ before t after : List UInt8, before.length ∈ textOffsets → t.length ≤ 22 → 0 ∉ t →
        decode (before ++ (t ++ List.replicate (22 - t.length) 0 ++ after)) =
          decode (before ++ (t ++ List.replicate (22 - t.length) 0x20 ++ after)) := by
  refine ⟨fun bs cs hb hc h => h.decode_eq (hb.trans hc.symm), fun before t after ho hl ht => ?_⟩
  have hwidth : ∀ b : UInt8, (t ++ List.replicate (22 - t.length) b).length = 22 := by
    intro b
    rw [List.length_append, List.length_replicate]
    omega
  exact decode_of_field ho (hwidth 0) (hwidth 0x20) (fieldText_append_spaces ht _).symm

/-- What the buffer held before is not seen. -/
theorem padding_is_ignored_stale :
    decode (staleFrame 0xFF) = .ok unterminatedRecord ∧
      decode (List.replicate 12 0 ++ ([0x54, 0x43, 0x50] ++ List.replicate 19 0 ++
          List.replicate 65666 0)) =
        decode (List.replicate 12 0 ++ ([0x54, 0x43, 0x50] ++ List.replicate 19 0x20 ++
          List.replicate 65666 0)) := by
  obtain ⟨hsame, hfill⟩ := padding_is_ignored
  refine ⟨?_, ?_⟩
  · rw [← hsame _ _ (length_staleFrame 0) (length_staleFrame 0xFF) sameContent_staleFrame,
      ← unterminatedFrame_eq, decode_unterminatedFrame]
  · exact hfill (List.replicate 12 0) [0x54, 0x43, 0x50] (List.replicate 65666 0)
      (by rw [List.length_replicate]; decide) (by decide) (by decide)

end PacketMeter.Frame
