import PacketMeter.Proofs.Frame.TextField

/-!
# Reading back a frame

The frame of a record is its fields one after another.  A slice at the place of a field
is the field, so the record that is read from the frame has every number of the record
that was written, its texts as they are stored, and those of its captured bytes that
were kept.
-/

namespace PacketMeter.Frame

/-! ## Slices -/

theorem slice_append_of_le {offset width : Nat} {a : List UInt8} (b : List UInt8)
    (h : offset + width ≤ a.length) : slice offset width (a ++ b) = slice offset width a := by
  rw [slice, slice, List.drop_append_of_le_length (by omega),
    List.take_append_of_le_length (by rw [List.length_drop]; omega)]

theorem slice_append_of_ge {offset : Nat} (width : Nat) {a : List UInt8} (b : List UInt8)
    (h : a.length ≤ offset) :
    slice offset width (a ++ b) = slice (offset - a.length) width b := by
  rw [slice, slice, List.drop_append, List.drop_of_length_le h, List.nil_append]

theorem slice_replicate {offset width n : Nat} (b : UInt8) (h : offset + width ≤ n) :
    slice offset width (List.replicate n b) = List.replicate width b := by
  rw [slice, List.drop_replicate, List.take_replicate, Nat.min_eq_left (by omega)]

theorem take_slice {n width : Nat} (offset : Nat) (bs : List UInt8) (h : n ≤ width) :
    (slice offset width bs).take n = slice offset n bs := by
  rw [slice, slice, List.take_take, Nat.min_eq_left h]

/-- The slice at the place of a field is the field. -/
theorem slice_flatten {before after : List (List UInt8)} {field : List UInt8}
    {offset width : Nat} (ho : before.flatten.length = offset) (hw : field.length = width) :
    slice offset width (before ++ field :: after).flatten = field := by
  rw [List.flatten_append, List.flatten_cons, slice_append_of_ge _ _ (Nat.le_of_eq ho), ho,
    Nat.sub_self, slice_append_of_le _ (by omega), slice, List.drop_zero,
    List.take_of_length_le (Nat.le_of_eq hw)]

theorem word_of_slice {offset n : Nat} {bs : List UInt8}
    (h : slice offset 4 bs = LittleEndian.ofNat 4 n) : word offset bs = UInt32.ofNat n := by
  rw [word, h, LittleEndian.toNat_ofNat]
  apply UInt32.toNat_inj.1
  simp

theorem longWord_of_slice {offset n : Nat} {bs : List UInt8}
    (h : slice offset 8 bs = LittleEndian.ofNat 8 n) : longWord offset bs = UInt64.ofNat n := by
  rw [longWord, h, LittleEndian.toNat_ofNat]
  apply UInt64.toNat_inj.1
  simp

theorem text_of_slice {offset : Nat} {bs : List UInt8} {s : String}
    (h : slice offset textLength bs = textField s) : text offset bs = stored s := by
  rw [text, h, stored]

/-- Every port number can be read. -/
theorem port_of_slice {offset : Nat} {bs : List UInt8} {p : UInt16}
    (h : slice offset 4 bs = LittleEndian.ofNat 4 p.toNat) : port offset bs = .ok p := by
  have hp : p.toNat < 65536 := p.toNat_lt
  have hi : (integer offset bs).toInt = p.toNat := by
    rw [integer, word_of_slice h, UInt32.toInt32_ofNat', Int32.toInt_ofNat_of_lt (by omega)]
  have hr : 0 ≤ integer offset bs ∧ integer offset bs ≤ 65535 := by
    rw [Int32.le_iff_toInt_le, Int32.le_iff_toInt_le, hi]
    constructor
    · exact Int.natCast_nonneg _
    · change (p.toNat : Int) ≤ 65535
      omega
  rw [port]
  simp only [if_pos hr, hi, Int.toNat_natCast]
  rw [Nat.toUInt16_eq, UInt16.ofNat_toNat]

/-! ## Fields -/

/-- The fields of a frame in their order. -/
def fields (r : PacketRecord) : List (List UInt8) :=
  [LittleEndian.ofNat 4 r.id.toUInt32.toNat, LittleEndian.ofNat 4 r.srcPort.toNat,
    LittleEndian.ofNat 4 r.dstPort.toNat, textField r.protocol, textField r.srcIp,
    textField r.dstIp, textField r.srcMac, textField r.dstMac, textField r.host,
    LittleEndian.ofNat 4 (keptRaw r).length, LittleEndian.ofNat 4 r.originalLen.toNat,
    LittleEndian.ofNat 8 r.timestamp.sec.toNat, LittleEndian.ofNat 4 r.timestamp.usec.toNat,
    keptRaw r ++ List.replicate (rawLength - (keptRaw r).length) 0]

theorem flatten_fields (r : PacketRecord) : (fields r).flatten = encode r := by
  simp only [fields, encode, List.flatten_cons, List.flatten_nil, List.append_nil,
    List.append_assoc]

theorem slice_encode {r : PacketRecord} (before : List (List UInt8))
    {after : List (List UInt8)} {field : List UInt8} {offset width : Nat}
    (h : fields r = before ++ field :: after)
    (ho : before.flatten.length = offset) (hw : field.length = width) :
    slice offset width (encode r) = field := by
  rw [← flatten_fields, h, slice_flatten ho hw]

/-- The record of bytes that hold these port numbers. -/
def recordOf (bs : List UInt8) (srcPort dstPort : UInt16) : PacketRecord where
  id := integer 0 bs
  srcPort := srcPort
  dstPort := dstPort
  protocol := text 12 bs
  srcIp := text 34 bs
  dstIp := text 56 bs
  srcMac := text 78 bs
  dstMac := text 100 bs
  host := text 122 bs
  captureLen := word 144 bs
  originalLen := word 148 bs
  timestamp := ⟨longWord 152 bs, word 160 bs⟩
  raw := slice 164 (word 144 bs).toNat bs

/-- Bytes are a frame when their number, the captured length and both ports are right. -/
theorem decode_eq_ok_iff {bs : List UInt8} {r : PacketRecord} :
    decode bs = .ok r ↔ bs.length = length ∧ (word 144 bs).toNat ≤ rawLength ∧
      ∃ srcPort dstPort, port 4 bs = .ok srcPort ∧ port 8 bs = .ok dstPort ∧
        r = recordOf bs srcPort dstPort := by
  constructor
  · intro h
    rw [decode] at h
    split_ifs at h with h₁ h₂ h₃
    split at h
    · cases h
    · cases h
    · rename_i srcPort dstPort hs hd
      refine ⟨by omega, by omega, srcPort, dstPort, hs, hd, ?_⟩
      exact (Except.ok.inj h).symm
  · rintro ⟨hl, hw, srcPort, dstPort, hs, hd, rfl⟩
    rw [decode, if_neg (by omega), if_neg (by omega), if_neg (by omega), hs, hd]
    rfl

/-! ## Writing and reading -/

/-- What is read back of a record. -/
def reread (r : PacketRecord) : PacketRecord :=
  { r with
    protocol := stored r.protocol
    srcIp := stored r.srcIp
    dstIp := stored r.dstIp
    srcMac := stored r.srcMac
    dstMac := stored r.dstMac
    host := stored r.host
    captureLen := UInt32.ofNat (keptRaw r).length
    raw := keptRaw r }

section Encode

variable (r : PacketRecord)

theorem word_captureLen_encode :
    word 144 (encode r) = UInt32.ofNat (keptRaw r).length := by
  apply word_of_slice
  exact slice_encode [_, _, _, _, _, _, _, _, _] rfl (by simp [textLength]) (by simp)

theorem length_keptRaw_le : (keptRaw r).length ≤ 65536 := List.length_take_le _ _

theorem toNat_captureLen_encode : (word 144 (encode r)).toNat = (keptRaw r).length := by
  have hlen := length_keptRaw_le r
  rw [word_captureLen_encode, UInt32.toNat_ofNat']
  omega

theorem ports_encode :
    port 4 (encode r) = .ok r.srcPort ∧ port 8 (encode r) = .ok r.dstPort := by
  constructor
  · apply port_of_slice
    exact slice_encode [_] rfl (by simp) (by simp)
  · apply port_of_slice
    exact slice_encode [_, _] rfl (by simp) (by simp)

theorem numbers_encode :
    integer 0 (encode r) = r.id ∧ word 148 (encode r) = r.originalLen ∧
      longWord 152 (encode r) = r.timestamp.sec ∧ word 160 (encode r) = r.timestamp.usec := by
  refine ⟨?_, ?_, ?_, ?_⟩
  · have hw : word 0 (encode r) = UInt32.ofNat r.id.toUInt32.toNat := by
      apply word_of_slice
      exact slice_encode [] rfl (by simp) (by simp)
    rw [integer, hw, UInt32.ofNat_toNat, Int32.toInt32_toUInt32]
  · have hw : word 148 (encode r) = UInt32.ofNat r.originalLen.toNat := by
      apply word_of_slice
      exact slice_encode [_, _, _, _, _, _, _, _, _, _] rfl (by simp [textLength])
        (by simp)
    rw [hw, UInt32.ofNat_toNat]
  · have hw : longWord 152 (encode r) = UInt64.ofNat r.timestamp.sec.toNat := by
      apply longWord_of_slice
      exact slice_encode [_, _, _, _, _, _, _, _, _, _, _] rfl
        (by simp [textLength]) (by simp)
    rw [hw, UInt64.ofNat_toNat]
  · have hw : word 160 (encode r) = UInt32.ofNat r.timestamp.usec.toNat := by
      apply word_of_slice
      exact slice_encode [_, _, _, _, _, _, _, _, _, _, _, _] rfl
        (by simp [textLength]) (by simp)
    rw [hw, UInt32.ofNat_toNat]

theorem texts_encode :
    text 12 (encode r) = stored r.protocol ∧ text 34 (encode r) = stored r.srcIp ∧
      text 56 (encode r) = stored r.dstIp ∧ text 78 (encode r) = stored r.srcMac ∧
      text 100 (encode r) = stored r.dstMac ∧ text 122 (encode r) = stored r.host := by
  refine ⟨?_, ?_, ?_, ?_, ?_, ?_⟩
  · apply text_of_slice
    exact slice_encode [_, _, _] rfl (by simp) (by simp)
  · apply text_of_slice
    exact slice_encode [_, _, _, _] rfl (by simp [textLength]) (by simp)
  · apply text_of_slice
    exact slice_encode [_, _, _, _, _] rfl (by simp [textLength]) (by simp)
  · apply text_of_slice
    exact slice_encode [_, _, _, _, _, _] rfl (by simp [textLength]) (by simp)
  · apply text_of_slice
    exact slice_encode [_, _, _, _, _, _, _] rfl (by simp [textLength]) (by simp)
  · apply text_of_slice
    exact slice_encode [_, _, _, _, _, _, _, _] rfl (by simp [textLength]) (by simp)

theorem raw_encode : slice 164 (keptRaw r).length (encode r) = keptRaw r := by
  have hlen := length_keptRaw_le r
  have hw : slice 164 65536 (encode r) =
      keptRaw r ++ List.replicate (rawLength - (keptRaw r).length) 0 := by
    refine slice_encode [_, _, _, _, _, _, _, _, _, _, _, _, _] rfl
      (by simp [textLength]) ?_
    rw [List.length_append, List.length_replicate, rawLength]
    omega
  rw [← take_slice 164 _ hlen, hw, List.take_left' rfl]

/-- Every frame that was written can be read. -/
theorem decode_encode : decode (encode r) = .ok (reread r) := by
  obtain ⟨hsrcPort, hdstPort⟩ := ports_encode r
  obtain ⟨hid, horiginal, hsec, husec⟩ := numbers_encode r
  obtain ⟨hprotocol, hsrcIp, hdstIp, hsrcMac, hdstMac, hhost⟩ := texts_encode r
  have hcount := toNat_captureLen_encode r
  refine decode_eq_ok_iff.2
    ⟨length_encode r, ?_, r.srcPort, r.dstPort, hsrcPort, hdstPort, ?_⟩
  · rw [hcount]
    exact length_keptRaw_le r
  · rw [recordOf, hid, hprotocol, hsrcIp, hdstIp, hsrcMac, hdstMac, hhost, horiginal, hsec,
      husec, hcount, raw_encode, word_captureLen_encode]
    rfl

end Encode

end PacketMeter.Frame
