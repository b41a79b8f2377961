import Mathlib.Algebra.BigOperators.Ring.Finset
import PacketMeter.Proofs.Frame.Reencoding

/-!
# Which bytes are a frame

The format of a frame is said of its single bytes, by the number that stands at a place.
Bytes are a frame when there are as many as a frame has, the captured length fits into the
area for captured bytes, and both ports are port numbers.  Bytes that are not a frame are
refused for the first of these that does not hold.

Reading never looks beyond the bytes.  `decode?` reads as `decode` does, but gets the bytes
of a field only when all of them are there, and it always has an answer.
-/

namespace PacketMeter.Frame

open Text

/-! ## Numbers -/

/-- The number in the `width` bytes from an offset on, the least significant byte first. -/
def numberAt (bs : List UInt8) (offset width : Nat) : Nat :=
  ∑ i ∈ Finset.range width, (bs.getD (offset + i) 0).toNat * 256 ^ i

/-- The number in four bytes whose highest bit stands for the sign. -/
def signedAt (bs : List UInt8) (offset : Nat) : Int :=
  if numberAt bs offset 4 < 2 ^ 31 then numberAt bs offset 4 else numberAt bs offset 4 - 2 ^ 32

example : numberAt [7, 0x10, 0x27, 0, 0] 1 4 = 10000 := by decide

example : signedAt [0xFE, 0xFF, 0xFF, 0xFF] 0 = -2 := by decide

/-- Four bytes hold the number of a port. -/
def IsPortAt (bs : List UInt8) (offset : Nat) : Prop :=
  0 ≤ signedAt bs offset ∧ signedAt bs offset ≤ 65535

section Numbers

variable (bs : List UInt8) (offset : Nat)

theorem toNat_take (width : Nat) :
    LittleEndian.toNat (bs.take width) = numberAt bs 0 width := by
  induction width generalizing bs with
  | zero => rfl
  | succ width ih =>
      rw [numberAt, Finset.sum_range_succ']
      cases bs with
      | nil => simp
      | cons b bs =>
          have hrest : ∑ i ∈ Finset.range width,
              ((b :: bs).getD (0 + (i + 1)) 0).toNat * 256 ^ (i + 1) =
              256 * numberAt bs 0 width := by
            rw [numberAt, Finset.mul_sum]
            refine Finset.sum_congr rfl fun i _ => ?_
            rw [Nat.zero_add, Nat.zero_add, List.getD_cons_succ, pow_succ, ← Nat.mul_assoc,
              Nat.mul_comm]
          rw [hrest, List.take_succ_cons, LittleEndian.toNat_cons, ih]
          simp [Nat.add_comm]

theorem toNat_slice (width : Nat) :
    LittleEndian.toNat (slice offset width bs) = numberAt bs offset width := by
  rw [slice, toNat_take, numberAt, numberAt]
  refine Finset.sum_congr rfl fun i _ => ?_
  rw [List.getD_eq_getElem?_getD, List.getD_eq_getElem?_getD, List.getElem?_drop, Nat.zero_add]

theorem numberAt_lt (width : Nat) : numberAt bs offset width < 256 ^ width := by
  induction width with
  | zero => exact Nat.one_pos
  | succ width ih =>
      have hb : (bs.getD (offset + width) 0).toNat ≤ 255 := Nat.le_of_lt_succ (UInt8.toNat_lt _)
      rw [numberAt, Finset.sum_range_succ, ← numberAt]
      calc numberAt bs offset width + (bs.getD (offset + width) 0).toNat * 256 ^ width
          < 256 ^ width + 255 * 256 ^ width :=
            Nat.add_lt_add_of_lt_of_le ih (Nat.mul_le_mul_right _ hb)
        _ = 256 ^ (width + 1) := by rw [pow_succ]; omega

theorem toNat_word : (word offset bs).toNat = numberAt bs offset 4 := by
  rw [word, toNat_slice, UInt32.toNat_ofNat']
  exact Nat.mod_eq_of_lt (numberAt_lt bs offset 4)

theorem toNat_longWord : (longWord offset bs).toNat = numberAt bs offset 8 := by
  rw [longWord, toNat_slice, UInt64.toNat_ofNat']
  exact Nat.mod_eq_of_lt (numberAt_lt bs offset 8)

theorem toInt_integer : (integer offset bs).toInt = signedAt bs offset := by
  have hw : (word offset bs).toBitVec.toNat = numberAt bs offset 4 := toNat_word bs offset
  change (word offset bs).toBitVec.toInt = _
  rw [BitVec.toInt_eq_toNat_cond, hw, signedAt]
  split <;> split <;> omega

/-- A number of a port is read as that port, and any other number is the error. -/
theorem port_cases :
    (IsPortAt bs offset ∧ ∃ p, port offset bs = .ok p ∧ (p.toNat : Int) = signedAt bs offset) ∨
      (¬ IsPortAt bs offset ∧ port offset bs = .error (.portRange (integer offset bs))) := by
  have hrange : (0 ≤ integer offset bs ∧ integer offset bs ≤ 65535) ↔ IsPortAt bs offset := by
    rw [Int32.le_iff_toInt_le, Int32.le_iff_toInt_le, toInt_integer]
    rfl
  rw [port]
  by_cases h : IsPortAt bs offset
  · refine .inl ⟨h, _, if_pos (hrange.2 h), ?_⟩
    have hlt : (signedAt bs offset).toNat < 65536 := by
      have := h.2
      omega
    rw [toInt_integer, Nat.toUInt16_eq, UInt16.toNat_ofNat', Nat.mod_eq_of_lt hlt]
    exact Int.toNat_of_nonneg h.1
  · exact .inr ⟨h, if_neg fun hr => h (hrange.1 hr)⟩

end Numbers

/-! ## Refusals -/

/-- Why bytes are refused: the first of the conditions that does not hold, with the number
for which it does not. -/
inductive Refused (bs : List UInt8) : DecodeError → Prop where
  | short (h : bs.length < 65700) : Refused bs (.incompleteFrame bs.length)
  | long (h : 65700 < bs.length) : Refused bs (.unexpectedSize bs.length)
  | captureLength (n : UInt32) (size : bs.length = 65700) (hn : n.toNat = numberAt bs 144 4)
      (h : 65536 < n.toNat) : Refused bs (.captureLength n)
  | srcPort (n : Int32) (size : bs.length = 65700) (capture : numberAt bs 144 4 ≤ 65536)
      (hn : n.toInt = signedAt bs 4) (h : ¬ IsPortAt bs 4) : Refused bs (.portRange n)
  | dstPort (n : Int32) (size : bs.length = 65700) (capture : numberAt bs 144 4 ≤ 65536)
      (source : IsPortAt bs 4) (hn : n.toInt = signedAt bs 8) (h : ¬ IsPortAt bs 8) :
      Refused bs (.portRange n)

/-- The conditions on a frame. -/
structure IsFrame (bs : List UInt8) : Prop where
  size : bs.length = 65700
  capture : numberAt bs 144 4 ≤ 65536
  source : IsPortAt bs 4
  destination : IsPortAt bs 8

/-- What a record tells of the bytes of its frame. -/
structure Tells (bs : List UInt8) (r : PacketRecord) : Prop where
  id_eq : r.id.toInt = signedAt bs 0
  srcPort_eq : (r.srcPort.toNat : Int) = signedAt bs 4
  dstPort_eq : (r.dstPort.toNat : Int) = signedAt bs 8
  captureLen_eq : r.captureLen.toNat = numberAt bs 144 4
  originalLen_eq : r.originalLen.toNat = numberAt bs 148 4
  sec_eq : r.timestamp.sec.toNat = numberAt bs 152 8
  usec_eq : r.timestamp.usec.toNat = numberAt bs 160 4
  raw_eq : r.raw = (bs.drop 164).take r.captureLen.toNat
  length_raw : r.raw.length = r.captureLen.toNat
  captureLen_le : r.captureLen.toNat ≤ 65536
  no_nul : ∀ s ∈ texts r, '\x00' ∉ s.toList
  no_blank : ∀ s ∈ texts r, ∀ c ∈ s.toList.getLast?, isBlank c = false

section Decode

variable {bs : List UInt8}

theorem IsFieldText.getLast?_not_blank {s : String} (h : IsFieldText s) :
    ∀ c ∈ s.toList.getLast?, isBlank c = false := by
  intro c hc
  obtain ⟨init, hs⟩ := List.getLast?_eq_some_iff.1 hc
  by_contra hb
  have ht := h.trimmed
  rw [hs, trimEnd_concat_of_blank init (Bool.eq_true_of_not_eq_false hb)] at ht
  have hl := (isPrefix_trimEnd init).length_le
  rw [ht, List.length_append, List.length_singleton] at hl
  omega

theorem tells_of_decode {r : PacketRecord} (h : decode bs = .ok r) : Tells bs r := by
  have hlen := length_raw_of_decode h
  have htexts := isFieldText_of_decode h
  obtain ⟨-, -, srcPort, dstPort, hs, hd, rfl⟩ := decode_eq_ok_iff.1 h
  have hport : ∀ {offset : Nat} {p : UInt16}, port offset bs = .ok p →
      (p.toNat : Int) = signedAt bs offset := by
    intro offset p hp
    obtain ⟨-, q, hq, hn⟩ | ⟨-, hq⟩ := port_cases bs offset
    · rw [hp] at hq
      rwa [Except.ok.inj hq]
    · rw [hp] at hq
      cases hq
  exact {
    id_eq := toInt_integer bs 0
    srcPort_eq := hport hs
    dstPort_eq := hport hd
    captureLen_eq := toNat_word bs 144
    originalLen_eq := toNat_word bs 148
    sec_eq := toNat_longWord bs 152
    usec_eq := toNat_word bs 160
    raw_eq := rfl
    length_raw := hlen.1
    captureLen_le := hlen.2
    no_nul := fun s hs hc => (htexts s hs).no_nul _ hc rfl
    no_blank := fun s hs => (htexts s hs).getLast?_not_blank }

theorem decode_of_captureLength (size : bs.length = length)
    (capture : 65536 < numberAt bs 144 4) :
    decode bs = .error (.captureLength (word 144 bs)) := by
  have hcount : rawLength < (word 144 bs).toNat := by rwa [toNat_word]
  rw [decode, if_neg (Nat.not_lt.2 size.ge), if_neg (Nat.not_lt.2 size.le), if_pos hcount]

/-- What is left to be read once the size and the captured length are right. -/
theorem decode_of_fits (size : bs.length = length) (capture : numberAt bs 144 4 ≤ 65536) :
    decode bs = match port 4 bs, port 8 bs with
      | .error e, _ => .error e
      | .ok _, .error e => .error e
      | .ok srcPort, .ok dstPort => .ok (recordOf bs srcPort dstPort) := by
  have hcount : ¬ rawLength < (word 144 bs).toNat := by
    rw [toNat_word]
    exact Nat.not_lt.2 capture
  rw [decode, if_neg (Nat.not_lt.2 size.ge), if_neg (Nat.not_lt.2 size.le), if_neg hcount]
  rfl

/-- Bytes have a record, and then they are a frame, or they are refused. -/
theorem decode_cases (bs : List UInt8) :
    (IsFrame bs ∧ ∃ r, decode bs = .ok r) ∨ ∃ e, decode bs = .error e ∧ Refused bs e := by
  rcases Nat.lt_trichotomy bs.length length with hshort | size | hlong
  · refine .inr ⟨_, ?_, .short hshort⟩
    rw [decode, if_pos hshort]
  · rcases Nat.lt_or_ge 65536 (numberAt bs 144 4) with hcapture | hcapture
    · have hn := toNat_word bs 144
      exact .inr ⟨_, decode_of_captureLength size hcapture,
        .captureLength _ size hn (hn ▸ hcapture)⟩
    · rw [decode_of_fits size hcapture]
      obtain ⟨hsource, p, hp, -⟩ | ⟨hsource, hp⟩ := port_cases bs 4
      · obtain ⟨hdest, q, hq, -⟩ | ⟨hdest, hq⟩ := port_cases bs 8
        · rw [hp, hq]
          exact .inl ⟨⟨size, hcapture, hsource, hdest⟩, _, rfl⟩
        · rw [hp, hq]
          exact .inr ⟨_, rfl, .dstPort _ size hcapture hsource (toInt_integer bs 8) hdest⟩
      · rw [hp]
        exact .inr ⟨_, rfl, .srcPort _ size hcapture (toInt_integer bs 4) hsource⟩
  · refine .inr ⟨_, ?_, .long hlong⟩
    rw [decode, if_neg (Nat.lt_asymm hlong), if_pos hlong]

theorem Refused.not_isFrame {e : DecodeError} (h : Refused bs e) : ¬ IsFrame bs := by
  intro hf
  cases h with
  | short h => exact Nat.ne_of_lt h hf.size
  | long h => exact Nat.ne_of_gt h hf.size
  | captureLength n size hn h => exact Nat.not_le.2 (hn ▸ h) hf.capture
  | srcPort n size capture hn h => exact h hf.source
  | dstPort n size capture source hn h => exact h hf.destination

/-- Bytes are refused for one reason only. -/
theorem Refused.eq {e e' : DecodeError} (h : Refused bs e) (h' : Refused bs e') : e = e' := by
  cases h with
  | short h =>
      cases h' with
      | short => rfl
      | _ => omega
  | long h =>
      cases h' with
      | long => rfl
      | _ => omega
  | captureLength n size hn h =>
      cases h' with
      | captureLength m _ hm => rw [UInt32.toNat_inj.1 (hn.trans hm.symm)]
      | _ => omega
  | srcPort n size capture hn h =>
      cases h' with
      | srcPort m _ _ hm => rw [Int32.toInt_inj.1 (hn.trans hm.symm)]
      | dstPort _ _ _ source => exact absurd source h
      | _ => omega
  | dstPort n size capture source hn h =>
      cases h' with
      | srcPort _ _ _ _ h' => exact absurd source h'
      | dstPort m _ _ _ hm => rw [Int32.toInt_inj.1 (hn.trans hm.symm)]
      | _ => omega

theorem exists_decode_iff (bs : List UInt8) : (∃ r, decode bs = .ok r) ↔ IsFrame bs := by
  obtain ⟨hf, hr⟩ | ⟨e, he, href⟩ := decode_cases bs
  · exact ⟨fun _ => hf, fun _ => hr⟩
  · refine ⟨?_, fun hf => absurd hf href.not_isFrame⟩
    rintro ⟨r, hr⟩
    rw [he] at hr
    cases hr

theorem decode_eq_error_iff (bs : List UInt8) (e : DecodeError) :
    decode bs = .error e ↔ Refused bs e := by
  obtain ⟨hf, r, hr⟩ | ⟨e', he, href⟩ := decode_cases bs
  · refine ⟨fun h => ?_, fun h => absurd hf h.not_isFrame⟩
    rw [hr] at h
    cases h
  · rw [he, Except.error.injEq]
    refine ⟨fun h => h ▸ href, fun h => href.eq h⟩

end Decode

/-! ## Staying within the bytes -/

/-- The `width` bytes from an offset on, if there are so many. -/
def slice? (offset width : Nat) (bs : List UInt8) : Option (List UInt8) :=
  if offset + width ≤ bs.length then some (slice offset width bs) else none

/-- Reading a frame where bytes that are not there are no answer. -/
def decode? (bs : List UInt8) : Option (Except DecodeError PacketRecord) :=
  if bs.length < length then some (.error (.incompleteFrame bs.length))
  else if length < bs.length then some (.error (.unexpectedSize bs.length))
  else do
    let captureLen ← (slice? 144 4 bs).map (word 0)
    if rawLength < captureLen.toNat then return .error (.captureLength captureLen)
    let raw ← slice? 164 captureLen.toNat bs
    let id ← (slice? 0 4 bs).map (integer 0)
    match ← (slice? 4 4 bs).map (port 0) with
    | .error e => return .error e
    | .ok srcPort =>
      match ← (slice? 8 4 bs).map (port 0) with
      | .error e => return .error e
      | .ok dstPort =>
        let protocol ← (slice? 12 textLength bs).map fieldText
        let srcIp ← (slice? 34 textLength bs).map fieldText
        let dstIp ← (slice? 56 textLength bs).map fieldText
        let srcMac ← (slice? 78 textLength bs).map fieldText
        let dstMac ← (slice? 100 textLength bs).map fieldText
        let host ← (slice? 122 textLength bs).map fieldText
        let originalLen ← (slice? 148 4 bs).map (word 0)
        let sec ← (slice? 152 8 bs).map (longWord 0)
        let usec ← (slice? 160 4 bs).map (word 0)
        let r : PacketRecord := {
          id := id
          srcPort := srcPort
          dstPort := dstPort
          protocol := protocol
          srcIp := srcIp
          dstIp := dstIp
          srcMac := srcMac
          dstMac := dstMac
          host := host
          captureLen := captureLen
          originalLen := originalLen
          timestamp := ⟨sec, usec⟩
          raw := raw }
        return .ok r

theorem slice?_of_le {offset width : Nat} {bs : List UInt8} (h : offset + width ≤ bs.length) :
    slice? offset width bs = some (slice offset width bs) := if_pos h

/-- Reading goes on when a slice is there. -/
theorem map_slice?_bind {offset width : Nat} {bs : List UInt8} {α β : Type}
    (f : List UInt8 → α) (next : α → Option β) (h : offset + width ≤ bs.length) :
    (slice? offset width bs).map f >>= next = next (f (slice offset width bs)) := by
  rw [slice?_of_le h]
  rfl

/-- All of a slice. -/
theorem slice_slice (offset width : Nat) (bs : List UInt8) :
    slice 0 width (slice offset width bs) = slice offset width bs :=
  take_slice offset bs Nat.le.refl

theorem word_slice (offset : Nat) (bs : List UInt8) :
    word 0 (slice offset 4 bs) = word offset bs := by
  rw [word, slice_slice, word]

theorem longWord_slice (offset : Nat) (bs : List UInt8) :
    longWord 0 (slice offset 8 bs) = longWord offset bs := by
  rw [longWord, slice_slice, longWord]

theorem integer_slice (offset : Nat) (bs : List UInt8) :
    integer 0 (slice offset 4 bs) = integer offset bs := by
  rw [integer, word_slice, integer]

theorem port_slice (offset : Nat) (bs : List UInt8) :
    port 0 (slice offset 4 bs) = port offset bs := by
  rw [port, integer_slice, port]

/-- Every slice that is read is within the bytes. -/
theorem decode?_eq (bs : List UInt8) : decode? bs = some (decode bs) := by
  rw [decode?]
  rcases Nat.lt_trichotomy bs.length length with hshort | size | hlong
  · rw [if_pos hshort, decode, if_pos hshort]
  · rw [if_neg (Nat.not_lt.2 size.ge), if_neg (Nat.not_lt.2 size.le)]
    have hread : ∀ {offset width : Nat} {α β : Type} (f : List UInt8 → α) (next : α → Option β),
        offset + width ≤ 65700 →
        (slice? offset width bs).map f >>= next = next (f (slice offset width bs)) :=
      fun f next h => map_slice?_bind f next (h.trans size.ge)
    rw [hread _ _ (by decide), word_slice]
    rcases Nat.lt_or_ge 65536 (numberAt bs 144 4) with hcapture | hcapture
    · rw [if_pos (by rwa [toNat_word]), decode_of_captureLength size hcapture]
      rfl
    · have hroom : 164 + (word 144 bs).toNat ≤ 65700 := by
        rw [toNat_word]
        omega
      rw [if_neg (by rw [toNat_word]; exact Nat.not_lt.2 hcapture), decode_of_fits size hcapture,
        slice?_of_le (hroom.trans size.ge)]
      simp (disch := decide) only [↓hread, Option.bind_eq_bind, Option.bind_some, port_slice]
      cases port 4 bs with
      | error e => rfl
      | ok srcPort =>
          cases port 8 bs with
          | error e => rfl
          | ok dstPort =>
              simp only [integer_slice, word_slice, longWord_slice]
              rfl
  · rw [if_neg (Nat.lt_asymm hlong), if_pos hlong, decode, if_neg (Nat.lt_asymm hlong),
      if_pos hlong]

/-! ## Reading a frame -/

/-- Bytes have a record exactly when they are a frame, and are refused for one reason when
they are not.  Whatever they are, only bytes that are there are read, and a record tells
what stands in them. -/
theorem decode_accepts (bs : List UInt8) :
    ((∃ r, decode bs = .ok r) ↔ IsFrame bs) ∧
      (∀ e, decode bs = .error e ↔ Refused bs e) ∧
      decode? bs = some (decode bs) ∧
      ∀ r, decode bs = .ok r → Tells bs r :=
  ⟨exists_decode_iff bs, decode_eq_error_iff bs, decode?_eq bs, fun _ => tells_of_decode⟩

theorem decode_accepts_unterminated :
    IsFrame unterminatedFrame ∧ Tells unterminatedFrame unterminatedRecord := by
  obtain ⟨hframe, -, -, htells⟩ := decode_accepts unterminatedFrame
  exact ⟨hframe.1 ⟨_, decode_unterminatedFrame⟩, htells _ decode_unterminatedFrame⟩

end PacketMeter.Frame
