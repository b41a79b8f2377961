import Mathlib.Data.List.Basic
import Mathlib.Data.List.TakeWhile
import PacketMeter.Text.Utf8

/-!
# Decoding what was encoded

Every character decodes from its own bytes, whatever stands behind them, so a text
decodes from its bytes.  A character whose bytes break off decodes to one replacement
character.

A character of several bytes is a lead byte and the bytes that complete what the lead
byte promises.  This is all that decoding asks for, and the table of promises is read
only where it is shown that every character completes a promise.
-/

namespace PacketMeter.Text.Utf8

/-! ## The table of promises -/

/-- The table of promises in numbers: two bytes for `80..7FF`, three for `800..FFFF`
without the surrogates, and four for `10000..10FFFF`. -/
theorem promise_cases {lead : UInt8} {p : Promise} (h : promise lead = some p) :
    (p.count = 1 ∧ 0xC2 ≤ lead.toNat ∧ lead.toNat ≤ 0xDF ∧ p.least.toNat = 0x80 ∧
      p.greatest.toNat = 0xBF) ∨
    (p.count = 2 ∧ 0xE0 ≤ lead.toNat ∧ lead.toNat ≤ 0xEF ∧
      (lead.toNat = 0xE0 ∧ p.least.toNat = 0xA0 ∨ lead.toNat ≠ 0xE0 ∧ p.least.toNat = 0x80) ∧
      (lead.toNat = 0xED ∧ p.greatest.toNat = 0x9F ∨
        lead.toNat ≠ 0xED ∧ p.greatest.toNat = 0xBF)) ∨
    (p.count = 3 ∧ 0xF0 ≤ lead.toNat ∧ lead.toNat ≤ 0xF4 ∧
      (lead.toNat = 0xF0 ∧ p.least.toNat = 0x90 ∨ lead.toNat ≠ 0xF0 ∧ p.least.toNat = 0x80) ∧
      (lead.toNat = 0xF4 ∧ p.greatest.toNat = 0x8F ∨
        lead.toNat ≠ 0xF4 ∧ p.greatest.toNat = 0xBF)) := by
  simp only [promise, UInt8.lt_iff_toNat_lt, UInt8.le_iff_toNat_le, ← UInt8.toNat_inj,
    UInt8.reduceToNat] at h
  repeat' split at h
  all_goals cases h
  all_goals simp only [UInt8.reduceToNat, true_and, and_true]
  all_goals omega

theorem exists_promise (lead : UInt8) (hl : 0xC2 ≤ lead.toNat) (hg : lead.toNat ≤ 0xF4) :
    ∃ p, promise lead = some p := by
  simp only [promise, UInt8.lt_iff_toNat_lt, UInt8.le_iff_toNat_le, ← UInt8.toNat_inj,
    UInt8.reduceToNat]
  rw [if_neg (Nat.not_lt.2 hl)]
  repeat' split
  all_goals first
    | exact ⟨_, rfl⟩
    | omega

/-! ## Bytes that complete a promise -/

/-- Bytes that complete what a lead byte promises. -/
structure Completes (lead : UInt8) (p : Promise) (b : UInt8) (more : List UInt8) : Prop where
  promised : promise lead = some p
  length_eq : more.length + 1 = p.count
  least_le : p.least ≤ b
  le_greatest : b ≤ p.greatest
  continues : ∀ x ∈ more, isContinuation x = true

section Completes

variable {lead b : UInt8} {p : Promise} {more : List UInt8}

theorem not_ascii_of_promise (h : promise lead = some p) : ¬ lead < 0x80 := by
  have hl : 0xC2 ≤ lead.toNat := by
    rcases promise_cases h with ⟨-, hl, -⟩ | ⟨-, hl, -⟩ | ⟨-, hl, -⟩ <;> omega
  rw [UInt8.lt_iff_toNat_lt]
  exact Nat.not_lt.2 (Nat.le_trans (by decide) hl)

theorem promise_count_pos (h : promise lead = some p) : 0 < p.count := by
  rcases promise_cases h with ⟨hc, -⟩ | ⟨hc, -⟩ | ⟨hc, -⟩ <;> omega

theorem scan_of_ascii (rest : List UInt8) (h : lead < 0x80) :
    scan lead rest = (Char.ofNat lead.toNat, 0) := by
  simp [scan, h]

theorem scan_of_none (rest : List UInt8) (hl : ¬ lead < 0x80) (h : promise lead = none) :
    scan lead rest = (replacement, 0) := by
  simp [scan, hl, h]

theorem scan_nil (hl : ¬ lead < 0x80) : scan lead [] = (replacement, 0) := by
  simp [scan, hl]

theorem scan_of_promise (h : promise lead = some p) (b : UInt8) (rest : List UInt8) :
    scan lead (b :: rest) =
      if p.least ≤ b && b ≤ p.greatest then
        let run := (rest.take (p.count - 1)).takeWhile isContinuation
        if run.length = p.count - 1 then (assemble lead p.count (b :: run), p.count)
        else (replacement, 1 + run.length)
      else (replacement, 0) := by
  simp only [scan, if_neg (not_ascii_of_promise h), h]

/-- What completes a promise is read as one character. -/
theorem Completes.scan_append (h : Completes lead p b more) (rest : List UInt8) :
    scan lead (b :: more ++ rest) = (assemble lead p.count (b :: more), p.count) := by
  have hl := h.length_eq
  have hrun : ((more ++ rest).take (p.count - 1)).takeWhile isContinuation = more := by
    rw [List.take_left' (by omega)]
    exact List.takeWhile_eq_self_iff.2 h.continues
  rw [List.cons_append, scan_of_promise h.promised, if_pos (by simp [h.least_le, h.le_greatest])]
  simp only [hrun]
  rw [if_pos (by omega)]

/-- What breaks off before a promise is completed is replaced. -/
theorem Completes.scan_take (h : Completes lead p b more) {k : Nat} (hk : k < p.count) :
    scan lead ((b :: more).take k) = (replacement, k) := by
  have hl := h.length_eq
  cases k with
  | zero => rw [List.take_zero, scan_nil (not_ascii_of_promise h.promised)]
  | succ k =>
      have hrun : ((more.take k).take (p.count - 1)).takeWhile isContinuation = more.take k := by
        rw [List.take_take, Nat.min_eq_right (by omega)]
        exact List.takeWhile_eq_self_iff.2 fun x hx => h.continues x (List.mem_of_mem_take hx)
      rw [List.take_succ_cons, scan_of_promise h.promised,
        if_pos (by simp [h.least_le, h.le_greatest])]
      simp only [hrun, List.length_take]
      rw [if_neg (by omega), Nat.min_eq_left (by omega), Nat.add_comm]

/-- The first character of an input is an ASCII byte, or completes a promise, or is a
replacement. -/
theorem scan_cases (lead : UInt8) (rest : List UInt8) :
    (lead < 0x80 ∧ (scan lead rest).1 = Char.ofNat lead.toNat) ∨
      (∃ p b more, Completes lead p b more ∧
        (scan lead rest).1 = assemble lead p.count (b :: more)) ∨
      (scan lead rest).1 = replacement := by
  by_cases hl : lead < 0x80
  · exact .inl ⟨hl, by rw [scan_of_ascii rest hl]⟩
  · cases hp : promise lead with
    | none => exact .inr (.inr (by rw [scan_of_none rest hl hp]))
    | some p =>
        cases rest with
        | nil => exact .inr (.inr (by rw [scan_nil hl]))
        | cons b rest =>
            rw [scan_of_promise hp]
            split
            · rename_i hb
              rw [Bool.and_eq_true, decide_eq_true_eq, decide_eq_true_eq] at hb
              simp only
              split
              · rename_i hr
                have hc := promise_count_pos hp
                refine .inr (.inl ⟨p, b, _, ⟨hp, ?_, hb.1, hb.2, ?_⟩, rfl⟩)
                · rw [hr, Nat.sub_add_cancel hc]
                · exact fun x hx => List.mem_takeWhile_imp hx
              · exact .inr (.inr rfl)
            · exact .inr (.inr rfl)

end Completes

theorem isContinuation_iff {b : UInt8} :
    isContinuation b = true ↔ 0x80 ≤ b.toNat ∧ b.toNat ≤ 0xBF := by
  rw [isContinuation, Bool.and_eq_true, decide_eq_true_eq, decide_eq_true_eq,
    UInt8.le_iff_toNat_le, UInt8.le_iff_toNat_le]
  rfl

theorem assemble_one (lead b : UInt8) :
    assemble lead 1 [b] = Char.ofNat (lead.toNat % 32 * 64 + b.toNat % 64) := rfl

theorem assemble_two (lead b x : UInt8) :
    assemble lead 2 [b, x] =
      Char.ofNat ((lead.toNat % 16 * 64 + b.toNat % 64) * 64 + x.toNat % 64) := rfl

theorem assemble_three (lead b x y : UInt8) :
    assemble lead 3 [b, x, y] =
      Char.ofNat (((lead.toNat % 8 * 64 + b.toNat % 64) * 64 + x.toNat % 64) * 64 +
        y.toNat % 64) := rfl

/-- What completes a promise is a character beyond ASCII. -/
theorem Completes.exists_value {lead b : UInt8} {p : Promise} {more : List UInt8}
    (h : Completes lead p b more) :
    ∃ n, assemble lead p.count (b :: more) = Char.ofNat n ∧ 0x80 ≤ n ∧ n.isValidChar := by
  have hlen := h.length_eq
  have hleast := UInt8.le_iff_toNat_le.1 h.least_le
  have hgreatest := UInt8.le_iff_toNat_le.1 h.le_greatest
  rcases promise_cases h.promised with ⟨hc, hl, hg, hlo, hhi⟩ | ⟨hc, hl, hg, hlo, hhi⟩ |
    ⟨hc, hl, hg, hlo, hhi⟩
  · obtain rfl : more = [] := List.length_eq_zero_iff.1 (by omega)
    rw [hc, assemble_one]
    refine ⟨_, rfl, ?_⟩
    rw [Nat.isValidChar]
    omega
  · obtain ⟨x, rfl⟩ := List.length_eq_one_iff.1 (show more.length = 1 by omega)
    rw [hc, assemble_two]
    refine ⟨_, rfl, ?_⟩
    rw [Nat.isValidChar]
    omega
  · obtain ⟨x, y, rfl⟩ := List.length_eq_two.1 (show more.length = 2 by omega)
    rw [hc, assemble_three]
    refine ⟨_, rfl, ?_⟩
    rw [Nat.isValidChar]
    omega

/-! ## Characters -/

theorem toNat_ofNat {n : Nat} (h : n.isValidChar) : (Char.ofNat n).toNat = n := by
  rw [Char.ofNat, dif_pos h]
  rfl

theorem toNat_lt_of_valid (c : Char) :
    c.toNat < 0xD800 ∨ 0xDFFF < c.toNat ∧ c.toNat < 0x110000 := c.valid

theorem utf8EncodeChar_of_ascii {c : Char} (hc : c.toNat < 0x80) :
    String.utf8EncodeChar c = [UInt8.ofNat c.toNat] := by
  have hv : c.val.toNat ≤ 0x7f := Nat.le_of_lt_succ hc
  simp only [String.utf8EncodeChar, hv, if_true]
  rfl

theorem toNat_byte {n : Nat} (h : n < 256) : (UInt8.ofNat n).toNat = n :=
  UInt8.toNat_ofNat_of_lt' h

theorem completes_one {n m : Nat} (hn : 0xC2 ≤ n) (hn' : n ≤ 0xDF) (hm : 0x80 ≤ m)
    (hm' : m ≤ 0xBF) :
    ∃ p, Completes (UInt8.ofNat n) p (UInt8.ofNat m) [] ∧
      assemble (UInt8.ofNat n) p.count [UInt8.ofNat m] = Char.ofNat (n % 32 * 64 + m % 64) := by
  have hlead : (UInt8.ofNat n).toNat = n := toNat_byte (by omega)
  have hb : (UInt8.ofNat m).toNat = m := toNat_byte (by omega)
  obtain ⟨p, hp⟩ := exists_promise (UInt8.ofNat n) (by omega) (by omega)
  obtain ⟨hc, -, -, hlo, hhi⟩ | ⟨-, hl, -⟩ | ⟨-, hl, -⟩ := promise_cases hp
  · refine ⟨p, ⟨hp, hc.symm, ?_, ?_, by simp⟩, ?_⟩
    · rw [UInt8.le_iff_toNat_le, hlo, hb]
      exact hm
    · rw [UInt8.le_iff_toNat_le, hhi, hb]
      exact hm'
    · rw [hc, assemble_one, hlead, hb]
  · omega
  · omega

theorem completes_two {n m k : Nat} (hn : 0xE0 ≤ n) (hn' : n ≤ 0xEF) (hm : 0x80 ≤ m)
    (hm' : m ≤ 0xBF) (hlow : n = 0xE0 → 0xA0 ≤ m) (hhigh : n = 0xED → m ≤ 0x9F)
    (hk : 0x80 ≤ k) (hk' : k ≤ 0xBF) :
    ∃ p, Completes (UInt8.ofNat n) p (UInt8.ofNat m) [UInt8.ofNat k] ∧
      assemble (UInt8.ofNat n) p.count [UInt8.ofNat m, UInt8.ofNat k] =
        Char.ofNat ((n % 16 * 64 + m % 64) * 64 + k % 64) := by
  have hlead : (UInt8.ofNat n).toNat = n := toNat_byte (by omega)
  have hb : (UInt8.ofNat m).toNat = m := toNat_byte (by omega)
  have hx : (UInt8.ofNat k).toNat = k := toNat_byte (by omega)
  obtain ⟨p, hp⟩ := exists_promise (UInt8.ofNat n) (by omega) (by omega)
  obtain ⟨-, -, hg, -⟩ | ⟨hc, -, -, hlo, hhi⟩ | ⟨-, hl, -⟩ := promise_cases hp
  · omega
  · refine ⟨p, ⟨hp, hc.symm, ?_, ?_, ?_⟩, ?_⟩
    · rw [UInt8.le_iff_toNat_le, hb]
      omega
    · rw [UInt8.le_iff_toNat_le, hb]
      omega
    · rw [List.forall_mem_singleton, isContinuation_iff, hx]
      exact ⟨hk, hk'⟩
    · rw [hc, assemble_two, hlead, hb, hx]
  · omega

theorem completes_three {n m k j : Nat} (hn : 0xF0 ≤ n) (hn' : n ≤ 0xF4) (hm : 0x80 ≤ m)
    (hm' : m ≤ 0xBF) (hlow : n = 0xF0 → 0x90 ≤ m) (hhigh : n = 0xF4 → m ≤ 0x8F)
    (hk : 0x80 ≤ k) (hk' : k ≤ 0xBF) (hj : 0x80 ≤ j) (hj' : j ≤ 0xBF) :
    ∃ p, Completes (UInt8.ofNat n) p (UInt8.ofNat m) [UInt8.ofNat k, UInt8.ofNat j] ∧
      assemble (UInt8.ofNat n) p.count [UInt8.ofNat m, UInt8.ofNat k, UInt8.ofNat j] =
        Char.ofNat (((n % 8 * 64 + m % 64) * 64 + k % 64) * 64 + j % 64) := by
  have hlead : (UInt8.ofNat n).toNat = n := toNat_byte (by omega)
  have hb : (UInt8.ofNat m).toNat = m := toNat_byte (by omega)
  have hx : (UInt8.ofNat k).toNat = k := toNat_byte (by omega)
  have hy : (UInt8.ofNat j).toNat = j := toNat_byte (by omega)
  obtain ⟨p, hp⟩ := exists_promise (UInt8.ofNat n) (by omega) (by omega)
  obtain ⟨-, -, hg, -⟩ | ⟨-, -, hg, -⟩ | ⟨hc, -, -, hlo, hhi⟩ := promise_cases hp
  · omega
  · omega
  · refine ⟨p, ⟨hp, hc.symm, ?_, ?_, ?_⟩, ?_⟩
    · rw [UInt8.le_iff_toNat_le, hb]
      omega
    · rw [UInt8.le_iff_toNat_le, hb]
      omega
    · rw [List.forall_mem_cons, List.forall_mem_singleton, isContinuation_iff,
        isContinuation_iff, hx, hy]
      exact ⟨⟨hk, hk'⟩, hj, hj'⟩
    · rw [hc, assemble_three, hlead, hb, hx, hy]

/-- Every other character is written as a lead byte with what completes its promise. -/
theorem exists_completes {c : Char} (hc : 0x80 ≤ c.toNat) :
    ∃ lead p b more, String.utf8EncodeChar c = lead :: b :: more ∧ Completes lead p b more ∧
      assemble lead p.count (b :: more) = c := by
  have hvalid := toNat_lt_of_valid c
  have hv : c.val.toNat = c.toNat := rfl
  simp only [String.utf8EncodeChar, hv]
  rw [if_neg (by omega)]
  split
  · obtain ⟨p, hp, ha⟩ := completes_one (n := c.toNat / 64 % 0x20 + 0xC0)
      (m := c.toNat % 0x40 + 0x80) (by omega) (by omega) (by omega) (by omega)
    refine ⟨_, p, _, [], rfl, hp, ?_⟩
    rw [ha]
    exact (congrArg Char.ofNat (by omega)).trans (Char.ofNat_toNat c)
  · split
    · obtain ⟨p, hp, ha⟩ := completes_two (n := c.toNat / 4096 % 0x10 + 0xE0)
        (m := c.toNat / 64 % 0x40 + 0x80) (k := c.toNat % 0x40 + 0x80) (by omega) (by omega)
        (by omega) (by omega) (by omega) (by omega) (by omega) (by omega)
      refine ⟨_, p, _, _, rfl, hp, ?_⟩
      rw [ha]
      exact (congrArg Char.ofNat (by omega)).trans (Char.ofNat_toNat c)
    · obtain ⟨p, hp, ha⟩ := completes_three (n := c.toNat / 262144 % 0x08 + 0xF0)
        (m := c.toNat / 4096 % 0x40 + 0x80) (k := c.toNat / 64 % 0x40 + 0x80)
        (j := c.toNat % 0x40 + 0x80) (by omega) (by omega) (by omega) (by omega) (by omega)
        (by omega) (by omega) (by omega) (by omega) (by omega)
      refine ⟨_, p, _, _, rfl, hp, ?_⟩
      rw [ha]
      exact (congrArg Char.ofNat (by omega)).trans (Char.ofNat_toNat c)

/-! ## Decoding -/

/-- A character decodes from its bytes, whatever stands behind them. -/
theorem decode_utf8EncodeChar_append (c : Char) (rest : List UInt8) :
    decode (String.utf8EncodeChar c ++ rest) = c :: decode rest := by
  by_cases hc : c.toNat < 0x80
  · have hb : (UInt8.ofNat c.toNat).toNat = c.toNat := toNat_byte (by omega)
    have hlt : UInt8.ofNat c.toNat < 0x80 := by
      rw [UInt8.lt_iff_toNat_lt, hb]
      exact hc
    rw [utf8EncodeChar_of_ascii hc, List.singleton_append, decode_cons_of_ascii rest hlt, hb,
      Char.ofNat_toNat]
  · obtain ⟨lead, p, b, more, he, hp, ha⟩ := exists_completes (Nat.le_of_not_lt hc)
    have hl := hp.length_eq
    rw [he, List.cons_append, decode_cons, hp.scan_append, ha]
    congr 2
    exact List.drop_left' hl

theorem decode_encode_append (s : List Char) (rest : List UInt8) :
    decode (encode s ++ rest) = s ++ decode rest := by
  induction s with
  | nil => rfl
  | cons c s ih =>
      rw [encode_cons, List.append_assoc, decode_utf8EncodeChar_append, ih, List.cons_append]

/-- A text decodes from its bytes. -/
theorem decode_encode (s : List Char) : decode (encode s) = s := by
  have h := decode_encode_append s []
  rwa [List.append_nil, decode_nil, List.append_nil] at h

/-- ASCII bytes are the bytes of what they decode to. -/
theorem encode_decode_of_ascii {bs : List UInt8} (h : ∀ b ∈ bs, b < 0x80) :
    encode (decode bs) = bs := by
  induction bs with
  | nil => rw [decode_nil, encode_nil]
  | cons b bs ih =>
      rw [List.forall_mem_cons] at h
      have hb : b.toNat < 0x80 := UInt8.lt_iff_toNat_lt.1 h.1
      have hc : (Char.ofNat b.toNat).toNat = b.toNat := toNat_ofNat (Or.inl (by omega))
      rw [decode_cons_of_ascii bs h.1, encode_cons,
        utf8EncodeChar_of_ascii (by rw [hc]; exact hb), hc, UInt8.ofNat_toNat, ih h.2,
        List.singleton_append]

/-- A character whose bytes break off decodes to one replacement character. -/
theorem decode_take_utf8EncodeChar (c : Char) {k : Nat} (hk : 0 < k)
    (hk' : k < (String.utf8EncodeChar c).length) :
    decode ((String.utf8EncodeChar c).take k) = [replacement] := by
  by_cases hc : c.toNat < 0x80
  · rw [utf8EncodeChar_of_ascii hc, List.length_singleton] at hk'
    omega
  · obtain ⟨lead, p, b, more, he, hp, -⟩ := exists_completes (Nat.le_of_not_lt hc)
    obtain ⟨k, rfl⟩ := Nat.exists_eq_succ_of_ne_zero (Nat.ne_of_gt hk)
    have hl := hp.length_eq
    rw [he, List.length_cons, List.length_cons] at hk'
    rw [he, List.take_succ_cons, decode_cons, hp.scan_take (by omega)]
    have hd : ((b :: more).take k).drop k = [] := by
      apply List.drop_eq_nil_of_le
      exact List.length_take_le _ _
    rw [hd, decode_nil]

/-- The bytes of a text up to some number are the bytes of some of its characters, or
these with the first bytes of one more. -/
theorem take_encode (s : List Char) (n : Nat) (hn : n < (encode s).length) :
    ∃ t c rest k, s = t ++ c :: rest ∧
      (encode s).take n = encode t ++ (String.utf8EncodeChar c).take k ∧
      k < (String.utf8EncodeChar c).length ∧ (encode t).length + k = n := by
  induction s generalizing n with
  | nil => simp at hn
  | cons c s ih =>
      rw [encode_cons, List.length_append] at hn
      by_cases hc : n < (String.utf8EncodeChar c).length
      · refine ⟨[], c, s, n, rfl, ?_, hc, by simp⟩
        rw [encode_cons, List.take_append_of_le_length (Nat.le_of_lt hc)]
        rfl
      · obtain ⟨m, rfl⟩ := Nat.exists_eq_add_of_le (Nat.le_of_not_lt hc)
        obtain ⟨t, d, rest, k, rfl, ht, hk, hl⟩ := ih m (by omega)
        refine ⟨c :: t, d, rest, k, rfl, ?_, hk, ?_⟩
        · rw [encode_cons, List.take_length_add_append, ht, encode_cons, List.append_assoc]
        · rw [encode_cons, List.length_append]
          omega

/-! ## The character NUL -/

theorem Completes.ne_zero {lead b : UInt8} {p : Promise} {more : List UInt8}
    (h : Completes lead p b more) : ∀ x ∈ lead :: b :: more, x ≠ 0 := by
  have hleast := UInt8.le_iff_toNat_le.1 h.least_le
  have hlo : 0x80 ≤ p.least.toNat ∧ 0xC2 ≤ lead.toNat := by
    rcases promise_cases h.promised with ⟨-, hl, -, hlo, -⟩ | ⟨-, hl, -, hlo, -⟩ |
      ⟨-, hl, -, hlo, -⟩
    · omega
    · omega
    · omega
  rintro x hx rfl
  rcases List.mem_cons.1 hx with rfl | hx
  · exact absurd hlo.2 (by decide)
  · rcases List.mem_cons.1 hx with rfl | hx
    · exact absurd (Nat.le_trans hlo.1 hleast) (by decide)
    · exact absurd (h.continues 0 hx) (by decide)

/-- Only the character NUL has a zero byte. -/
theorem encode_ne_zero {s : List Char} (hs : ∀ c ∈ s, c ≠ '\x00') : ∀ b ∈ encode s, b ≠ 0 := by
  intro b hb
  obtain ⟨c, hc, hb⟩ := List.mem_flatMap.1 hb
  by_cases ha : c.toNat < 0x80
  · rw [utf8EncodeChar_of_ascii ha, List.mem_singleton] at hb
    rintro rfl
    apply hs c hc
    have hz : c.toNat = 0 := by
      rw [← toNat_byte (show c.toNat < 256 by omega), ← hb]
      rfl
    rw [← Char.ofNat_toNat c, hz]
  · obtain ⟨lead, p, d, more, he, hp, -⟩ := exists_completes (Nat.le_of_not_lt ha)
    rw [he] at hb
    exact hp.ne_zero b hb

theorem scan_ne_nul {lead : UInt8} (hl : lead ≠ 0) (rest : List UInt8) :
    (scan lead rest).1 ≠ '\x00' := by
  rcases scan_cases lead rest with ⟨ha, h⟩ | ⟨p, b, more, hp, h⟩ | h
  · have hlt : lead.toNat < 0x80 := UInt8.lt_iff_toNat_lt.1 ha
    rw [h]
    intro hz
    apply hl
    have hn := congrArg Char.toNat hz
    rw [toNat_ofNat (Or.inl (by omega))] at hn
    exact UInt8.toNat_inj.1 hn
  · obtain ⟨n, hn, hge, hvalid⟩ := hp.exists_value
    rw [h, hn]
    intro hz
    have hn := congrArg Char.toNat hz
    rw [toNat_ofNat hvalid] at hn
    rw [hn] at hge
    exact absurd hge (by decide)
  · rw [h]
    decide

/-- Without a zero byte there is no NUL. -/
theorem decode_ne_nul {bs : List UInt8} (hb : ∀ b ∈ bs, b ≠ 0) : ∀ c ∈ decode bs, c ≠ '\x00' := by
  fun_induction decode bs with
  | case1 => simp
  | case2 lead rest c used hs ih =>
      rw [List.forall_mem_cons] at hb
      rw [List.forall_mem_cons]
      refine ⟨?_, ih fun b h => hb.2 b (List.mem_of_mem_drop h)⟩
      have hn := scan_ne_nul hb.1 rest
      rwa [hs] at hn

/-! ## ASCII bytes behind a text -/

/-- An ASCII byte continues nothing. -/
theorem takeWhile_take_append_of_ascii (n : Nat) (bs : List UInt8) {a : UInt8} (ha : a < 0x80)
    (rest : List UInt8) :
    ((bs ++ a :: rest).take n).takeWhile isContinuation =
      (bs.take n).takeWhile isContinuation := by
  induction bs generalizing n with
  | nil =>
      have hcont : ¬ isContinuation a = true := by
        rw [isContinuation_iff]
        exact fun h => Nat.not_le.2 (UInt8.lt_iff_toNat_lt.1 ha) h.1
      cases n with
      | zero => rfl
      | succ n =>
          rw [List.nil_append, List.take_succ_cons, List.takeWhile_cons_of_neg hcont,
            List.take_nil, List.takeWhile_nil]
  | cons b bs ih =>
      cases n with
      | zero => rfl
      | succ n =>
          rw [List.cons_append, List.take_succ_cons, List.take_succ_cons, List.takeWhile_cons,
            List.takeWhile_cons, ih]

theorem scan_append_of_ascii (lead : UInt8) (bs : List UInt8) {a : UInt8} (ha : a < 0x80)
    (rest : List UInt8) : scan lead (bs ++ a :: rest) = scan lead bs := by
  by_cases hl : lead < 0x80
  · rw [scan_of_ascii _ hl, scan_of_ascii _ hl]
  · cases hp : promise lead with
    | none => rw [scan_of_none _ hl hp, scan_of_none _ hl hp]
    | some p =>
        cases bs with
        | nil =>
            have hleast : ¬ (p.least ≤ a && a ≤ p.greatest) = true := by
              have hlo : 0x80 ≤ p.least.toNat := by
                rcases promise_cases hp with ⟨-, -, -, hlo, -⟩ | ⟨-, -, -, hlo, -⟩ |
                  ⟨-, -, -, hlo, -⟩ <;> omega
              have hlt : a.toNat < 0x80 := UInt8.lt_iff_toNat_lt.1 ha
              rw [Bool.and_eq_true, decide_eq_true_eq, UInt8.le_iff_toNat_le]
              omega
            rw [List.nil_append, scan_of_promise hp, if_neg hleast, scan_nil hl]
        | cons b bs =>
            rw [List.cons_append, scan_of_promise hp, scan_of_promise hp,
              takeWhile_take_append_of_ascii _ _ ha]

/-- Scanning takes only bytes that are there. -/
theorem scan_snd_le (lead : UInt8) (bs : List UInt8) : (scan lead bs).2 ≤ bs.length := by
  by_cases hl : lead < 0x80
  · rw [scan_of_ascii _ hl]
    exact Nat.zero_le _
  · cases hp : promise lead with
    | none =>
        rw [scan_of_none _ hl hp]
        exact Nat.zero_le _
    | some p =>
        cases bs with
        | nil => rw [scan_nil hl, List.length_nil]
        | cons b bs =>
            have hrun : ((bs.take (p.count - 1)).takeWhile isContinuation).length ≤ bs.length :=
              (List.takeWhile_prefix _).length_le.trans (List.length_take_le' _ _)
            rw [scan_of_promise hp, List.length_cons]
            split
            · dsimp only
              split
              · dsimp only
                omega
              · dsimp only
                omega
            · exact Nat.zero_le _

/-- An ASCII byte starts a new character, so what is in front of it is decoded as it
would be alone. -/
theorem decode_append_of_ascii (bs : List UInt8) {a : UInt8} (ha : a < 0x80)
    (rest : List UInt8) : decode (bs ++ a :: rest) = decode bs ++ decode (a :: rest) := by
  fun_induction decode bs with
  | case1 => rfl
  | case2 lead tail c used hs ih =>
      have hused : used ≤ tail.length := by
        have h := scan_snd_le lead tail
        rwa [hs] at h
      rw [List.cons_append, decode_cons, scan_append_of_ascii lead tail ha, hs,
        List.drop_append_of_le_length hused, ih, List.cons_append]

end PacketMeter.Text.Utf8
