import Mathlib.Data.List.Basic
import PacketMeter.Net.Address

/-!
# Numbers in addresses

A number that was written is read back when no digit follows it, which is what `Stops` says of
the text behind it.  The parts of an IPv4 address and the groups of an IPv6 address are written
with no more digits than are read, and a part of several digits without a zero in front.
-/

namespace PacketMeter.Net

/-- A text that does not go on with a digit. -/
def Stops (base : Nat) (s : List Char) : Prop := ∀ c ∈ s.head?, digit? base c = none

theorem stops_nil (base : Nat) : Stops base [] := by
  intro c hc
  exact absurd hc (by simp)

theorem stops_cons {base : Nat} {c : Char} (s : List Char) (h : digit? base c = none) :
    Stops base (c :: s) := by
  intro d hd
  rw [← Option.some.inj hd]
  exact h

theorem takeWhile_of_stops {base : Nat} {s : List Char} (h : Stops base s) :
    (s.takeWhile fun c => (digit? base c).isSome) = [] := by
  cases s with
  | nil => rfl
  | cons c s => simp [h c (by simp)]

theorem dropWhile_of_stops {base : Nat} {s : List Char} (h : Stops base s) :
    (s.dropWhile fun c => (digit? base c).isSome) = s := by
  cases s with
  | nil => rfl
  | cons c s => simp [h c (by simp)]

section Digits

variable {base : Nat}

theorem digit?_digitChar (hb : base ≤ 16) {d : Nat} (hd : d < base) :
    digit? base d.digitChar = some d := by
  have hall : ∀ d < 16, digit? 16 d.digitChar = some d := by decide
  have hvalue := hall d (Nat.lt_of_lt_of_le hd hb)
  unfold digit? at hvalue ⊢
  rw [Option.filter_eq_some_iff] at hvalue ⊢
  exact ⟨hvalue.1, by simpa using hd⟩

variable (hb : 1 < base)
include hb

theorem exists_digit_of_mem {n : Nat} {c : Char} (hc : c ∈ Nat.toDigits base n) :
    ∃ d < base, c = d.digitChar := by
  induction n using Nat.base_induction base hb with
  | single m hm =>
      rw [Nat.toDigits_of_lt_base hm, List.mem_singleton] at hc
      exact ⟨m, hm, hc⟩
  | digit m k hk hm ih =>
      rw [← Nat.toDigits_append_toDigits hb hm hk, Nat.toDigits_of_lt_base hk, List.mem_append,
        List.mem_singleton] at hc
      rcases hc with hc | hc
      · exact ih hc
      · exact ⟨k, hk, hc⟩

theorem head?_toDigits_ne_zero {n : Nat} (hn : 0 < n) :
    (Nat.toDigits base n).head? ≠ some '0' := by
  induction n using Nat.base_induction base hb with
  | single m hm =>
      rw [Nat.toDigits_of_lt_base hm, List.head?_cons, ne_eq, Option.some_inj,
        Nat.digitChar_eq_zero]
      exact Nat.ne_of_gt hn
  | digit m k hk hm ih =>
      rw [← Nat.toDigits_append_toDigits hb hm hk,
        List.head?_append_of_ne_nil _ Nat.toDigits_ne_nil]
      exact ih hm

variable (hb' : base ≤ 16)
include hb'

theorem isSome_digit?_of_mem {n : Nat} {c : Char} (hc : c ∈ Nat.toDigits base n) :
    (digit? base c).isSome = true := by
  obtain ⟨d, hd, rfl⟩ := exists_digit_of_mem hb hc
  rw [digit?_digitChar hb' hd]
  rfl

theorem foldl_digits_toDigits (n : Nat) :
    ((Nat.toDigits base n).filterMap (digit? base)).foldl (fun n d => n * base + d) 0 = n := by
  induction n using Nat.base_induction base hb with
  | single m hm => simp [Nat.toDigits_of_lt_base hm, digit?_digitChar hb' hm]
  | digit m k hk hm ih =>
      rw [← Nat.toDigits_append_toDigits hb hm hk, Nat.toDigits_of_lt_base hk,
        List.filterMap_append, List.foldl_append, ih, List.filterMap_cons,
        digit?_digitChar hb' hk]
      simp [Nat.mul_comm]

/-- A number is read back when no digit follows it. -/
theorem number?_toDigits {n greatest : Nat} (hn : n ≤ greatest) {rest : List Char}
    (hr : Stops base rest) :
    number? base greatest (Nat.toDigits base n ++ rest) = some (n, rest) := by
  have hdigits : (Nat.toDigits base n ++ rest).takeWhile (fun c => (digit? base c).isSome) =
      Nat.toDigits base n := by
    rw [List.takeWhile_append_of_pos fun c hc => isSome_digit?_of_mem hb hb' hc,
      takeWhile_of_stops hr, List.append_nil]
  unfold number?
  rw [hdigits]
  dsimp only
  rw [foldl_digits_toDigits hb hb' n, List.drop_left, if_neg]
  simpa using hn

end Digits

theorem number?_eq_none {base greatest : Nat} {s : List Char} (h : Stops base s) :
    number? base greatest s = none := by
  unfold number?
  rw [takeWhile_of_stops h]
  simp

/-! ## Parts and groups -/

theorem part?_toDigits (n : UInt8) {rest : List Char} (hr : Stops 10 rest) :
    part? (Nat.toDigits 10 n.toNat ++ rest) = some (n, rest) := by
  have hlt : n.toNat < 10 ^ 3 := Nat.lt_trans n.toNat_lt (by decide)
  have hlength : (Nat.toDigits 10 n.toNat).length ≤ 3 :=
    (Nat.length_toDigits_le_iff (by decide) (by decide)).2 hlt
  have hwidth : (Nat.toDigits 10 n.toNat ++ rest).length - rest.length =
      (Nat.toDigits 10 n.toNat).length := by
    rw [List.length_append, Nat.add_sub_cancel]
  have hzero : 1 < (Nat.toDigits 10 n.toNat).length →
      (Nat.toDigits 10 n.toNat ++ rest).head? ≠ some '0' := by
    intro hlong
    rw [List.head?_append_of_ne_nil _ Nat.toDigits_ne_nil]
    refine head?_toDigits_ne_zero (by decide) (Nat.pos_of_ne_zero fun h => ?_)
    rw [h, Nat.toDigits_zero] at hlong
    exact absurd hlong (by decide)
  have hread := number?_toDigits (by decide) (by decide) (Nat.le_of_lt_succ n.toNat_lt) hr
  unfold part?
  rw [hread, Option.bind_eq_bind, Option.bind_some]
  dsimp only
  rw [hwidth, if_neg]
  · simp
  · rintro (hlong | ⟨hlong, hhead⟩)
    · omega
    · exact hzero hlong hhead

theorem group?_toDigits (g : UInt16) {rest : List Char} (hr : Stops 16 rest) :
    group? (Nat.toDigits 16 g.toNat ++ rest) = some (g, rest) := by
  have hlt : g.toNat < 16 ^ 4 := g.toNat_lt
  have hlength : (Nat.toDigits 16 g.toNat).length ≤ 4 :=
    (Nat.length_toDigits_le_iff (by decide) (by decide)).2 hlt
  have hread := number?_toDigits (by decide) (by decide) (Nat.le_of_lt_succ g.toNat_lt) hr
  unfold group?
  rw [hread, Option.bind_eq_bind, Option.bind_some]
  dsimp only
  rw [List.length_append, Nat.add_sub_cancel, if_neg (by omega)]
  simp

theorem group?_eq_none {s : List Char} (h : Stops 16 s) : group? s = none := by
  unfold group?
  rw [number?_eq_none h]
  rfl

theorem port?_toDigits (port : UInt16) :
    port? (':' :: Nat.toDigits 10 port.toNat) = some (port, []) := by
  have hread : number? 10 65535 (Nat.toDigits 10 port.toNat ++ []) = some (port.toNat, []) :=
    number?_toDigits (by decide) (by decide) (Nat.le_of_lt_succ port.toNat_lt) (stops_nil 10)
  rw [List.append_nil] at hread
  unfold port?
  rw [after?, if_pos rfl, Option.bind_eq_bind, Option.bind_some, hread]
  simp

/-! ## IPv4 addresses -/

theorem toList_text (ip : Ipv4) :
    ip.text.toList = Nat.toDigits 10 ip.a.toNat ++ '.' :: (Nat.toDigits 10 ip.b.toNat ++ '.' ::
      (Nat.toDigits 10 ip.c.toNat ++ '.' :: Nat.toDigits 10 ip.d.toNat)) := by
  simp [Ipv4.text]

theorem ipv4?_text (ip : Ipv4) {rest : List Char} (hr : Stops 10 rest) :
    ipv4? (ip.text.toList ++ rest) = some (ip, rest) := by
  have hdot (s : List Char) : Stops 10 ('.' :: s) := stops_cons s (by decide)
  have hafter (s : List Char) : after? '.' ('.' :: s) = some s := by
    simp [after?]
  rw [toList_text]
  simp only [List.append_assoc, List.cons_append, ipv4?, part?_toDigits _ (hdot _), hafter,
    part?_toDigits _ hr, Option.bind_eq_bind, Option.bind_some]
  rfl

end PacketMeter.Net
