import PacketMeter.Text.Lowercase
import PacketMeter.Text.Search

/-!
# Lower case in the middle of a text

The lower-case form of a text is put together from the forms of its characters, and only that of
the capital sigma depends on what stands around it.  So a text that stands in another one keeps
its lower-case form there unless a sigma of it ends a word in one of the two and not in the
other: `sameSigmas_iff` says that there is no other reason.

The case of ASCII letters never matters.
-/

namespace PacketMeter.Text

/-! ## A part of a text -/

/-- The lower-case form of a text between two others, the one before it given backwards. -/
def lowerWithin (before after : List Char) : List Char → List Char
  | [] => []
  | c :: s =>
    (if c = 'Σ' then [if endsWord before (s ++ after) then 'ς' else 'σ'] else lowerChar c) ++
      lowerWithin (c :: before) after s

/-- Each capital sigma of `s` ends a word in `s` if and only if it ends one in `before ++ s ++ after`.
The text before it is given backwards. -/
def SameSigmas (before s after : List Char) : Prop :=
  ∀ t u, s = t ++ 'Σ' :: u →
    endsWord t.reverse u = endsWord (t.reverse ++ before) (u ++ after)

theorem lowerAfter_append (before s after : List Char) :
    lowerAfter before (s ++ after) =
      lowerWithin before after s ++ lowerAfter (s.reverse ++ before) after := by
  induction s generalizing before with
  | nil => rfl
  | cons c s ih =>
      rw [List.cons_append, lowerAfter, lowerWithin, ih, List.append_assoc, List.reverse_cons,
        List.append_assoc]
      rfl

theorem lowerWithin_nil_right (before s : List Char) :
    lowerWithin before [] s = lowerAfter before s := by
  have h := lowerAfter_append before s []
  rw [List.append_nil, lowerAfter_nil, List.append_nil] at h
  exact h.symm

/-- The sigmas of a text are its first character, if it is one, and those of the rest. -/
theorem forall_sigma_cons {P : List Char → List Char → Prop} {c : Char} {s : List Char} :
    (∀ t u, c :: s = t ++ 'Σ' :: u → P t u) ↔
      (c = 'Σ' → P [] s) ∧ ∀ t u, s = t ++ 'Σ' :: u → P (c :: t) u := by
  constructor
  · intro h
    refine ⟨?_, ?_⟩
    · rintro rfl
      exact h [] s rfl
    · rintro t u rfl
      exact h (c :: t) u rfl
  · rintro ⟨hfirst, hrest⟩ t u heq
    cases t with
    | nil =>
        obtain ⟨rfl, rfl⟩ := List.cons.inj heq
        exact hfirst rfl
    | cons d t =>
        obtain ⟨rfl, hs⟩ := List.cons.inj heq
        exact hrest t u hs

theorem sigmaForm_inj {p q : Bool} :
    (if p = true then 'ς' else 'σ') = (if q = true then 'ς' else 'σ') ↔ p = q := by
  cases p <;> cases q <;> decide

theorem lowerWithin_eq_iff {before before' after after' s : List Char} :
    lowerWithin before after s = lowerWithin before' after' s ↔
      ∀ t u, s = t ++ 'Σ' :: u →
        endsWord (t.reverse ++ before) (u ++ after) =
          endsWord (t.reverse ++ before') (u ++ after') := by
  induction s generalizing before before' with
  | nil => simp [lowerWithin]
  | cons c s ih =>
      have hpush (before t : List Char) : (c :: t).reverse ++ before = t.reverse ++ c :: before := by
        rw [List.reverse_cons, List.append_assoc]
        rfl
      rw [lowerWithin, lowerWithin, forall_sigma_cons]
      simp only [hpush, ← ih, List.reverse_nil, List.nil_append]
      by_cases hc : c = 'Σ'
      · rw [if_pos hc, if_pos hc, List.singleton_append, List.singleton_append, List.cons.injEq,
          sigmaForm_inj]
        simp only [hc, true_imp_iff]
      · rw [if_neg hc, if_neg hc, List.append_cancel_left_eq]
        simp only [hc, false_imp_iff, true_and]

/-- A text keeps its lower-case form between two others if and only if its sigmas end words there
where they do in the text alone. -/
theorem sameSigmas_iff {before s after : List Char} :
    SameSigmas before s after ↔ lowerWithin before after s = lowercase s := by
  have halone : lowercase s = lowerWithin [] [] s := (lowerWithin_nil_right [] s).symm
  rw [halone, eq_comm, lowerWithin_eq_iff]
  simp only [List.append_nil]
  rfl

theorem sameSigmas_of_not_mem {s : List Char} (h : 'Σ' ∉ s) (before after : List Char) :
    SameSigmas before s after := by
  rintro t u rfl
  exact absurd (List.mem_append_right t List.mem_cons_self) h

/-- What stands in a text stands in it in lower case, when its sigmas end the same words. -/
theorem infix_lowercase {before s after : List Char} (h : SameSigmas before.reverse s after) :
    lowercase s <:+: lowercase (before ++ s ++ after) := by
  have hwhole : lowercase (before ++ s ++ after) =
      lowerWithin [] (s ++ after) before ++
        (lowercase s ++ lowerAfter (s.reverse ++ before.reverse) after) := by
    rw [← sameSigmas_iff.1 h, ← lowerAfter_append, List.append_assoc, lowercase, lowerAfter_append,
      List.append_nil]
  exact ⟨_, _, by rw [hwhole, List.append_assoc]⟩

/-! ## ASCII letters -/

/-- What agrees on the two cases of each of the twenty-six letters does not see ASCII case. -/
theorem apply_toLower {β : Type} (f : Char → β)
    (h : ∀ n < 26, f (Char.ofNat (97 + n)) = f (Char.ofNat (65 + n))) (c : Char) :
    f c.toLower = f c := by
  unfold Char.toLower
  split
  · next hc =>
    have hlow : 65 ≤ c.toNat := UInt32.le_iff_toNat_le.1 hc.1
    have hhigh : c.toNat ≤ 90 := UInt32.le_iff_toNat_le.1 hc.2
    have hupper : Char.ofNat (65 + (c.toNat - 65)) = c := by
      rw [Nat.add_sub_cancel' hlow, Char.ofNat_toNat]
    have hletter := h (c.toNat - 65) (by omega)
    rw [hupper] at hletter
    have hlower : (c.val + ('a'.val - 'A'.val)).toNat = 97 + (c.toNat - 65) := by
      rw [UInt32.toNat_add]
      change (c.toNat + 32) % 2 ^ 32 = _
      omega
    rw [← hletter, ← hlower]
    exact congrArg f (Char.ofNat_toNat _).symm
  · rfl

theorem lowerChar_toLower (c : Char) : lowerChar c.toLower = lowerChar c :=
  apply_toLower lowerChar (by decide) c

theorem isCased_toLower (c : Char) : isCased c.toLower = isCased c :=
  apply_toLower isCased (by decide) c

theorem isCaseIgnorable_toLower (c : Char) : isCaseIgnorable c.toLower = isCaseIgnorable c :=
  apply_toLower isCaseIgnorable (by decide) c

theorem toLower_eq_sigma_iff (c : Char) : c.toLower = 'Σ' ↔ c = 'Σ' :=
  iff_of_eq (apply_toLower (· = 'Σ') (by decide) c)

theorem startsCased_cons (c : Char) (s : List Char) :
    startsCased (c :: s) = if isCaseIgnorable c = true then startsCased s else isCased c := by
  rw [startsCased, List.dropWhile_cons]
  by_cases h : isCaseIgnorable c = true
  · rw [if_pos h, if_pos h, startsCased]
  · rw [if_neg h, if_neg h]

theorem startsCased_map_toLower (s : List Char) :
    startsCased (s.map Char.toLower) = startsCased s := by
  induction s with
  | nil => rfl
  | cons c s ih =>
      rw [List.map_cons, startsCased_cons, startsCased_cons, isCaseIgnorable_toLower,
        isCased_toLower, ih]

theorem lowerAfter_map_toLower (before s : List Char) :
    lowerAfter (before.map Char.toLower) (s.map Char.toLower) = lowerAfter before s := by
  induction s generalizing before with
  | nil => rfl
  | cons c s ih =>
      have hends : endsWord (before.map Char.toLower) (s.map Char.toLower) = endsWord before s := by
        rw [endsWord, startsCased_map_toLower, startsCased_map_toLower, endsWord]
      rw [List.map_cons, lowerAfter, lowerAfter, ← List.map_cons, ih, hends, lowerChar_toLower]
      simp only [toLower_eq_sigma_iff]

theorem lowercase_eq_of_map_toLower {s t : List Char}
    (h : s.map Char.toLower = t.map Char.toLower) : lowercase s = lowercase t := by
  rw [lowercase, lowercase, ← lowerAfter_map_toLower [] s, h, lowerAfter_map_toLower [] t]

end PacketMeter.Text
