import Mathlib.Data.List.DropRight
import PacketMeter.Text.Blank

/-!
# Trimming

Blanks that are put around a text do not change what trimming leaves of it.
-/

namespace PacketMeter.Text

theorem isPrefix_trimEnd (s : List Char) : trimEnd s <+: s := List.rdropWhile_prefix isBlank s

theorem trimEnd_trimEnd (s : List Char) : trimEnd (trimEnd s) = trimEnd s :=
  List.rdropWhile_idempotent isBlank s

theorem trimEnd_append_of_blank (s : List Char) {blanks : List Char}
    (h : ∀ c ∈ blanks, isBlank c = true) : trimEnd (s ++ blanks) = trimEnd s := by
  induction blanks using List.reverseRecOn with
  | nil => rw [List.append_nil]
  | append_singleton blanks c ih =>
      rw [← List.append_assoc, trimEnd_concat_of_blank _ (h c (by simp)),
        ih fun d hd => h d (List.mem_append_left _ hd)]

/-- What is cut off at the end is blank. -/
theorem exists_blanks_trimEnd (s : List Char) :
    ∃ blanks, s = trimEnd s ++ blanks ∧ ∀ c ∈ blanks, isBlank c = true :=
  ⟨s.rtakeWhile isBlank, List.rdropWhile_append_rtakeWhile.symm,
    fun _ hc => List.mem_rtakeWhile_imp hc⟩

theorem trimStart_append_of_blank {blanks : List Char} (h : ∀ c ∈ blanks, isBlank c = true)
    (s : List Char) : trimStart (blanks ++ s) = trimStart s := by
  rw [trimStart, List.dropWhile_append_of_pos h, trimStart]

theorem trim_append_of_blank (s : List Char) {blanks : List Char}
    (h : ∀ c ∈ blanks, isBlank c = true) : trim (s ++ blanks) = trim s := by
  rw [trim, trim, trimStart, trimStart, List.dropWhile_append]
  split
  · next hnil =>
    -- Nothing but blanks: trimming at the front leaves nothing of either text.
    have hblanks : blanks.dropWhile isBlank = [] := List.dropWhile_eq_nil_iff.2 h
    rw [hblanks, List.isEmpty_iff.1 hnil]
  · exact trimEnd_append_of_blank _ h

theorem trim_between_blanks {before after : List Char} (hb : ∀ c ∈ before, isBlank c = true)
    (ha : ∀ c ∈ after, isBlank c = true) (s : List Char) :
    trim (before ++ s ++ after) = trim s := by
  rw [trim_append_of_blank _ ha, trim, trimStart_append_of_blank hb, trim]

theorem trim_trimEnd (s : List Char) : trim (trimEnd s) = trim s := by
  obtain ⟨blanks, hs, hblanks⟩ := exists_blanks_trimEnd s
  conv_rhs => rw [hs]
  rw [trim_append_of_blank _ hblanks]

/-- Trimming does not reach beyond a character that is not blank. -/
theorem trimEnd_append_cons {c : Char} (hc : isBlank c = false) (front s : List Char) :
    trimEnd (front ++ c :: s) = front ++ c :: trimEnd s := by
  induction s using List.reverseRecOn with
  | nil => exact trimEnd_concat_of_not_blank front hc
  | append_singleton s d ih =>
      rw [← List.cons_append, ← List.append_assoc]
      by_cases hd : isBlank d = true
      · rw [trimEnd_concat_of_blank _ hd, trimEnd_concat_of_blank _ hd, ih]
      · rw [Bool.not_eq_true] at hd
        rw [trimEnd_concat_of_not_blank _ hd, trimEnd_concat_of_not_blank _ hd,
          List.append_assoc, List.cons_append]

end PacketMeter.Text
