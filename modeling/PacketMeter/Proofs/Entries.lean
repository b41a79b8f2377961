import Mathlib.Data.List.Nodup

/-!
# Lists of keyed entries

A list of pairs is read by `List.lookup`: the first entry with a key counts.  Where
all keys differ this is the only entry with the key, and taking the key away leaves
the entries around it.
-/

namespace PacketMeter.Entries

variable {κ β γ : Type} [BEq κ] [LawfulBEq κ]

theorem lookup_cons_of_ne {k j : κ} (b : β) (l : List (κ × β)) (h : j ≠ k) :
    ((k, b) :: l).lookup j = l.lookup j := by
  rw [List.lookup_cons, beq_eq_false_iff_ne.2 h]

/-- Changing the values under their keys. -/
theorem lookup_map (l : List (κ × β)) (g : κ × β → κ × γ) (f : κ → β → γ)
    (hg : ∀ k b, g (k, b) = (k, f k b)) (k : κ) :
    (l.map g).lookup k = (l.lookup k).map (f k) := by
  induction l with
  | nil => rfl
  | cons e l ih =>
      obtain ⟨a, b⟩ := e
      rw [List.map_cons, hg]
      by_cases h : k = a
      · simp [h]
      · rw [lookup_cons_of_ne _ _ h, lookup_cons_of_ne _ _ h, ih]

omit [BEq κ] [LawfulBEq κ] in
theorem keys_map (l : List (κ × β)) (g : κ × β → κ × γ) (hg : ∀ e, (g e).1 = e.1) :
    (l.map g).map Prod.fst = l.map Prod.fst := by
  rw [List.map_map]
  exact List.map_congr_left fun e _ => hg e

theorem mem_of_lookup {l : List (κ × β)} {k : κ} {b : β} (h : l.lookup k = some b) :
    (k, b) ∈ l := by
  obtain ⟨l₁, l₂, rfl, -⟩ := List.lookup_eq_some_iff.1 h
  simp

section Filter

variable [DecidableEq κ]

/-- Without a key the other keys are read as before. -/
theorem lookup_filter_ne (l : List (κ × β)) (k j : κ) :
    (l.filter fun e => e.1 ≠ k).lookup j = if j = k then none else l.lookup j := by
  induction l with
  | nil => simp
  | cons e l ih =>
      obtain ⟨a, b⟩ := e
      by_cases ha : a = k
      · rw [List.filter_cons_of_neg (by simp [ha]), ih]
        by_cases hj : j = k
        · simp [hj]
        · rw [lookup_cons_of_ne b l fun h => hj (h.trans ha)]
      · rw [List.filter_cons_of_pos (by simp [ha])]
        by_cases hj : j = a
        · simp [hj, ha]
        · rw [lookup_cons_of_ne _ _ hj, lookup_cons_of_ne _ _ hj, ih]

/-- Where the keys differ, the entry of a key stands at one place, and without it the
others are left. -/
theorem exists_split {l : List (κ × β)} (hn : (l.map Prod.fst).Nodup) {k : κ} {b : β}
    (h : l.lookup k = some b) :
    ∃ l₁ l₂, l = l₁ ++ (k, b) :: l₂ ∧ l.filter (fun e => e.1 ≠ k) = l₁ ++ l₂ := by
  obtain ⟨l₁, l₂, rfl, -⟩ := List.lookup_eq_some_iff.1 h
  refine ⟨l₁, l₂, rfl, ?_⟩
  rw [List.map_append, List.map_cons, List.nodup_middle, List.nodup_cons] at hn
  have hk : ∀ e ∈ l₁ ++ l₂, e.1 ≠ k := by
    rintro e he rfl
    rw [← List.map_append] at hn
    exact hn.1 (List.mem_map.2 ⟨e, he, rfl⟩)
  rw [List.filter_append, List.filter_cons_of_neg (by simp), ← List.filter_append]
  exact List.filter_eq_self.2 (by simpa using hk)

/-- Taking a key away takes its entry out of every count. -/
theorem countP_filter_ne {l : List (κ × β)} (hn : (l.map Prod.fst).Nodup) {k : κ} {b : β}
    (h : l.lookup k = some b) (p : κ × β → Bool) :
    (l.filter fun e => e.1 ≠ k).countP p + (if p (k, b) then 1 else 0) = l.countP p := by
  obtain ⟨l₁, l₂, hl, hf⟩ := exists_split hn h
  rw [hf, hl, List.countP_append, List.countP_append, List.countP_cons, Nat.add_assoc]

end Filter

end PacketMeter.Entries
