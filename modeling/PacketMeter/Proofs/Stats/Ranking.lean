import Mathlib.Algebra.GroupWithZero.Nat
import Mathlib.Data.Finset.Card
import PacketMeter.Stats.Ranking

/-!
# What a ranking says

`Counts.OfValues` says that counts are those of a list of values: every value is there
once, with the number of its occurrences as a word.  The order of the counts is left open,
and so is the order of the values.

A ranking of values is a list of such counts in which every count precedes those after it.
Equal counts are told apart by their keys, so there is one ranking only, however the
values came and in whatever order their counts were listed.
-/

namespace PacketMeter.Stats

variable {κ : Type}

namespace Counts

section Keys

variable [DecidableEq κ]

/-- Counts of a list of values: each value is a key once, and is counted as often as it
occurs. -/
structure OfValues (counts : Counts κ) (values : List κ) : Prop where
  nodup : counts.keys.Nodup
  mem_keys_iff : ∀ k, k ∈ counts.keys ↔ k ∈ values
  countOf_eq : ∀ k, counts.countOf k = UInt64.ofNat (values.count k)

omit [DecidableEq κ] in
theorem keys_cons (entry : κ × UInt64) (counts : Counts κ) :
    keys (entry :: counts) = entry.1 :: counts.keys := rfl

theorem countOf_cons (k key : κ) (n : UInt64) (counts : Counts κ) :
    countOf k ((key, n) :: counts) = if k = key then n else countOf k counts := by
  unfold countOf
  rw [List.lookup_cons]
  by_cases h : k = key
  · rw [if_pos h, beq_iff_eq.2 h]
    rfl
  · rw [if_neg h, beq_eq_false_iff_ne.2 h]

/-- Seeing a key adds one to its count and leaves the other counts alone. -/
theorem countOf_bump (k key : κ) (counts : Counts κ) :
    countOf k (bump key counts) = countOf k counts + if k = key then 1 else 0 := by
  induction counts with
  | nil =>
      rw [bump_nil, countOf_cons]
      by_cases h : k = key <;> simp [h, countOf]
  | cons entry counts ih =>
      obtain ⟨j, n⟩ := entry
      rw [bump, countOf_cons]
      by_cases hj : j = key
      · rw [if_pos (beq_iff_eq.2 hj), countOf_cons, hj]
        by_cases h : k = key <;> simp [h]
      · rw [if_neg (by simpa using hj), countOf_cons, ih]
        by_cases h : k = j
        · have hk : k ≠ key := fun e => hj (h.symm.trans e)
          simp [h, hj]
        · simp [h]

theorem nodup_keys_bump {counts : Counts κ} (h : counts.keys.Nodup) (key : κ) :
    (bump key counts).keys.Nodup := by
  rw [keys_bump]
  split
  · exact h
  · rename_i hk
    rw [← List.concat_eq_append]
    exact h.concat hk

theorem OfValues.nil : OfValues ([] : Counts κ) ([] : List κ) where
  nodup := List.nodup_nil
  mem_keys_iff _ := Iff.rfl
  countOf_eq _ := rfl

theorem OfValues.bump {values : List κ} {counts : Counts κ} (h : counts.OfValues values)
    (key : κ) : (counts.bump key).OfValues (values ++ [key]) where
  nodup := nodup_keys_bump h.nodup key
  mem_keys_iff := by
    intro k
    rw [keys_bump, List.mem_append, List.mem_singleton, ← h.mem_keys_iff]
    split
    · rename_i hk
      exact ⟨.inl, fun e => e.elim id fun e => e ▸ hk⟩
    · rw [List.mem_append, List.mem_singleton]
  countOf_eq := by
    intro k
    rw [countOf_bump, h.countOf_eq, List.count_append, UInt64.ofNat_add, List.count_singleton]
    by_cases hk : k = key
    · simp [hk]
    · have hk' : key ≠ k := fun e => hk e.symm
      simp [hk, hk']

/-- The order of the values does not matter. -/
theorem OfValues.of_perm {values values' : List κ} {counts : Counts κ}
    (h : counts.OfValues values) (hp : values.Perm values') : counts.OfValues values' where
  nodup := h.nodup
  mem_keys_iff k := (h.mem_keys_iff k).trans hp.mem_iff
  countOf_eq k := by rw [h.countOf_eq, hp.count_eq]

/-- Where every key is there once, its count is the one that stands with it. -/
theorem mem_iff_countOf {counts : Counts κ} (hn : counts.keys.Nodup) (k : κ) (n : UInt64) :
    (k, n) ∈ counts ↔ k ∈ counts.keys ∧ counts.countOf k = n := by
  induction counts with
  | nil => simp
  | cons entry counts ih =>
      obtain ⟨j, m⟩ := entry
      rw [keys_cons, List.nodup_cons] at hn
      rw [List.mem_cons, ih hn.2, countOf_cons, Prod.mk.injEq, keys_cons, List.mem_cons]
      by_cases h : k = j
      · subst h
        simp [hn.1, eq_comm]
      · simp [h]

theorem OfValues.mem_iff {values : List κ} {counts : Counts κ} (h : counts.OfValues values)
    (k : κ) (n : UInt64) :
    (k, n) ∈ counts ↔ k ∈ values ∧ n.toNat = values.count k % 2 ^ 64 := by
  rw [mem_iff_countOf h.nodup, h.mem_keys_iff, h.countOf_eq, ← UInt64.toNat_inj,
    UInt64.toNat_ofNat', eq_comm (a := n.toNat)]

/-- The order of the counts does not matter either. -/
theorem OfValues.counts_perm {values : List κ} {counts counts' : Counts κ}
    (h : counts.OfValues values) (hp : counts.Perm counts') : counts'.OfValues values where
  nodup := (hp.map Prod.fst).nodup_iff.1 h.nodup
  mem_keys_iff k := (hp.map Prod.fst).mem_iff.symm.trans (h.mem_keys_iff k)
  countOf_eq := by
    intro k
    have hn : counts'.keys.Nodup := (hp.map Prod.fst).nodup_iff.1 h.nodup
    by_cases hk : k ∈ counts.keys
    · have hmem := (mem_iff_countOf h.nodup k _).2 ⟨hk, h.countOf_eq k⟩
      exact ((mem_iff_countOf hn k _).1 (hp.mem_iff.1 hmem)).2
    · have hk' : k ∉ counts'.keys := fun e => hk ((hp.map Prod.fst).mem_iff.2 e)
      rw [List.count_eq_zero_of_not_mem fun e => hk ((h.mem_keys_iff k).2 e)]
      have hnone : counts'.lookup k = none := by
        rw [List.lookup_eq_none_iff]
        rintro e he
        exact bne_iff_ne.2 fun e' => hk' (List.mem_map.2 ⟨e, he, e'.symm⟩)
      rw [countOf, hnone]
      rfl

theorem OfValues.length_eq {values : List κ} {counts : Counts κ}
    (h : counts.OfValues values) : counts.length = values.toFinset.card := by
  have hset : counts.keys.toFinset = values.toFinset := by
    ext k
    rw [List.mem_toFinset, List.mem_toFinset, h.mem_keys_iff]
  rw [← hset, List.toFinset_card_of_nodup h.nodup, keys, List.length_map]

end Keys

end Counts

/-! ## One ranking only -/

section Order

variable [LE κ] [LT κ] [Std.LawfulOrderLT κ]

/-- Whether a count stands before another: it is higher, or it is as high and its key comes
first. -/
def Precedes (a b : κ × UInt64) : Prop := b.2 < a.2 ∨ a.2 = b.2 ∧ a.1 < b.1

/-- The ranking of a list of values, cut to a limit.  Its entries are the values that occur,
each with the number of its occurrences as a word. -/
def IsRanking [DecidableEq κ] (values : List κ) (limit : Nat) (ranking : Counts κ) : Prop :=
  ∃ full : Counts κ,
    (∀ k n, (k, n) ∈ full ↔ k ∈ values ∧ n.toNat = values.count k % 2 ^ 64) ∧
      full.Pairwise Precedes ∧ ranking = full.take limit

theorem Precedes.ne {a b : κ × UInt64} (h : Precedes a b) : a ≠ b := by
  rintro rfl
  rcases h with h | ⟨-, h⟩
  · exact UInt64.lt_irrefl _ h
  · exact Std.lt_irrefl h

variable [Std.IsLinearOrder κ]

theorem Precedes.asymm {a b : κ × UInt64} (h : Precedes a b) (h' : Precedes b a) : False := by
  rcases h with h | ⟨h, hk⟩
  · rcases h' with h' | ⟨h', -⟩
    · exact UInt64.lt_asymm h h'
    · exact UInt64.lt_irrefl _ (h' ▸ h)
  · rcases h' with h' | ⟨-, hk'⟩
    · exact UInt64.lt_irrefl _ (h ▸ h')
    · exact Std.lt_irrefl (Std.lt_trans hk hk')

/-- Entries that precede one another in turn are determined by what they are. -/
theorem eq_of_pairwise_precedes {counts counts' : Counts κ} (h : counts.Pairwise Precedes)
    (h' : counts'.Pairwise Precedes) (hm : ∀ k n, (k, n) ∈ counts ↔ (k, n) ∈ counts') :
    counts = counts' := by
  have hn : counts.Nodup := h.imp Precedes.ne
  have hn' : counts'.Nodup := h'.imp Precedes.ne
  have hp : counts.Perm counts' := (List.perm_ext_iff_of_nodup hn hn').2 fun e => hm e.1 e.2
  exact hp.eq_of_pairwise (fun _ _ _ _ hab hba => (hab.asymm hba).elim) h h'

variable [DecidableLE κ]

omit [LT κ] [Std.LawfulOrderLT κ] [Std.IsLinearOrder κ] in
theorem ranksBefore_iff (a b : κ × UInt64) :
    ranksBefore a b = true ↔ b.2 < a.2 ∨ a.2 = b.2 ∧ a.1 ≤ b.1 := by
  simp [ranksBefore]

omit [LT κ] [Std.LawfulOrderLT κ] in
theorem ranksBefore_trans (a b c : κ × UInt64) (hab : ranksBefore a b = true)
    (hbc : ranksBefore b c = true) : ranksBefore a c = true := by
  rw [ranksBefore_iff] at hab hbc ⊢
  rcases hab with hab | ⟨hab, hk⟩
  · rcases hbc with hbc | ⟨hbc, -⟩
    · exact .inl (UInt64.lt_trans hbc hab)
    · exact .inl (hbc ▸ hab)
  · rcases hbc with hbc | ⟨hbc, hk'⟩
    · exact .inl (hab ▸ hbc)
    · exact .inr ⟨hab.trans hbc, Std.le_trans hk hk'⟩

omit [LT κ] [Std.LawfulOrderLT κ] in
theorem ranksBefore_total (a b : κ × UInt64) : (ranksBefore a b || ranksBefore b a) = true := by
  rw [Bool.or_eq_true, ranksBefore_iff, ranksBefore_iff]
  rcases Std.lt_trichotomy a.2 b.2 with h | h | h
  · exact .inr (.inl h)
  · rcases Std.le_total (a := a.1) (b := b.1) with hk | hk
    · exact .inl (.inr ⟨h, hk⟩)
    · exact .inr (.inr ⟨h.symm, hk⟩)
  · exact .inl (.inl h)

omit [LT κ] [Std.LawfulOrderLT κ] in
theorem eq_of_ranksBefore {a b : κ × UInt64} (h : ranksBefore a b = true)
    (h' : ranksBefore b a = true) : a = b := by
  rcases (ranksBefore_iff a b).1 h with hlt | ⟨hn, hk⟩
  · rcases (ranksBefore_iff b a).1 h' with hlt' | ⟨hn', -⟩
    · exact (UInt64.lt_asymm hlt hlt').elim
    · exact (UInt64.lt_irrefl _ (hn' ▸ hlt)).elim
  · rcases (ranksBefore_iff b a).1 h' with hlt' | ⟨-, hk'⟩
    · exact (UInt64.lt_irrefl _ (hn ▸ hlt')).elim
    · exact Prod.ext (Std.le_antisymm hk hk') hn

omit [LT κ] [Std.LawfulOrderLT κ] [Std.IsLinearOrder κ] in
theorem rank_nil (limit : Nat) : rank ([] : Counts κ) limit = [] := by
  rw [← List.length_eq_zero_iff, length_rank, List.length_nil, Nat.min_zero]

omit [LT κ] [Std.LawfulOrderLT κ] in
/-- A ranking does not depend on the order in which the counts were given. -/
theorem rank_eq_of_perm {counts counts' : Counts κ} (hp : counts.Perm counts') (limit : Nat) :
    rank counts limit = rank counts' limit := by
  have hperm : (counts.mergeSort ranksBefore).Perm (counts'.mergeSort ranksBefore) :=
    (List.mergeSort_perm _ _).trans (hp.trans (List.mergeSort_perm _ _).symm)
  have hsorted := List.pairwise_mergeSort ranksBefore_trans ranksBefore_total counts
  have hsorted' := List.pairwise_mergeSort ranksBefore_trans ranksBefore_total counts'
  rw [rank, rank, hperm.eq_of_pairwise (fun _ _ _ _ => eq_of_ranksBefore) hsorted hsorted']

omit [LT κ] [Std.LawfulOrderLT κ] in
/-- Ranking what was ranked and cut before only cuts it once more. -/
theorem rank_rank (counts : Counts κ) (limit limit' : Nat) :
    rank (rank counts limit) limit' = rank counts (min limit' limit) := by
  have hsorted := List.pairwise_mergeSort ranksBefore_trans ranksBefore_total counts
  have hcut : (rank counts limit).Pairwise fun a b => ranksBefore a b = true :=
    hsorted.sublist (List.take_sublist _ _)
  rw [rank, List.mergeSort_of_pairwise hcut, rank, List.take_take, rank]

/-- Where no key is there twice, one of two counts precedes the other. -/
theorem precedes_of_ranksBefore {a b : κ × UInt64} (h : ranksBefore a b = true)
    (hk : a.1 ≠ b.1) : Precedes a b := by
  rcases (ranksBefore_iff a b).1 h with h | ⟨h, hle⟩
  · exact .inl h
  · exact .inr ⟨h, Std.lt_of_le_of_ne hle hk⟩

theorem pairwise_mergeSort_precedes {counts : Counts κ} (hn : counts.keys.Nodup) :
    (counts.mergeSort ranksBefore).Pairwise Precedes := by
  have hsorted := List.pairwise_mergeSort ranksBefore_trans ranksBefore_total counts
  have hperm := (List.mergeSort_perm counts ranksBefore).map Prod.fst
  have hkeys := List.pairwise_map.1 (hperm.nodup_iff.2 hn)
  exact (hsorted.and hkeys).imp fun h => precedes_of_ranksBefore h.1 h.2

variable [DecidableEq κ]

/-- The counts of values are ranked as the values are. -/
theorem Counts.OfValues.isRanking {values : List κ} {counts : Counts κ}
    (h : counts.OfValues values) (limit : Nat) :
    IsRanking values limit (rank counts limit) := by
  refine ⟨counts.mergeSort ranksBefore, ?_, pairwise_mergeSort_precedes h.nodup, rfl⟩
  intro k n
  rw [List.mem_mergeSort, h.mem_iff]

omit [DecidableLE κ] in
/-- There is one ranking of some values, in whatever order they come. -/
theorem IsRanking.eq {values values' : List κ} {limit : Nat} {ranking ranking' : Counts κ}
    (h : IsRanking values limit ranking) (h' : IsRanking values' limit ranking')
    (hp : values.Perm values') : ranking = ranking' := by
  obtain ⟨full, hm, hs, rfl⟩ := h
  obtain ⟨full', hm', hs', rfl⟩ := h'
  rw [eq_of_pairwise_precedes hs hs' fun k n => by
    rw [hm, hm', hp.mem_iff, hp.count_eq]]

end Order

end PacketMeter.Stats
