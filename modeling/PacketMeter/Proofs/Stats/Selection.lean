import PacketMeter.Proofs.Stats.Ranking

/-!
# What a ranking keeps

A ranking that is cut to a limit keeps the first of its counts.  `IsTop` says what these are
without sorting anything: as many counts as the limit leaves room for, in their order, and none
that is left out precedes one that is kept.

A key may be there several times, and with the same count.  Such counts are equal, so that it
does not matter which of them are kept, and there is one list of first counts only.
-/

namespace PacketMeter.Stats

variable {κ : Type} [LE κ] [LT κ]

/-- The first of some counts: higher counts come first, and equal ones in the order of their
keys.  What is kept and what is left out are together all of the counts. -/
structure IsTop (counts : Counts κ) (limit : Nat) (kept : Counts κ) : Prop where
  length_eq : kept.length = min limit counts.length
  sorted : kept.Pairwise fun a b => b.2 < a.2 ∨ a.2 = b.2 ∧ a.1 ≤ b.1
  exists_rest : ∃ rest, (kept ++ rest).Perm counts ∧
    ∀ a ∈ rest, ∀ b ∈ kept, ¬ Precedes a b

variable [Std.LawfulOrderLT κ] [Std.IsLinearOrder κ] [DecidableLE κ]

/-- A count may stand before another one unless that one precedes it. -/
theorem ranksBefore_iff_not_precedes (a b : κ × UInt64) :
    ranksBefore a b = true ↔ ¬ Precedes b a := by
  constructor
  · intro h hba
    rcases (ranksBefore_iff a b).1 h with hlt | ⟨heq, hle⟩
    · exact Precedes.asymm (.inl hlt) hba
    · rcases hba with hlt | ⟨-, hlt⟩
      · exact UInt64.lt_irrefl _ (heq ▸ hlt)
      · exact Std.lt_irrefl (Std.lt_of_lt_of_le hlt hle)
  · intro h
    rw [ranksBefore_iff]
    rcases Std.lt_trichotomy a.2 b.2 with hlt | heq | hlt
    · exact absurd (.inl hlt) h
    · exact .inr ⟨heq, Std.not_lt.1 fun hlt => h (.inr ⟨heq.symm, hlt⟩)⟩
    · exact .inl hlt

/-- What stands in order may be cut anywhere. -/
theorem isTop_take {sorted counts : Counts κ} (hp : sorted.Perm counts)
    (hs : sorted.Pairwise fun a b => ranksBefore a b = true) (limit : Nat) :
    IsTop counts limit (sorted.take limit) where
  length_eq := by rw [List.length_take, hp.length_eq]
  sorted := (hs.sublist (List.take_sublist _ _)).imp fun h => (ranksBefore_iff _ _).1 h
  exists_rest := by
    refine ⟨sorted.drop limit, by rwa [List.take_append_drop], fun a ha b hb => ?_⟩
    rw [← List.take_append_drop limit sorted, List.pairwise_append] at hs
    exact (ranksBefore_iff_not_precedes b a).1 (hs.2.2 b hb a ha)

theorem isTop_rank (counts : Counts κ) (limit : Nat) :
    IsTop counts limit (rank counts limit) :=
  isTop_take (List.mergeSort_perm counts ranksBefore)
    (List.pairwise_mergeSort ranksBefore_trans ranksBefore_total counts) limit

/-- Sorting what is kept and what is left out apart from each other sorts all of the counts. -/
theorem IsTop.eq_rank {counts : Counts κ} {limit : Nat} {kept : Counts κ}
    (h : IsTop counts limit kept) : kept = rank counts limit := by
  obtain ⟨rest, hrest, hleft⟩ := h.exists_rest
  have hkept : kept.Pairwise fun a b => ranksBefore a b = true :=
    h.sorted.imp fun h => (ranksBefore_iff _ _).2 h
  have hsorted : (kept ++ rest.mergeSort ranksBefore).Pairwise fun a b =>
      ranksBefore a b = true := by
    refine List.pairwise_append.2 ⟨hkept,
      List.pairwise_mergeSort ranksBefore_trans ranksBefore_total rest, fun a ha b hb => ?_⟩
    exact (ranksBefore_iff_not_precedes a b).2 (hleft b (List.mem_mergeSort.1 hb) a ha)
  have hperm : (kept ++ rest.mergeSort ranksBefore).Perm counts :=
    ((List.mergeSort_perm rest ranksBefore).append_left kept).trans hrest
  have htop : rank counts limit = (kept ++ rest.mergeSort ranksBefore).take limit := by
    rw [← rank_eq_of_perm hperm, rank, List.mergeSort_of_pairwise hsorted]
  rw [htop]
  -- Nothing is left out unless the limit is reached.
  have hlength := hperm.length_eq
  rw [List.length_append] at hlength
  by_cases hfull : limit ≤ counts.length
  · rw [List.take_left' (h.length_eq.trans (Nat.min_eq_left hfull))]
  · have hall : kept.length = counts.length :=
      h.length_eq.trans (Nat.min_eq_right (Nat.le_of_not_le hfull))
    have hnone : rest.mergeSort ranksBefore = [] :=
      List.length_eq_zero_iff.1 (by rw [hall] at hlength; exact Nat.add_left_cancel hlength)
    rw [hnone, List.append_nil, List.take_of_length_le (hall.trans_le (Nat.le_of_not_le hfull))]

/-- A ranking keeps the first of its counts, and nothing else is a list of the first of them.
It does not depend on the order in which the counts were given, and ranking again what was
ranked and cut keeps what the lower of the two limits leaves. -/
theorem rank_selects (counts : Counts κ) (limit : Nat) :
    (∀ kept, IsTop counts limit kept ↔ kept = rank counts limit) ∧
      (∀ counts' : Counts κ, counts.Perm counts' → rank counts' limit = rank counts limit) ∧
      ∀ limit', rank (rank counts limit) limit' = rank counts (min limit limit') := by
  refine ⟨fun kept => ⟨fun h => h.eq_rank, ?_⟩, fun counts' hp => ?_, fun limit' => ?_⟩
  · rintro rfl
    exact isTop_rank counts limit
  · exact (rank_eq_of_perm hp limit).symm
  · rw [rank_rank, Nat.min_comm]

/-- Of two equal counts one is kept, after the count that is as high and has the lower key. -/
theorem rank_selects_repeated :
    let counts : Counts UInt16 := [(443, 2), (53, 1), (80, 2), (443, 2)]
    rank counts 2 = [(80, 2), (443, 2)] ∧ rank counts.reverse 2 = [(80, 2), (443, 2)] ∧
      rank (rank counts 3) 2 = [(80, 2), (443, 2)] := by
  intro counts
  have hkept : rank counts 2 = [(80, 2), (443, 2)] := by
    refine (((rank_selects counts 2).1 _).1 ⟨rfl, ?_, [(443, 2), (53, 1)], ?_, ?_⟩).symm
    · decide
    · decide
    · simp [Precedes]
  refine ⟨hkept, ?_, ?_⟩
  · rw [← hkept]
    exact (rank_selects counts 2).2.1 _ (List.reverse_perm counts).symm
  · rw [(rank_selects counts 3).2.2 2]
    exact hkept

end PacketMeter.Stats
