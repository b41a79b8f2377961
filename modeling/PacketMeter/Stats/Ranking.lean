/-!
# Rankings

A count is a key with the number of times that it was seen.  A ranking lists
counts with the highest first, and equal counts in the order of their keys, so
that the order in which the counts were given does not matter.

`rank` keeps the first entries of a ranking.  A ranking that was cut before can be
ranked again with any smaller limit.

Counts are kept in a map that may be read and written at the same time.  A key that is
not there is put in at zero before it is counted, and a count is one word, which is added
to as a whole and starts at zero again after the greatest.  Such a map gives its entries
in no certain order.  Here they stand in the order in which their keys were first seen,
on which a ranking does not depend.
-/

namespace PacketMeter.Stats

/-- Keys with the number of times that each was seen. -/
abbrev Counts (κ : Type) := List (κ × UInt64)

variable {κ : Type}

/-- Whether a count stands before another in a ranking, or may stand there. -/
def ranksBefore [LE κ] [DecidableLE κ] (a b : κ × UInt64) : Bool :=
  b.2 < a.2 || (a.2 == b.2 && decide (a.1 ≤ b.1))

/-- The first `limit` entries of the ranking of some counts. -/
def rank [LE κ] [DecidableLE κ] (counts : Counts κ) (limit : Nat) : Counts κ :=
  (counts.mergeSort ranksBefore).take limit

namespace Counts

/-- The counts after a key was seen once more.  Counts are words, and start at
zero again after the greatest. -/
def bump [BEq κ] (key : κ) : Counts κ → Counts κ
  | [] => [(key, 1)]
  | (k, n) :: rest => if k == key then (k, n + 1) :: rest else (k, n) :: bump key rest

def keys (counts : Counts κ) : List κ := counts.map Prod.fst

/-- How often a key was seen. -/
def countOf [BEq κ] (key : κ) (counts : Counts κ) : UInt64 := (counts.lookup key).getD 0

@[simp] theorem bump_nil [BEq κ] (key : κ) : bump key [] = [(key, 1)] := rfl

@[simp] theorem keys_nil : keys ([] : Counts κ) = [] := rfl

/-- Seeing a key adds it to the keys unless it is there already. -/
theorem keys_bump [BEq κ] [LawfulBEq κ] (key : κ) (counts : Counts κ) :
    (bump key counts).keys = if key ∈ counts.keys then counts.keys else counts.keys ++ [key] := by
  induction counts with
  | nil => rfl
  | cons c rest ih =>
    obtain ⟨k, n⟩ := c
    by_cases h : k = key
    · simp [bump, keys, h]
    · have h' : ¬ key = k := fun e => h e.symm
      simp only [keys] at ih
      simp only [bump, beq_iff_eq, h, if_false, keys, List.map_cons, ih, List.mem_cons, h',
        false_or]
      by_cases hm : key ∈ rest.map Prod.fst <;> simp [hm]

end Counts

/-- A ranking has no more entries than its limit. -/
theorem length_rank [LE κ] [DecidableLE κ] (counts : Counts κ) (limit : Nat) :
    (rank counts limit).length = min limit counts.length := by
  simp [rank]

end PacketMeter.Stats
