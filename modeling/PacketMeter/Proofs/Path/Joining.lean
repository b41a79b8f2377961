import PacketMeter.Path

/-!
# The pieces of a joined path

The pieces of a path with a slash in it are those of its two sides.  So a name without a slash
that is put under a directory adds itself as the last piece, whether the directory ends with a
slash or not, and it is the last component unless it is empty, `.` or `..`.
-/

namespace PacketMeter.Path

theorem splitFrom_append_slash (current s t : List Char) :
    splitFrom current (s ++ '/' :: t) = splitFrom current s ++ splitFrom [] t := by
  induction s generalizing current with
  | nil => simp [splitFrom]
  | cons c s ih =>
      rw [List.cons_append, splitFrom, splitFrom]
      split
      · rw [ih, List.cons_append]
      · rw [ih]

/-- A text without a slash is one piece. -/
theorem splitFrom_of_not_mem (current : List Char) {s : List Char} (h : '/' ∉ s) :
    splitFrom current s = [current.reverse ++ s] := by
  induction s generalizing current with
  | nil => rw [splitFrom, List.append_nil]
  | cons c s ih =>
      rw [List.mem_cons, not_or] at h
      rw [splitFrom, if_neg (Ne.symm h.1), ih _ h.2, List.reverse_cons, List.append_assoc,
        List.singleton_append]

theorem pieces_append_slash {path a b : String}
    (h : path.toList = a.toList ++ '/' :: b.toList) : pieces path = pieces a ++ pieces b := by
  rw [pieces, h, splitFrom_append_slash, List.filter_append, List.map_append]
  rfl

theorem pieces_empty : pieces "" = [] := rfl

theorem pieces_of_not_mem {name : String} (h : '/' ∉ name.toList) (hne : name ≠ "") :
    pieces name = [name] := by
  have hlist : name.toList ≠ [] := fun he => hne (String.toList_eq_nil_iff.1 he)
  rw [pieces, splitFrom_of_not_mem [] h, List.reverse_nil, List.nil_append,
    List.filter_cons_of_pos (by simpa using hlist), List.filter_nil, List.map_singleton,
    String.ofList_toList]

theorem isAbsolute_of_not_mem {name : String} (h : '/' ∉ name.toList) :
    isAbsolute name = false := by
  rw [isAbsolute, beq_eq_false_iff_ne]
  exact fun hhead => h (List.mem_of_head? hhead)

/-- The three ways in which a name is put under a directory. -/
theorem join_cases (dir : String) {name : String} (h : '/' ∉ name.toList) :
    (dir = "" ∧ join dir name = name) ∨
      (∃ front : String, dir.toList = front.toList ++ ['/'] ∧
        (join dir name).toList = front.toList ++ '/' :: name.toList) ∨
      (dir ≠ "" ∧ (join dir name).toList = dir.toList ++ '/' :: name.toList) := by
  rw [join, isAbsolute_of_not_mem h, if_neg Bool.false_ne_true]
  by_cases hempty : dir = ""
  · subst hempty
    refine .inl ⟨rfl, ?_⟩
    rw [if_pos (by rfl), String.empty_append]
  · by_cases hslash : endsWithSlash dir = true
    · have hlast : dir.toList.getLast? = some '/' := by
        rw [endsWithSlash, beq_iff_eq] at hslash
        exact hslash
      obtain ⟨front, hfront⟩ := List.getLast?_eq_some_iff.1 hlast
      refine .inr (.inl ⟨String.ofList front, ?_, ?_⟩)
      · rw [hfront, String.toList_ofList]
      · rw [hslash, Bool.or_true, if_pos rfl, String.toList_append, hfront,
          String.toList_ofList, List.append_assoc, List.singleton_append]
    · refine .inr (.inr ⟨hempty, ?_⟩)
      have hno : (dir.isEmpty || endsWithSlash dir) = false := by
        rw [Bool.or_eq_false_iff]
        exact ⟨by simpa using hempty, by simpa using hslash⟩
      rw [hno, if_neg Bool.false_ne_true, String.toList_append, String.toList_append,
        List.append_assoc]
      rfl

theorem pieces_join (dir : String) {name : String} (h : '/' ∉ name.toList) :
    pieces (join dir name) = pieces dir ++ pieces name := by
  obtain ⟨rfl, hjoin⟩ | ⟨front, hdir, hjoin⟩ | ⟨-, hjoin⟩ := join_cases dir h
  · rw [hjoin, pieces_empty, List.nil_append]
  · have hfront : pieces dir = pieces front ++ pieces "" := pieces_append_slash hdir
    rw [pieces_append_slash hjoin, hfront, pieces_empty, List.append_nil]
  · exact pieces_append_slash hjoin

theorem isAbsolute_join (dir : String) {name : String} (h : '/' ∉ name.toList) :
    isAbsolute (join dir name) = isAbsolute dir := by
  obtain ⟨rfl, hjoin⟩ | ⟨front, hdir, hjoin⟩ | ⟨hne, hjoin⟩ := join_cases dir h
  · rw [hjoin, isAbsolute_of_not_mem h]
    rfl
  · rw [isAbsolute, isAbsolute, hjoin, hdir]
    cases front.toList with
    | nil => rfl
    | cons c rest => rfl
  · have hlist : dir.toList ≠ [] := fun he => hne (String.toList_eq_nil_iff.1 he)
    rw [isAbsolute, isAbsolute, hjoin]
    cases hd : dir.toList with
    | nil => exact absurd hd hlist
    | cons c rest => rfl

/-- A directory under which the empty name is put ends with a slash. -/
theorem endsWithSlash_join_empty {dir : String} (h : dir ≠ "") :
    endsWithSlash (join dir "") = true := by
  rw [endsWithSlash, beq_iff_eq]
  obtain ⟨hempty, -⟩ | ⟨front, -, hjoin⟩ | ⟨-, hjoin⟩ := join_cases dir (by simp : '/' ∉ "".toList)
  · exact absurd hempty h
  · rw [hjoin, String.toList_empty, List.getLast?_concat]
  · rw [hjoin, String.toList_empty, List.getLast?_concat]

/-! ## Components -/

/-- The components of a path that is absolute or not and has some pieces. -/
def componentsOf (absolute : Bool) (ps : List String) : List Component :=
  (if absolute then [Component.root]
    else if ps.head? = some "." then [Component.current]
    else []) ++ ps.filterMap Component.ofPiece?

theorem components_eq (path : String) :
    components path = componentsOf (isAbsolute path) (pieces path) := rfl

/-- What a last piece adds: nothing if it is `.`, unless it is the only one. -/
theorem componentsOf_concat (absolute : Bool) (ps : List String) (p : String) :
    componentsOf absolute (ps ++ [p]) = componentsOf absolute ps ++
      if absolute = false ∧ ps = [] ∧ p = "." then [Component.current]
      else (Component.ofPiece? p).toList := by
  have hlast : [p].filterMap Component.ofPiece? = (Component.ofPiece? p).toList := by
    cases hp : Component.ofPiece? p <;> simp [hp]
  rw [componentsOf, componentsOf, List.filterMap_append, hlast]
  cases absolute with
  | true => simp
  | false =>
      cases ps with
      | cons q ps => simp
      | nil =>
          by_cases hp : p = "."
          · subst hp
            rfl
          · simp [hp]

/-- A name under a directory is one component more at most. -/
theorem exists_components_join (dir : String) {name : String} (h : '/' ∉ name.toList) :
    ∃ last, components (join dir name) = components dir ++ last ∧ last.length ≤ 1 := by
  rw [components_eq, components_eq, isAbsolute_join dir h, pieces_join dir h]
  by_cases hne : name = ""
  · subst hne
    exact ⟨[], by rw [pieces_empty, List.append_nil, List.append_nil], by simp⟩
  · rw [pieces_of_not_mem h hne, componentsOf_concat]
    refine ⟨_, rfl, ?_⟩
    split
    · exact Nat.le_refl 1
    · cases Component.ofPiece? name <;> simp

theorem components_join (dir : String) {name : String} (h : '/' ∉ name.toList)
    (hne : name ≠ "") (hdot : name ≠ ".") (hdots : name ≠ "..") :
    components (join dir name) = components dir ++ [.name name] := by
  have hlast : Component.ofPiece? name = some (.name name) := by
    rw [Component.ofPiece?, if_neg hdot, if_neg hdots]
  rw [components_eq, components_eq, isAbsolute_join dir h, pieces_join dir h,
    pieces_of_not_mem h hne, componentsOf_concat, if_neg fun hcurrent => hdot hcurrent.2.2, hlast]
  rfl

/-- A name lies in the directory that it was put under. -/
theorem parent?_join (dir : String) {name : String} (h : '/' ∉ name.toList)
    (hne : name ≠ "") (hdot : name ≠ ".") (hdots : name ≠ "..") :
    parent? (join dir name) = some (components dir) := by
  rw [parent?, components_join dir h hne hdot hdots, List.getLast?_concat, List.dropLast_concat]

/-- What a name lies in is no longer than the directory that it was put under. -/
theorem isPrefix_of_parent?_join {dir name : String} (h : '/' ∉ name.toList)
    {parent : List Component} (hp : parent? (join dir name) = some parent) :
    parent <+: components dir := by
  obtain ⟨last, hlast, hlen⟩ := exists_components_join dir h
  have hparent : parent = (components dir ++ last).dropLast := by
    rw [← hlast]
    unfold parent? at hp
    split at hp
    · exact absurd hp (by simp)
    · exact absurd hp (by simp)
    · exact (Option.some.inj hp).symm
  rw [hparent]
  obtain rfl | ⟨x, rfl⟩ : last = [] ∨ ∃ x, last = [x] := by
    cases last with
    | nil => exact .inl rfl
    | cons x rest =>
        rw [List.length_cons] at hlen
        exact .inr ⟨x, by rw [List.length_eq_zero_iff.1 (by omega : rest.length = 0)]⟩
  · rw [List.append_nil]
    exact List.dropLast_prefix _
  · exact ⟨[], by rw [List.append_nil, List.dropLast_concat]⟩

end PacketMeter.Path
