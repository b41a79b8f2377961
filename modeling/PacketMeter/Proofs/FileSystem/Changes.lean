import PacketMeter.FileSystem
import PacketMeter.Proofs.Entries

/-!
# What file operations change

A path leads to one location, which its components name whatever stands there.  An operation on
the path that gives a result has worked on that location and on no other.

Directories stay where they are under every operation.  So a walk that has come to its end comes
to the same end afterwards, and making the same directories again, or writing the same file
again, changes nothing.
-/

namespace PacketMeter

namespace Path

/-- Where a component leads from a location. -/
def Component.step (loc : List String) : Component → List String
  | .root => []
  | .current => loc
  | .parent => loc.dropLast
  | .name s => loc ++ [s]

/-- Where a piece leads from a location. -/
def follow (loc : List String) (piece : String) : List String :=
  match Component.ofPiece? piece with
  | none => loc
  | some c => c.step loc

/-- The locations that are named on the way along components. -/
def along (loc : List String) : List Component → List (List String)
  | [] => []
  | .root :: rest => along [] rest
  | .current :: rest => along loc rest
  | .parent :: rest => along loc.dropLast rest
  | .name s :: rest => (loc ++ [s]) :: along (loc ++ [s]) rest

@[simp] theorem follow_dot (loc : List String) : follow loc "." = loc := rfl

@[simp] theorem follow_dots (loc : List String) : follow loc ".." = loc.dropLast := rfl

theorem follow_name (loc : List String) {s : String} (hdot : s ≠ ".") (hdots : s ≠ "..") :
    follow loc s = loc ++ [s] := by
  rw [follow, Component.ofPiece?, if_neg hdot, if_neg hdots]
  rfl

theorem foldl_ofPiece (loc : List String) (ps : List String) :
    (ps.filterMap Component.ofPiece?).foldl Component.step loc = ps.foldl follow loc := by
  induction ps generalizing loc with
  | nil => rfl
  | cons p ps ih =>
      rw [List.foldl_cons, ← ih, List.filterMap_cons, follow]
      cases Component.ofPiece? p with
      | none => rfl
      | some c => rfl

theorem along_append (loc : List String) (front rest : List Component) :
    along loc (front ++ rest) =
      along loc front ++ along (front.foldl Component.step loc) rest := by
  induction front generalizing loc with
  | nil => rfl
  | cons c front ih => cases c <;> simp [along, Component.step, ih]

/-- Without a component that leads up, no location on the way lies deeper than its end. -/
theorem length_le_of_mem_along {cs : List Component} (hroot : .root ∉ cs) (hup : .parent ∉ cs)
    (start : List String) :
    start.length ≤ (cs.foldl Component.step start).length ∧
      ∀ loc ∈ along start cs, loc.length ≤ (cs.foldl Component.step start).length := by
  induction cs generalizing start with
  | nil => exact ⟨Nat.le_refl _, fun loc h => absurd h List.not_mem_nil⟩
  | cons c cs ih =>
      rw [List.mem_cons, not_or] at hroot hup
      have rest := ih hroot.2 hup.2
      cases c with
      | root => exact absurd rfl hroot.1
      | parent => exact absurd rfl hup.1
      | current => exact rest start
      | name s =>
          obtain ⟨hstart, hloc⟩ := rest (start ++ [s])
          refine ⟨?_, fun loc h => ?_⟩
          · rw [List.length_append] at hstart
            exact Nat.le_trans (Nat.le_add_right _ _) hstart
          · rw [along, List.mem_cons] at h
            obtain rfl | h := h
            · exact hstart
            · exact hloc loc h

end Path

namespace FileSystem

variable {fs fs' fs'' : FileSystem} {path : String} {loc : List String}

/-- The location that a path leads to. -/
def location (fs : FileSystem) (path : String) : List String :=
  (Path.components path).foldl Path.Component.step fs.workingDirectory

/-- The locations that are named on the way to the end of a path, the end among them. -/
def wayTo (fs : FileSystem) (path : String) : List (List String) :=
  Path.along fs.workingDirectory (Path.components path)

theorem location_eq_foldl (fs : FileSystem) (path : String) :
    fs.location path = (Path.pieces path).foldl Path.follow (fs.start path) := by
  rw [location, Path.components, List.foldl_append, Path.foldl_ofPiece, start]
  congr 1
  cases Path.isAbsolute path with
  | true => rfl
  | false =>
      simp only [Bool.false_eq_true, if_false]
      split <;> rfl

theorem wayTo_eq_along (fs : FileSystem) (path : String) :
    fs.wayTo path =
      Path.along (fs.start path) ((Path.pieces path).filterMap Path.Component.ofPiece?) := by
  rw [wayTo, Path.components, Path.along_append, start]
  cases Path.isAbsolute path with
  | true => rfl
  | false =>
      simp only [Bool.false_eq_true, if_false]
      split <;> rfl

/-- A path without a component that leads up comes to no location deeper than its end. -/
theorem length_le_of_mem_wayTo (hup : .parent ∉ Path.components path) (h : loc ∈ fs.wayTo path) :
    loc.length ≤ (fs.location path).length := by
  have hroot : Path.Component.root ∉ (Path.pieces path).filterMap Path.Component.ofPiece? := by
    simp only [List.mem_filterMap, not_exists, not_and]
    intro p _ hp
    unfold Path.Component.ofPiece? at hp
    repeat' split at hp
    all_goals exact absurd hp (by simp)
  rw [Path.components, List.mem_append, not_or] at hup
  rw [wayTo_eq_along] at h
  rw [location_eq_foldl, ← Path.foldl_ofPiece]
  exact (Path.length_le_of_mem_along hroot hup.2 _).2 loc h

/-! ## What stands at a location after a change -/

@[simp] theorem node?_put_of_ne (fs : FileSystem) (n : Node) {other : List String}
    (h : other ≠ loc) : (fs.put loc n).node? other = fs.node? other := by
  simp only [node?, put]
  rw [Entries.lookup_cons_of_ne _ _ h, Entries.lookup_filter_ne, if_neg h]

@[simp] theorem node?_remove_self (fs : FileSystem) (h : loc ≠ []) :
    (fs.remove loc).node? loc = none := by
  simp only [node?, remove]
  rw [if_neg h, Entries.lookup_filter_ne, if_pos rfl]

@[simp] theorem node?_remove_of_ne (fs : FileSystem) {other : List String} (h : other ≠ loc) :
    (fs.remove loc).node? other = fs.node? other := by
  simp only [node?, remove]
  rw [Entries.lookup_filter_ne, if_neg h]

theorem put_put (fs : FileSystem) (loc : List String) (n : Node) :
    (fs.put loc n).put loc n = fs.put loc n := by
  simp [put, List.filter_filter]

/-- Nothing has changed except at some locations that were touched, and at others that held
nothing and were made directories. -/
structure Differs (touched made : List (List String)) (fs fs' : FileSystem) : Prop where
  workingDirectory : fs'.workingDirectory = fs.workingDirectory
  node : ∀ loc, loc ∉ touched → fs'.node? loc = fs.node? loc ∨
    (loc ∈ made ∧ fs.node? loc = none ∧ fs'.node? loc = some .directory)

/-- Directories are where they were, and so is the one that relative paths start at. -/
structure Retains (fs fs' : FileSystem) : Prop where
  workingDirectory : fs'.workingDirectory = fs.workingDirectory
  directory : ∀ {loc}, fs.node? loc = some .directory → fs'.node? loc = some .directory

section Differs

variable {touched touched' made made' : List (List String)}

theorem Differs.refl (touched made : List (List String)) (fs : FileSystem) :
    Differs touched made fs fs := ⟨rfl, fun _ _ => .inl rfl⟩

theorem Differs.mono (h : Differs touched made fs fs') (ht : touched ⊆ touched')
    (hm : made ⊆ made') : Differs touched' made' fs fs' where
  workingDirectory := h.workingDirectory
  node loc hloc := (h.node loc fun ht' => hloc (ht ht')).imp_right fun hn => ⟨hm hn.1, hn.2⟩

theorem Differs.trans (h : Differs touched made fs fs') (h' : Differs touched made fs' fs'') :
    Differs touched made fs fs'' where
  workingDirectory := h'.workingDirectory.trans h.workingDirectory
  node loc hloc := by
    obtain hn | ⟨hm, hnone, hdir⟩ := h.node loc hloc
    · rw [← hn]
      exact h'.node loc hloc
    · -- What was made a directory before is still one.
      obtain hn' | ⟨-, hnone', -⟩ := h'.node loc hloc
      · exact .inr ⟨hm, hnone, hn'.trans hdir⟩
      · rw [hdir] at hnone'
        exact absurd hnone' (by simp)

/-- Directories are kept where no directory is touched. -/
theorem Differs.retains (h : Differs touched made fs fs')
    (ht : ∀ loc ∈ touched, fs.node? loc ≠ some .directory) : Retains fs fs' where
  workingDirectory := h.workingDirectory
  directory {loc} hd := by
    obtain hn | ⟨-, hnone, -⟩ := h.node loc fun hloc => ht loc hloc hd
    · rw [hn, hd]
    · rw [hd] at hnone
      exact absurd hnone (by simp)

theorem Differs.location (h : Differs touched made fs fs') (path : String) :
    fs'.location path = fs.location path := by
  rw [FileSystem.location, h.workingDirectory]
  rfl

/-- Files are neither made nor changed where nothing is touched. -/
theorem Differs.file_iff (h : Differs touched made fs fs') (hloc : loc ∉ touched)
    (c : List UInt8) : fs'.node? loc = some (.file c) ↔ fs.node? loc = some (.file c) := by
  obtain hn | ⟨-, hnone, hdir⟩ := h.node loc hloc
  · rw [hn]
  · simp [hnone, hdir]

theorem differs_put (fs : FileSystem) (loc : List String) (n : Node) :
    Differs [loc] [] fs (fs.put loc n) :=
  ⟨rfl, fun _ h => .inl (node?_put_of_ne fs n (fun he => h (List.mem_singleton.2 he)))⟩

theorem differs_remove (fs : FileSystem) (loc : List String) :
    Differs [loc] [] fs (fs.remove loc) :=
  ⟨rfl, fun _ h => .inl (node?_remove_of_ne fs (fun he => h (List.mem_singleton.2 he)))⟩

theorem differs_put_directory (h : fs.node? loc = none) (hloc : loc ≠ []) :
    Differs [] [loc] fs (fs.put loc .directory) where
  workingDirectory := rfl
  node other _ := by
    by_cases ho : other = loc
    · subst ho
      exact .inr ⟨List.mem_singleton_self _, h, node?_put_self fs _ hloc⟩
    · exact .inl (node?_put_of_ne fs _ ho)

end Differs

/-! ## Walks -/

/-- A walk along pieces goes from directory to directory. -/
theorem descend_cons_eq_ok_iff {p : String} {ps dir : List String} :
    fs.descend loc (p :: ps) = .ok dir ↔
      fs.node? loc = some .directory ∧
        (p = "." ∨ p = ".." ∨ (p.utf8ByteSize ≤ 255 ∧ (fs.node? (loc ++ [p])).isSome)) ∧
        fs.descend (Path.follow loc p) ps = .ok dir := by
  rw [descend]
  cases hn : fs.node? loc with
  | none => simp
  | some n =>
      cases n with
      | file c => simp
      | directory =>
          simp only [true_and]
          split
          · next hdot => simp [hdot]
          · next hdot =>
              split
              · next hdots => simp [hdots]
              · next hdots =>
                  rw [Path.follow_name loc hdot hdots]
                  split
                  · next hlong =>
                      simp [hdot, hdots, Nat.not_le.2 hlong]
                  · next hshort =>
                      cases fs.node? (loc ++ [p]) <;>
                        simp [hdot, hdots, Nat.not_lt.1 hshort]

theorem eq_foldl_of_descend {ps dir : List String} (h : fs.descend loc ps = .ok dir) :
    dir = ps.foldl Path.follow loc := by
  induction ps generalizing loc with
  | nil => exact (Except.ok.inj h).symm
  | cons p ps ih => exact ih (descend_cons_eq_ok_iff.1 h).2.2

theorem directory_of_descend {ps dir : List String} (h : fs.descend loc ps = .ok dir)
    (hdir : fs.node? dir = some .directory) : fs.node? loc = some .directory := by
  cases ps with
  | nil => rwa [Except.ok.inj h]
  | cons p ps => exact (descend_cons_eq_ok_iff.1 h).1

/-- A walk that ends at a directory ends there as long as directories are kept. -/
theorem Retains.descend (hr : Retains fs fs') {ps dir : List String}
    (h : fs.descend loc ps = .ok dir) (hdir : fs.node? dir = some .directory) :
    fs'.descend loc ps = .ok dir := by
  induction ps generalizing loc with
  | nil => exact h
  | cons p ps ih =>
      obtain ⟨hloc, hp, hrest⟩ := descend_cons_eq_ok_iff.1 h
      refine descend_cons_eq_ok_iff.2 ⟨hr.directory hloc, ?_, ih hrest⟩
      by_cases hdot : p = "."
      · exact .inl hdot
      · by_cases hdots : p = ".."
        · exact .inr (.inl hdots)
        · have hnext := directory_of_descend hrest hdir
          rw [Path.follow_name loc hdot hdots] at hnext
          obtain hp | hp | hp := hp
          · exact absurd hp hdot
          · exact absurd hp hdots
          · exact .inr (.inr ⟨hp.1, by rw [hr.directory hnext]; rfl⟩)

/-- A path that can be walked at all. -/
def Walkable (path : String) : Prop :=
  path.toList.contains '\x00' = false ∧ path.utf8ByteSize < 4096 ∧ path ≠ ""

/-- A path leads to a name in a directory if its last piece is a name and the others lead to the
directory. -/
theorem target_eq_entry_iff :
    fs.target path = .ok (.entry loc) ↔
      Walkable path ∧ ∃ front last dir, Path.pieces path = front ++ [last] ∧
        fs.descend (fs.start path) front = .ok dir ∧ fs.node? dir = some .directory ∧
        last ≠ "." ∧ last ≠ ".." ∧ loc = dir ++ [last] := by
  constructor
  · intro h
    unfold target at h
    split at h
    · exact absurd h (by simp)
    split at h
    · exact absurd h (by simp)
    split at h
    · exact absurd h (by simp)
    next hnul hlong hempty =>
    refine ⟨⟨by simpa using hnul, Nat.not_le.1 hlong, by simpa using hempty⟩, ?_⟩
    split at h
    · exact absurd h (by simp)
    next last hlast =>
    split at h
    · exact absurd h (by simp)
    next dir hdir =>
    split at h
    · exact absurd h (by simp)
    · exact absurd h (by simp)
    next hnode =>
    split at h
    · exact absurd h (by simp)
    next hname =>
    rw [not_or] at hname
    have hloc : dir ++ [last] = loc := by simpa using h
    exact ⟨(Path.pieces path).dropLast, last, dir,
      (List.dropLast_append_getLast? last hlast).symm, hdir, hnode, hname.1, hname.2, hloc.symm⟩
  · rintro ⟨⟨hnul, hlong, hempty⟩, front, last, dir, hpieces, hdir, hnode, hdot, hdots, rfl⟩
    rw [target, hnul, if_neg Bool.false_ne_true, if_neg (Nat.not_le.2 hlong),
      if_neg (by simpa using hempty), hpieces, List.getLast?_concat, List.dropLast_concat]
    simp [hdir, hnode, hdot, hdots]

/-- The name that a path leads to stands at the location of the path. -/
theorem eq_location_of_target (h : fs.target path = .ok (.entry loc)) :
    loc = fs.location path ∧ loc ≠ [] := by
  obtain ⟨-, front, last, dir, hpieces, hdir, -, hdot, hdots, rfl⟩ := target_eq_entry_iff.1 h
  refine ⟨?_, List.append_ne_nil_of_right_ne_nil _ (List.cons_ne_nil _ _)⟩
  rw [location_eq_foldl, hpieces, List.foldl_append, ← eq_foldl_of_descend hdir, List.foldl_cons,
    List.foldl_nil, Path.follow_name dir hdot hdots]

/-- A path whose last piece is a name never leads to a directory's own end. -/
theorem target_ne_directory {last : String} (hlast : (Path.pieces path).getLast? = some last)
    (hdot : last ≠ ".") (hdots : last ≠ "..") : fs.target path ≠ .ok .directory := by
  intro h
  unfold target at h
  rw [hlast] at h
  simp only [hdot, hdots, or_self, if_false] at h
  repeat' split at h
  all_goals exact absurd h (by simp)

theorem Retains.start (hr : Retains fs fs') (path : String) : fs'.start path = fs.start path := by
  rw [FileSystem.start, FileSystem.start, hr.workingDirectory]

/-- A path leads to the same name as long as directories are kept. -/
theorem Retains.target (hr : Retains fs fs') (h : fs.target path = .ok (.entry loc)) :
    fs'.target path = .ok (.entry loc) := by
  obtain ⟨hpath, front, last, dir, hpieces, hdir, hnode, hlast⟩ := target_eq_entry_iff.1 h
  exact target_eq_entry_iff.2 ⟨hpath, front, last, dir, hpieces,
    by rw [hr.start]; exact hr.descend hdir hnode, hr.directory hnode, hlast⟩

/-! ## Files -/

theorem stat_eq_file_iff {c : List UInt8} :
    fs.stat path = .ok (.file c) ↔
      ∃ loc, fs.target path = .ok (.entry loc) ∧ tooLong loc = false ∧
        fs.node? loc = some (.file c) ∧ Path.endsWithSlash path = false := by
  unfold stat
  cases ht : fs.target path with
  | error f => simp
  | ok t =>
      cases t with
      | directory => simp
      | entry loc =>
          cases hl : tooLong loc with
          | true => simp [hl]
          | false =>
              cases hn : fs.node? loc with
              | none => simp [hl, hn]
              | some n =>
                  cases n with
                  | directory => simp [hl, hn]
                  | file d => cases hs : Path.endsWithSlash path <;> simp [hl, hn]

theorem write_eq_ok_iff {c : List UInt8} :
    fs.write path c = .ok fs' ↔
      ∃ loc, fs.target path = .ok (.entry loc) ∧ Path.endsWithSlash path = false ∧
        tooLong loc = false ∧ fs.node? loc ≠ some .directory ∧ fs.refusal? loc = none ∧
        fs.put loc (.file c) = fs' := by
  unfold write
  cases ht : fs.target path with
  | error f => simp
  | ok t =>
      cases t with
      | directory => simp
      | entry loc =>
          cases hs : Path.endsWithSlash path with
          | true => simp
          | false =>
              cases hl : tooLong loc with
              | true => simp [hl]
              | false =>
                  cases hr : fs.refusal? loc <;> rcases hn : fs.node? loc with _ | _ | d <;>
                    simp [hl, hn, hr]

theorem unlink_eq_ok_iff :
    fs.unlink path = .ok fs' ↔
      ∃ loc c, fs.target path = .ok (.entry loc) ∧ tooLong loc = false ∧
        fs.node? loc = some (.file c) ∧ Path.endsWithSlash path = false ∧
        fs.refusal? loc = none ∧ fs.remove loc = fs' := by
  unfold unlink
  cases ht : fs.target path with
  | error f => simp
  | ok t =>
      cases t with
      | directory => simp
      | entry loc =>
          cases hl : tooLong loc with
          | true => simp [hl]
          | false =>
              rcases hn : fs.node? loc with _ | _ | d
              · simp [hl, hn]
              · simp [hl, hn]
              · cases hs : Path.endsWithSlash path <;> cases hr : fs.refusal? loc <;>
                  simp [hl, hn, hr]

theorem Differs.stat_file (h : Differs [] made fs fs') {c : List UInt8}
    (hs : fs.stat path = .ok (.file c)) : fs'.stat path = .ok (.file c) := by
  obtain ⟨loc, ht, hl, hn, hslash⟩ := stat_eq_file_iff.1 hs
  have hr : Retains fs fs' := h.retains fun _ hl => absurd hl List.not_mem_nil
  exact stat_eq_file_iff.2
    ⟨loc, hr.target ht, hl, (h.file_iff List.not_mem_nil c).2 hn, hslash⟩

/-- What stands at the end of a path stands at its location, but for a directory's own end. -/
theorem node?_of_stat {n : Node} (h : fs.stat path = .ok n) :
    fs.target path = .ok .directory ∨ fs.node? (fs.location path) = some n := by
  unfold stat at h
  split at h
  · exact absurd h (by simp)
  · next ht => exact .inl ht
  · next loc ht =>
    rw [← (eq_location_of_target ht).1]
    split at h
    · exact absurd h (by simp)
    split at h
    · exact absurd h (by simp)
    · next hn => exact .inr (by rw [hn, Except.ok.inj h])
    · next hn =>
      split at h
      · exact absurd h (by simp)
      · exact .inr (by rw [hn, Except.ok.inj h])

theorem node?_of_stat_file {c : List UInt8} (h : fs.stat path = .ok (.file c)) :
    fs.node? (fs.location path) = some (.file c) := by
  obtain ⟨loc, ht, -, hn, -⟩ := stat_eq_file_iff.1 h
  rw [← (eq_location_of_target ht).1, hn]

/-- A file that stands at the end of a path is not missing when it is taken away. -/
theorem kind_ne_of_unlink {c : List UInt8} {f : Fault} (hs : fs.stat path = .ok (.file c))
    (h : fs.unlink path = .error f) : f.kind ≠ .notFound := by
  obtain ⟨loc, ht, hl, hn, hslash⟩ := stat_eq_file_iff.1 hs
  rw [unlink, ht] at h
  simp only [hl, hn, hslash, Bool.false_eq_true, if_false] at h
  cases hr : fs.refusal? loc with
  | none => simp [hr] at h
  | some r =>
      rw [hr] at h
      rw [← Except.error.inj h]
      exact r.kind_ne

theorem retains_put_file {c : List UInt8} (h : fs.node? loc ≠ some .directory) :
    Retains fs (fs.put loc (.file c)) :=
  (differs_put fs loc _).retains fun l hl => by rwa [List.mem_singleton.1 hl]

theorem retains_remove_file (h : fs.node? loc ≠ some .directory) : Retains fs (fs.remove loc) :=
  (differs_remove fs loc).retains fun l hl => by rwa [List.mem_singleton.1 hl]

/-- A file that was written stands at the end of its path. -/
theorem stat_of_write {c : List UInt8} (h : fs.write path c = .ok fs') :
    fs'.stat path = .ok (.file c) := by
  obtain ⟨loc, ht, hslash, hl, hn, -, rfl⟩ := write_eq_ok_iff.1 h
  exact stat_eq_file_iff.2 ⟨loc, (retains_put_file hn).target ht, hl,
    node?_put_self fs _ (eq_location_of_target ht).2, hslash⟩

/-- Writing a file again changes nothing. -/
theorem write_write {c : List UInt8} (h : fs.write path c = .ok fs') :
    fs'.write path c = .ok fs' := by
  obtain ⟨loc, ht, hslash, hl, hn, hr, rfl⟩ := write_eq_ok_iff.1 h
  refine write_eq_ok_iff.2 ⟨loc, (retains_put_file hn).target ht, hslash, hl, ?_, hr,
    put_put fs loc _⟩
  rw [node?_put_self fs _ (eq_location_of_target ht).2]
  simp

/-- A file that was taken away is missing. -/
theorem unlink_unlink (h : fs.unlink path = .ok fs') : fs'.unlink path = .error missing := by
  obtain ⟨loc, c, ht, hl, hn, -, -, rfl⟩ := unlink_eq_ok_iff.1 h
  have hfile : fs.node? loc ≠ some .directory := by simp [hn]
  rw [unlink, (retains_remove_file hfile).target ht]
  simp [hl, node?_remove_self fs (eq_location_of_target ht).2]

theorem differs_of_write {c : List UInt8} (h : fs.write path c = .ok fs') :
    Differs [fs.location path] [] fs fs' := by
  obtain ⟨loc, ht, -, -, -, -, rfl⟩ := write_eq_ok_iff.1 h
  rw [← (eq_location_of_target ht).1]
  exact differs_put fs loc _

theorem differs_of_unlink (h : fs.unlink path = .ok fs') :
    Differs [fs.location path] [] fs fs' ∧ fs'.node? (fs.location path) = none := by
  obtain ⟨loc, c, ht, -, -, -, -, rfl⟩ := unlink_eq_ok_iff.1 h
  obtain ⟨rfl, hne⟩ := eq_location_of_target ht
  exact ⟨differs_remove fs _, node?_remove_self fs hne⟩

/-! ## Directories -/

theorem makeAlong_differs (fs : FileSystem) (loc : List String) (cs : List Path.Component) :
    Differs [] (Path.along loc cs) fs (fs.makeAlong loc cs).2 := by
  induction cs generalizing fs loc with
  | nil => exact .refl _ _ fs
  | cons c cs ih =>
      cases c with
      | root => exact ih fs []
      | current => exact ih fs loc
      | parent => exact ih fs loc.dropLast
      | name s =>
          have hrest := fun fs' : FileSystem => (ih fs' (loc ++ [s])).mono
            (List.Subset.refl _) (List.subset_cons_self (loc ++ [s]) _)
          rw [makeAlong, Path.along]
          split
          · exact .refl _ _ fs
          · split
            · exact hrest fs
            · exact .refl _ _ fs
            · exact .refl _ _ fs
            · next hnone _ =>
                refine .trans (.mono (differs_put_directory hnone (by simp))
                  (List.Subset.refl _) ?_) (hrest _)
                exact List.cons_subset_cons _ (List.nil_subset _)

/-- Making directories keeps those that are there. -/
theorem makeAlong_retains (fs : FileSystem) (loc : List String) (cs : List Path.Component) :
    Retains fs (fs.makeAlong loc cs).2 :=
  (makeAlong_differs fs loc cs).retains fun _ h => absurd h List.not_mem_nil

theorem makeAlong_of_directory {s : String} {rest : List Path.Component}
    (hshort : ¬255 < s.utf8ByteSize) (h : fs.node? (loc ++ [s]) = some .directory) :
    fs.makeAlong loc (.name s :: rest) = fs.makeAlong (loc ++ [s]) rest := by
  rw [makeAlong, if_neg hshort, h]

/-- Making the same directories again comes to the same end. -/
theorem makeAlong_makeAlong (fs : FileSystem) (loc : List String) (cs : List Path.Component) :
    (fs.makeAlong loc cs).2.makeAlong loc cs = fs.makeAlong loc cs := by
  induction cs generalizing fs loc with
  | nil => rfl
  | cons c cs ih =>
      cases c with
      | root => exact ih fs []
      | current => exact ih fs loc
      | parent => exact ih fs loc.dropLast
      | name s =>
          by_cases hlong : 255 < s.utf8ByteSize
          · simp only [makeAlong, if_pos hlong]
          · -- Whether the directory was there or was made, it is there the second time.
            have hagain : ∀ fs' : FileSystem, fs'.node? (loc ++ [s]) = some .directory →
                (fs'.makeAlong (loc ++ [s]) cs).2.makeAlong loc (.name s :: cs) =
                  fs'.makeAlong (loc ++ [s]) cs := by
              intro fs' h
              rw [makeAlong_of_directory hlong ((makeAlong_retains fs' _ cs).directory h)]
              exact ih fs' _
            rcases hn : fs.node? (loc ++ [s]) with _ | _ | d
            · cases hr : fs.refusal? (loc ++ [s]) with
              | some r => simp only [makeAlong, if_neg hlong, hn, hr]
              | none =>
                  have hmade : fs.makeAlong loc (.name s :: cs) =
                      (fs.put (loc ++ [s]) .directory).makeAlong (loc ++ [s]) cs := by
                    rw [makeAlong, if_neg hlong, hn, hr]
                  rw [hmade]
                  exact hagain _ (node?_put_self fs _ (by simp))
            · rw [makeAlong_of_directory hlong hn]
              exact hagain fs hn
            · simp only [makeAlong, if_neg hlong, hn]

/-- Where all directories are there, they are as long as directories are kept. -/
theorem Retains.makeAlong (hr : Retains fs fs') {cs : List Path.Component}
    (h : fs.makeAlong loc cs = (.ok (), fs)) : fs'.makeAlong loc cs = (.ok (), fs') := by
  induction cs generalizing loc with
  | nil => rfl
  | cons c cs ih =>
      cases c with
      | root => exact ih h
      | current => exact ih h
      | parent => exact ih h
      | name s =>
          by_cases hlong : 255 < s.utf8ByteSize
          · simp [FileSystem.makeAlong, hlong] at h
          · rcases hn : fs.node? (loc ++ [s]) with _ | _ | d
            · cases hrefusal : fs.refusal? (loc ++ [s]) with
              | some r => simp [FileSystem.makeAlong, hlong, hn, hrefusal] at h
              | none =>
                  -- A directory that had to be made was not there before.
                  simp only [FileSystem.makeAlong, if_neg hlong, hn, hrefusal] at h
                  have hkept := makeAlong_retains (fs.put (loc ++ [s]) .directory) (loc ++ [s]) cs
                  rw [h] at hkept
                  have hdir := hkept.directory (node?_put_self fs .directory (by simp))
                  rw [hn] at hdir
                  exact absurd hdir (by simp)
            · rw [makeAlong_of_directory hlong hn] at h
              rw [makeAlong_of_directory hlong (hr.directory hn)]
              exact ih h
            · simp [FileSystem.makeAlong, hlong, hn] at h

theorem makePath_differs (fs : FileSystem) (cs : List Path.Component) :
    Differs [] (Path.along fs.workingDirectory cs) fs (fs.makePath cs).2 := by
  rw [makePath]
  split
  · exact .refl _ _ fs
  · exact makeAlong_differs fs _ cs

theorem makePath_makePath (fs : FileSystem) (cs : List Path.Component) :
    (fs.makePath cs).2.makePath cs = fs.makePath cs := by
  rw [makePath, (makePath_differs fs cs).workingDirectory, makePath]
  split
  · rfl
  · exact makeAlong_makeAlong fs _ cs

theorem Retains.makePath (hr : Retains fs fs') {cs : List Path.Component}
    (h : fs.makePath cs = (.ok (), fs)) : fs'.makePath cs = (.ok (), fs') := by
  rw [FileSystem.makePath] at h ⊢
  split
  · next hnul => simp [hnul] at h
  · next hnul =>
      rw [if_neg hnul] at h
      rw [hr.workingDirectory]
      exact hr.makeAlong h

end FileSystem

end PacketMeter
