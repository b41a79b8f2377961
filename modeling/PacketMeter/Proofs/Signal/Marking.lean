import PacketMeter.Signal
import PacketMeter.Proofs.FileSystem.Changes
import PacketMeter.Proofs.Path.Joining

/-!
# Marker files follow the calls

A marker is set and reset again and again, and any of the calls may fail, as the system refuses
now this change and now that one.  Nobody else changes the files.

Whatever fails, the marker is there as an empty file just when the last call that worked was a
set.  A signal asks less than that, whether anything at all stands at the path of the marker, and
this is the same unless a directory can stand there.  It can where the name of the signal is no
name of a file: the path of the signal `..` is that of a directory, which a set that fails has
made.
-/

namespace PacketMeter

namespace Marker

open FileSystem (Differs)

/-! ## One call -/

/-- A call on a signal. -/
inductive Call where
  | set
  | reset
  deriving Repr, DecidableEq

/-- Makes a call. -/
def perform (m : Marker) : Call → FileSystem → Except Failure Unit × FileSystem
  | .set => m.set
  | .reset => m.reset

/-- The place of a marker. -/
def place (m : Marker) (fs : FileSystem) : List String := fs.location m.path

/-- The components of the directory of a marker. -/
def directory (m : Marker) : List Path.Component := (Path.parent? m.path).getD []

/-- The locations on the way to the directory of a marker. -/
def way (m : Marker) (fs : FileSystem) : List (List String) :=
  Path.along fs.workingDirectory m.directory

variable (m : Marker) (fs : FileSystem)

theorem makeDirectory_eq : m.makeDirectory fs = fs.makePath m.directory := by
  rw [makeDirectory, directory]
  cases Path.parent? m.path <;> rfl

theorem makeDirectory_differs : Differs [] (m.way fs) fs (m.makeDirectory fs).2 := by
  rw [makeDirectory_eq]
  exact FileSystem.makePath_differs fs m.directory

/-- A set makes directories, and then it has failed or has written the marker. -/
theorem set_cases :
    (∃ e, m.set fs = (.error e, (m.makeDirectory fs).2)) ∨
      ∃ fs', (m.makeDirectory fs).1 = .ok () ∧ (m.makeDirectory fs).2.write m.path [] = .ok fs' ∧
        m.set fs = (.ok (), fs') := by
  rw [set]
  obtain ⟨made, dirs⟩ := m.makeDirectory fs
  cases made with
  | error f => exact .inl ⟨.io f, rfl⟩
  | ok _ =>
      cases hw : dirs.write m.path [] with
      | error f => exact .inl ⟨.io f, by simp [hw]⟩
      | ok fs' => exact .inr ⟨fs', rfl, rfl, by simp [hw]⟩

/-- What can come of a call: it has failed and has made directories at most, or it has put the
marker in its place, or has taken it away, or there was none. -/
inductive Outcome (m : Marker) (fs : FileSystem) :
    Call → Except Failure Unit × FileSystem → Prop where
  | failed {c : Call} {e : Failure} {fs' : FileSystem} (differs : Differs [] (m.way fs) fs fs') :
      Outcome m fs c (.error e, fs')
  | written {fs' : FileSystem} (differs : Differs [m.place fs] (m.way fs) fs fs')
      (stat : fs'.stat m.path = .ok (.file [])) : Outcome m fs .set (.ok (), fs')
  | removed {fs' : FileSystem} (differs : Differs [m.place fs] (m.way fs) fs fs')
      (node : fs'.node? (m.place fs) = none) : Outcome m fs .reset (.ok (), fs')
  | absent (stat : ∀ c, fs.stat m.path ≠ .ok (.file c)) : Outcome m fs .reset (.ok (), fs)

theorem outcome_set : Outcome m fs .set (m.set fs) := by
  have hdirs := m.makeDirectory_differs fs
  obtain ⟨e, h⟩ | ⟨fs', -, hw, h⟩ := set_cases m fs
  · rw [h]
    exact .failed hdirs
  · rw [h]
    refine .written ?_ (FileSystem.stat_of_write hw)
    have hwrite := FileSystem.differs_of_write hw
    rw [hdirs.location] at hwrite
    exact (hdirs.mono (List.nil_subset _) (List.Subset.refl _)).trans
      (hwrite.mono (List.Subset.refl _) (List.nil_subset _))

theorem outcome_reset : Outcome m fs .reset (m.reset fs) := by
  rw [reset]
  cases hu : fs.unlink m.path with
  | ok fs' =>
      obtain ⟨hdiffers, hnone⟩ := FileSystem.differs_of_unlink hu
      exact .removed (hdiffers.mono (List.Subset.refl _) (List.nil_subset _)) hnone
  | error f =>
      dsimp only
      split
      · next hkind => exact .absent fun c hs => FileSystem.kind_ne_of_unlink hs hu hkind
      · exact .failed (.refl _ _ fs)

theorem outcome_perform (c : Call) : Outcome m fs c (m.perform c fs) := by
  cases c with
  | set => exact outcome_set m fs
  | reset => exact outcome_reset m fs

variable {m fs}

theorem Outcome.differs {c : Call} {r : Except Failure Unit × FileSystem}
    (h : Outcome m fs c r) : Differs [m.place fs] (m.way fs) fs r.2 := by
  cases h with
  | failed hd => exact hd.mono (List.nil_subset _) (List.Subset.refl _)
  | written hd _ => exact hd
  | removed hd _ => exact hd
  | absent _ => exact .refl _ _ fs

theorem place_eq {fs' : FileSystem} {touched made : List (List String)}
    (h : Differs touched made fs fs') : m.place fs' = m.place fs := h.location m.path

theorem way_eq {fs' : FileSystem} {touched made : List (List String)}
    (h : Differs touched made fs fs') : m.way fs' = m.way fs := by
  rw [way, h.workingDirectory]
  rfl

/-- After a call the files differ as they did before it. -/
theorem differs_perform {fs' : FileSystem} (h : Differs [m.place fs] (m.way fs) fs fs')
    (c : Call) : Differs [m.place fs] (m.way fs) fs (m.perform c fs').2 := by
  have hcall := (outcome_perform m fs' c).differs
  rw [place_eq h, way_eq h] at hcall
  exact h.trans hcall

/-! ## The same call again -/

/-- A set that follows a set does what the first one did. -/
theorem set_set (m : Marker) (fs : FileSystem) : m.set (m.set fs).2 = m.set fs := by
  have hagain : m.makeDirectory (m.makeDirectory fs).2 = m.makeDirectory fs := by
    rw [makeDirectory_eq, makeDirectory_eq, FileSystem.makePath_makePath]
  obtain ⟨e, h⟩ | ⟨fs', hmade, hw, h⟩ := set_cases m fs
  · have hsame : m.set (m.makeDirectory fs).2 = m.set fs := by rw [set, hagain, set]
    rw [h]
    exact hsame.trans h
  · -- The marker is no directory, so none is missing the second time.
    have hthere : (m.makeDirectory fs).2.makePath m.directory = (.ok (), (m.makeDirectory fs).2) := by
      rw [← makeDirectory_eq, hagain, ← hmade]
    obtain ⟨loc, -, -, -, hnode, -, hput⟩ := FileSystem.write_eq_ok_iff.1 hw
    have hr := FileSystem.retains_put_file (c := []) hnode
    rw [hput] at hr
    rw [h, set, makeDirectory_eq, hr.makePath hthere]
    dsimp only
    rw [FileSystem.write_write hw]

/-- A reset that follows a reset does what the first one did. -/
theorem reset_reset (m : Marker) (fs : FileSystem) : m.reset (m.reset fs).2 = m.reset fs := by
  cases hu : fs.unlink m.path with
  | error f =>
      have h : (m.reset fs).2 = fs := by
        rw [reset, hu]
        dsimp only
        split <;> rfl
      rw [h]
  | ok fs' =>
      have h : m.reset fs = (.ok (), fs') := by rw [reset, hu]
      rw [h, reset, FileSystem.unlink_unlink hu]
      rfl

/-! ## A run of calls -/

/-- A call, and the changes that the system refuses at that time. -/
structure Turn where
  call : Call
  refusals : List (List String × FileSystem.Refusal)

/-- The files, and the last call that worked. -/
structure Standing where
  lastWorked? : Option Call
  files : FileSystem

/-- The files as the next call finds them. -/
def Standing.found (s : Standing) (t : Turn) : FileSystem :=
  { s.files with refusals := t.refusals }

/-- Takes a turn. -/
def turn (m : Marker) (s : Standing) (t : Turn) : Standing :=
  match m.perform t.call (s.found t) with
  | (.ok (), fs) => ⟨some t.call, fs⟩
  | (.error _, fs) => ⟨s.lastWorked?, fs⟩

/-- Takes turns one after another. -/
def after (m : Marker) (s : Standing) (turns : List Turn) : Standing := turns.foldl m.turn s

theorem turn_files (m : Marker) (s : Standing) (t : Turn) :
    (m.turn s t).files = (m.perform t.call (s.found t)).2 := by
  rw [turn]
  split <;> next h => rw [h]

/-- What is refused changes nothing that a path leads to. -/
theorem differs_found (s : Standing) (t : Turn) (touched made : List (List String)) :
    Differs touched made s.files (s.found t) := ⟨rfl, fun _ _ => .inl rfl⟩

/-- The files differ after a run as they do after every call. -/
theorem differs_after {touched made : List (List String)} {s : Standing}
    (hcall : ∀ fs', Differs touched made fs fs' → ∀ c,
      Differs touched made fs (m.perform c fs').2)
    (h : Differs touched made fs s.files) (turns : List Turn) :
    Differs touched made fs (m.after s turns).files := by
  induction turns generalizing s with
  | nil => exact h
  | cons t turns ih =>
      refine ih ?_
      rw [turn_files]
      exact hcall _ (h.trans (differs_found s t _ _)) t.call

/-- How the files stand after calls that began with other files.  The marker is there if the last
call that worked was a set, and there is no file in its place otherwise.  Nothing else was
changed but for directories on the way to the marker, and no directory is in its place unless one
was there or its place is on the way. -/
structure Follows (m : Marker) (fs : FileSystem) (s : Standing) : Prop where
  differs : Differs [m.place fs] (m.way fs) fs s.files
  marked : s.lastWorked? = some .set → s.files.stat m.path = .ok (.file [])
  unmarked : s.lastWorked? ≠ some .set → ∀ c, s.files.node? (m.place fs) ≠ some (.file c)
  noDirectory : m.place fs ∉ m.way fs → fs.node? (m.place fs) ≠ some .directory →
    s.files.node? (m.place fs) ≠ some .directory

theorem follows_start (h : ∀ c, fs.node? (m.place fs) ≠ some (.file c)) :
    m.Follows fs ⟨none, fs⟩ where
  differs := .refl _ _ fs
  marked h := absurd h (by simp)
  unmarked _ := h
  noDirectory _ := id

theorem Follows.turn {s : Standing} (h : m.Follows fs s) (t : Turn) :
    m.Follows fs (m.turn s t) := by
  have hfound : Differs [m.place fs] (m.way fs) fs (s.found t) :=
    h.differs.trans (differs_found s t _ _)
  have hplace := place_eq (m := m) hfound
  have hway := way_eq (m := m) hfound
  have hnode : ∀ loc, (s.found t).node? loc = s.files.node? loc := fun _ => rfl
  have hstat : ∀ {c}, s.files.stat m.path = .ok (.file c) →
      (s.found t).stat m.path = .ok (.file c) := (differs_found s t [] []).stat_file
  have hout := outcome_perform m (s.found t) t.call
  have hall := differs_perform hfound t.call
  obtain ⟨call, refusals⟩ := t
  rw [Marker.turn]
  generalize m.perform call (s.found ⟨call, refusals⟩) = r at hout hall
  cases hout with
  | failed hd =>
      refine ⟨hall, fun hset => hd.stat_file (hstat (h.marked hset)), fun hset c => ?_,
        fun hin hno => ?_⟩
      · rw [Ne, hd.file_iff List.not_mem_nil, hnode]
        exact h.unmarked hset c
      · obtain hn | ⟨hmem, -, -⟩ := hd.node (m.place fs) List.not_mem_nil
        · rw [hn, hnode]
          exact h.noDirectory hin hno
        · rw [hway] at hmem
          exact absurd hmem hin
  | written _ hs =>
      refine ⟨hall, fun _ => hs, fun hset => absurd rfl hset, fun _ _ => ?_⟩
      have hn := FileSystem.node?_of_stat_file hs
      rw [hall.location] at hn
      rw [place, hn]
      simp
  | removed _ hn =>
      rw [hplace] at hn
      exact ⟨hall, fun hset => absurd hset (by simp), fun _ c => by simp [hn],
        fun _ _ => by simp [hn]⟩
  | absent hs =>
      refine ⟨hall, fun hset => absurd hset (by simp), fun _ c => ?_, h.noDirectory⟩
      -- A marker that a set has put there would have been found.
      have hset : s.lastWorked? ≠ some .set := fun hset => hs [] (hstat (h.marked hset))
      exact h.unmarked hset c

theorem Follows.after {s : Standing} (h : m.Follows fs s) (turns : List Turn) :
    m.Follows fs (m.after s turns) := by
  induction turns generalizing s with
  | nil => exact h
  | cons t turns ih => exact ih (h.turn t)

/-! ## Names of signals -/

/-- A name that is one of a file. -/
def Ordinary (name : String) : Prop := name ≠ "" ∧ name ≠ "." ∧ name ≠ ".."

instance (name : String) : Decidable (Ordinary name) := inferInstanceAs (Decidable (_ ∧ _ ∧ _))

/-- A file name without an underscore is that of one signal only. -/
theorem eq_of_fileName_eq {name s : String} (h : fileName name = s) (hs : '_' ∉ s.toList) :
    name = s := by
  subst h
  rw [fileName, String.toList_ofList, List.mem_map] at hs
  have hkept : name.toList.map (fun c => if c = '/' ∨ c = '\\' then '_' else c) = name.toList := by
    refine (List.map_congr_left fun c hc => ?_).trans (List.map_id _)
    split
    · next hslash => exact absurd ⟨c, hc, if_pos hslash⟩ hs
    · rfl
  rw [fileName, hkept, String.ofList_toList]

theorem Ordinary.fileName {name : String} (h : Ordinary name) : Ordinary (fileName name) :=
  ⟨fun he => h.1 (eq_of_fileName_eq he (by decide)),
    fun he => h.2.1 (eq_of_fileName_eq he (by decide)),
    fun he => h.2.2 (eq_of_fileName_eq he (by decide))⟩

section Named

variable (dir : String) {name : String}

theorem path_named (name : String) : (named dir name).path = Path.join dir (fileName name) := rfl

theorem pieces_named (h : fileName name ≠ "") :
    Path.pieces (named dir name).path = Path.pieces dir ++ [fileName name] := by
  have hslash := slash_not_mem_fileName name
  rw [path_named, Path.pieces_join dir hslash, Path.pieces_of_not_mem hslash h]

/-- The marker of a signal lies in the directory that it was given. -/
theorem parent?_named (h : Ordinary name) :
    Path.parent? (named dir name).path = some (Path.components dir) := by
  rw [path_named]
  exact Path.parent?_join dir (slash_not_mem_fileName name) h.fileName.1 h.fileName.2.1
    h.fileName.2.2

theorem place_named (h : Ordinary name) (fs : FileSystem) :
    (named dir name).place fs = fs.location dir ++ [fileName name] := by
  have hslash := slash_not_mem_fileName name
  rw [place, FileSystem.location, path_named,
    Path.components_join dir hslash h.fileName.1 h.fileName.2.1 h.fileName.2.2,
    List.foldl_append]
  rfl

theorem way_named_subset (name : String) (fs : FileSystem) :
    (named dir name).way fs ⊆ fs.wayTo dir := by
  rw [way, directory, path_named]
  cases hp : Path.parent? (Path.join dir (fileName name)) with
  | none => exact List.nil_subset _
  | some parent =>
      obtain ⟨rest, hrest⟩ := Path.isPrefix_of_parent?_join (slash_not_mem_fileName name) hp
      rw [FileSystem.wayTo, ← hrest, Path.along_append]
      exact List.subset_append_left _ _

theorem place_not_mem_wayTo (h : Ordinary name) (fs : FileSystem)
    (hup : .parent ∉ Path.components dir) : (named dir name).place fs ∉ fs.wayTo dir := by
  intro hmem
  have hlen := FileSystem.length_le_of_mem_wayTo hup hmem
  rw [place_named dir h, List.length_append, List.length_singleton] at hlen
  omega

/-- Where the name is not one of a file, its path is that of a directory. -/
theorem endsWithSlash_of_not_ordinary (h : ¬Ordinary name) {fs : FileSystem} {loc : List String}
    (ht : fs.target (named dir name).path = .ok (.entry loc)) :
    Path.endsWithSlash (named dir name).path = true := by
  obtain ⟨⟨-, -, hne⟩, front, last, -, hpieces, -, -, hdot, hdots, -⟩ :=
    FileSystem.target_eq_entry_iff.1 ht
  by_cases hempty : name = ""
  · subst hempty
    by_cases hdir : dir = ""
    · subst hdir
      exact absurd (by decide) hne
    · exact Path.endsWithSlash_join_empty hdir
  · have hname : name = "." ∨ name = ".." := by
      by_cases hd : name = "."
      · exact .inl hd
      · exact .inr (Classical.not_not.1 fun hds => h ⟨hempty, hd, hds⟩)
    have hfile : fileName name = name := by
      obtain rfl | rfl := hname <;> decide
    -- The last piece would be a name, but it is that of the signal.
    rw [pieces_named dir (by rwa [hfile]), hfile] at hpieces
    have hlast : name = last := by simpa using congrArg List.getLast? hpieces
    obtain rfl | rfl := hname
    · exact absurd hlast.symm hdot
    · exact absurd hlast.symm hdots

theorem write_named_ne_ok (h : ¬Ordinary name) (fs fs' : FileSystem) (c : List UInt8) :
    fs.write (named dir name).path c ≠ .ok fs' := by
  intro hw
  obtain ⟨loc, ht, hslash, -⟩ := FileSystem.write_eq_ok_iff.1 hw
  rw [endsWithSlash_of_not_ordinary dir h ht] at hslash
  exact absurd hslash (by simp)

theorem unlink_named_ne_ok (h : ¬Ordinary name) (fs fs' : FileSystem) :
    fs.unlink (named dir name).path ≠ .ok fs' := by
  intro hu
  obtain ⟨loc, c, ht, -, -, hslash, -⟩ := FileSystem.unlink_eq_ok_iff.1 hu
  rw [endsWithSlash_of_not_ordinary dir h ht] at hslash
  exact absurd hslash (by simp)

/-- Where the name is not one of a file, every set fails. -/
theorem set_fails_of_not_ordinary (h : ¬Ordinary name) (fs : FileSystem) :
    ∃ e, (named dir name).set fs = (.error e, ((named dir name).makeDirectory fs).2) := by
  obtain hset | ⟨fs', -, hw, -⟩ := set_cases (named dir name) fs
  · exact hset
  · exact absurd hw (write_named_ne_ok dir h _ fs' [])

theorem reset_files_of_not_ordinary (h : ¬Ordinary name) (fs : FileSystem) :
    ((named dir name).reset fs).2 = fs := by
  rw [reset]
  cases hu : fs.unlink (named dir name).path with
  | ok fs' => exact absurd hu (unlink_named_ne_ok dir h fs fs')
  | error f =>
      dsimp only
      split <;> rfl

/-- Where the name is not one of a file, the calls make directories and nothing else. -/
theorem differs_perform_of_not_ordinary (h : ¬Ordinary name) {fs fs' : FileSystem}
    (hd : Differs [] ((named dir name).way fs) fs fs') (c : Call) :
    Differs [] ((named dir name).way fs) fs ((named dir name).perform c fs').2 := by
  cases c with
  | reset => rwa [perform, reset_files_of_not_ordinary dir h]
  | set =>
      obtain ⟨e, hset⟩ := set_fails_of_not_ordinary dir h fs'
      have hdirs := (named dir name).makeDirectory_differs fs'
      rw [way_eq hd] at hdirs
      rw [perform, hset]
      dsimp only
      exact hd.trans hdirs

end Named

/-! ## Signals and calls -/

/-- Whether a signal is set says whether anything stands at the path of its marker. -/
theorem isSet_iff {m : Marker} {fs : FileSystem} :
    m.isSet fs = true ↔ ∃ n, fs.stat m.path = .ok n := by
  rw [isSet, FileSystem.holds]
  cases fs.stat m.path <;> simp

/-- The marker is a file after a run just when the last call that worked was a set. -/
theorem Follows.stat_iff {s : Standing} (h : m.Follows fs s) :
    s.files.stat m.path = .ok (.file []) ↔ s.lastWorked? = some .set := by
  refine ⟨fun hs => Classical.not_not.1 fun hset => ?_, h.marked⟩
  have hn := FileSystem.node?_of_stat_file hs
  rw [h.differs.location] at hn
  exact h.unmarked hset [] hn

/-- Where no directory stands in its place, a signal is set just when the last call that worked
was a set. -/
theorem Follows.isSet_iff {dir name : String} {s : Standing} (h : (named dir name).Follows fs s)
    (hname : Ordinary name) (hno : s.files.node? ((named dir name).place fs) ≠ some .directory) :
    (named dir name).isSet s.files = true ↔ s.lastWorked? = some .set := by
  rw [Marker.isSet_iff]
  refine ⟨fun ⟨n, hn⟩ => Classical.not_not.1 fun hset => ?_, fun hset => ⟨_, h.marked hset⟩⟩
  have hlast : (Path.pieces (named dir name).path).getLast? = some (fileName name) := by
    rw [pieces_named dir hname.fileName.1, List.getLast?_concat]
  obtain ht | hnode := FileSystem.node?_of_stat hn
  · exact FileSystem.target_ne_directory hlast hname.fileName.2.1 hname.fileName.2.2 ht
  · rw [h.differs.location] at hnode
    cases n with
    | directory => exact hno hnode
    | file c => exact h.unmarked hset c hnode

/-- A marker lies in the directory that it was given.  After any calls that began without it, it
is there as an empty file just when the last call that worked was a set, and the signal is set
just then too, unless the way to the directory leads through the marker's own place, which no way
does that never leads up.

A name that is not one of a file is never set, and nothing is changed but that directories are
made.  Nor is anything else than the marker under other names, and a call that is made again does
what it did. -/
theorem marker_follows_calls (dir name : String) (fs : FileSystem) (turns : List Turn) :
    let m := named dir name
    let s := m.after ⟨none, fs⟩ turns
    (Ordinary name →
      (Path.parent? m.path = some (Path.components dir) ∧
        m.place fs = fs.location dir ++ [fileName name]) ∧
      (fs.node? (m.place fs) = none →
        (s.files.stat m.path = .ok (.file []) ↔ s.lastWorked? = some .set) ∧
        (m.place fs ∉ fs.wayTo dir → (m.isSet s.files = true ↔ s.lastWorked? = some .set))) ∧
      (.parent ∉ Path.components dir → m.place fs ∉ fs.wayTo dir)) ∧
    (¬Ordinary name →
      (∀ fs, ∃ e, (m.set fs).1 = .error e) ∧ Differs [] (fs.wayTo dir) fs s.files) ∧
    Differs [m.place fs] (fs.wayTo dir) fs s.files ∧
    ∀ fs, m.set (m.set fs).2 = m.set fs ∧ m.reset (m.reset fs).2 = m.reset fs := by
  intro m s
  have hway : m.way fs ⊆ fs.wayTo dir := way_named_subset dir name fs
  refine ⟨fun hname => ⟨⟨parent?_named dir hname, place_named dir hname fs⟩, fun hnone => ?_,
    place_not_mem_wayTo dir hname fs⟩, fun hname => ⟨fun fs' => ?_, ?_⟩, ?_,
    fun fs' => ⟨set_set m fs', reset_reset m fs'⟩⟩
  · have hfollows : m.Follows fs s := (follows_start (by simp [m, hnone])).after turns
    refine ⟨hfollows.stat_iff, fun hin => hfollows.isSet_iff hname ?_⟩
    exact hfollows.noDirectory (fun hmem => hin (hway hmem)) (by simp [m, hnone])
  · obtain ⟨e, he⟩ := set_fails_of_not_ordinary dir hname fs'
    exact ⟨e, by rw [he]⟩
  · exact (differs_after (fun _ => differs_perform_of_not_ordinary dir hname)
      (.refl _ _ fs) turns).mono (List.Subset.refl _) hway
  · exact (differs_after (fun _ => differs_perform) (.refl _ _ fs) turns).mono
      (List.Subset.refl _) hway

/-- A full disk. -/
def full : FileSystem.Refusal := ⟨.system 28, by decide⟩

/-- A reset and a set of a signal whose name has a slash have worked, and then a set has failed for
want of space. -/
theorem marker_follows_calls_full :
    let m := named "run/sub" "a/b"
    let fs := FileSystem.empty.put ["run"] .directory
    let s := m.after ⟨none, fs⟩ [⟨.reset, []⟩, ⟨.set, []⟩, ⟨.set, [(["run", "sub", "a_b"], full)]⟩]
    Ordinary "a/b" ∧ fs.node? (m.place fs) = none ∧ m.place fs ∉ fs.wayTo "run/sub" ∧
      s.lastWorked? = some .set ∧ m.isSet s.files = true := by
  have hname : Ordinary "a/b" := by decide
  obtain ⟨-, hlaw, hin⟩ := (marker_follows_calls "run/sub" "a/b"
    (FileSystem.empty.put ["run"] .directory)
    [⟨.reset, []⟩, ⟨.set, []⟩, ⟨.set, [(["run", "sub", "a_b"], full)]⟩]).1 hname
  have hset := (hlaw (by decide)).2 (hin (by decide))
  exact ⟨hname, by decide, hin (by decide), by decide, hset.2 (by decide)⟩

/-- The signal `..` is set by a set that has failed. -/
theorem parent_set_by_failure :
    let m := named "run/sub" ".."
    let fs := FileSystem.empty.put ["run"] .directory
    let s := m.after ⟨none, fs⟩ [⟨.set, []⟩]
    m.isSet fs = false ∧ s.lastWorked? = none ∧ m.isSet s.files = true := by
  decide

end Marker

end PacketMeter
