import PacketMeter.Failure
import PacketMeter.FileSystem

/-!
# Arming signals

A signal arms the capture engine.  Once set it stays set until it is reset.

There are two: a switch inside the program, which is a truth value and cannot
fail, and a marker file in a directory, which exists while the signal is set and
which another program can look for.  The name of a marker keeps its directory:
slashes and backslashes in it become underscores.
-/

namespace PacketMeter

/-- A marker file. -/
structure Marker where
  path : String
  deriving Repr, DecidableEq, Inhabited

namespace Marker

/-- A signal name as the name of a file. -/
def fileName (name : String) : String :=
  String.ofList (name.toList.map fun c => if c = '/' ∨ c = '\\' then '_' else c)

/-- The marker of a signal in a directory. -/
def named (dir name : String) : Marker := ⟨Path.join dir (fileName name)⟩

/-- Makes the directory of the marker. -/
def makeDirectory (m : Marker) (fs : FileSystem) : Except Fault Unit × FileSystem :=
  match Path.parent? m.path with
  | none => (.ok (), fs)
  | some dir => fs.makePath dir

/-- Sets the signal: makes the directory of the marker, then the marker. -/
def set (m : Marker) (fs : FileSystem) : Except Failure Unit × FileSystem :=
  match m.makeDirectory fs with
  | (.error f, fs) => (.error (.io f), fs)
  | (.ok (), fs) =>
    match fs.write m.path [] with
    | .error f => (.error (.io f), fs)
    | .ok fs => (.ok (), fs)

/-- Resets the signal: removes the marker, which need not be there. -/
def reset (m : Marker) (fs : FileSystem) : Except Failure Unit × FileSystem :=
  match fs.unlink m.path with
  | .ok fs => (.ok (), fs)
  | .error f => if f.kind = .notFound then (.ok (), fs) else (.error (.io f), fs)

/-- Whether the signal is set. -/
def isSet (m : Marker) (fs : FileSystem) : Bool := fs.holds m.path

/-- No name leads out of its directory by a slash. -/
theorem slash_not_mem_fileName (name : String) : '/' ∉ (fileName name).toList := by
  simp only [fileName, String.toList_ofList, List.mem_map, not_exists, not_and]
  intro c _ h
  split at h <;> simp_all

end Marker

end PacketMeter
