import PacketMeter.Fault
import PacketMeter.Path

/-!
# A file system of directories and files

The locations of a file system are lists of names from the root down.  The root
is a directory, every other location holds a directory, a file or nothing.

An operation takes the text of a path and walks along its pieces.  The faults
are those of the usual system calls: a missing piece, a file where a directory is
needed, a directory where a file is needed, a name of more than 255 bytes or a path of
more than 4095, and a path that holds a NUL character and so cannot be handed to the
system at all.

Besides, the system may refuse to change what a location holds, for want of space or
of permission.  A change that is refused is not made, but those before it stay.
-/

namespace PacketMeter

/-- What a location holds. -/
inductive Node where
  | directory
  | file (content : List UInt8)
  deriving Repr, DecidableEq, Inhabited

/-- Why the system does not make a change.  It is never that something is missing. -/
structure FileSystem.Refusal where
  fault : Fault
  kind_ne : fault.kind ≠ .notFound
  deriving Repr, DecidableEq

/-- Directories and files below the root, and the locations at which no change is made
at present. -/
structure FileSystem where
  entries : List (List String × Node)
  workingDirectory : List String
  refusals : List (List String × FileSystem.Refusal)
  deriving Repr, Inhabited

namespace FileSystem

/-- No entry has the path. -/
def missing : Fault := .system 2

/-- An entry has the path already. -/
def alreadyExists : Fault := .system 17

/-- A component that something lies below is no directory. -/
def notADirectory : Fault := .system 20

/-- A directory stands where a file is asked for. -/
def isADirectory : Fault := .system 21

/-- A component or the path is over its limit. -/
def nameTooLong : Fault := .system 36

/-- A path cannot hold the zero character. -/
def nulInPath : Fault := .described .invalidInput "file name contained an unexpected NUL byte"

/-- The file system with an empty root. -/
def empty : FileSystem := ⟨[], [], []⟩

/-- What a location holds. -/
def node? (fs : FileSystem) (loc : List String) : Option Node :=
  if loc = [] then some .directory else fs.entries.lookup loc

/-- Why a location cannot be changed. -/
def refusal? (fs : FileSystem) (loc : List String) : Option Refusal := fs.refusals.lookup loc

/-- The file system with one location set. -/
def put (fs : FileSystem) (loc : List String) (n : Node) : FileSystem :=
  { fs with entries := (loc, n) :: fs.entries.filter fun e => e.1 ≠ loc }

/-- The file system with one location emptied. -/
def remove (fs : FileSystem) (loc : List String) : FileSystem :=
  { fs with entries := fs.entries.filter fun e => e.1 ≠ loc }

/-- Walks from a location along pieces, each of which must exist. -/
def descend (fs : FileSystem) (loc : List String) : List String → Except Fault (List String)
  | [] => .ok loc
  | p :: ps =>
    match fs.node? loc with
    | none => .error missing
    | some (.file _) => .error notADirectory
    | some .directory =>
      if p = "." then descend fs loc ps
      else if p = ".." then descend fs loc.dropLast ps
      else if 255 < p.utf8ByteSize then .error nameTooLong
      else match fs.node? (loc ++ [p]) with
        | none => .error missing
        | some _ => descend fs (loc ++ [p]) ps

/-- Where the walk along a path starts. -/
def start (fs : FileSystem) (path : String) : List String :=
  if Path.isAbsolute path then [] else fs.workingDirectory

/-- The last step of a path: at a directory that is its own end, or at a name in
a directory. -/
inductive Target where
  | directory
  | entry (loc : List String)
  deriving Repr, DecidableEq

/-- Walks along a path up to its last piece.  The name there need not exist. -/
def target (fs : FileSystem) (path : String) : Except Fault Target :=
  if path.toList.contains '\x00' then .error nulInPath
  else if 4096 ≤ path.utf8ByteSize then .error nameTooLong
  else if path.isEmpty then .error missing
  else match (Path.pieces path).getLast? with
    | none => .ok .directory
    | some last =>
      match fs.descend (fs.start path) (Path.pieces path).dropLast with
      | .error f => .error f
      | .ok dir =>
        match fs.node? dir with
        | none => .error missing
        | some (.file _) => .error notADirectory
        | some .directory =>
          if last = "." ∨ last = ".." then .ok .directory
          else .ok (.entry (dir ++ [last]))

/-- Whether the last name of a location is longer than a directory can hold. -/
def tooLong (loc : List String) : Bool :=
  match loc.getLast? with
  | some name => 255 < name.utf8ByteSize
  | none => false

/-- What stands at the end of a path. -/
def stat (fs : FileSystem) (path : String) : Except Fault Node :=
  match fs.target path with
  | .error f => .error f
  | .ok .directory => .ok .directory
  | .ok (.entry loc) =>
    if tooLong loc then .error nameTooLong
    else match fs.node? loc with
      | none => .error missing
      | some .directory => .ok .directory
      | some (.file content) =>
        if Path.endsWithSlash path then .error notADirectory else .ok (.file content)

/-- Whether something stands at the end of a path. -/
def holds (fs : FileSystem) (path : String) : Bool :=
  match fs.stat path with
  | .ok _ => true
  | .error _ => false

/-- Writes a file, in place of the file that may be there. -/
def write (fs : FileSystem) (path : String) (content : List UInt8) :
    Except Fault FileSystem :=
  match fs.target path with
  | .error f => .error f
  | .ok .directory => .error isADirectory
  | .ok (.entry loc) =>
    if Path.endsWithSlash path then .error isADirectory
    else if tooLong loc then .error nameTooLong
    else match fs.node? loc, fs.refusal? loc with
      | some .directory, _ => .error isADirectory
      | _, some r => .error r.fault
      | _, none => .ok (fs.put loc (.file content))

def unlink (fs : FileSystem) (path : String) : Except Fault FileSystem :=
  match fs.target path with
  | .error f => .error f
  | .ok .directory => .error isADirectory
  | .ok (.entry loc) =>
    if tooLong loc then .error nameTooLong
    else match fs.node? loc with
      | none => .error missing
      | some .directory => .error isADirectory
      | some (.file _) =>
        if Path.endsWithSlash path then .error notADirectory
        else match fs.refusal? loc with
          | some r => .error r.fault
          | none => .ok (fs.remove loc)

/-- Makes the directories along a path of components that are not there yet. -/
def makeAlong (fs : FileSystem) (loc : List String) :
    List Path.Component → Except Fault Unit × FileSystem
  | [] => (.ok (), fs)
  | .root :: rest => makeAlong fs [] rest
  | .current :: rest => makeAlong fs loc rest
  | .parent :: rest => makeAlong fs loc.dropLast rest
  | .name s :: rest =>
    if 255 < s.utf8ByteSize then (.error nameTooLong, fs)
    else match fs.node? (loc ++ [s]), fs.refusal? (loc ++ [s]) with
      | some .directory, _ => makeAlong fs (loc ++ [s]) rest
      | some (.file _), _ => (.error (if rest.isEmpty then alreadyExists else notADirectory), fs)
      | none, some r => (.error r.fault, fs)
      | none, none => makeAlong (fs.put (loc ++ [s]) .directory) (loc ++ [s]) rest

/-- Makes a directory and those above it.  When one cannot be made, the ones above it
stay. -/
def makePath (fs : FileSystem) (path : List Path.Component) : Except Fault Unit × FileSystem :=
  if path.any Path.Component.holdsNul then (.error nulInPath, fs)
  else fs.makeAlong fs.workingDirectory path

/-- The file system with a directory and those above it, unless one cannot be made. -/
def makeDirectories (fs : FileSystem) (path : List Path.Component) : Except Fault FileSystem :=
  match fs.makePath path with
  | (.error f, _) => .error f
  | (.ok (), fs) => .ok fs

@[simp] theorem node?_nil (fs : FileSystem) : fs.node? [] = some .directory := by
  simp [node?]

/-- A location holds what was put there. -/
@[simp] theorem node?_put_self (fs : FileSystem) {loc : List String} (n : Node) (h : loc ≠ []) :
    (fs.put loc n).node? loc = some n := by
  simp [node?, put, h]

end FileSystem

end PacketMeter
