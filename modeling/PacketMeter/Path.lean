import PacketMeter.Text.Search

/-!
# Paths

A path is a text whose pieces are divided by slashes.  Empty pieces and the piece
`.` say nothing and are left out of its components, except that a relative path
may begin with `.`.

Joining puts a path under a directory, and `parent?` leaves out the last
component.
-/

namespace PacketMeter.Path

/-- The texts between the slashes of a path whose current piece is given
backwards. -/
def splitFrom (current : List Char) : List Char → List (List Char)
  | [] => [current.reverse]
  | c :: rest =>
    if c = '/' then current.reverse :: splitFrom [] rest else splitFrom (c :: current) rest

/-- The pieces of a path that are not empty. -/
def pieces (path : String) : List String :=
  ((splitFrom [] path.toList).filter fun p => !p.isEmpty).map String.ofList

/-- Whether a path starts at the root. -/
def isAbsolute (path : String) : Bool := path.toList.head? == some '/'

/-- Whether a path ends with a slash. -/
def endsWithSlash (path : String) : Bool := path.toList.getLast? == some '/'

/-- A component of a path. -/
inductive Component where
  | root
  | current
  | parent
  | name (s : String)
  deriving Repr, DecidableEq, Inhabited

/-- The component that a piece stands for, if it says anything. -/
def Component.ofPiece? (piece : String) : Option Component :=
  if piece = "." then none
  else if piece = ".." then some .parent
  else some (.name piece)

/-- Whether a component cannot be handed to a system. -/
def Component.holdsNul : Component → Bool
  | .name s => s.toList.contains '\x00'
  | .root | .current | .parent => false

def components (path : String) : List Component :=
  let ps := pieces path
  let front :=
    if isAbsolute path then [Component.root]
    else if ps.head? = some "." then [Component.current]
    else []
  front ++ ps.filterMap Component.ofPiece?

/-- Whether two paths have the same components. -/
def same (a b : String) : Bool := components a == components b

/-- A name or a path under a directory.  An absolute path stands for itself. -/
def join (dir path : String) : String :=
  if isAbsolute path then path
  else if dir.isEmpty || endsWithSlash dir then dir ++ path
  else dir ++ "/" ++ path

/-- The components of the directory that a path lies in.  The root and the empty
path lie in none. -/
def parent? (path : String) : Option (List Component) :=
  match (components path).getLast? with
  | none | some .root => none
  | some _ => some (components path).dropLast

/-- A path has the same components as itself. -/
theorem same_self (path : String) : same path path = true := by
  simp [same]

end PacketMeter.Path
