/-!
# Search, lines and pieces of a text

`occurs` decides whether one text stands inside another; `occurs_iff` says that
this is the infix relation of lists.  `cut?` splits a text at the first place of
a character, and `lines` splits it at line ends.
-/

namespace PacketMeter.Text

/-- Whether `needle` stands somewhere in a text. -/
def occurs (needle : List Char) : List Char → Bool
  | [] => needle.isEmpty
  | c :: rest => needle.isPrefixOf (c :: rest) || occurs needle rest

/-- `occurs` decides the infix relation. -/
theorem occurs_iff {needle s : List Char} : occurs needle s = true ↔ needle <:+: s := by
  induction s with
  | nil => cases needle <;> simp [occurs]
  | cons c rest ih => simp [occurs, ih, List.infix_cons_iff]

/-- The text before and after the first `mark`, or `none` when there is none. -/
def cut? (mark : Char) : List Char → Option (List Char × List Char)
  | [] => none
  | c :: rest =>
    if c = mark then some ([], rest)
    else (cut? mark rest).map fun (before, after) => (c :: before, after)

/-- What follows `front` in a text that starts with it. -/
def stripFront? (front s : List Char) : Option (List Char) :=
  if front.isPrefixOf s then some (s.drop front.length) else none

/-- A text without all the copies of `front` that it starts with.  An empty
`front` is never removed. -/
def stripAllFront (front s : List Char) : List Char :=
  if _h : front ≠ [] ∧ front.isPrefixOf s then stripAllFront front (s.drop front.length) else s
  termination_by s.length
  decreasing_by
    have hp : front <+: s := List.isPrefixOf_iff_prefix.1 _h.2
    have hl := hp.length_le
    have h0 : 0 < front.length := List.length_pos_iff.2 _h.1
    rw [List.length_drop]
    omega

/-- A line without the carriage return at its end. -/
def chomp (line : List Char) : List Char :=
  if line.getLast? = some '\r' then line.dropLast else line

/-- The lines of a text whose current line is given backwards. -/
def linesFrom (current : List Char) : List Char → List (List Char)
  | [] => if current.isEmpty then [] else [current.reverse]
  | c :: rest =>
    if c = '\n' then chomp current.reverse :: linesFrom [] rest
    else linesFrom (c :: current) rest

/-- The lines of a text.  A line ends with a line feed, which a carriage return
may precede; a last line may lack the line feed. -/
def lines (s : List Char) : List (List Char) := linesFrom [] s

@[simp] theorem lines_nil : lines [] = [] := rfl

/-- A text is cut at `mark` when the part before it does not hold one. -/
theorem cut?_append {mark : Char} {before : List Char} (after : List Char)
    (h : mark ∉ before) : cut? mark (before ++ mark :: after) = some (before, after) := by
  induction before with
  | nil => simp [cut?]
  | cons c before ih =>
    simp only [List.mem_cons, not_or] at h
    simp [cut?, Ne.symm h.1, ih h.2]

end PacketMeter.Text
