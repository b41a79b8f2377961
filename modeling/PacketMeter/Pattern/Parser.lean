import PacketMeter.Pattern
import PacketMeter.Text.Decimal
import PacketMeter.Text.Search

/-!
# Reading patterns

`Pattern.parse?` reads the text of a pattern, or finds that it has none.  Groups,
alternatives, repetitions, sets in brackets, escapes and flags are read; back
references and conditions on what surrounds a place are errors.

The flags of a pattern are letters: `i` compares without regard to case, `m` lets
`^` and `$` stand at lines, `s` lets a dot stand for a line end, `x` allows blanks
and comments between the parts, `R` takes a carriage return as a line end, and `u`,
which is on from the start, takes characters beyond ASCII into account.  A flag
holds to the end of its group.
-/

namespace PacketMeter.Pattern

/-- The flags that hold at a place of a pattern. -/
structure Flags where
  caseless : Bool
  multiline : Bool
  dotAll : Bool
  verbose : Bool
  crlf : Bool
  unicode : Bool
  deriving Repr, DecidableEq, Inhabited

/-- The flags that hold at first. -/
def Flags.start : Flags := ⟨false, false, false, false, false, true⟩

/-- Skips a comment up to its line end. -/
def skipLine (s : List Char) : List Char := (s.dropWhile (· != '\n')).drop 1

/-- Skips blanks and comments, where they are allowed. -/
def skipSpaceFrom : Nat → List Char → List Char
  | 0, s => s
  | fuel + 1, s =>
    match s with
    | '#' :: rest => skipSpaceFrom fuel (skipLine rest)
    | c :: rest => if Text.isBlank c then skipSpaceFrom fuel rest else s
    | [] => []

/-- Skips blanks and comments when the flags allow them. -/
def skipSpace (flags : Flags) (s : List Char) : List Char :=
  if flags.verbose then skipSpaceFrom s.length s else s

/-- Whether a character has a meaning of its own in patterns. -/
def isMeta (c : Char) : Bool := "\\.+*?()|[]\x7b\x7d^$#&-~".toList.contains c

/-- Whether a backslash before a character only takes away its meaning. -/
def isEscapable (c : Char) : Bool :=
  isMeta c || (c.toNat < 0x80 && !c.isAlphanum && c != '<' && c != '>')

/-- A part of a pattern that one primitive stands for. -/
inductive Primitive where
  | literal (c : Char) (byte : Bool)
  | set (s : CharSet)
  | look (condition : Look)
  deriving Repr, Inhabited

/-- The value of a hexadecimal digit. -/
def hexDigit? (c : Char) : Option Nat :=
  if '0' ≤ c ∧ c ≤ '9' then some (c.toNat - 48)
  else if 'a' ≤ c ∧ c ≤ 'f' then some (c.toNat - 87)
  else if 'A' ≤ c ∧ c ≤ 'F' then some (c.toNat - 55)
  else none

/-- The value of hexadecimal digits, read after the value `acc`. -/
def hexFrom? (acc : Nat) : List Char → Option Nat
  | [] => some acc
  | c :: rest => (hexDigit? c).bind fun d => hexFrom? (acc * 16 + d) rest

/-- The character of a code point. -/
def charOfCode? (n : Nat) : Option Char := if n.isValidChar then some (Char.ofNat n) else none

def hexChar? (digits : List Char) : Option Char :=
  if digits.isEmpty then none else (hexFrom? 0 digits).bind charOfCode?

/-- The text up to a closing brace, and the rest. -/
def braced? (s : List Char) : Option (List Char × List Char) :=
  Text.cut? '\x7d' s

/-- Reads the digits after `x`, `u` or `U`: a fixed number, or any in braces. -/
def hexEscape? (flags : Flags) (width : Nat) (s : List Char) : Option (Primitive × List Char) :=
  match skipSpace flags s with
  | '\x7b' :: rest => do
    let (digits, rest) ← braced? rest
    return (.literal (← hexChar? (digits.filter fun c => !(flags.verbose && Text.isBlank c))) false,
      rest)
  | rest => do
    let digits := rest.take width
    if digits.length < width then none
    else return (.literal (← hexChar? digits) (width == 2), rest.drop width)

/-- A set together with the variants in the other case of its members, when the
flags ask for them. -/
def Flags.fold (flags : Flags) (a : CharSet) : CharSet :=
  if flags.caseless then .folded (!flags.unicode) a else a

/-- The complement of a set when it is negated. -/
def negate (negated : Bool) (a : CharSet) : CharSet := if negated then .complement a else a

/-- The set of a class letter. -/
def classLetter? (flags : Flags) (c : Char) : Option CharSet :=
  let choose (full ascii : CharSet) := if flags.unicode then full else ascii
  if c = 'd' then some (choose .digit .asciiDigit)
  else if c = 's' then some (choose .blank .asciiBlank)
  else if c = 'w' then some (choose .word .asciiWord)
  else if c = 'D' then some (.complement (choose .digit .asciiDigit))
  else if c = 'S' then some (.complement (choose .blank .asciiBlank))
  else if c = 'W' then some (.complement (choose .word .asciiWord))
  else none

/-- The set of a property, whose name may follow a caret or the name of its kind. -/
def propertySet? (flags : Flags) (negated : Bool) (name : List Char) : Option CharSet :=
  if flags.unicode then
    let (negated, name) := match name with
      | '^' :: rest => (!negated, rest)
      | _ => (negated, name)
    (CharSet.property? (String.ofList name)).map fun s => negate negated (flags.fold s)
  else none

/-- Reads a property after `p` or `P`. -/
def property? (flags : Flags) (negated : Bool) (s : List Char) :
    Option (Primitive × List Char) :=
  match skipSpace flags s with
  | '\x7b' :: rest => do
    let (name, rest) ← braced? rest
    return (.set (← propertySet? flags negated name), rest)
  | c :: rest => do return (.set (← propertySet? flags negated [c]), rest)
  | [] => none

/-- The condition that a word in braces after `b` names. -/
def namedBoundary? (ascii : Bool) (name : String) : Option Look :=
  if name = "start" then some (.wordStart ascii)
  else if name = "end" then some (.wordEnd ascii)
  else if name = "start-half" then some (.wordStartHalf ascii)
  else if name = "end-half" then some (.wordEndHalf ascii)
  else none

/-- Reads what follows `b`: a named boundary in braces, or nothing. -/
def boundary? (flags : Flags) (s : List Char) : Option (Primitive × List Char) :=
  let plain := some (Primitive.look (.boundary (!flags.unicode)), s)
  match s with
  | '\x7b' :: rest =>
    match skipSpace flags rest with
    | [] => none
    | c :: more =>
      if c.isAlpha || c == '-' then do
        let (name, rest) ← braced? (c :: more)
        let name := name.filter fun c => !(flags.verbose && Text.isBlank c)
        return (.look (← namedBoundary? (!flags.unicode) (String.ofList name)), rest)
      else plain
  | _ => plain

/-- The control character of an escape of one letter. -/
def control? (c : Char) : Option Char :=
  if c = 'a' then some '\x07'
  else if c = 'f' then some '\x0c'
  else if c = 't' then some '\t'
  else if c = 'n' then some '\n'
  else if c = 'r' then some '\r'
  else if c = 'v' then some '\x0b'
  else none

/-- The condition of an escape of one letter. -/
def lookLetter? (ascii : Bool) (c : Char) : Option Look :=
  if c = 'A' then some .textStart
  else if c = 'z' then some .textEnd
  else if c = 'B' then some (.noBoundary ascii)
  else if c = '<' then some (.wordStart ascii)
  else if c = '>' then some (.wordEnd ascii)
  else none

def escape? (flags : Flags) : List Char → Option (Primitive × List Char)
  | [] => none
  | c :: rest =>
    if c = 'x' then hexEscape? flags 2 rest
    else if c = 'u' then hexEscape? flags 4 rest
    else if c = 'U' then hexEscape? flags 8 rest
    else if c = 'p' then property? flags false rest
    else if c = 'P' then property? flags true rest
    else if c = 'b' then boundary? flags rest
    else match classLetter? flags c, control? c, lookLetter? (!flags.unicode) c with
      | some s, _, _ => some (.set s, rest)
      | none, some control, _ => some (.literal control false, rest)
      | none, none, some condition => some (.look condition, rest)
      | none, none, none => if isEscapable c then some (.literal c false, rest) else none

/-- An operation on two sets in brackets. -/
inductive SetOp where
  | intersection
  | difference
  | symmetricDifference
  deriving Repr, DecidableEq, Inhabited

def SetOp.apply : SetOp → CharSet → CharSet → CharSet
  | intersection => .intersection
  | difference => .difference
  | symmetricDifference => .symmetricDifference

/-- A pair of brackets that is open: whether its set is negated, the operation
whose second set is being read, and what of that was read. -/
structure Bracket where
  negated : Bool
  pending? : Option (SetOp × CharSet)
  items : CharSet
  deriving Repr, Inhabited

namespace Bracket

def add (b : Bracket) (s : CharSet) : Bracket := { b with items := .union b.items s }

/-- The set of a bracket without its negation. -/
def content (b : Bracket) : CharSet :=
  match b.pending? with
  | some (op, first) => op.apply first b.items
  | none => b.items

def set (b : Bracket) : CharSet := negate b.negated b.content

/-- Starts an operation whose first set is what was read. -/
def operate (b : Bracket) (op : SetOp) : Bracket := ⟨b.negated, some (op, b.content), .none⟩

end Bracket

/-- Reads hyphens at the front of a bracket, which stand for themselves. -/
def frontHyphens (flags : Flags) : Nat → Bracket → List Char → Bracket × List Char
  | 0, b, s => (b, s)
  | fuel + 1, b, s =>
    match s with
    | '-' :: rest => frontHyphens flags fuel (b.add (.single 0x2D)) (skipSpace flags rest)
    | _ => (b, s)

/-- Reads the front of a bracket after its opening character: a caret, hyphens, and
a closing character that stands for itself. -/
def openBracket (flags : Flags) (s : List Char) : Bracket × List Char :=
  let s := skipSpace flags s
  let (negated, s) := match s with
    | '^' :: rest => (true, skipSpace flags rest)
    | _ => (false, s)
  let plain := s.head? != some '-'
  let (b, s) := frontHyphens flags s.length ⟨negated, none, .none⟩ s
  match s with
  | ']' :: rest =>
    if plain then (b.add (.single 0x5D), skipSpace flags rest) else (b, s)
  | _ => (b, s)

/-- Reads a named set of ASCII characters after the opening bracket. -/
def asciiName? (s : List Char) : Option (CharSet × List Char) :=
  match s with
  | ':' :: rest => do
    let (negated, rest) := match rest with
      | '^' :: more => (true, more)
      | _ => (false, rest)
    let (name, rest) ← Text.cut? ':' rest
    match rest with
    | ']' :: rest => return (negate negated (← CharSet.ascii? (String.ofList name)), rest)
    | _ => none
  | _ => none

/-- Reads one item of a bracket. -/
def bracketItem? (flags : Flags) : List Char → Option (Primitive × List Char)
  | [] => none
  | '\\' :: rest => escape? flags rest
  | c :: rest => some (.literal c false, rest)

/-- The code point that an item of a bracket stands for.  Without the flag `u` it
is a byte. -/
def literalCode? (flags : Flags) : Primitive → Option Nat
  | .literal c byte =>
    if flags.unicode || byte || c.toNat < 0x80 then some c.toNat else none
  | _ => none

/-- The set that an item of a bracket stands for. -/
def itemSet? (flags : Flags) : Primitive → Option CharSet
  | .set s => some s
  | .look _ => none
  | p => (literalCode? flags p).map fun n => flags.fold (.single n)

/-- Reads one item or a range. -/
def bracketRange? (flags : Flags) (s : List Char) : Option (CharSet × List Char) := do
  let (first, rest) ← bracketItem? flags s
  match skipSpace flags rest with
  | [] => none
  | '-' :: more =>
    match skipSpace flags more with
    | [] => none
    | ']' :: _ | '-' :: _ => return (← itemSet? flags first, '-' :: more)
    | more =>
      let (last, rest) ← bracketItem? flags more
      let low ← literalCode? flags first
      let high ← literalCode? flags last
      if low ≤ high then return (flags.fold (.range low high), rest) else none
  | rest => return (← itemSet? flags first, rest)

/-- Reads the inside of brackets, the innermost of them first in the list. -/
def brackets? (flags : Flags) : Nat → List Bracket → List Char → Option (CharSet × List Char)
  | 0, _, _ => none
  | _ + 1, [], _ => none
  | fuel + 1, b :: outer, s =>
    match skipSpace flags s with
    | [] => none
    | '[' :: rest =>
      match asciiName? rest with
      | some (set, rest) => brackets? flags fuel (b.add (flags.fold set) :: outer) rest
      | none =>
        let (inner, rest) := openBracket flags rest
        brackets? flags fuel (inner :: b :: outer) rest
    | ']' :: rest =>
      match outer with
      | [] => some (b.set, rest)
      | next :: outer => brackets? flags fuel (next.add b.set :: outer) rest
    | '&' :: '&' :: rest => brackets? flags fuel (b.operate .intersection :: outer) rest
    | '-' :: '-' :: rest => brackets? flags fuel (b.operate .difference :: outer) rest
    | '~' :: '~' :: rest => brackets? flags fuel (b.operate .symmetricDifference :: outer) rest
    | rest => do
      let (set, rest) ← bracketRange? flags rest
      brackets? flags fuel (b.add set :: outer) rest

/-- A set as a pattern.  Without the flag `u` it is a set of bytes and may hold only
ASCII. -/
def ofSet? (flags : Flags) (s : CharSet) : Option Pattern :=
  if flags.unicode || s.isAscii then some (.char s) else none

def ofPrimitive? (flags : Flags) : Primitive → Option Pattern
  | .set s => ofSet? flags s
  | .look condition => some (.look condition)
  | .literal c byte =>
    if flags.unicode || c.toNat < 0x80 then some (.char (flags.fold (.single c.toNat)))
    else if byte || flags.caseless then none
    else some (.char (.single c.toNat))

def dot? (flags : Flags) : Option Pattern :=
  if !flags.unicode then none
  else if flags.dotAll then some (.char .any)
  else if flags.crlf then
    some (.char (.complement (.union (.single 0x0A) (.single 0x0D))))
  else some (.char (.complement (.single 0x0A)))

def caret (flags : Flags) : Pattern :=
  .look (if flags.multiline then .lineStart flags.crlf else .textStart)

/-- The pattern of a dollar sign. -/
def dollar (flags : Flags) : Pattern :=
  .look (if flags.multiline then .lineEnd flags.crlf else .textEnd)

/-- Reads the digits of a count. -/
def countDigits (flags : Flags) : Nat → List Char → List Char × List Char
  | 0, s => ([], s)
  | fuel + 1, s =>
    match s with
    | c :: rest =>
      if '0' ≤ c ∧ c ≤ '9' then
        let (digits, rest) := countDigits flags fuel (skipSpace flags rest)
        (c :: digits, rest)
      else ([], s)
    | [] => ([], [])

/-- Reads a count of 32 bits with blanks around it. -/
def count? (flags : Flags) (s : List Char) : Option (Nat × List Char) := do
  let s := s.dropWhile Text.isBlank
  let (digits, rest) := countDigits flags s.length s
  return (← Decimal.unsigned? (UInt32.size - 1) digits,
    skipSpace flags (rest.dropWhile Text.isBlank))

def counts? (flags : Flags) (s : List Char) : Option (Nat × Option Nat × List Char) := do
  let (least, rest) ← count? flags (skipSpace flags s)
  match rest with
  | '\x7d' :: rest => return (least, some least, rest)
  | ',' :: rest =>
    match skipSpace flags rest with
    | '\x7d' :: rest => return (least, none, rest)
    | rest =>
      let (most, rest) ← count? flags rest
      match rest with
      | '\x7d' :: rest => if least ≤ most then return (least, some most, rest) else none
      | _ => none
  | _ => none

/-- The text without the question mark that it may start with. -/
def skipLazy : List Char → List Char
  | '?' :: rest => rest
  | s => s

/-- A part of a sequence: a pattern, or nothing where flags were set. -/
abbrev Item := Option Pattern

/-- A group that is open: the flags outside of it, its finished alternatives and
the parts of the current one, the last of each first. -/
structure Group where
  outer : Flags
  alternatives : List Pattern
  items : List Item
  deriving Repr, Inhabited

namespace Group

/-- A group without parts. -/
def empty (outer : Flags) : Group := ⟨outer, [], []⟩

/-- The pattern of the current alternative. -/
def sequence (g : Group) : Pattern :=
  g.items.foldl (fun rest item =>
    match item, rest with
    | none, rest => rest
    | some p, .empty => p
    | some p, rest => .seq p rest) .empty

def add (g : Group) (p : Pattern) : Group := { g with items := some p :: g.items }

def alternate (g : Group) : Group := ⟨g.outer, g.sequence :: g.alternatives, []⟩

def pattern (g : Group) : Pattern :=
  g.alternatives.foldl (fun rest p => .alt p rest) g.sequence

def repeat? (g : Group) (least : Nat) (most? : Option Nat) : Option Group :=
  match g.items with
  | some p :: items => some { g with items := some (.loop p least most?) :: items }
  | _ => none

end Group

/-- What is read so far: the open groups, the innermost first, the flags, the names
of groups, and the rest of the text. -/
structure State where
  group : Group
  groups : List Group
  flags : Flags
  names : List (List Char)
  rest : List Char
  deriving Repr, Inhabited

/-- Sets or clears the flag of a letter. -/
def setFlag? (on : Bool) (flags : Flags) (c : Char) : Option Flags :=
  if c = 'i' then some { flags with caseless := on }
  else if c = 'm' then some { flags with multiline := on }
  else if c = 's' then some { flags with dotAll := on }
  else if c = 'x' then some { flags with verbose := on }
  else if c = 'R' then some { flags with crlf := on }
  else if c = 'u' then some { flags with unicode := on }
  else if c = 'U' then some flags
  else none

/-- Reads the letters of flags up to a colon or a closing parenthesis.  A letter may
stand only once, and so may the hyphen, which clears the flags after it and is not
the last. -/
def flags? (seen : List Char) (flags : Flags) : List Char → Option (Flags × List Char)
  | [] => none
  | c :: rest =>
    if c = ':' ∨ c = ')' then
      if seen.head? = some '-' then none else some (flags, c :: rest)
    else if seen.contains c then none
    else if c = '-' then flags? (c :: seen) flags rest
    else (setFlag? (!seen.contains '-') flags c).bind fun flags => flags? (c :: seen) flags rest

/-- Whether a name of a group may hold a character. -/
def isNameChar (first : Bool) (c : Char) : Bool :=
  c == '_' || (if first then Text.isLetter c
    else Text.isWord c || c == '.' || c == '[' || c == ']')

/-- Reads the name of a group. -/
def groupName? (names : List (List Char)) (s : List Char) : Option (List Char × List Char) := do
  let (name, rest) ← Text.cut? '>' s
  match name with
  | [] => none
  | c :: more =>
    if isNameChar true c && more.all (isNameChar false) && !names.contains name then
      return (name, rest)
    else none

/-- Opens a group whose text goes on with `rest`. -/
def State.openGroup (st : State) (flags : Flags) (rest : List Char) : State :=
  { st with group := .empty st.flags, groups := st.group :: st.groups, flags, rest }

/-- Reads what follows an opening parenthesis. -/
def State.group? (st : State) (s : List Char) : Option State :=
  match skipSpace st.flags s with
  | '?' :: '=' :: _ | '?' :: '!' :: _ | '?' :: '<' :: '=' :: _ | '?' :: '<' :: '!' :: _ => none
  | '?' :: 'P' :: '<' :: rest | '?' :: '<' :: rest => do
    let (name, rest) ← groupName? st.names rest
    return { st.openGroup st.flags rest with names := name :: st.names }
  | '?' :: rest => do
    let (flags, rest') ← flags? [] st.flags rest
    match rest' with
    | ':' :: rest' => return st.openGroup flags rest'
    | _ =>
      if rest.head? = some ')' then none
      else return { st with
        group := { st.group with items := none :: st.group.items }
        flags
        rest := rest'.drop 1 }
  | rest => some (st.openGroup st.flags rest)

def State.close? (st : State) (rest : List Char) : Option State :=
  match st.groups with
  | [] => none
  | next :: groups =>
    some { st with
      group := next.add st.group.pattern
      groups
      flags := st.group.outer
      rest }

def State.add (st : State) (p : Pattern) (rest : List Char) : State :=
  { st with group := st.group.add p, rest }

def State.repeat? (st : State) (least : Nat) (most? : Option Nat) (rest : List Char) :
    Option State := do
  return { st with group := ← st.group.repeat? least most?, rest }

/-- Reads one part of a pattern that starts with a character. -/
def State.part? (st : State) (c : Char) (rest : List Char) : Option State :=
  if c = '(' then st.group? rest
  else if c = ')' then st.close? rest
  else if c = '|' then some { st with group := st.group.alternate, rest }
  else if c = '[' then do
    let (b, rest) := openBracket st.flags rest
    let (set, rest) ← brackets? st.flags (rest.length + 1) [b] rest
    return st.add (← ofSet? st.flags set) rest
  else if c = '?' then st.repeat? 0 (some 1) (skipLazy rest)
  else if c = '*' then st.repeat? 0 none (skipLazy rest)
  else if c = '+' then st.repeat? 1 none (skipLazy rest)
  else if c = '\x7b' then do
    let (least, most?, rest) ← counts? st.flags rest
    st.repeat? least most? (skipLazy (skipSpace st.flags rest))
  else if c = '.' then do return st.add (← dot? st.flags) rest
  else if c = '^' then some (st.add (caret st.flags) rest)
  else if c = '$' then some (st.add (dollar st.flags) rest)
  else if c = '\\' then do
    let (p, rest) ← escape? st.flags rest
    return st.add (← ofPrimitive? st.flags p) rest
  else do return st.add (← ofPrimitive? st.flags (.literal c false)) rest

/-- Reads the parts of a pattern, of which there are no more than characters. -/
def parts? : Nat → State → Option Pattern
  | 0, st => if st.rest.isEmpty && st.groups.isEmpty then some st.group.pattern else none
  | fuel + 1, st =>
    match skipSpace st.flags st.rest with
    | [] => if st.groups.isEmpty then some st.group.pattern else none
    | c :: rest => (st.part? c rest).bind (parts? fuel)

/-- The greatest weight of a pattern. -/
def greatestWeight : Nat := 10 * 1024 * 1024

/-- The pattern that a text describes.  A pattern that grows too large when its
repetitions are written out is refused. -/
def parse? (s : String) : Option Pattern :=
  let chars := s.toList
  (parts? chars.length ⟨.empty .start, [], .start, [], chars⟩).filter fun p =>
    decide (p.weight ≤ greatestWeight)

end PacketMeter.Pattern
