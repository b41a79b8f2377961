import PacketMeter.Json

/-!
# Reading JSON

`Json.parse?` reads a text that holds one value with blanks around it.  The
blanks of the format are the space, the line feed, the carriage return and the
tab.  A number has no leading zeros and no plus sign, control characters stand in
strings only as escapes, and no comma ends a list.

Two escapes that stand for the two halves of a surrogate pair give one character;
a half without its partner stays a half.
-/

namespace PacketMeter.Json

/-- The text without the blanks in front of it. -/
def skipBlanks (s : List Char) : List Char :=
  s.dropWhile fun c => c == ' ' || c == '\n' || c == '\r' || c == '\t'

/-- What follows `word` in a text that starts with it. -/
def afterWord? (word s : List Char) : Option (List Char) :=
  if word.isPrefixOf s then some (s.drop word.length) else none

/-- The value of a hexadecimal digit. -/
def hexDigit? (c : Char) : Option Nat :=
  if '0' ≤ c ∧ c ≤ '9' then some (c.toNat - 48)
  else if 'a' ≤ c ∧ c ≤ 'f' then some (c.toNat - 87)
  else if 'A' ≤ c ∧ c ≤ 'F' then some (c.toNat - 55)
  else none

/-- The value of four hexadecimal digits. -/
def hexUnit? (a b c d : Char) : Option Nat := do
  return (((← hexDigit? a) * 16 + (← hexDigit? b)) * 16 + (← hexDigit? c)) * 16 + (← hexDigit? d)

/-- A UTF-16 unit as a part of a string. -/
def ofUnit (n : Nat) : JsonChar :=
  if 0xD800 ≤ n ∧ n < 0xE000 then .half n else .char (Char.ofNat n)

/-- Puts a part in front of a string, where the two halves of a surrogate pair
join into one character. -/
def consUnit (p : JsonChar) (rest : JsonString) : JsonString :=
  match p, rest with
  | .half high, .half low :: tail =>
    if high < 0xDC00 ∧ 0xDC00 ≤ low then
      .char (Char.ofNat (0x10000 + (high - 0xD800) * 0x400 + (low - 0xDC00))) :: tail
    else p :: rest
  | _, _ => p :: rest

/-- The character of an escape of one letter. -/
def letterEscape? (c : Char) : Option Char :=
  if c = '"' then some '"'
  else if c = '\\' then some '\\'
  else if c = '/' then some '/'
  else if c = 'b' then some '\x08'
  else if c = 'f' then some '\x0c'
  else if c = 'n' then some '\n'
  else if c = 'r' then some '\r'
  else if c = 't' then some '\t'
  else none

/-- The string whose opening quote has been read, and what follows its closing
quote. -/
def stringRest? : List Char → Option (JsonString × List Char)
  | [] => none
  | '"' :: rest => some ([], rest)
  | '\\' :: 'u' :: a :: b :: c :: d :: rest => do
    let n ← hexUnit? a b c d
    let (s, rest) ← stringRest? rest
    return (consUnit (ofUnit n) s, rest)
  | '\\' :: c :: rest => do
    let e ← letterEscape? c
    let (s, rest) ← stringRest? rest
    return (.char e :: s, rest)
  | c :: rest =>
    if c.toNat < 0x20 then none
    else (stringRest? rest).map fun (s, rest) => (.char c :: s, rest)

/-- Whether a character is a decimal digit. -/
def isDigit (c : Char) : Bool := '0' ≤ c && c ≤ '9'

/-- One digit or more, and what follows them. -/
def digits? (s : List Char) : Option (List Char × List Char) :=
  match s.takeWhile isDigit with
  | [] => none
  | ds => some (ds, s.dropWhile isDigit)

/-- The whole part of a number: a zero, or digits that do not start with one. -/
def whole? : List Char → Option (List Char × List Char)
  | '0' :: rest => some (['0'], rest)
  | s => digits? s

/-- The fraction of a number, possibly empty. -/
def fraction? : List Char → Option (List Char × List Char)
  | '.' :: rest => (digits? rest).map fun (ds, rest) => ('.' :: ds, rest)
  | s => some ([], s)

/-- The exponent of a number, possibly empty. -/
def exponent? : List Char → Option (List Char × List Char)
  | c :: rest =>
    if c = 'e' ∨ c = 'E' then
      match rest with
      | '+' :: rest => (digits? rest).map fun (ds, rest) => (c :: '+' :: ds, rest)
      | '-' :: rest => (digits? rest).map fun (ds, rest) => (c :: '-' :: ds, rest)
      | _ => (digits? rest).map fun (ds, rest) => (c :: ds, rest)
    else some ([], c :: rest)
  | [] => some ([], [])

/-- A number, and what follows it. -/
def number? (s : List Char) : Option (Json × List Char) := do
  let (sign, s) := match s with
    | '-' :: rest => (['-'], rest)
    | _ => ([], s)
  let (whole, s) ← whole? s
  let (fraction, s) ← fraction? s
  let (exponent, s) ← exponent? s
  return (.number (String.ofList (sign ++ whole ++ fraction ++ exponent)), s)

mutual

/-- A value, and what follows it, read in at most `fuel` steps. -/
def value? : Nat → List Char → Option (Json × List Char)
  | 0, _ => none
  | fuel + 1, s =>
    match skipBlanks s with
    | '\x7b' :: rest => match skipBlanks rest with
      | '\x7d' :: rest => some (.object [], rest)
      | s => (members? fuel s).map fun (ms, rest) => (.object ms, rest)
    | '[' :: rest => match skipBlanks rest with
      | ']' :: rest => some (.array [], rest)
      | s => (elements? fuel s).map fun (vs, rest) => (.array vs, rest)
    | '"' :: rest => (stringRest? rest).map fun (s, rest) => (.string s, rest)
    | 'n' :: rest => (afterWord? "ull".toList rest).map fun rest => (.null, rest)
    | 't' :: rest => (afterWord? "rue".toList rest).map fun rest => (.bool true, rest)
    | 'f' :: rest => (afterWord? "alse".toList rest).map fun rest => (.bool false, rest)
    | s => number? s

/-- The elements up to the end of an array. -/
def elements? : Nat → List Char → Option (List Json × List Char)
  | 0, _ => none
  | fuel + 1, s => do
    let (v, s) ← value? fuel s
    match skipBlanks s with
    | ',' :: rest => do
      let (vs, rest) ← elements? fuel rest
      return (v :: vs, rest)
    | ']' :: rest => return ([v], rest)
    | _ => none

/-- The members up to the end of an object. -/
def members? : Nat → List Char → Option (List (JsonString × Json) × List Char)
  | 0, _ => none
  | fuel + 1, s =>
    match skipBlanks s with
    | '"' :: rest => do
      let (name, s) ← stringRest? rest
      match skipBlanks s with
      | ':' :: rest => do
        let (v, s) ← value? fuel rest
        match skipBlanks s with
        | ',' :: rest => do
          let (ms, rest) ← members? fuel rest
          return ((name, v) :: ms, rest)
        | '\x7d' :: rest => return ([(name, v)], rest)
        | _ => none
      | _ => none
    | _ => none

end

/-- The value of a text that holds one value with blanks around it. -/
def parse? (s : String) : Option Json := do
  let cs := s.toList
  let (v, rest) ← value? (2 * cs.length + 2) cs
  if (skipBlanks rest).isEmpty then some v else none

end PacketMeter.Json
