import PacketMeter.Text.Blank
import PacketMeter.Text.CaseFold
import PacketMeter.Text.WordTable

/-!
# Character sets

The sets of code points that a pattern can name, built from ranges and properties
by the operations on sets.  A folded set also holds the variants of its members
in the other case.
-/

namespace PacketMeter

/-- A set of code points. -/
inductive CharSet where
  | none
  | range (first last : Nat)
  | digit
  | blank
  | word
  | letter
  | upper
  | lower
  | union (a b : CharSet)
  | intersection (a b : CharSet)
  | difference (a b : CharSet)
  | symmetricDifference (a b : CharSet)
  | complement (a : CharSet)
  | folded (ascii : Bool) (a : CharSet)
  deriving Repr, Inhabited

namespace CharSet

/-- Whether a code point is in a set. -/
def covers : CharSet → Nat → Bool
  | none, _ => false
  | range first last, n => decide (first ≤ n ∧ n ≤ last)
  | digit, n => Text.isDigit (Char.ofNat n)
  | blank, n => Text.isBlank (Char.ofNat n)
  | word, n => Text.isWord (Char.ofNat n)
  | letter, n => Text.isLetter (Char.ofNat n)
  | upper, n => Text.isUpper (Char.ofNat n)
  | lower, n => Text.isLower (Char.ofNat n)
  | union a b, n => covers a n || covers b n
  | intersection a b, n => covers a n && covers b n
  | difference a b, n => covers a n && !covers b n
  | symmetricDifference a b, n => covers a n != covers b n
  | complement a, n => !covers a n
  | folded ascii a, n =>
    (if ascii then Text.asciiVariants n else Text.caseVariants n).any (covers a)

/-- About how many bytes it takes to tell the UTF-8 forms of a set apart. -/
def weight : CharSet → Nat
  | none => 0
  | range first last => if first = last then 32 * (Char.ofNat first).utf8Size else 64
  | digit => 7000
  | blank => 1000
  | word | letter => 50000
  | upper | lower => 40000
  | union a b | intersection a b | difference a b | symmetricDifference a b => weight a + weight b
  | complement a => weight a + 64
  | folded _ a => weight a

/-- The set of one code point. -/
def single (n : Nat) : CharSet := range n n

def unionAll (sets : List CharSet) : CharSet := sets.foldr union none

/-- Every code point. -/
def any : CharSet := complement none

/-- Whether a set of bytes holds only ASCII. -/
def isAscii (a : CharSet) : Bool := (List.range 128).all fun i => !a.covers (128 + i)

def asciiDigit : CharSet := range 0x30 0x39

def asciiLetter : CharSet := union (range 0x41 0x5A) (range 0x61 0x7A)

def asciiWord : CharSet := union (union asciiDigit asciiLetter) (single 0x5F)

def asciiBlank : CharSet := union (range 0x09 0x0D) (single 0x20)

/-- The named sets of ASCII characters. -/
def ascii? (name : String) : Option CharSet :=
  [ ("alnum", union asciiDigit asciiLetter),
    ("alpha", asciiLetter),
    ("ascii", range 0 0x7F),
    ("blank", union (single 0x09) (single 0x20)),
    ("cntrl", union (range 0 0x1F) (single 0x7F)),
    ("digit", asciiDigit),
    ("graph", range 0x21 0x7E),
    ("lower", range 0x61 0x7A),
    ("print", range 0x20 0x7E),
    ("punct", unionAll [range 0x21 0x2F, range 0x3A 0x40, range 0x5B 0x60, range 0x7B 0x7E]),
    ("space", asciiBlank),
    ("upper", range 0x41 0x5A),
    ("word", asciiWord),
    ("xdigit", unionAll [asciiDigit, range 0x41 0x46, range 0x61 0x66]) ].lookup name

/-- The sets that a property names.  Case, blanks, hyphens and underscores in the
name do not matter. -/
def property? (name : String) : Option CharSet :=
  let plain := name.toList.filter fun c => !(c == ' ' || c == '_' || c == '-')
  [ ("l", letter), ("letter", letter), ("alphabetic", letter), ("alpha", letter),
    ("lu", upper), ("uppercaseletter", upper), ("uppercase", upper), ("upper", upper),
    ("ll", lower), ("lowercaseletter", lower), ("lowercase", lower), ("lower", lower),
    ("nd", digit), ("decimalnumber", digit), ("digit", digit),
    ("whitespace", blank), ("space", blank), ("any", any), ("ascii", range 0 0x7F)
    ].lookup (String.ofList (plain.map Char.toLower))

@[simp] theorem covers_none (n : Nat) : covers none n = false := rfl

@[simp] theorem covers_any (n : Nat) : covers any n = true := rfl

@[simp] theorem covers_single_self (n : Nat) : covers (single n) n = true := by
  simp [single, covers]

end CharSet

end PacketMeter
