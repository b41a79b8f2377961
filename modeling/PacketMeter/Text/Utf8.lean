/-!
# UTF-8 with replacement

Bytes from outside need not be well-formed UTF-8.  Decoding never fails: every
maximal part of the input that starts a character but does not complete one
becomes a single replacement character `U+FFFD`, and so does every byte that
cannot start a character.

The first byte of a character fixes how many bytes follow it and the range of
the first of them; this is the table of well-formed byte sequences of the
Unicode standard.  All later bytes lie in `80..BF`.
-/

namespace PacketMeter.Text.Utf8

/-- The character that stands for an ill-formed part of the input. -/
def replacement : Char := '\uFFFD'

/-- Whether a byte can stand after the second byte of a character. -/
def isContinuation (b : UInt8) : Bool := 0x80 ≤ b && b ≤ 0xBF

/-- What a lead byte of a multi-byte character promises: the number of bytes
after it, and the least and the greatest value of the first of them. -/
structure Promise where
  count : Nat
  least : UInt8
  greatest : UInt8
  deriving Repr, DecidableEq

/-- The promise of a lead byte, or `none` for a byte that starts no character
of two or more bytes. -/
def promise (lead : UInt8) : Option Promise :=
  if lead < 0xC2 then none
  else if lead ≤ 0xDF then some ⟨1, 0x80, 0xBF⟩
  else if lead = 0xE0 then some ⟨2, 0xA0, 0xBF⟩
  else if lead = 0xED then some ⟨2, 0x80, 0x9F⟩
  else if lead ≤ 0xEF then some ⟨2, 0x80, 0xBF⟩
  else if lead = 0xF0 then some ⟨3, 0x90, 0xBF⟩
  else if lead ≤ 0xF3 then some ⟨3, 0x80, 0xBF⟩
  else if lead = 0xF4 then some ⟨3, 0x80, 0x8F⟩
  else none

/-- The character whose lead byte and following bytes are given. -/
def assemble (lead : UInt8) (count : Nat) (tail : List UInt8) : Char :=
  Char.ofNat (tail.foldl (fun n b => n * 64 + b.toNat % 64) (lead.toNat % (1 <<< (6 - count))))

/-- The first character of a non-empty input and the number of bytes that it
takes after the lead byte. -/
def scan (lead : UInt8) (rest : List UInt8) : Char × Nat :=
  if lead < 0x80 then (Char.ofNat lead.toNat, 0)
  else match promise lead, rest with
    | some p, b :: more =>
      if p.least ≤ b && b ≤ p.greatest then
        let run := (more.take (p.count - 1)).takeWhile isContinuation
        if run.length = p.count - 1 then (assemble lead p.count (b :: run), p.count)
        else (replacement, 1 + run.length)
      else (replacement, 0)
    | _, _ => (replacement, 0)

/-- The characters of a byte sequence, ill-formed parts replaced. -/
def decode : List UInt8 → List Char
  | [] => []
  | lead :: rest =>
    let (c, used) := scan lead rest
    c :: decode (rest.drop used)
  termination_by bytes => bytes.length
  decreasing_by rw [List.length_drop, List.length_cons]; omega

/-- The bytes of a text. -/
def encode (s : List Char) : List UInt8 := s.flatMap String.utf8EncodeChar

/-- The bytes of a string. -/
def bytes (s : String) : List UInt8 := encode s.toList

/-- The string that a byte sequence spells, ill-formed parts replaced. -/
def text (bs : List UInt8) : String := String.ofList (decode bs)

@[simp] theorem decode_nil : decode [] = [] := by
  rw [decode]

theorem decode_cons (lead : UInt8) (rest : List UInt8) :
    decode (lead :: rest) = (scan lead rest).1 :: decode (rest.drop (scan lead rest).2) := by
  rw [decode]

/-- An ASCII byte is its own character. -/
theorem decode_cons_of_ascii {lead : UInt8} (rest : List UInt8) (h : lead < 0x80) :
    decode (lead :: rest) = Char.ofNat lead.toNat :: decode rest := by
  simp [decode_cons, scan, h]

@[simp] theorem encode_nil : encode [] = [] := rfl

@[simp] theorem encode_cons (c : Char) (s : List Char) :
    encode (c :: s) = String.utf8EncodeChar c ++ encode s := by
  simp [encode]

@[simp] theorem encode_append (s t : List Char) : encode (s ++ t) = encode s ++ encode t := by
  simp [encode]

end PacketMeter.Text.Utf8
