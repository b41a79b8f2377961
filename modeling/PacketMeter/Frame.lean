import PacketMeter.Bytes.LittleEndian
import PacketMeter.Record
import PacketMeter.Text.Blank
import PacketMeter.Text.Utf8

/-!
# Frames

A frame is the form of a packet record on the capture stream and in frame
files.  Every frame has `Frame.length` bytes, with integers in little-endian
order:

| offset | width | field                        |
|-------:|------:|------------------------------|
|      0 |     4 | id                           |
|      4 |     4 | source port, `0..65535`      |
|      8 |     4 | destination port, `0..65535` |
|     12 |    22 | protocol                     |
|     34 |    22 | source address               |
|     56 |    22 | destination address          |
|     78 |    22 | source hardware address      |
|    100 |    22 | destination hardware address |
|    122 |    22 | host name                    |
|    144 |     4 | captured length              |
|    148 |     4 | original length              |
|    152 |     8 | seconds                      |
|    160 |     4 | microseconds                 |
|    164 | 65536 | captured bytes, zero padded  |

A text field ends with its first NUL byte, and blanks at its end are padding.
Writing keeps at most 21 bytes of a text, so that a NUL always fits.  The
captured length is written from the captured bytes, of which at most 65536 are
kept.
-/

namespace PacketMeter

/-- Why bytes are not a frame. -/
inductive DecodeError where
  | incompleteFrame (size : Nat)
  | unexpectedSize (size : Nat)
  | captureLength (n : UInt32)
  | portRange (n : Int32)
  deriving Repr, DecidableEq, Inhabited

namespace Frame

/-- The width of a text field. -/
def textLength : Nat := 22

/-- The width of the area for captured bytes. -/
def rawLength : Nat := 65536

/-- The number of bytes of a frame. -/
def length : Nat := 65700

end Frame

namespace DecodeError

def message : DecodeError → String
  | incompleteFrame n =>
    "incomplete frame: " ++ toString n ++ " of " ++ toString Frame.length ++ " bytes"
  | unexpectedSize n => "unexpected frame size: " ++ toString n ++ " bytes"
  | captureLength n =>
    "capture length " ++ toString n.toNat ++ " exceeds " ++ toString Frame.rawLength
  | portRange n => "port " ++ toString n.toInt ++ " out of range"

end DecodeError

namespace Frame

/-- The `width` bytes from `offset` on. -/
def slice (offset width : Nat) (bs : List UInt8) : List UInt8 := (bs.drop offset).take width

/-- The word of 32 bits at an offset. -/
def word (offset : Nat) (bs : List UInt8) : UInt32 :=
  UInt32.ofNat (LittleEndian.toNat (slice offset 4 bs))

/-- The word of 64 bits at an offset. -/
def longWord (offset : Nat) (bs : List UInt8) : UInt64 :=
  UInt64.ofNat (LittleEndian.toNat (slice offset 8 bs))

/-- The signed word of 32 bits at an offset. -/
def integer (offset : Nat) (bs : List UInt8) : Int32 := (word offset bs).toInt32

/-- The port number at an offset. -/
def port (offset : Nat) (bs : List UInt8) : Except DecodeError UInt16 :=
  let n := integer offset bs
  if 0 ≤ n ∧ n ≤ 65535 then .ok n.toInt.toNat.toUInt16 else .error (.portRange n)

/-- The text that the bytes of a text field hold. -/
def fieldText (field : List UInt8) : String :=
  String.ofList (Text.trimEnd (Text.Utf8.decode (field.takeWhile (· != 0))))

/-- The text in the field at an offset. -/
def text (offset : Nat) (bs : List UInt8) : String := fieldText (slice offset textLength bs)

/-- The bytes of a text field that holds `s`. -/
def textField (s : String) : List UInt8 :=
  let kept := (Text.Utf8.bytes s).take (textLength - 1)
  kept ++ List.replicate (textLength - kept.length) 0

/-- The captured bytes of a record that fit into a frame. -/
def keptRaw (r : PacketRecord) : List UInt8 := r.raw.take rawLength

/-- The frame of a record. -/
def encode (r : PacketRecord) : List UInt8 :=
  LittleEndian.ofNat 4 r.id.toUInt32.toNat ++
  LittleEndian.ofNat 4 r.srcPort.toNat ++
  LittleEndian.ofNat 4 r.dstPort.toNat ++
  textField r.protocol ++
  textField r.srcIp ++
  textField r.dstIp ++
  textField r.srcMac ++
  textField r.dstMac ++
  textField r.host ++
  LittleEndian.ofNat 4 (keptRaw r).length ++
  LittleEndian.ofNat 4 r.originalLen.toNat ++
  LittleEndian.ofNat 8 r.timestamp.sec.toNat ++
  LittleEndian.ofNat 4 r.timestamp.usec.toNat ++
  (keptRaw r ++ List.replicate (rawLength - (keptRaw r).length) 0)

/-- The record of a frame.  Of several errors the first in the order size,
captured length, source port, destination port is reported. -/
def decode (bs : List UInt8) : Except DecodeError PacketRecord :=
  if bs.length < length then .error (.incompleteFrame bs.length)
  else if length < bs.length then .error (.unexpectedSize bs.length)
  else if rawLength < (word 144 bs).toNat then .error (.captureLength (word 144 bs))
  else match port 4 bs, port 8 bs with
    | .error e, _ => .error e
    | .ok _, .error e => .error e
    | .ok srcPort, .ok dstPort => .ok {
        id := integer 0 bs
        srcPort
        dstPort
        protocol := text 12 bs
        srcIp := text 34 bs
        dstIp := text 56 bs
        srcMac := text 78 bs
        dstMac := text 100 bs
        host := text 122 bs
        captureLen := word 144 bs
        originalLen := word 148 bs
        timestamp := ⟨longWord 152 bs, word 160 bs⟩
        raw := slice 164 (word 144 bs).toNat bs }

/-- A text field has its fixed width, whatever it holds. -/
@[simp] theorem length_textField (s : String) : (textField s).length = textLength := by
  simp only [textField, List.length_append, List.length_take, List.length_replicate, textLength]
  omega

/-- Every frame has the same number of bytes. -/
@[simp] theorem length_encode (r : PacketRecord) : (encode r).length = length := by
  simp only [encode, List.length_append, length_textField, LittleEndian.length_ofNat,
    List.length_replicate, keptRaw, List.length_take, textLength, rawLength, length]
  omega

end Frame

end PacketMeter
