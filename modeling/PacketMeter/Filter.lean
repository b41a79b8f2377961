import PacketMeter.Record
import PacketMeter.Text.Blank
import PacketMeter.Text.Decimal
import PacketMeter.Text.Lowercase
import PacketMeter.Text.Search

/-!
# Record filters

A filter selects records.  It is written as a word before a colon and a value
after it: `proto:` selects by protocol, `src:` and `dst:` by address, `sport:`
and `dport:` by port.  Every other text selects the records that hold it in the
protocol, an address or a port, and a blank text selects all records.

Protocols and free texts are compared in lower case, addresses literally.  A
port that is not a number below 65536 selects all records.
-/

namespace PacketMeter

/-- A selection of records. -/
inductive Filter where
  | any
  | protocol (part : String)
  | sourceIp (part : String)
  | destIp (part : String)
  | sourcePort (port : UInt16)
  | destPort (port : UInt16)
  | text (part : String)
  deriving Repr, DecidableEq, Inhabited

namespace Filter

/-- Whether `part` stands in `field`. -/
def holds (field part : String) : Bool := Text.occurs part.toList field.toList

/-- Whether `part` stands in `field` when both are written in lower case. -/
def holdsLower (field part : String) : Bool :=
  Text.occurs (Text.lowercase part.toList) (Text.lowercase field.toList)

def portText (port : UInt16) : String := toString port.toNat

/-- Whether a filter selects a record. -/
def selects (f : Filter) (r : PacketRecord) : Bool :=
  match f with
  | any => true
  | protocol part => holdsLower r.protocol part
  | sourceIp part => holds r.srcIp part
  | destIp part => holds r.dstIp part
  | sourcePort port => r.srcPort == port
  | destPort port => r.dstPort == port
  | text part =>
    holdsLower r.protocol part || holdsLower r.srcIp part || holdsLower r.dstIp part ||
      holds (portText r.srcPort) part || holds (portText r.dstPort) part

/-- The filter of a port value. -/
def ofPort (make : UInt16 → Filter) (value : List Char) : Filter :=
  match Decimal.unsigned? 65535 value with
  | some n => make n.toUInt16
  | none => any

/-- The filter of a word and the value after its colon, when the word names one. -/
def ofWord? (word value : List Char) : Option Filter :=
  if word = "proto".toList then some (protocol (String.ofList value))
  else if word = "src".toList then some (sourceIp (String.ofList value))
  else if word = "dst".toList then some (destIp (String.ofList value))
  else if word = "sport".toList then some (ofPort sourcePort value)
  else if word = "dport".toList then some (ofPort destPort value)
  else none

/-- The filter that a text without blanks at its ends describes. -/
def ofTrimmed (t : List Char) : Filter :=
  if t.isEmpty then any
  else
    let named? := (Text.cut? ':' t).bind fun (word, value) => ofWord? word (Text.trim value)
    named?.getD (text (String.ofList t))

/-- The filter that a text describes.  Every text describes one. -/
def parse (s : String) : Filter := ofTrimmed (Text.trim s.toList)

/-- The records that a filter selects, in their order. -/
def select (f : Filter) (records : List PacketRecord) : List PacketRecord :=
  records.filter f.selects

@[simp] theorem selects_any (r : PacketRecord) : any.selects r = true := rfl

@[simp] theorem select_nil (f : Filter) : f.select [] = [] := rfl

@[simp] theorem select_append (f : Filter) (rs qs : List PacketRecord) :
    f.select (rs ++ qs) = f.select rs ++ f.select qs := by
  simp [select]

@[simp] theorem select_any (records : List PacketRecord) : any.select records = records := by
  simp [select]

end Filter

end PacketMeter
