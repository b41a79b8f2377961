import PacketMeter.Stats.Feed

/-!
# Rehearsed counters

A ledger stands in for the counters of an engine.  It says what it was told to
say, fails where it was told to fail, and keeps a list of the calls that were made.

A call fails when its whole text or its first word is on the list of failing
calls.  A clear empties the ledger, unless the ledger is sticky.
-/

namespace PacketMeter.Rehearsal

open PacketMeter.Stats

/-- The counters of one rehearsed engine.  An obedient ledger gives no more keys
than it is asked for. -/
structure Ledger where
  totals : FeedTotals
  protocols : Counts String
  sources : Counts String
  destinations : Counts String
  ports : Counts UInt16
  obedient : Bool
  failing : List String
  sticky : Bool
  deriving Repr, Inhabited

namespace Ledger

/-- A ledger that has counted nothing. -/
def empty : Ledger := ⟨⟨0, 0, 0, 0, 0⟩, [], [], [], [], false, [], false⟩

def callText {α : Type} : FeedCall α → String
  | .enable on => "enable " ++ (if on then "true" else "false")
  | .clear => "clear"
  | .totals => "totals"
  | .protocols limit => "protocols " ++ toString limit
  | .sources limit => "sources " ++ toString limit
  | .destinations limit => "destinations " ++ toString limit
  | .ports limit => "ports " ++ toString limit

/-- The first word of a text. -/
def firstWord (text : String) : String :=
  String.ofList (text.toList.takeWhile fun c => c != ' ')

/-- Whether a call is to fail. -/
def refuses (l : Ledger) (text : String) : Bool :=
  l.failing.contains text || l.failing.contains (firstWord text)

/-- The keys that are given when so many are asked for. -/
def given {α : Type} (l : Ledger) (limit : Nat) (keys : List α) : List α :=
  if l.obedient then keys.take limit else keys

/-- The ledger after a clear. -/
def cleared (l : Ledger) : Ledger :=
  if l.sticky then l
  else { l with totals := ⟨0, 0, 0, 0, 0⟩, protocols := [], sources := [], destinations := [],
                ports := [] }

/-- Answers a call that does not fail. -/
def answer {α : Type} (l : Ledger) : FeedCall α → α × Ledger
  | .enable _ => ((), l)
  | .clear => ((), l.cleared)
  | .totals => (l.totals, l)
  | .protocols limit => (l.given limit l.protocols, l)
  | .sources limit => (l.given limit l.sources, l)
  | .destinations limit => (l.given limit l.destinations, l)
  | .ports limit => (l.given limit l.ports, l)

end Ledger

/-- Ledgers by number, and the calls that were made with the number of their
ledger. -/
structure Ledgers where
  entries : List (Nat × Ledger)
  calls : List (Nat × String)
  deriving Repr, Inhabited

namespace Ledgers

def empty : Ledgers := ⟨[], []⟩

/-- The ledger with a number.  One that was not set is empty. -/
def ledger (ls : Ledgers) (n : Nat) : Ledger := (ls.entries.lookup n).getD Ledger.empty

def set (ls : Ledgers) (n : Nat) (l : Ledger) : Ledgers :=
  { ls with entries := (n, l) :: ls.entries.filter fun e => e.1 ≠ n }

def call {α : Type} (n : Nat) (question : FeedCall α) (ls : Ledgers) :
    Except Failure α × Ledgers :=
  let text := Ledger.callText question
  let l := ls.ledger n
  let ls := { ls with calls := ls.calls ++ [(n, text)] }
  if l.refuses text then (.error (.engineUnavailable (text ++ " failed")), ls)
  else
    let (a, l) := l.answer question
    (.ok a, ls.set n l)

instance : FeedHost Ledgers where
  answer := call

/-- The texts of the calls to one ledger. -/
def callsTo (ls : Ledgers) (n : Nat) : List String :=
  (ls.calls.filter fun e => e.1 == n).map Prod.snd

/-- The numbers of the ledgers that were called, in order and each once. -/
def called (ls : Ledgers) : List Nat := (ls.calls.map Prod.fst).mergeSort.eraseDups

/-- The calls grouped by ledger, each with the number of its ledger in front. -/
def grouped (ls : Ledgers) : List String :=
  ls.called.flatMap fun n => (ls.callsTo n).map fun text => toString n ++ ": " ++ text

def forget (ls : Ledgers) : Ledgers := { ls with calls := [] }

end Ledgers

end PacketMeter.Rehearsal
