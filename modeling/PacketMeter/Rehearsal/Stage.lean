import PacketMeter.Capture.Host
import PacketMeter.Rehearsal.Ledger
import PacketMeter.Rehearsal.Site

/-!
# The stage

A stage is a host of a capture that does as it was told: an engine with its signal,
the place where it listens, and the thread of the reader.  It keeps a list of the
calls to the engine and to the signal, each with a mark when the signal was set at
that moment.

Calls can be told to fail.  One that is told to fail with a message that begins
with `panic` crashes.  A signal that fails stays as it was.

On a stage that stalls, reading the connection fails now and then, after which the
reader pauses.  A reader that pauses longer than somebody waits for it is not there
in time.
-/

namespace PacketMeter.Rehearsal

open PacketMeter.Stats

/-- What is told to fail: calls, each with a message, and whether nobody listens. -/
structure Faults where
  failing : List (String × String)
  refuses : Bool
  deriving Repr, DecidableEq, Inhabited

/-- Nothing is told to fail. -/
def Faults.none : Faults := ⟨[], false⟩

/-- A host that does as it was told.  `connected` says whether the engine holds a
connection. -/
structure Stage where
  site : Site
  deviceNames : List String
  listingTime : Duration
  stalls : Bool
  retryPause : Duration
  faults : Faults
  armed : Bool
  connected : Bool
  calls : List String
  ledgers : Ledgers
  deriving Repr, Inhabited

namespace Stage

def note (s : Stage) (text : String) : Stage :=
  { s with calls := s.calls ++ [if s.armed then text ++ " armed" else text] }

/-- Whether a message is that of a crash. -/
def isCrash (message : String) : Bool :=
  (Text.stripFront? "panic".toList message.toList).isSome

/-- What comes of a call that gives something when it is not told to fail. -/
def verdict {α : Type} (s : Stage) (verb : String) (a : α) : Outcome α :=
  match s.faults.failing.lookup verb with
  | none => .done a
  | some message =>
    if isCrash message then .crashed message else .failed (.engineUnavailable message)

/-- Makes a call to the signal, which sets it to a value. -/
def signal (s : Stage) (verb : String) (armed : Bool) : Outcome Unit × Stage :=
  let s := s.note verb
  match s.verdict verb () with
  | .done () => (.done (), { s with armed })
  | other => (other, s)

/-- Makes a call to the engine about a device. -/
def aboutDevice (s : Stage) (verb : String) (device : Nat) : Outcome Unit × Stage :=
  let s := s.note (verb ++ " " ++ toString device)
  (s.verdict verb (), s)

def list (s : Stage) (limit : Duration) : Outcome (List String) × Stage :=
  let s := s.note "devices"
  if limit.nanoseconds < s.listingTime.nanoseconds then (.failed (.enumerationTimeout limit), s)
  else (s.verdict "devices" s.deviceNames, s)

def connect (s : Stage) (limit : Duration) : Outcome Unit × Stage :=
  let site := if s.faults.refuses then .absent none else s.site
  match site.connect limit with
  | .ok () => (.done (), { s with connected := true })
  | .error f => (.failed f, s)

/-- Whether a reader pauses too long for somebody who waits so long. -/
def outlasts (s : Stage) (limit : Duration) : Bool :=
  s.stalls && limit.nanoseconds < s.retryPause.nanoseconds

/-- The fault of a connection that cannot be shared. -/
def noHandleLeft : Failure := .io (.system 24)

def perform {α : Type} (question : HostCall α) (s : Stage) : Outcome α × Stage :=
  match question with
  | .set => s.signal "set" true
  | .reset => s.signal "reset" false
  | .devices limit => s.list limit
  | .start device => s.aboutDevice "start" device
  | .select device => s.aboutDevice "select" device
  | .stop =>
    let s := s.note "stop"
    (s.verdict "stop" (), { s with connected := false })
  | .close =>
    let s := s.note "close"
    (s.verdict "close" (), s)
  | .connect _ limit => s.connect limit
  | .share =>
    if (s.faults.failing.lookup "clone").isSome then (.failed noHandleLeft, s) else (.done (), s)
  | .shutdown => (.done (), s)
  | .join limit => (.done (!s.outlasts limit), s)

instance : CaptureHost Stage where
  perform := perform

instance : FeedHost Stage where
  answer n question s :=
    let (result, ledgers) := FeedHost.answer n question s.ledgers
    (result, { s with ledgers })

/-- A stage before its first call. -/
def make (site : Site) (deviceNames : List String) (stalls : Bool) (retryPause : Duration) :
    Stage where
  site
  deviceNames
  listingTime := ⟨0⟩
  stalls
  retryPause
  faults := Faults.none
  armed := false
  connected := false
  calls := []
  ledgers := Ledgers.empty

/-- The calls since a moment at which there were `n`. -/
def callsSince (s : Stage) (n : Nat) : List String := s.calls.drop n

end Stage

end PacketMeter.Rehearsal
