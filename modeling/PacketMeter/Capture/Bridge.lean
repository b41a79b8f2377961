import PacketMeter.Capture.Host
import PacketMeter.Capture.Reader
import PacketMeter.Config

/-!
# The bridge

The bridge owns the one capture that may be active.  To start it, the bridge arms
the engine, starts it, connects to its frames, selects the device and lets a
reader run.  Whatever fails on the way, what was done before is undone: a started
engine is stopped and the signal is reset.

To stop it, every step is taken even when an earlier one fails.  A reader that
does not exit in time is reported when everything else is done, and is left to
itself.

A capture whose reader has exited is still active, and is stopped before a new one
is started.  A start while the reader runs does nothing.

The readers keep their channels.  Both are known by number, and a reader that
outlives its capture still sends to the channel that it was started with.
-/

namespace PacketMeter.Capture

/-- A reader with the number of its channel. -/
structure Worker where
  channel : Nat
  reader : Reader
  deriving Inhabited

/-- The active capture. -/
structure Active where
  device : Nat
  worker : Nat
  deriving Repr, DecidableEq, Inhabited

/-- The bridge with all channels and readers that it has seen, and the lines of
the log. -/
structure Bridge where
  channels : List Packets
  workers : List Worker
  active? : Option Active
  reports : List Report
  deriving Inhabited

namespace Bridge

/-- A bridge without channels and readers. -/
def empty : Bridge := ⟨[], [], none, []⟩

/-- Adds a channel.  The result is its number. -/
def openChannel (b : Bridge) (capacity batch : Nat) : Nat × Bridge :=
  (b.channels.length, { b with channels := b.channels ++ [Channel.make capacity batch] })

def channel? (b : Bridge) (i : Nat) : Option Packets := b.channels[i]?

/-- The bridge with one channel changed. -/
def modifyChannel (b : Bridge) (i : Nat) (f : Packets → Packets) : Bridge :=
  { b with channels := b.channels.modify i f }

def report (b : Bridge) (reports : List Report) : Bridge :=
  { b with reports := b.reports ++ reports }

/-- Lets a reader act on its channel. -/
def act (b : Bridge) (worker : Nat)
    (action : Reader → Packets → Reader × Packets × List Report) : Bridge :=
  match b.workers[worker]? with
  | none => b
  | some w =>
    match b.channels[w.channel]? with
    | none => b
    | some packets =>
      let (reader, packets, reports) := action w.reader packets
      { b with
        workers := b.workers.set worker { w with reader }
        channels := b.channels.set w.channel packets
        reports := b.reports ++ reports }

/-- Delivers what arrives on the connection of a reader. -/
def deliver (b : Bridge) (worker : Nat) (script : List Delivery) : Bridge :=
  b.act worker fun reader packets => reader.take packets script

/-- Ends the connection of a reader. -/
def disconnect (b : Bridge) (worker : Nat) : Bridge := b.act worker Reader.finish

def tellToStop (b : Bridge) (worker : Nat) : Bridge :=
  { b with workers := b.workers.modify worker fun w => { w with reader := w.reader.tellToStop } }

/-- Whether a reader has not exited. -/
def isReading (b : Bridge) (worker : Nat) : Bool :=
  match b.workers[worker]? with
  | some w => !w.reader.exited
  | none => false

/-- Whether a capture is active. -/
def isActive (b : Bridge) : Bool := b.active?.isSome

/-- Whether the reader of the active capture still reads. -/
def isRunning (b : Bridge) : Bool :=
  match b.active? with
  | some active => b.isReading active.worker
  | none => false

/-- The device of the active capture. -/
def device? (b : Bridge) : Option Nat := b.active?.map Active.device

variable {σ : Type} [CaptureHost σ]

/-- Gives up a start after the engine was started, because of a failure. -/
def abort (connected : Bool) (failure : Failure) (s : σ) : Outcome Unit × σ :=
  let s := if connected then (perform .shutdown s).2 else s
  match perform .stop s with
  | (.crashed message, s) => (.crashed message, s)
  | (_, s) => (.failed failure, s)

/-- Selects the device on a connection and makes the handle of the reader. -/
def select (device : Nat) (s : σ) : Outcome Unit × σ :=
  match perform (.select device) s with
  | (.crashed message, s) => (.crashed message, s)
  | (.failed f, s) => abort true f s
  | (.done (), s) =>
    match perform .share s with
    | (.crashed message, s) => (.crashed message, s)
    | (.failed f, s) => abort true f s
    | (.done (), s) => (.done (), s)

/-- Starts the engine and connects to it. -/
def attach (cfg : CaptureConfig) (device : Nat) (s : σ) : Outcome Unit × σ :=
  match perform (.start device) s with
  | (.crashed message, s) => (.crashed message, s)
  | (.failed f, s) => (.failed f, s)
  | (.done (), s) =>
    match perform (.connect cfg.endpoint cfg.connectTimeout) s with
    | (.crashed message, s) => (.crashed message, s)
    | (.failed f, s) => abort false f s
    | (.done (), s) => select device s

def run (b : Bridge) (device channel : Nat) : Bridge :=
  { b with
    workers := b.workers ++ [⟨channel, Reader.start⟩]
    active? := some ⟨device, b.workers.length⟩ }

/-- Starts a capture when none is active. -/
def launch (b : Bridge) (cfg : CaptureConfig) (device channel : Nat) (s : σ) :
    Outcome Unit × Bridge × σ :=
  match perform .set s with
  | (.crashed message, s) => (.crashed message, b, s)
  | (.failed f, s) => (.failed f, b, s)
  | (.done (), s) =>
    match attach cfg device s with
    | (.crashed message, s) => (.crashed message, b, s)
    | (.done (), s) => (.done (), b.run device channel, s)
    | (.failed f, s) =>
      match perform .reset s with
      | (.crashed message, s) => (.crashed message, b, s)
      | (_, s) => (.failed f, b, s)

/-- Waits for a reader that was told to stop. -/
def join (b : Bridge) (cfg : CaptureConfig) (worker : Nat) (s : σ) : Outcome Unit × Bridge × σ :=
  if b.isReading worker then
    match perform (.join cfg.joinTimeout) s with
    | (.crashed message, s) => (.crashed message, b, s)
    | (.failed f, s) => (.failed f, b, s)
    | (.done true, s) => (.done (), b.disconnect worker, s)
    | (.done false, s) => (.failed (.shutdownTimeout cfg.joinTimeout), b, s)
  else (.done (), b, s)

/-- Stops the active capture, if there is one. -/
def stop (b : Bridge) (cfg : CaptureConfig) (s : σ) : Outcome Unit × Bridge × σ :=
  match b.active? with
  | none => (.done (), b, s)
  | some active =>
    let b := { b with active? := none }
    match perform .stop s with
    | (.crashed message, s) => (.crashed message, b, s)
    | (_, s) =>
      let b := b.tellToStop active.worker
      let s := (perform .shutdown s).2
      match perform .reset s with
      | (.crashed message, s) => (.crashed message, b, s)
      | (_, s) => b.join cfg active.worker s

/-- Starts a capture of a device, whose records go to a channel. -/
def start (b : Bridge) (cfg : CaptureConfig) (device channel : Nat) (s : σ) :
    Outcome Unit × Bridge × σ :=
  if b.isRunning then (.done (), b, s)
  else match b.stop cfg s with
    | (.crashed message, b, s) => (.crashed message, b, s)
    | (.failed f, b, s) => (b.report [.stopFailed f]).launch cfg device channel s
    | (.done (), b, s) => b.launch cfg device channel s

def release (b : Bridge) (cfg : CaptureConfig) (s : σ) : Outcome Unit × Bridge × σ :=
  match b.stop cfg s with
  | (.failed f, b, s) => (.done (), b.report [.stopFailed f], s)
  | other => other

/-- A start while the reader runs does nothing. -/
theorem start_of_isRunning {b : Bridge} (cfg : CaptureConfig) (device channel : Nat) (s : σ)
    (h : b.isRunning = true) : b.start cfg device channel s = (.done (), b, s) := by
  simp [start, h]

/-- Stopping when nothing is active does nothing. -/
theorem stop_of_inactive {b : Bridge} (cfg : CaptureConfig) (s : σ) (h : b.active? = none) :
    b.stop cfg s = (.done (), b, s) := by
  simp [stop, h]

end Bridge

end PacketMeter.Capture
