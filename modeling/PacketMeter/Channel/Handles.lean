import PacketMeter.Channel

/-!
# Named handles on a channel

The holders of a channel under names: handles to send with, receivers, waits that
go on, and streams.  A stream is a receiver that is asked for one result after
the other.  It keeps its wait from one question to the next, and once it has
ended it stays ended.

A step is one action of one holder, and its answer is what the holder sees.
Giving a name a second time drops what had it before.
-/

namespace PacketMeter

/-- A receiver that is asked for one result after the other. -/
structure ItemStream where
  queue : Nat
  mode : TakeMode
  wait? : Option Nat
  ended : Bool
  deriving Repr, Inhabited

/-- A channel and the named handles on it. -/
structure ChannelHandles (α : Type) where
  channel : Channel α
  senders : Nat
  receivers : List (String × Nat)
  waits : List (String × Nat)
  streams : List (String × ItemStream)
  deriving Repr, Inhabited

/-- One action of a holder. -/
inductive ChannelStep (α : Type) where
  | send (a : α)
  | sendAll (items : List α)
  | close
  | askSender
  | cloneSender
  | dropSender
  | subscribe (name : String)
  | clone (source name : String)
  | drop (name : String)
  | tryBatch (name : String)
  | receive (name : String) (mode : TakeMode)
  | inspect (name : String)
  | wait (source name : String) (mode : TakeMode)
  | poll (name : String)
  | cancel (name : String)
  | stream (source name : String) (mode : TakeMode)
  | next (name : String)
  | dropStream (name : String)
  deriving Repr, Inhabited

/-- What a holder sees. -/
inductive ChannelAnswer (α : Type) where
  | done
  | failed (failure : Failure)
  | noSender
  | noWait
  | unknownName
  | sent (count : Nat)
  | senderClosed (closed? : Option Bool)
  | items (items : List α)
  | polled (mode : TakeMode) (result : Poll α)
  | inspected (length : Nat) (dropped : Nat) (closed : Bool)
  deriving Repr, Inhabited

namespace ChannelHandles

variable {α : Type}

/-- A channel with one handle to send with. -/
def make (capacity batch : Nat) : ChannelHandles α :=
  ⟨Channel.make capacity batch, 1, [], [], []⟩

/-- A list of named things without one name. -/
def without {β : Type} (name : String) (entries : List (String × β)) : List (String × β) :=
  entries.filter fun e => e.1 ≠ name

/-- Drops the receiver with a name, if there is one. -/
def dropReceiver (h : ChannelHandles α) (name : String) : ChannelHandles α :=
  match h.receivers.lookup name with
  | none => h
  | some q => { h with channel := h.channel.release q, receivers := without name h.receivers }

/-- Ends the wait with a name, if there is one. -/
def cancelWait (h : ChannelHandles α) (name : String) : ChannelHandles α :=
  match h.waits.lookup name with
  | none => h
  | some w => { h with channel := h.channel.cancel w, waits := without name h.waits }

/-- Drops the stream with a name, if there is one. -/
def dropStream (h : ChannelHandles α) (name : String) : ChannelHandles α :=
  match h.streams.lookup name with
  | none => h
  | some s =>
    let channel := match s.wait? with
      | some w => h.channel.cancel w
      | none => h.channel
    { h with channel := channel.release s.queue, streams := without name h.streams }

/-- Names a queue that is already held. -/
def nameReceiver (h : ChannelHandles α) (name : String) (q : Nat) : ChannelHandles α :=
  let h := h.dropReceiver name
  { h with receivers := (name, q) :: h.receivers }

/-- Asks a stream for its next result. -/
def askStream (channel : Channel α) (s : ItemStream) : Poll α × ItemStream × Channel α :=
  if s.ended then (.ended, s, channel)
  else
    let (result, wait?, channel) := match s.wait? with
      | some w =>
        let (result, channel) := channel.pollWait w
        (result, (match result with | .pending => some w | _ => none), channel)
      | none => channel.beginWait s.queue s.mode
    match result with
    | .ended => (.ended, { s with wait?, ended := true }, channel)
    | _ => (result, { s with wait? }, channel)

/-- Up to so many of the results that a stream has at once, and whether it has
ended. -/
def collectWithin (rounds : Nat) (channel : Channel α) (s : ItemStream) :
    List (List α) × Bool × ItemStream × Channel α :=
  match rounds with
  | 0 => ([], false, s, channel)
  | rounds + 1 =>
    match askStream channel s with
    | (.ready items, s, channel) =>
      let (results, ended, s, channel) := collectWithin rounds channel s
      (items :: results, ended, s, channel)
    | (.ended, s, channel) => ([], true, s, channel)
    | (.pending, s, channel) => ([], false, s, channel)

/-- All results that a stream has at once, and whether it has ended. -/
def collectStream (channel : Channel α) (s : ItemStream) :
    List (List α) × Bool × ItemStream × Channel α :=
  let waiting := match channel.queue? s.queue with
    | some q => q.items.length
    | none => 0
  collectWithin (waiting + 1) channel s

def step (h : ChannelHandles α) : ChannelStep α → ChannelAnswer α × ChannelHandles α
  | .send a =>
    if h.senders = 0 then (.noSender, h)
    else match h.channel.send a with
      | (.ok (), channel) => (.done, { h with channel })
      | (.error f, channel) => (.failed f, { h with channel })
  | .sendAll items =>
    if h.senders = 0 then (.noSender, h)
    else
      let (n, channel) := h.channel.sendAll items
      (.sent n, { h with channel })
  | .close =>
    if h.senders = 0 then (.noSender, h) else (.done, { h with channel := h.channel.close })
  | .askSender =>
    (.senderClosed (if h.senders = 0 then none else some h.channel.closed), h)
  | .cloneSender =>
    if h.senders = 0 then (.noSender, h) else (.done, { h with senders := h.senders + 1 })
  | .dropSender => (.done, { h with senders := h.senders - 1 })
  | .subscribe name =>
    if h.senders = 0 then (.noSender, h)
    else
      let (q, channel) := h.channel.subscribe
      (.done, nameReceiver { h with channel } name q)
  | .clone source name =>
    match h.receivers.lookup source with
    | none => (.unknownName, h)
    | some q => (.done, nameReceiver { h with channel := h.channel.hold q } name q)
  | .drop name => (.done, h.dropReceiver name)
  | .tryBatch name =>
    match h.receivers.lookup name with
    | none => (.unknownName, h)
    | some q =>
      let (items, channel) := h.channel.tryBatch q
      (.items items, { h with channel })
  | .receive name mode =>
    match h.receivers.lookup name with
    | none => (.unknownName, h)
    | some q =>
      let (result, channel) := h.channel.take q mode
      (.polled mode result, { h with channel })
  | .inspect name =>
    match (h.receivers.lookup name).bind h.channel.queue? with
    | none => (.unknownName, h)
    | some q => (.inspected q.items.length q.dropped q.closed, h)
  | .wait source name mode =>
    match h.receivers.lookup source with
    | none => (.unknownName, h)
    | some q =>
      let (result, wait?, channel) := h.channel.beginWait q mode
      let h := { h with channel }
      match wait? with
      | none => (.polled mode result, h)
      | some w =>
        let h := h.cancelWait name
        (.polled mode result, { h with waits := (name, w) :: h.waits })
  | .poll name =>
    match h.waits.lookup name with
    | none => (.noWait, h)
    | some w =>
      let mode := match h.channel.waits.lookup w with
        | some wait => wait.mode
        | none => .one
      match h.channel.pollWait w with
      | (.pending, channel) => (.polled mode .pending, { h with channel })
      | (result, channel) =>
        (.polled mode result, { h with channel, waits := without name h.waits })
  | .cancel name => (.done, h.cancelWait name)
  | .stream source name mode =>
    match h.receivers.lookup source with
    | none => (.unknownName, h)
    | some q =>
      let h := { h with receivers := without source h.receivers }
      let h := h.dropStream name
      (.done, { h with streams := (name, ⟨q, mode, none, false⟩) :: h.streams })
  | .next name =>
    match h.streams.lookup name with
    | none => (.unknownName, h)
    | some s =>
      let (result, s', channel) := askStream h.channel s
      (.polled s.mode result,
        { h with channel, streams := (name, s') :: without name h.streams })
  | .dropStream name => (.done, h.dropStream name)

/-- Takes steps one after the other. -/
def run (h : ChannelHandles α) : List (ChannelStep α) → List (ChannelAnswer α)
  | [] => []
  | s :: rest =>
    let (answer, h) := h.step s
    answer :: run h rest

end ChannelHandles

end PacketMeter
