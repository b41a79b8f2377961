import PacketMeter.Proofs.Capture.Activity
import PacketMeter.Proofs.Capture.Forwarding
import PacketMeter.Proofs.Channel.Runs
import PacketMeter.Proofs.Frame.File

/-!
# What is done to channels through the bridge

A reader does two things to its channel: it sends records, and it closes the channel as it
exits.  `Reader.sends` are the records that it sends with success while it deals with what
its connection delivers, and after them there can only be the close.

`Bridge.Acts b b' acts` says that every channel of `b` is in `b'` what the actions `acts`
make of it, one list for every channel.  Whatever is done through the bridge is of this
kind, and a reader acts on its own channel only.
-/

namespace PacketMeter.Capture

open Channel (Action)

namespace Reader

variable {r : Reader} {packets : Packets} {x : Reading}

/-! ## Readers -/

/-- The records that a result makes the reader send with success. -/
def accepts (packets : Packets) (x : Reading) : List PacketRecord :=
  if packets.closed then [] else (sent x).toList

/-- The close of a channel whose reader has exited. -/
def closing (r : Reader) : List (Action PacketRecord) := if r.exited then [.close] else []

theorem eq_close_of_mem_closing {a : Action PacketRecord} (ha : a ∈ r.closing) : a = .close := by
  rw [closing] at ha
  split at ha
  · exact List.mem_singleton.1 ha
  · cases ha

/-- The records that the reader sends with success while it deals with what its connection
delivers. -/
def sends (r : Reader) (packets : Packets) (script : List Delivery) : List PacketRecord :=
  if r.exited then []
  else match _h : r.frames.advance script with
    | (none, _, _) => []
    | (some reading, frames, rest) =>
      let (r, packets', _) := { r with frames }.round packets reading
      accepts packets reading ++ r.sends packets' rest
  termination_by Delivery.weight script
  decreasing_by exact FrameReader.weight_advance_lt _h

theorem forward_eq (record : PacketRecord) (he : r.exited = false) :
    (r.forward packets record).2.1 =
      packets.actAll ((if packets.closed then [] else [record]).map .send ++
        (r.forward packets record).1.closing) := by
  cases hc : packets.closed with
  | false =>
      rw [forward_of_open hc, closing]
      simp only [he, Bool.false_eq_true, if_false, List.append_nil]
      rfl
  | true =>
      rw [forward, Channel.send_of_closed record hc]
      rfl

theorem handle_eq (packets : Packets) (x : Reading) (he : r.exited = false) :
    (r.handle packets x).2.1 =
      packets.actAll ((accepts packets x).map .send ++ (r.handle packets x).1.closing) := by
  have hrest : ∀ {r' : Reader}, r'.exited = false →
      packets = packets.actAll (([] : List PacketRecord).map .send ++ r'.closing) := by
    intro r' he'
    rw [closing, he']
    rfl
  have hnone : sent x = none → accepts packets x = [] := by
    intro hs
    rw [accepts, hs, Option.toList_none, ite_self]
  cases x with
  | ended =>
      rw [hnone rfl]
      rfl
  | failed f =>
      rw [hnone rfl, handle]
      split
      · rfl
      · exact hrest he
  | frame bytes =>
      rw [handle]
      cases hd : Frame.decode bytes with
      | error e =>
          rw [hnone (Frame.classes_of_error hd).1]
          exact hrest he
      | ok record =>
          dsimp only
          cases hb : record.isHeartbeat with
          | true =>
              rw [hnone (Frame.classes_of_heartbeat hd hb).1]
              exact hrest he
          | false =>
              have hs : sent (.frame bytes) = some record := (Frame.classes_of_record hd hb).1
              rw [accepts, hs]
              exact forward_eq record he

/-- One round of a reader sends what the result says, and closes the channel if the reader
exits. -/
theorem round_eq (packets : Packets) (x : Reading) (he : r.exited = false) :
    (r.round packets x).2.1 =
      packets.actAll ((accepts packets x).map .send ++ (r.round packets x).1.closing) := by
  have hh := handle_eq packets x he
  rw [round]
  generalize r.handle packets x = handled at hh ⊢
  obtain ⟨r', packets', reports⟩ := handled
  dsimp only at hh ⊢
  split
  · rename_i hs
    have he' : r'.exited = false := by
      rw [Bool.and_eq_true, Bool.not_eq_true'] at hs
      exact hs.2
    rw [closing, he', if_neg Bool.false_ne_true, List.append_nil] at hh
    rw [Channel.actAll_append, ← hh]
    rfl
  · exact hh

theorem sends_of_exited (he : r.exited = true) (script : List Delivery) :
    r.sends packets script = [] := by
  rw [sends, if_pos he]

/-- A closed channel takes nothing from its reader. -/
theorem sends_of_closed (hc : packets.closed = true) (script : List Delivery) :
    r.sends packets script = [] := by
  fun_induction sends r packets script with
  | case1 => rfl
  | case2 => rfl
  | case3 r packets script he x frames rest h r' packets' reports hround ih =>
      have he' : ({ r with frames } : Reader).exited = false := Bool.eq_false_iff.2 he
      have hr := round_eq packets x he'
      rw [hround] at hr
      dsimp only at hr
      have hc' : packets'.closed = true := by
        rw [hr, Channel.closed_actAll, hc, Bool.true_or]
      rw [accepts, if_pos hc, ih hc', List.nil_append]

/-- The reader sends its records, and then at most closes the channel. -/
theorem take_eq (r : Reader) (packets : Packets) (script : List Delivery) :
    ∃ closes, (∀ a ∈ closes, a = .close) ∧
      (r.take packets script).2.1 =
        packets.actAll ((r.sends packets script).map .send ++ closes) := by
  fun_induction take r packets script with
  | case1 r packets script he => exact ⟨[], by simp, by rw [sends_of_exited he]; rfl⟩
  | case2 r packets script he frames rest h =>
      refine ⟨[], by simp, ?_⟩
      rw [sends, if_neg he, h]
      rfl
  | case3 r packets script he x frames rest h r' packets' reports hround r'' packets'' more
      htake ih =>
      have he' : ({ r with frames } : Reader).exited = false := Bool.eq_false_iff.2 he
      have hr := round_eq packets x he'
      rw [hround] at hr
      dsimp only at hr
      rw [sends, if_neg he, h]
      simp only [hround]
      obtain ⟨closes, hcl, hrest⟩ := ih
      rw [htake] at hrest
      dsimp only at hrest ⊢
      cases hx : r'.exited with
      | true =>
          -- A reader that has exited does nothing more.
          rw [take, if_pos hx] at htake
          obtain rfl : packets' = packets'' := congrArg (·.2.1) htake
          exact ⟨r'.closing, fun _ => eq_close_of_mem_closing,
            by rw [sends_of_exited hx, List.append_nil, hr]⟩
      | false =>
          refine ⟨closes, hcl, ?_⟩
          rw [closing, hx, if_neg Bool.false_ne_true, List.append_nil] at hr
          simp only [hrest, hr, List.map_append, List.append_assoc, Channel.actAll_append]

theorem sends_nil (r : Reader) (packets : Packets) : r.sends packets [] = [] := by
  rw [sends]
  split
  · rfl
  · rw [FrameReader.advance_nil]

theorem take_nil (r : Reader) (packets : Packets) : r.take packets [] = (r, packets, []) := by
  rw [take]
  split
  · rfl
  · rw [FrameReader.advance_nil]

/-- The frame of a record makes a new reader send this record to an open channel. -/
theorem take_frame (hc : packets.closed = false) {bytes : List UInt8} {record : PacketRecord}
    (hl : bytes.length = Frame.length) (hd : Frame.decode bytes = .ok record)
    (hb : record.isHeartbeat = false) :
    start.sends packets [.data bytes] = [record] ∧
      start.take packets [.data bytes] =
        ({ start with forwarded := 1 }, (packets.send record).2, []) := by
  have ha : start.frames.advance [.data bytes] =
      (some (.frame bytes), FrameReader.empty, []) := by
    have h := FrameReader.advance_empty_frame [] hl
    rwa [List.append_nil] at h
  have hround : start.round packets (.frame bytes) =
      ({ start with forwarded := 1 }, (packets.send record).2, []) := by
    rw [round, handle, hd]
    dsimp only
    rw [hb, if_neg Bool.false_ne_true, forward_of_open hc]
    rfl
  have hsent : accepts packets (.frame bytes) = [record] := by
    have hs : sent (.frame bytes) = some record := (Frame.classes_of_record hd hb).1
    rw [accepts, hc, hs]
    rfl
  have hreading : ¬ start.exited = true := Bool.false_ne_true
  constructor
  · rw [sends, if_neg hreading, ha]
    change (let (r, packets', _) := start.round packets (.frame bytes)
      accepts packets (.frame bytes) ++ r.sends packets' []) = _
    simp only [hround, sends_nil, hsent, List.append_nil]
  · rw [take, if_neg hreading, ha]
    change (let (r, packets, reports) := start.round packets (.frame bytes)
      let (r, packets, more) := r.take packets []
      (r, packets, reports ++ more)) = _
    simp only [hround, take_nil, List.append_nil]

/-- The end of its stream makes a reader close its channel, and send nothing. -/
theorem finish_eq (r : Reader) (packets : Packets) :
    (r.finish packets).2.1 = packets.actAll (if r.exited then [] else [.close]) := by
  rw [finish]
  split
  · rfl
  · rw [round_of_isLast r.frames.isLast_endReading]
    rfl

end Reader

/-! ## The bridge -/

namespace Bridge

/-- Every channel of a bridge is afterwards what some actions make of it. -/
def Acts (b b' : Bridge) (acts : Nat → List (Action PacketRecord)) : Prop :=
  ∀ i packets, b.channel? i = some packets → b'.channel? i = some (packets.actAll (acts i))

/-- No channel and no reader has come, and every reader has its channel still. -/
structure Alike (b b' : Bridge) : Prop where
  length_eq : b'.channels.length = b.channels.length
  workers_eq : b'.workers.map Worker.channel = b.workers.map Worker.channel

variable {b b' b'' : Bridge} {f g : Nat → List (Action PacketRecord)}

theorem Alike.rfl {b : Bridge} : Alike b b := ⟨.refl _, .refl _⟩

theorem Alike.trans (h : Alike b b') (h' : Alike b' b'') : Alike b b'' :=
  ⟨h'.length_eq.trans h.length_eq, h'.workers_eq.trans h.workers_eq⟩

theorem Acts.rfl {b : Bridge} : Acts b b fun _ => [] := fun _ _ hp => hp

theorem Acts.of_channels_eq (h : b'.channels = b.channels) : Acts b b' fun _ => [] := by
  intro i packets hp
  rw [channel?, h]
  exact hp

theorem Acts.trans (h : Acts b b' f) (h' : Acts b' b'' g) :
    Acts b b'' fun i => f i ++ g i := by
  intro i packets hp
  rw [h' i _ (h i packets hp), Channel.actAll_append]

theorem Acts.congr (h : Acts b b' f) (hfg : ∀ i, f i = g i) : Acts b b' g :=
  (funext hfg : f = g) ▸ h

theorem channel?_modifyChannel (b : Bridge) (i j : Nat) (f : Packets → Packets) :
    (b.modifyChannel i f).channel? j = (b.channel? j).map fun p => if i = j then f p else p := by
  rw [modifyChannel, channel?, channel?, List.getElem?_modify]
  rfl

/-- The actions on one channel, where the others are left alone. -/
def on (i : Nat) (xs : List (Action PacketRecord)) (j : Nat) : List (Action PacketRecord) :=
  if j = i then xs else []

theorem on_self (i : Nat) (xs : List (Action PacketRecord)) : on i xs i = xs := if_pos rfl

theorem on_of_ne {i j : Nat} (h : j ≠ i) (xs : List (Action PacketRecord)) : on i xs j = [] :=
  if_neg h

theorem mem_of_mem_on {i j : Nat} {xs : List (Action PacketRecord)} {a : Action PacketRecord}
    (ha : a ∈ on i xs j) : a ∈ xs := by
  rw [on] at ha
  split at ha
  · exact ha
  · cases ha

theorem on_nil (i : Nat) : on i [] = fun _ => [] := funext fun _ => ite_self _

theorem on_append (i : Nat) (xs ys : List (Action PacketRecord)) (j : Nat) :
    on i xs j ++ on i ys j = on i (xs ++ ys) j := by
  by_cases h : j = i
  · rw [h, on_self, on_self, on_self]
  · rw [on_of_ne h, on_of_ne h, on_of_ne h, List.append_nil]

theorem acts_modifyChannel {i : Nat} {f : Packets → Packets} {xs : List (Action PacketRecord)}
    (h : ∀ packets, b.channel? i = some packets → f packets = packets.actAll xs) :
    Acts b (b.modifyChannel i f) (on i xs) := by
  intro j packets hp
  rw [channel?_modifyChannel, hp, Option.map_some]
  by_cases hj : j = i
  · subst hj
    rw [if_pos rfl, on_self, h packets hp]
  · rw [if_neg fun e => hj e.symm, on_of_ne hj]
    rfl

theorem alike_modifyChannel (b : Bridge) (i : Nat) (f : Packets → Packets) :
    Alike b (b.modifyChannel i f) :=
  ⟨by rw [modifyChannel, List.length_modify], .refl _⟩

theorem alike_act (b : Bridge) (worker : Nat)
    (action : Reader → Packets → Reader × Packets × List Report) :
    Alike b (b.act worker action) := by
  unfold act
  split
  · exact .rfl
  · rename_i w hw
    split
    · exact .rfl
    · refine ⟨List.length_set, ?_⟩
      -- The reader has changed, and its channel is the same.
      apply List.ext_getElem?
      intro i
      simp only [List.map_set, List.getElem?_set, List.getElem?_map, List.length_map]
      split
      · rename_i hi
        subst hi
        rw [hw]
        split
        · rfl
        · rename_i hl
          exact absurd (List.getElem?_eq_some_iff.1 hw).1 hl
      · rfl

/-- What a reader does is done to its channel. -/
theorem acts_act {worker : Nat} {w : Worker} {xs : List (Action PacketRecord)}
    {action : Reader → Packets → Reader × Packets × List Report}
    (hw : b.workers[worker]? = some w)
    (h : ∀ packets, b.channel? w.channel = some packets →
      (action w.reader packets).2.1 = packets.actAll xs) :
    Acts b (b.act worker action) (on w.channel xs) := by
  intro i packets hp
  cases hc : b.channel? w.channel with
  | none =>
      have hact : b.act worker action = b := by
        rw [act, hw]
        dsimp only
        rw [show b.channels[w.channel]? = none from hc]
      have hi : i ≠ w.channel := by
        rintro rfl
        cases hc.symm.trans hp
      rw [hact, on_of_ne hi]
      exact hp
  | some current =>
      have hact : (b.act worker action).channels =
          b.channels.set w.channel (action w.reader current).2.1 := by
        rw [act, hw]
        dsimp only
        rw [show b.channels[w.channel]? = some current from hc]
      rw [channel?, hact]
      by_cases hi : i = w.channel
      · subst hi
        obtain rfl := Option.some.inj (hc.symm.trans hp)
        have hl := (List.getElem?_eq_some_iff.1 hp).1
        rw [List.getElem?_set, if_pos rfl, if_pos hl, h current hp, on_self]
      · rw [List.getElem?_set, if_neg fun e => hi e.symm, on_of_ne hi]
        exact hp

theorem act_of_none {worker : Nat} (hw : b.workers[worker]? = none)
    (action : Reader → Packets → Reader × Packets × List Report) :
    b.act worker action = b := by
  rw [act, hw]

/-! ### Readers of the bridge -/

/-- A reader, if there is one with this number, has this channel. -/
def Serves (b : Bridge) (worker i : Nat) : Prop :=
  ∀ w, b.workers[worker]? = some w → w.channel = i

variable {worker i : Nat}

theorem Serves.alike (h : b.Serves worker i) (ha : Alike b b') : b'.Serves worker i := by
  intro w hw
  have hm := congrArg (·[worker]?) ha.workers_eq
  simp only [List.getElem?_map, hw, Option.map_some] at hm
  obtain ⟨v, hv, hvw⟩ := Option.map_eq_some_iff.1 hm.symm
  rw [← hvw, h v hv]

/-- The records that a reader sends with success while it deals with what its connection
delivers. -/
def sentBy (b : Bridge) (worker : Nat) (script : List Delivery) : List PacketRecord :=
  match b.workers[worker]? with
  | none => []
  | some w =>
    match b.channel? w.channel with
    | none => []
    | some packets => w.reader.sends packets script

/-- The frame of a record, delivered to a new reader, puts the record into its channel. -/
theorem deliver_frame {packets : Packets} (hw : b.workers[worker]? = some ⟨i, Reader.start⟩)
    (hp : b.channel? i = some packets) (hc : packets.closed = false) {bytes : List UInt8}
    {record : PacketRecord} (hl : bytes.length = Frame.length)
    (hd : Frame.decode bytes = .ok record) (hb : record.isHeartbeat = false) :
    b.sentBy worker [.data bytes] = [record] ∧ b.deliver worker [.data bytes] =
      { b with
        workers := b.workers.set worker ⟨i, { Reader.start with forwarded := 1 }⟩
        channels := b.channels.set i (packets.send record).2 } := by
  obtain ⟨hs, ht⟩ := Reader.take_frame hc hl hd hb
  constructor
  · rw [sentBy, hw]
    dsimp only
    rw [hp]
    exact hs
  · rw [deliver, act, hw]
    dsimp only
    rw [show b.channels[i]? = some packets from hp]
    simp only [ht, List.append_nil]

/-- What is delivered makes the reader send and close, and nothing happens where there is no
reader. -/
theorem exists_acts_deliver (h : b.Serves worker i) (script : List Delivery) :
    ∃ closes, (∀ a ∈ closes, a = .close) ∧ (b.workers[worker]? = none → closes = []) ∧
      Acts b (b.deliver worker script) (on i ((b.sentBy worker script).map .send ++ closes)) := by
  cases hw : b.workers[worker]? with
  | none =>
      refine ⟨[], by simp, fun _ => Eq.refl _, ?_⟩
      rw [deliver, act_of_none hw, sentBy, hw]
      exact on_nil i ▸ .rfl
  | some w =>
      obtain rfl := h w hw
      cases hp : b.channel? w.channel with
      | none => exact ⟨[], by simp, fun _ => Eq.refl _, acts_act hw fun packets hp' => by
          rw [hp] at hp'
          cases hp'⟩
      | some packets =>
          obtain ⟨closes, hcl, ht⟩ := w.reader.take_eq packets script
          refine ⟨closes, hcl, nofun, acts_act hw ?_⟩
          intro packets' hp'
          obtain rfl := Option.some.inj (hp.symm.trans hp')
          rw [sentBy, hw]
          dsimp only
          rw [hp, ht]

theorem exists_acts_disconnect (h : b.Serves worker i) :
    ∃ closes, (∀ a ∈ closes, a = .close) ∧ (b.workers[worker]? = none → closes = []) ∧
      Acts b (b.disconnect worker) (on i closes) := by
  cases hw : b.workers[worker]? with
  | none =>
      refine ⟨[], by simp, fun _ => Eq.refl _, ?_⟩
      rw [disconnect, act_of_none hw]
      exact on_nil i ▸ .rfl
  | some w =>
      obtain rfl := h w hw
      refine ⟨if w.reader.exited then [] else [.close], ?_, nofun, acts_act hw fun packets _ => ?_⟩
      · split <;> simp
      · exact w.reader.finish_eq packets

theorem alike_deliver (b : Bridge) (worker : Nat) (script : List Delivery) :
    Alike b (b.deliver worker script) := alike_act b worker _

theorem alike_disconnect (b : Bridge) (worker : Nat) : Alike b (b.disconnect worker) :=
  alike_act b worker _

theorem alike_tellToStop (b : Bridge) (worker : Nat) : Alike b (b.tellToStop worker) := by
  refine ⟨Eq.refl _, ?_⟩
  apply List.ext_getElem?
  intro k
  rw [tellToStop, List.getElem?_map, List.getElem?_map, List.getElem?_modify]
  cases b.workers[k]? with
  | none => rfl
  | some w =>
      simp only [Option.map_eq_map, Option.map_some]
      split <;> rfl

/-- A capture that is given up, and its reader told to stop. -/
theorem alike_give_up (b : Bridge) (worker : Nat) :
    Alike b ({ b with active? := none }.tellToStop worker) := by
  have hg : Alike b { b with active? := none } := ⟨Eq.refl _, Eq.refl _⟩
  exact hg.trans (alike_tellToStop _ worker)

theorem acts_openChannel (b : Bridge) (capacity batch : Nat) :
    Acts b (b.openChannel capacity batch).2 fun _ => [] := by
  intro i packets hp
  rw [channel?, openChannel, List.getElem?_append_left (List.getElem?_eq_some_iff.1 hp).1]
  exact hp

theorem channel?_openChannel (b : Bridge) (capacity batch : Nat) :
    (b.openChannel capacity batch).2.channel? b.channels.length =
      some (Channel.make capacity batch) := by
  rw [channel?, openChannel, List.getElem?_append_right le_rfl, Nat.sub_self]
  rfl

section Host

variable {σ : Type} [CaptureHost σ]

theorem alike_join (b : Bridge) (cfg : CaptureConfig) (worker : Nat) (s : σ) :
    Alike b (b.join cfg worker s).2.1 := by
  unfold join
  split
  · split
    · exact .rfl
    · exact .rfl
    · exact alike_disconnect b worker
    · exact .rfl
  · exact .rfl

theorem exists_acts_join (h : b.Serves worker i) (cfg : CaptureConfig) (s : σ) :
    ∃ closes, (∀ a ∈ closes, a = .close) ∧
      Acts b (b.join cfg worker s).2.1 (on i closes) := by
  have hrest : ∃ closes : List (Action PacketRecord), (∀ a ∈ closes, a = .close) ∧
      Acts b b (on i closes) := ⟨[], by simp, on_nil i ▸ .rfl⟩
  unfold join
  split
  · split
    · exact hrest
    · exact hrest
    · obtain ⟨closes, hcl, -, hacts⟩ := exists_acts_disconnect h
      exact ⟨closes, hcl, hacts⟩
    · exact hrest
  · exact hrest

theorem alike_stop (b : Bridge) (cfg : CaptureConfig) (s : σ) :
    Alike b (b.stop cfg s).2.1 := by
  unfold stop
  split
  · exact .rfl
  · rename_i active ha
    have htold := alike_give_up b active.worker
    dsimp only
    split
    · exact ⟨Eq.refl _, Eq.refl _⟩
    · split
      · exact htold
      · exact htold.trans (alike_join _ cfg _ _)

/-- The stop of a capture may make its reader close its channel, and does nothing else to
channels. -/
theorem exists_acts_stop (h : ∀ active, b.active? = some active → b.Serves active.worker i)
    (cfg : CaptureConfig) (s : σ) :
    ∃ closes, (∀ a ∈ closes, a = .close) ∧
      Acts b (b.stop cfg s).2.1 (on i closes) := by
  have hrest : ∀ {b' : Bridge}, b'.channels = b.channels →
      ∃ closes : List (Action PacketRecord), (∀ a ∈ closes, a = .close) ∧
        Acts b b' (on i closes) := fun hb => ⟨[], by simp, on_nil i ▸ .of_channels_eq hb⟩
  unfold stop
  split
  · exact hrest (Eq.refl _)
  · rename_i active ha
    have htold := alike_give_up b active.worker
    dsimp only
    split
    · exact hrest (Eq.refl _)
    · split
      · exact hrest (Eq.refl _)
      · exact exists_acts_join ((h active ha).alike htold) cfg _

/-- A launch that works has the capture run, and another one leaves the bridge as it was. -/
theorem launch_eq (b : Bridge) (cfg : CaptureConfig) (device channel : Nat) (s : σ) :
    ((b.launch cfg device channel s).1 = .done () ∧
        (b.launch cfg device channel s).2.1 = b.run device channel) ∨
      ((∃ f, (b.launch cfg device channel s).1.result = .error f) ∧
        (b.launch cfg device channel s).2.1 = b) := by
  unfold launch
  split
  · exact .inr ⟨⟨_, rfl⟩, rfl⟩
  · exact .inr ⟨⟨_, rfl⟩, rfl⟩
  · split
    · exact .inr ⟨⟨_, rfl⟩, rfl⟩
    · exact .inl ⟨rfl, rfl⟩
    · split
      · exact .inr ⟨⟨_, rfl⟩, rfl⟩
      · exact .inr ⟨⟨_, rfl⟩, rfl⟩

/-- What comes of a launch depends on the host alone. -/
theorem launch_congr (b b' : Bridge) (cfg : CaptureConfig) (device channel : Nat) (s : σ) :
    (b'.launch cfg device channel s).1 = (b.launch cfg device channel s).1 ∧
      (b'.launch cfg device channel s).2.2 = (b.launch cfg device channel s).2.2 := by
  unfold launch
  split
  · exact ⟨rfl, rfl⟩
  · exact ⟨rfl, rfl⟩
  · split
    · exact ⟨rfl, rfl⟩
    · exact ⟨rfl, rfl⟩
    · split
      · exact ⟨rfl, rfl⟩
      · exact ⟨rfl, rfl⟩

end Host

end Bridge

end PacketMeter.Capture
