import PacketMeter.Capture.Reader
import PacketMeter.Proofs.Channel.Steps
import PacketMeter.Proofs.Frame.Codec
import PacketMeter.Proofs.Frame.Reassembly

/-!
# What the reader forwards

The reader deals with the results of reading one after the other up to the first that
ends it: the end of the stream, also inside a frame, or a fault which means that the
peer is gone.  Before that it sends the records of the frames, counts heartbeats and
frames that it drops, and passes over every other fault.

Others may use the channel while the reader runs, and `pollAmid` lets them act between
any two rounds.  As long as they do not close it the reader does the same to it: it
sends the same records in the same order, and closes it at last.

The frames are told by the bytes alone.  Up to the end they are the consecutive parts
of the bytes that came, so a fault moves no frame and a frame that is dropped costs no
other one.
-/

namespace PacketMeter

/-- Whether an arrival ends the reading of a stream. -/
def Arrival.isLast : Arrival → Bool
  | byte _ => false
  | fault f => f.isDisconnect
  | ending => true

namespace Reading

/-- Whether a result ends the reading of a stream. -/
def isLast : Reading → Bool
  | .frame _ => false
  | .failed f => f.isDisconnect
  | .ended => true

def frame? : Reading → Option (List UInt8)
  | .frame bytes => some bytes
  | .ended | .failed _ => none

theorem flatten_frames (xs : List Reading) :
    (xs.filterMap frame?).flatten = xs.flatMap bytes := by
  induction xs with
  | nil => rfl
  | cons x xs ih =>
      rw [List.flatMap_cons, ← ih]
      cases x <;> rfl

theorem filterMap_frame?_cons (x : Reading) (xs : List Reading) :
    (x :: xs).filterMap frame? = x.frame?.toList ++ xs.filterMap frame? := by
  rw [List.filterMap_cons]
  cases x.frame? <;> rfl

end Reading

namespace Frame

/-- The record of a frame that is no heartbeat. -/
def record? (bytes : List UInt8) : Option PacketRecord :=
  match decode bytes with
  | .ok r => if r.id = 1000 then none else some r
  | .error _ => none

def isHeartbeat (bytes : List UInt8) : Bool :=
  match decode bytes with
  | .ok r => r.id = 1000
  | .error _ => false

def isRejected (bytes : List UInt8) : Bool :=
  match decode bytes with
  | .ok _ => false
  | .error _ => true

section Classes

variable {bytes : List UInt8} {r : PacketRecord}

theorem classes_of_error {e : DecodeError} (h : decode bytes = .error e) :
    record? bytes = none ∧ isHeartbeat bytes = false ∧ isRejected bytes = true := by
  rw [record?, isHeartbeat, isRejected, h]
  exact ⟨rfl, rfl, rfl⟩

theorem classes_of_heartbeat (h : decode bytes = .ok r) (hr : r.isHeartbeat = true) :
    record? bytes = none ∧ isHeartbeat bytes = true ∧ isRejected bytes = false := by
  have hid : r.id = 1000 := beq_iff_eq.1 hr
  rw [record?, isHeartbeat, isRejected, h]
  exact ⟨if_pos hid, decide_eq_true hid, rfl⟩

theorem classes_of_record (h : decode bytes = .ok r) (hr : r.isHeartbeat = false) :
    record? bytes = some r ∧ isHeartbeat bytes = false ∧ isRejected bytes = false := by
  have hid : ¬ r.id = 1000 := beq_eq_false_iff_ne.1 hr
  rw [record?, isHeartbeat, isRejected, h]
  exact ⟨if_neg hid, decide_eq_false hid, rfl⟩

end Classes

/-- Every frame has a record, or is a heartbeat, or is rejected. -/
theorem length_filterMap_record? (frames : List (List UInt8)) :
    (frames.filterMap record?).length + frames.countP isHeartbeat + frames.countP isRejected =
      frames.length := by
  induction frames with
  | nil => rfl
  | cons bytes frames ih =>
      rw [List.filterMap_cons, List.countP_cons, List.countP_cons, List.length_cons]
      cases hd : decode bytes with
      | error e =>
          obtain ⟨h₁, h₂, h₃⟩ := classes_of_error hd
          simp only [h₁, h₂, h₃, if_true, Bool.false_eq_true, if_false]
          omega
      | ok r =>
          cases hr : r.isHeartbeat with
          | true =>
              obtain ⟨h₁, h₂, h₃⟩ := classes_of_heartbeat hd hr
              simp only [h₁, h₂, h₃, if_true, Bool.false_eq_true, if_false]
              omega
          | false =>
              obtain ⟨h₁, h₂, h₃⟩ := classes_of_record hd hr
              simp only [h₁, h₂, h₃, Bool.false_eq_true, if_false, List.length_cons]
              omega

end Frame

namespace Arrival

variable {pending : List UInt8}

theorem not_isDisconnect_of_isInterruption {f : Fault} (h : f.isInterruption = true) :
    f.isDisconnect = false := by
  rw [Fault.isInterruption, beq_iff_eq] at h
  rw [Fault.isDisconnect, h]

theorem isLast_of_meet_none {a : Arrival} (h : (meet pending a).1 = none) : a.isLast = false := by
  cases a with
  | byte b => rfl
  | fault f =>
      rw [meet] at h
      split at h
      · rename_i hf
        exact not_isDisconnect_of_isInterruption hf
      · cases h
  | ending => cases h

/-- The end of the stream inside a frame is a fault of a peer that is gone. -/
theorem isLast_of_meet_some {a : Arrival} {x : Reading} (h : (meet pending a).1 = some x) :
    a.isLast = x.isLast := by
  cases a with
  | byte b =>
      rw [meet] at h
      split at h
      · obtain rfl := Option.some.inj h
        rfl
      · cases h
  | fault f =>
      rw [meet] at h
      split at h
      · cases h
      · obtain rfl := Option.some.inj h
        rfl
  | ending =>
      obtain rfl := Option.some.inj h
      split <;> rfl

theorem takeWhile_walk (pending : List UInt8) (as : List Arrival) :
    (walk pending as).takeWhile (!·.isLast) = walk pending (as.takeWhile (!·.isLast)) := by
  induction as generalizing pending with
  | nil => rfl
  | cons a as ih =>
      rw [walk_cons, List.takeWhile_cons]
      cases h : (meet pending a).1 with
      | none =>
          rw [isLast_of_meet_none h, Option.toList_none, List.nil_append, ih, Bool.not_false,
            if_pos rfl, walk_cons, h]
          rfl
      | some x =>
          rw [isLast_of_meet_some h, Option.toList_some, List.singleton_append,
            List.takeWhile_cons, ih]
          cases x.isLast with
          | true => rfl
          | false =>
              rw [Bool.not_false, if_pos rfl, if_pos rfl, walk_cons, h]
              rfl

theorem takeWhile_append_ending (as : List Arrival) :
    (as ++ [ending]).takeWhile (!·.isLast) = as.takeWhile (!·.isLast) := by
  induction as with
  | nil => rfl
  | cons a as ih => rw [List.cons_append, List.takeWhile_cons, List.takeWhile_cons, ih]

theorem ending_not_mem_takeWhile (as : List Arrival) :
    .ending ∉ as.takeWhile (!·.isLast) := by
  intro h
  have hl := List.mem_takeWhile_imp h
  cases hl

/-- As long as the stream does not end, the frames are the consecutive parts of its
bytes. -/
theorem frames_walk {as : List Arrival} (h : .ending ∉ as) :
    ((walk [] as).filterMap Reading.frame?).flatten ++ held [] as = as.filterMap byte? ∧
      (∀ bytes ∈ (walk [] as).filterMap Reading.frame?, bytes.length = 65700) ∧
      (held [] as).length < 65700 := by
  refine ⟨?_, ?_, length_held_lt (by decide) as⟩
  · rw [Reading.flatten_frames, bytes_walk h, List.nil_append]
  · intro bytes hb
    obtain ⟨x, hx, hf⟩ := List.mem_filterMap.1 hb
    cases x with
    | frame bs =>
        obtain rfl := Option.some.inj hf
        exact length_of_mem_walk hx
    | ended => cases hf
    | failed f => cases hf

end Arrival

namespace FrameReader

variable {r r' : FrameReader} {script rest : List Delivery} {x : Reading}

theorem isLast_endReading (r : FrameReader) : r.endReading.isLast = true := by
  rw [endReading]
  split <;> rfl

/-- The results of a stream before the last. -/
def earlier (r : FrameReader) (script : List Delivery) : List Reading :=
  (r.readings script).takeWhile (!·.isLast)

theorem earlier_of_none (h : r.advance script = (none, r', rest)) : r.earlier script = [] := by
  rw [earlier, readings_of_none h, List.takeWhile_cons, isLast_endReading]
  rfl

theorem earlier_of_isLast (h : r.advance script = (some x, r', rest)) (hl : x.isLast = true) :
    r.earlier script = [] := by
  rw [earlier, readings_of_some h, List.takeWhile_cons, hl]
  rfl

theorem earlier_of_not_isLast (h : r.advance script = (some x, r', rest))
    (hl : x.isLast = false) : r.earlier script = x :: r'.earlier rest := by
  rw [earlier, readings_of_some h, List.takeWhile_cons, hl]
  rfl

/-- The results before the last are those of the arrivals before the last. -/
theorem earlier_empty (script : List Delivery) :
    empty.earlier script =
      Arrival.walk [] ((Arrival.ofScript script).takeWhile (!·.isLast)) := by
  -- The end that follows the deliveries is a last arrival, so it adds nothing before one.
  rw [earlier, readings_eq_walk, Arrival.takeWhile_walk, Arrival.takeWhile_append_ending]
  rfl

end FrameReader

namespace Capture

open Channel (Action)
open Arrival (ofScript walk)

/-- The record that a result makes the reader send. -/
def sent (x : Reading) : Option PacketRecord := x.frame?.bind Frame.record?

theorem reduceOption_map_sent (xs : List Reading) :
    (xs.map sent).reduceOption = (xs.filterMap Reading.frame?).filterMap Frame.record? := by
  rw [List.filterMap_filterMap]
  exact List.filterMap_map

/-- What the reader says of a result that does not end it. -/
def remarks : Reading → List Report
  | .frame bytes =>
      match Frame.decode bytes with
      | .ok _ => []
      | .error e => [.frameDropped e]
  | .failed f => [.readFailed f]
  | .ended => []

/-- What is done to a channel by one who does `ds`, and by others in between. -/
def weave {α : Type} : List (List (Action α)) → List (Option α) → List (Action α)
  | others, [] => others.headD []
  | others, d :: ds => others.headD [] ++ d.toList.map .send ++ weave others.tail ds

theorem weave_nil_left {α : Type} (ds : List (Option α)) :
    weave [] ds = ds.reduceOption.map .send := by
  induction ds with
  | nil => rfl
  | cons d ds ih =>
      rw [weave, List.tail_nil, ih]
      cases d <;> rfl

/-- Nobody of the others closes the channel. -/
def KeepOpen {α : Type} (others : List (List (Action α))) : Prop :=
  ∀ acts ∈ others, ∀ a ∈ acts, a.closes = false

theorem KeepOpen.headD {α : Type} {others : List (List (Action α))} (h : KeepOpen others) :
    ∀ a ∈ others.headD [], a.closes = false := by
  cases others with
  | nil => simp
  | cons acts others => exact h acts List.mem_cons_self

theorem KeepOpen.tail {α : Type} {others : List (List (Action α))} (h : KeepOpen others) :
    KeepOpen others.tail := fun acts ha => h acts (List.mem_of_mem_tail ha)

/-- Sending does not close, so only the others could. -/
theorem KeepOpen.weave {α : Type} {others : List (List (Action α))} (h : KeepOpen others)
    (ds : List (Option α)) : ∀ a ∈ weave others ds, a.closes = false := by
  induction ds generalizing others with
  | nil => exact h.headD
  | cons d ds ih =>
      intro a ha
      rw [Capture.weave, List.mem_append, List.mem_append] at ha
      rcases ha with (ha | ha) | ha
      · exact h.headD a ha
      · obtain ⟨item, -, rfl⟩ := List.mem_map.1 ha
        rfl
      · exact ih h.tail a ha

theorem closed_actAll_of_not_closes {α : Type} {ch : Channel α} {acts : List (Action α)}
    (hc : ch.closed = false) (h : ∀ a ∈ acts, a.closes = false) :
    (ch.actAll acts).closed = false := by
  rw [Channel.closed_actAll, hc, Bool.false_or, List.any_eq_false]
  simpa using h

namespace Reader

variable {r : Reader} {packets : Packets} {x : Reading}

/-! ## Rounds -/

/-- The reader after more frames. -/
def counting (r : Reader) (frames : List (List UInt8)) : Reader :=
  { r with
    forwarded := r.forwarded + (frames.filterMap Frame.record?).length
    heartbeats := r.heartbeats + frames.countP Frame.isHeartbeat
    rejected := r.rejected + frames.countP Frame.isRejected }

theorem counting_append (r : Reader) (frames more : List (List UInt8)) :
    r.counting (frames ++ more) = (r.counting frames).counting more := by
  simp only [counting, List.filterMap_append, List.length_append, List.countP_append,
    Nat.add_assoc]

/-- The last result makes the reader exit. -/
theorem round_of_isLast (hx : x.isLast = true) : r.round packets x = r.exit packets := by
  have hh : r.handle packets x = r.exit packets := by
    cases x with
    | frame bytes => cases hx
    | ended => rfl
    | failed f =>
        rw [Reading.isLast] at hx
        rw [handle, hx, Bool.true_or, if_pos rfl]
  rw [round, hh]
  simp only [exit, Bool.not_true, Bool.and_false, Bool.false_eq_true, if_false]

theorem forward_of_open (hc : packets.closed = false) (record : PacketRecord) :
    r.forward packets record =
      ({ r with forwarded := r.forwarded + 1 }, (packets.send record).2, []) := by
  have hsend : packets.send record = (.ok (), (packets.send record).2) := by
    rw [Channel.send, hc]
    rfl
  rw [forward, hsend]

/-- What one round does with any other result, while the channel is open. -/
theorem round_of_not_isLast (hs : r.stopping = false) (hc : packets.closed = false)
    (hx : x.isLast = false) :
    r.round packets x =
      (r.counting x.frame?.toList, packets.actAll ((sent x).toList.map .send), remarks x) := by
  have hh : r.handle packets x =
      (r.counting x.frame?.toList, packets.actAll ((sent x).toList.map .send), remarks x) := by
    cases x with
    | ended => cases hx
    | failed f =>
        rw [Reading.isLast] at hx
        rw [handle, hx, hs, Bool.or_false, if_neg Bool.false_ne_true]
        rfl
    | frame bytes =>
        rw [handle, sent, remarks, Reading.frame?, Option.bind_some, Option.toList_some, counting,
          List.countP_singleton, List.countP_singleton, List.filterMap_cons, List.filterMap_nil]
        cases hd : Frame.decode bytes with
        | error e =>
            obtain ⟨h₁, h₂, h₃⟩ := Frame.classes_of_error hd
            simp only [h₁, h₂, h₃]
            rfl
        | ok record =>
            cases hb : record.isHeartbeat with
            | true =>
                obtain ⟨h₁, h₂, h₃⟩ := Frame.classes_of_heartbeat hd hb
                simp only [h₁, h₂, h₃, hb]
                rfl
            | false =>
                obtain ⟨h₁, h₂, h₃⟩ := Frame.classes_of_record hd hb
                simp only [h₁, h₂, h₃, hb, forward_of_open hc]
                rfl
  rw [round, hh]
  have hs' : (r.counting x.frame?.toList).stopping = false := hs
  simp only [hs', Bool.false_and, Bool.false_eq_true, if_false]

/-! ## Runs -/

/-- Reads a whole stream while others act on the channel before every round. -/
def pollAmid (r : Reader) (packets : Packets) (script : List Delivery)
    (others : List (List (Action PacketRecord))) : Reader × Packets × List Report :=
  if r.exited then (r, packets, [])
  else match _h : r.frames.advance script with
    | (none, frames, _) =>
      { r with frames }.round (packets.actAll (others.headD [])) frames.endReading
    | (some reading, frames, rest) =>
      let (r, packets, reports) :=
        { r with frames }.round (packets.actAll (others.headD [])) reading
      let (r, packets, more) := r.pollAmid packets rest others.tail
      (r, packets, reports ++ more)
  termination_by Delivery.weight script
  decreasing_by exact FrameReader.weight_advance_lt _h

/-- Without others it is the reading of a whole stream. -/
theorem pollAmid_nil (r : Reader) (packets : Packets) (script : List Delivery) :
    r.pollAmid packets script [] = r.poll packets script := by
  rw [poll]
  fun_induction take r packets script with
  | case1 r packets script he =>
      rw [pollAmid, if_pos he]
      simp only [finish, he, if_true, List.append_nil]
  | case2 r packets script he frames rest h =>
      rw [pollAmid, if_neg he, h]
      simp only [finish, he, List.headD_nil, Channel.actAll_nil, List.nil_append]
      rfl
  | case3 r packets script he x frames rest h r' packets' reports hround _ _ more htake ih =>
      rw [htake] at ih
      rw [pollAmid, if_neg he, h]
      simp only [List.headD_nil, Channel.actAll_nil, List.tail_nil, hround, ih, List.append_assoc]

section Runs

variable {r' : Reader} {packets' : Packets} {reports : List Report} {frames : FrameReader}
  {script rest : List Delivery} {others : List (List (Action PacketRecord))}

/-- The last of the deliveries is followed by the end of the stream. -/
theorem pollAmid_of_none (he : ¬ r.exited = true)
    (h : r.frames.advance script = (none, frames, rest)) :
    r.pollAmid packets script others =
      { r with frames }.exit (packets.actAll (others.headD [])) := by
  rw [pollAmid, if_neg he, h]
  exact round_of_isLast frames.isLast_endReading

theorem pollAmid_of_isLast (he : ¬ r.exited = true)
    (h : r.frames.advance script = (some x, frames, rest)) (hl : x.isLast = true) :
    r.pollAmid packets script others =
      { r with frames }.exit (packets.actAll (others.headD [])) := by
  rw [pollAmid, if_neg he, h]
  simp only [round_of_isLast hl]
  rw [pollAmid, exited_exit, if_pos rfl, exit, List.append_nil]

theorem pollAmid_of_not_isLast (hs : r.stopping = false) (he : ¬ r.exited = true)
    (hc : (packets.actAll (others.headD [])).closed = false)
    (h : r.frames.advance script = (some x, frames, rest)) (hl : x.isLast = false)
    (hnext : ({ r with frames }.counting x.frame?.toList).pollAmid
      ((packets.actAll (others.headD [])).actAll ((sent x).toList.map .send)) rest others.tail =
        (r', packets', reports)) :
    r.pollAmid packets script others = (r', packets', remarks x ++ reports) := by
  rw [pollAmid, if_neg he, h]
  simp only [round_of_not_isLast (r := { r with frames }) hs hc hl, hnext]

/-- A run of the reader ends it.  It has counted the frames before the last result and
done to the channel what they say, and the others what they would. -/
theorem pollAmid_eq (script : List Delivery) (hs : r.stopping = false) (he : ¬ r.exited = true) :
    let xs := r.frames.earlier script
    let counted := r.counting (xs.filterMap Reading.frame?)
    ∃ frames, ∀ packets others, packets.closed = false → KeepOpen others →
      r.pollAmid packets script others =
        ({ counted with frames, exited := true },
          packets.actAll (weave others (xs.map sent) ++ [.close]),
          xs.flatMap remarks ++
            [.readerDone counted.forwarded counted.heartbeats counted.rejected]) := by
  induction hn : Delivery.weight script using Nat.strong_induction_on
    generalizing r script with
  | h n ih =>
      rcases h : r.frames.advance script with ⟨_ | x, frames, rest⟩
      · rw [FrameReader.earlier_of_none h]
        refine ⟨frames, fun packets others hc ho => ?_⟩
        rw [pollAmid_of_none he h, List.map_nil, weave, Channel.actAll_append]
        rfl
      · cases hl : x.isLast with
        | true =>
            rw [FrameReader.earlier_of_isLast h hl]
            refine ⟨frames, fun packets others hc ho => ?_⟩
            rw [pollAmid_of_isLast he h hl, List.map_nil, weave, Channel.actAll_append]
            rfl
        | false =>
            obtain ⟨frames', hnext⟩ := ih _ (hn ▸ FrameReader.weight_advance_lt h)
              (r := { r with frames }.counting x.frame?.toList) rest hs he rfl
            rw [FrameReader.earlier_of_not_isLast h hl]
            refine ⟨frames', fun packets others hc ho => ?_⟩
            -- The channel of the next round is open, since neither a record nor the others
            -- close it.
            have hopen := closed_actAll_of_not_closes hc ho.headD
            have hopen' : ((packets.actAll (others.headD [])).actAll
                ((sent x).toList.map .send)).closed = false :=
              closed_actAll_of_not_closes hopen (by simp [Action.closes])
            rw [pollAmid_of_not_isLast hs he hopen h hl (hnext _ _ hopen' ho.tail)]
            simp only [Reading.filterMap_frame?_cons, counting_append, List.map_cons, weave,
              List.flatMap_cons, Channel.actAll_append, List.append_assoc]
            rfl

end Runs

/-- A reader that is never told to stop, on a channel that nobody else closes, sends the
records of the frames before the last arrival, once each and in their order, and closes
the channel after them.  The frames are the consecutive parts of the bytes that came
until then, whatever faults came among them, and each is in one of the three counts. -/
theorem forwards_records (packets : Packets) (script : List Delivery)
    (others : List (List (Action PacketRecord))) (hc : packets.closed = false)
    (ho : ∀ acts ∈ others, ∀ a ∈ acts, a.closes = false) :
    ∃ (frames : List (List UInt8)) (rest : List UInt8) (deeds : List (Option PacketRecord))
      (final : Reader) (reports : List Report),
      let records := frames.filterMap Frame.record?
      frames.flatten ++ rest =
          ((ofScript script).takeWhile (!·.isLast)).filterMap Arrival.byte? ∧
        (∀ bytes ∈ frames, bytes.length = 65700) ∧ rest.length < 65700 ∧
        start.pollAmid packets script others =
          (final, packets.actAll (weave others deeds ++ [.close]), reports) ∧
        deeds.reduceOption = records ∧ (packets.actAll (weave others deeds)).closed = false ∧
        start.poll packets script = (final, (packets.sendAll records).2.close, reports) ∧
        (packets.sendAll records).1 = records.length ∧
        final.exited = true ∧ final.forwarded = records.length ∧
        final.heartbeats = frames.countP Frame.isHeartbeat ∧
        final.rejected = frames.countP Frame.isRejected ∧
        final.forwarded + final.heartbeats + final.rejected = frames.length ∧
        reports.getLast? =
          some (.readerDone final.forwarded final.heartbeats final.rejected) := by
  obtain ⟨hflat, hlen, hrest⟩ :=
    Arrival.frames_walk (Arrival.ending_not_mem_takeWhile (ofScript script))
  rw [← FrameReader.earlier_empty] at hflat hlen
  obtain ⟨last, hamid⟩ := pollAmid_eq (r := start) script rfl Bool.false_ne_true
  have hdeeds := reduceOption_map_sent (start.frames.earlier script)
  refine ⟨_, _, _, _, _, hflat, hlen, hrest, hamid packets others hc ho, hdeeds,
    closed_actAll_of_not_closes hc (KeepOpen.weave ho _), ?_, ?_, rfl, Nat.zero_add _,
    Nat.zero_add _, Nat.zero_add _, ?_, List.getLast?_concat⟩
  · rw [← pollAmid_nil, hamid packets [] hc (by simp [KeepOpen]), Channel.actAll_append,
      weave_nil_left, hdeeds, ← Channel.snd_sendAll]
    rfl
  · rw [Channel.fst_sendAll, hc, if_neg Bool.false_ne_true]
  · simpa only [counting, start, Nat.zero_add] using Frame.length_filterMap_record? _

/-- Some bytes, with a fault before them that costs nothing, and the peer gone after
them. -/
def betweenFaults (bytes : List UInt8) : List Delivery :=
  [.fault (.system 11), .data bytes, .fault (.system 104), .data [7]]

theorem bytes_betweenFaults {bytes : List UInt8} (h : bytes ≠ []) :
    ((ofScript (betweenFaults bytes)).takeWhile (!·.isLast)).filterMap Arrival.byte? = bytes := by
  have hbytes : ∀ a ∈ bytes.map Arrival.byte, (!a.isLast) = true := by
    intro a ha
    obtain ⟨b, -, rfl⟩ := List.mem_map.1 ha
    rfl
  have hscript : ofScript (betweenFaults bytes) =
      .fault (.system 11) :: (bytes.map .byte ++ [.fault (.system 104), .byte 7]) := by
    rw [betweenFaults, Arrival.ofScript_cons, Arrival.ofScript_cons, Arrival.arrivals_data h]
    rfl
  rw [hscript, List.takeWhile_cons_of_pos (by rfl), List.takeWhile_append_of_pos hbytes,
    List.takeWhile_cons_of_neg (by decide), List.append_nil,
    List.filterMap_cons_none (by rfl), List.filterMap_map]
  exact List.filterMap_some

theorem eq_singleton_of_flatten {frames : List (List UInt8)} {rest bytes : List UInt8}
    (h : frames.flatten ++ rest = bytes) (hl : ∀ f ∈ frames, f.length = 65700)
    (hr : rest.length < 65700) (hb : bytes.length = 65700) : frames = [bytes] := by
  have hcount : frames.flatten.length = frames.length * 65700 := by
    rw [List.length_flatten, List.map_congr_left hl, List.map_const', List.sum_replicate_nat]
  have hlen := congrArg List.length h
  rw [List.length_append, hcount, hb] at hlen
  obtain ⟨f, rfl⟩ := List.length_eq_one_iff.1 (by omega : frames.length = 1)
  have hrest : rest = [] := by
    rw [List.length_singleton] at hlen
    exact List.eq_nil_of_length_eq_zero (by omega)
  rw [← h, hrest, List.append_nil, List.flatten_singleton]

/-- The record of the one frame is sent, whatever comes after it. -/
theorem forwards_records_one :
    (start.poll (Channel.make 4 2) (betweenFaults (Frame.encode default))).2.1 =
      ((Channel.make 4 2).send (Frame.reread default)).2.close := by
  have hlength : (Frame.encode default).length = 65700 := Frame.length_encode default
  have hne : Frame.encode default ≠ [] := by
    intro h
    rw [h] at hlength
    cases hlength
  have hrecord : Frame.record? (Frame.encode default) = some (Frame.reread default) := by
    rw [Frame.record?, Frame.decode_encode]
    rfl
  obtain ⟨frames, rest, deeds, final, reports, hflat, hlen, hrest, -, -, -, hpoll, -⟩ :=
    forwards_records (Channel.make 4 2) (betweenFaults (Frame.encode default))
      [[.subscribe], [.take 0 .one]] rfl (by simp [Action.closes])
  rw [bytes_betweenFaults hne] at hflat
  obtain rfl := eq_singleton_of_flatten hflat hlen hrest hlength
  rw [hpoll, List.filterMap_cons_some hrecord, Channel.snd_sendAll]
  rfl

end Reader

end Capture

end PacketMeter
