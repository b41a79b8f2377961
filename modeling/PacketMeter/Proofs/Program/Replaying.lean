import Mathlib.Data.List.ReduceOption
import Mathlib.Data.List.TakeWhile
import PacketMeter.Program.Replay
import PacketMeter.Proofs.Capture.Forwarding
import PacketMeter.Proofs.Frame.File
import PacketMeter.Proofs.Frame.Loading
import PacketMeter.Proofs.Stats.Aggregation

/-!
# Replay and live capture

The same frames come to statistics in two ways.  Live they are taken off a connection and go as
records through a channel, from which they are fed in batches to an aggregator.  In a replay they
are loaded from a file and counted one after the other.

On both ways every frame is found, however its bytes come in pieces, and nothing is lost as long
as the channel has room.  The statistics differ in the heartbeats only.  The reader of a live
capture keeps them from the channel, and a replay counts them.
-/

namespace PacketMeter

/-! ## What goes through a channel -/

namespace Channel

variable {α : Type}

/-- The item that an action sends. -/
def Action.item? : Action α → Option α
  | .send a => some a
  | .close | .subscribe | .hold _ | .release _ | .take _ _ | .beginWait _ _ | .pollWait _
  | .cancel _ => none

theorem accepted_of_open {ch : Channel α} (hc : ch.closed = false) (x : Action α) :
    ch.accepted x = x.item?.toList := by
  cases x with
  | send a => rw [accepted, hc, if_neg Bool.false_ne_true]; rfl
  | _ => rfl

/-- As long as nobody closes the channel, all that is sent is accepted. -/
theorem sentAll_of_open {ch : Channel α} (hc : ch.closed = false) {i : Nat} {q : ItemQueue α}
    (hq : ch.queue? i = some q) {xs : List (Action α)} (hx : ∀ x ∈ xs, x.closes = false) :
    ch.sentAll i xs = xs.filterMap Action.item? := by
  induction xs generalizing ch q with
  | nil => rfl
  | cons x xs ih =>
      rw [List.forall_mem_cons] at hx
      obtain ⟨q', hq', -⟩ := change_act hq x
      have hopen : (ch.act x).closed = false := by rw [closed_act, hc, hx.1]; rfl
      rw [sentAll, if_pos (lt_length_iff.2 ⟨q, hq⟩), accepted_of_open hc, ih hopen hq' hx.2]
      cases h : x.item? with
      | none => exact (List.filterMap_cons_none h).symm
      | some a => exact (List.filterMap_cons_some h).symm

/-- From the close on nothing is accepted. -/
theorem sentAll_close (ch : Channel α) (i : Nat) (xs : List (Action α)) :
    ch.sentAll i (.close :: xs) = [] := by
  rw [sentAll, accepted_of_closes rfl, ite_self, act, sentAll_of_closed ch.closed_close]
  rfl

end Channel

namespace Capture

open Channel (Action)

/-- The others send nothing. -/
def SendNothing {α : Type} (others : List (List (Action α))) : Prop :=
  ∀ acts ∈ others, ∀ a ∈ acts, a.item? = none

theorem SendNothing.headD {α : Type} {others : List (List (Action α))} (h : SendNothing others) :
    (others.headD []).filterMap Action.item? = [] := by
  cases others with
  | nil => rfl
  | cons acts others => exact List.filterMap_eq_nil_iff.2 (h acts List.mem_cons_self)

theorem SendNothing.tail {α : Type} {others : List (List (Action α))} (h : SendNothing others) :
    SendNothing others.tail := fun acts ha => h acts (List.mem_of_mem_tail ha)

/-- Where the others send nothing, the own items are sent. -/
theorem SendNothing.weave {α : Type} {others : List (List (Action α))} (h : SendNothing others)
    (ds : List (Option α)) : (weave others ds).filterMap Action.item? = ds.reduceOption := by
  induction ds generalizing others with
  | nil => exact h.headD
  | cons d ds ih =>
      rw [Capture.weave, List.filterMap_append, List.filterMap_append, h.headD, List.nil_append,
        ih h.tail]
      cases d with
      | none => rfl
      | some a => rfl

/-- What the reader sends of the record of a frame: nothing if that is a heartbeat. -/
def forwarded? (r : PacketRecord) : Option PacketRecord := Option.guard (!·.isHeartbeat) r

theorem reduceOption_forwarded (records : List PacketRecord) :
    (records.map forwarded?).reduceOption = records.filter (!·.isHeartbeat) := by
  rw [List.reduceOption, List.filterMap_map]
  exact congrFun List.filterMap_eq_filter records

end Capture

/-! ## Frames with records -/

namespace Frame

/-- The bytes are a frame with a record. -/
def Decodes (bytes : List UInt8) (r : PacketRecord) : Prop := decode bytes = .ok r

section Decodes

variable {bytes : List UInt8} {r : PacketRecord}

theorem Decodes.length_eq (h : Decodes bytes r) : bytes.length = length :=
  (decode_eq_ok_iff.1 h).1

theorem Decodes.isHeartbeat_eq (h : Decodes bytes r) : isHeartbeat bytes = r.isHeartbeat := by
  cases hr : r.isHeartbeat with
  | true => exact (classes_of_heartbeat h hr).2.1
  | false => exact (classes_of_record h hr).2.1

theorem Decodes.record?_eq (h : Decodes bytes r) : record? bytes = Capture.forwarded? r := by
  rw [Capture.forwarded?, Option.guard]
  cases hr : r.isHeartbeat with
  | true => exact (classes_of_heartbeat h hr).1
  | false => exact (classes_of_record h hr).1

end Decodes

variable {frames : List (List UInt8)} {records : List PacketRecord}

theorem map_record?_of_decodes (h : List.Forall₂ Decodes frames records) :
    frames.map record? = records.map Capture.forwarded? := by
  induction h with
  | nil => rfl
  | cons hr _ ih => rw [List.map_cons, List.map_cons, hr.record?_eq, ih]

/-- The frames that are no heartbeats have the records that are none. -/
theorem decodes_filter (h : List.Forall₂ Decodes frames records) :
    List.Forall₂ Decodes (frames.filter (!isHeartbeat ·)) (records.filter (!·.isHeartbeat)) := by
  induction h with
  | nil => exact .nil
  | @cons bytes r frames records hr _ ih =>
      rw [List.filter_cons, List.filter_cons, hr.isHeartbeat_eq]
      cases r.isHeartbeat with
      | true => exact ih
      | false => exact .cons hr ih

theorem walk_of_decodes (h : List.Forall₂ Decodes frames records) (as : List Arrival) :
    Arrival.walk [] (frames.flatten.map .byte ++ as) =
      frames.map .frame ++ Arrival.walk [] as := by
  induction h with
  | nil => rfl
  | cons hr _ ih =>
      rw [List.flatten_cons, List.map_append, List.append_assoc,
        Arrival.walk_frame hr.length_eq, ih]
      rfl

end Frame

section Ways

open PacketMeter.Frame (Decodes)

variable {frames : List (List UInt8)} {records : List PacketRecord}

theorem FrameFile.collect_of_decodes (h : List.Forall₂ Decodes frames records) :
    collect (frames.map .frame ++ [.ended]) = .ok records := by
  induction h with
  | nil => rfl
  | @cons bytes r frames records hr _ ih =>
      rw [List.map_cons, List.cons_append, collect, show Frame.decode bytes = .ok r from hr]
      dsimp only
      rw [ih]
      rfl

/-- However the bytes of frames come, they are loaded as their records. -/
theorem FrameFile.load_of_decodes (h : List.Forall₂ Decodes frames records)
    {pieces : List (List UInt8)} (hne : ∀ piece ∈ pieces, piece ≠ [])
    (hp : pieces.flatten = frames.flatten) : load (pieces.map .data) = .ok records := by
  rw [load_eq_collect, results_pieces hne, hp, Frame.walk_of_decodes h]
  exact collect_of_decodes h

theorem FrameFile.load_flatten (h : List.Forall₂ Decodes frames records) :
    load [.data frames.flatten] = .ok records := by
  induction h with
  | nil => exact load_data_nil
  | cons hr _ ih =>
      rw [List.flatten_cons, load_frame _ hr, ih]
      rfl

/-- However the bytes of frames come, the reader finds these frames before the end. -/
theorem FrameReader.earlier_of_decodes (h : List.Forall₂ Decodes frames records)
    {pieces : List (List UInt8)} (hne : ∀ piece ∈ pieces, piece ≠ [])
    (hp : pieces.flatten = frames.flatten) :
    empty.earlier (pieces.map .data) = frames.map .frame := by
  have hbytes : ∀ a ∈ frames.flatten.map Arrival.byte, (!a.isLast) = true := by
    intro a ha
    obtain ⟨b, -, rfl⟩ := List.mem_map.1 ha
    rfl
  have hwalk := Frame.walk_of_decodes h []
  rw [List.append_nil] at hwalk
  rw [earlier_empty, Arrival.ofScript_pieces hne, hp, List.takeWhile_eq_self_iff.2 hbytes, hwalk]
  exact List.append_nil _

namespace Capture

open Channel (Action)

/-- The reader sends the records of the frames that are no heartbeats and closes the channel. -/
theorem Reader.pollAmid_of_decodes (h : List.Forall₂ Decodes frames records)
    {pieces : List (List UInt8)} (hne : ∀ piece ∈ pieces, piece ≠ [])
    (hp : pieces.flatten = frames.flatten) {packets : Packets} (hc : packets.closed = false)
    {others : List (List (Action PacketRecord))} (ho : KeepOpen others) :
    ∃ final reports, start.pollAmid packets (pieces.map .data) others =
      (final, packets.actAll (weave others (records.map forwarded?) ++ [.close]), reports) := by
  obtain ⟨last, hamid⟩ := pollAmid_eq (r := start) (pieces.map .data) rfl Bool.false_ne_true
  have hsent : (start.frames.earlier (pieces.map .data)).map sent = records.map forwarded? := by
    rw [← Frame.map_record?_of_decodes h]
    refine (congrArg (List.map sent) (FrameReader.earlier_of_decodes h hne hp)).trans ?_
    rw [List.map_map]
    rfl
  rw [hsent] at hamid
  exact ⟨_, _, hamid packets others hc ho⟩

/-- What a queue with room has handed out at its end, when one has sent through an open
channel and closed it, and the others have sent nothing. -/
theorem handedAll_weave {α : Type} {capacity batch : Nat} {others : List (List (Action α))}
    (ho : KeepOpen others) (hn : SendNothing others) {ds : List (Option α)}
    (hr : ds.length ≤ capacity) {later : List (Action α)} :
    let ch := (Channel.make capacity batch).subscribe.2
    let acts := weave others ds ++ [.close] ++ later
    ((ch.actAll acts).take 0 .batch).1 = .ended → ch.handedAll 0 acts = ds.reduceOption := by
  intro ch acts hended
  have hq : ch.queue? 0 = some ⟨[], false, 0, 1, true⟩ := Channel.queue?_subscribe _
  have hsent : ch.sentAll 0 acts = ds.reduceOption := by
    rw [show acts = weave others ds ++ .close :: later from List.append_assoc _ _ _,
      Channel.sentAll_append, Channel.sentAll_close, List.append_nil,
      Channel.sentAll_of_open rfl hq (ho.weave ds), hn.weave]
  have hsound : ch.Sound := (Channel.sound_make capacity batch).act .subscribe
  rw [← hsent]
  refine Channel.handedAll_of_ended hsound hq rfl rfl ?_ hended
  rw [hsent]
  exact (List.reduceOption_length_le ds).trans (hr.trans (Nat.le_max_left _ _))

end Capture

end Ways

/-! ## Statistics -/

namespace Stats.Aggregator

open Channel (Action)

/-- An aggregator that is fed what a queue hands out along some actions, each time as a batch. -/
def feedAlong (a : Aggregator) (packets : Channel PacketRecord) (i : Nat) :
    List (Action PacketRecord) → Aggregator
  | [] => a
  | x :: xs => (a.recordAll (packets.handed i x)).feedAlong (packets.act x) i xs

/-- The batches do not matter. -/
theorem feedAlong_eq (a : Aggregator) (packets : Channel PacketRecord) (i : Nat)
    (xs : List (Action PacketRecord)) :
    a.feedAlong packets i xs = a.recordAll (packets.handedAll i xs) := by
  induction xs generalizing a packets with
  | nil => rfl
  | cons x xs ih => rw [feedAlong, ih, ← recordAll_append, Channel.handedAll]

end Stats.Aggregator

namespace Program.Replay

open Stats
open CommandLine (Output)
open PacketMeter.Frame (Decodes)

/-- What records are counted to can be shown. -/
theorem exists_tick_count (records : List PacketRecord) (now : Moment) :
    ∃ s, ((count records).tick now ()).1 = .ok s ∧
      s.packets = UInt64.ofNat records.length := by
  have hcount : (count records).feed? = none := by
    rw [count, Aggregator.recordAll_of_managed rfl]
    rfl
  obtain ⟨rate, htick⟩ := Aggregator.exists_tick_of_managed hcount now ()
  refine ⟨_, htick, ?_⟩
  rw [count, Aggregator.recordAll_of_managed rfl]
  exact (Counters.counted_recordAll_empty records).packets_eq

/-- A replay of frames that have records shows what all the records are counted to. -/
theorem run_of_decodes {frames : List (List UInt8)} {records : List PacketRecord}
    (h : List.Forall₂ Decodes frames records) (path : String) (output : Output) (now : Moment)
    {s : Snapshot} (hs : ((count records).tick now ()).1 = .ok s) :
    run ⟨path, .any, output⟩ (.ok (.file frames.flatten)) now =
      (.ok (), [.logged .info (summary path records.length records.length),
        .shown output s]) := by
  have hrecords : Replay.records (.ok (.file frames.flatten)) = .ok records := by
    rw [Replay.records, FrameFile.load_flatten h]
  rw [run, hrecords]
  dsimp only
  rw [Filter.select_any]
  generalize (count records).tick now () = ticked at hs
  obtain ⟨outcome, a, s'⟩ := ticked
  obtain rfl := hs
  rfl

section Live

open Channel (Action)
open Capture (weave forwarded?)

variable {frames : List (List UInt8)} {records : List PacketRecord} {capacity batch : Nat}
  {others : List (List (Action PacketRecord))} {later : List (Action PacketRecord)}

/-- What a live capture feeds to an aggregator until its queue is at its end. -/
theorem feedAlong_weave (ho : Capture.KeepOpen others) (hn : Capture.SendNothing others)
    (hroom : records.length ≤ capacity) :
    let packets : Capture.Packets := (Channel.make capacity batch).subscribe.2
    let acts := weave others (records.map forwarded?) ++ [.close] ++ later
    ((packets.actAll acts).take 0 .batch).1 = .ended →
      (Aggregator.make .default).feedAlong packets 0 acts =
        count (records.filter (!·.isHeartbeat)) := by
  intro packets acts hended
  have hlength : (records.map forwarded?).length ≤ capacity := by rwa [List.length_map]
  rw [Aggregator.feedAlong_eq, Capture.handedAll_weave ho hn hlength hended,
    Capture.reduceOption_forwarded]
  rfl

/-- Frames that all have records come to a live capture and to a replay.  Live their bytes come
in any pieces, into a channel that has room for all of them.  Others do what they like between
the rounds of the reader as long as they neither send nor close, and go on until the queue is at
its end.  What the queue hands out is fed to an aggregator, batch for batch.

Both ways work, and all records are loaded.  The live capture shows what a replay of the file
would show that holds the same frames without the heartbeats.  The replay counts the heartbeats
too, so that it shows more packets by their number, and the same if there are none. -/
theorem replay_counts_heartbeats_too (h : List.Forall₂ Decodes frames records)
    (pieces : List (List UInt8)) (hne : ∀ piece ∈ pieces, piece ≠ [])
    (hp : pieces.flatten = frames.flatten) (batch : Nat) (hroom : frames.length ≤ capacity)
    (others : List (List (Action PacketRecord)))
    (ho : ∀ acts ∈ others, ∀ a ∈ acts, a.closes = false ∧ a.item? = none)
    (later : List (Action PacketRecord)) (path : String) (output : Output) (now : Moment) :
    let packets : Capture.Packets := (Channel.make capacity batch).subscribe.2
    let acts := weave others (records.map forwarded?) ++ [.close]
    let live := (Aggregator.make .default).feedAlong packets 0 (acts ++ later)
    let kept := frames.filter (!Frame.isHeartbeat ·)
    let request : ReplayRequest := ⟨path, .any, output⟩
    ((packets.actAll (acts ++ later)).take 0 .batch).1 = .ended →
      (∃ final reports, Capture.Reader.start.pollAmid packets (pieces.map .data) others =
        (final, packets.actAll acts, reports)) ∧
      FrameFile.load (pieces.map .data) = .ok records ∧
      ∃ shown seen,
        run request (.ok (.file frames.flatten)) now =
          (.ok (), [.logged .info (summary path frames.length frames.length),
            .shown output shown]) ∧
        (live.tick now ()).1 = .ok seen ∧
        run request (.ok (.file kept.flatten)) now =
          (.ok (), [.logged .info (summary path kept.length kept.length),
            .shown output seen]) ∧
        shown.packets = seen.packets + UInt64.ofNat (records.countP PacketRecord.isHeartbeat) ∧
        ((∀ r ∈ records, r.isHeartbeat = false) → shown = seen) := by
  intro packets acts live kept request hended
  have hopen : Capture.KeepOpen others := fun acts ha a hm => (ho acts ha a hm).1
  have hnothing : Capture.SendNothing others := fun acts ha a hm => (ho acts ha a hm).2
  have hkept : List.Forall₂ Decodes kept (records.filter (!·.isHeartbeat)) :=
    Frame.decodes_filter h
  have hlive : live = count (records.filter (!·.isHeartbeat)) :=
    feedAlong_weave hopen hnothing (h.length_eq ▸ hroom) hended
  obtain ⟨shown, hshown, hpackets⟩ := exists_tick_count records now
  obtain ⟨seen, hseen, hpackets'⟩ := exists_tick_count (records.filter (!·.isHeartbeat)) now
  refine ⟨Capture.Reader.pollAmid_of_decodes h hne hp rfl hopen,
    FrameFile.load_of_decodes h hne hp, shown, seen, ?_, ?_, ?_, ?_, fun hnone => ?_⟩
  · rw [h.length_eq]
    exact run_of_decodes h path output now hshown
  · rw [hlive]
    exact hseen
  · rw [hkept.length_eq]
    exact run_of_decodes hkept path output now hseen
  · have hcount := records.length_eq_length_filter_add PacketRecord.isHeartbeat
    rw [hpackets, hpackets', hcount, Nat.add_comm, UInt64.ofNat_add, List.countP_eq_length_filter]
  · have hall : records.filter (!·.isHeartbeat) = records := by
      rw [List.filter_eq_self]
      exact fun r hr => by rw [hnone r hr]; rfl
    rw [hall] at hseen
    exact Except.ok.inj (hshown.symm.trans hseen)

end Live

/-- A record that reports no packet. -/
def heartbeat : PacketRecord := { (default : PacketRecord) with id := 1000 }

theorem decodes_encode (rs : List PacketRecord) :
    List.Forall₂ Decodes (rs.map Frame.encode) (rs.map Frame.reread) := by
  rw [List.forall₂_map_left_iff, List.forall₂_map_right_iff, List.forall₂_same]
  exact fun r _ => Frame.decode_encode r

theorem encode_ne_nil (r : PacketRecord) : Frame.encode r ≠ [] := by
  rw [← List.length_pos_iff, Frame.length_encode]
  decide

/-- The consumer finds the packet only, and the replay counts the heartbeat as well. -/
theorem replay_counts_heartbeats_too_one :
    let frames := [default, heartbeat].map Frame.encode
    let records := [default, heartbeat].map Frame.reread
    let packets : Capture.Packets := (Channel.make 2 1).subscribe.2
    let others : List (List (Channel.Action PacketRecord)) := [[.take 0 .batch], []]
    let live := (Aggregator.make .default).feedAlong packets 0
      (Capture.weave others (records.map Capture.forwarded?) ++ [.close] ++ [.take 0 .batch])
    ∃ shown seen,
      (run ⟨"a", .any, .log⟩ (.ok (.file frames.flatten)) ⟨⟨0⟩, .epoch⟩).2 =
        [.logged .info (summary "a" 2 2), .shown .log shown] ∧
      (live.tick ⟨⟨0⟩, .epoch⟩ ()).1 = .ok seen ∧ shown.packets = seen.packets + 1 := by
  intro frames records packets others live
  obtain ⟨-, -, shown, seen, hshown, hseen, -, hmore, -⟩ :=
    replay_counts_heartbeats_too (decodes_encode [default, heartbeat]) frames
      (by simp [frames, encode_ne_nil]) rfl 1 (Nat.le_refl 2) others
      (by simp [others, Channel.Action.closes, Channel.Action.item?]) [.take 0 .batch] "a" .log
      ⟨⟨0⟩, .epoch⟩ rfl
  refine ⟨shown, seen, ?_, hseen, hmore⟩
  rw [hshown]
  rfl

/-- A heartbeat alone is a packet in a replay and none in a live capture. -/
theorem heartbeat_replayed :
    ¬ ∀ (frames : List (List UInt8)) (records : List PacketRecord) (capacity batch : Nat)
      (later : List (Channel.Action PacketRecord)) (path : String) (output : Output)
      (now : Moment),
      let packets : Capture.Packets := (Channel.make capacity batch).subscribe.2
      let acts := Capture.weave [] (records.map Capture.forwarded?) ++ [.close] ++ later
      List.Forall₂ Decodes frames records → frames.length ≤ capacity →
        ((packets.actAll acts).take 0 .batch).1 = .ended →
        ∃ line shown seen,
          run ⟨path, .any, output⟩ (.ok (.file frames.flatten)) now =
            (.ok (), [line, .shown output shown]) ∧
          (((Aggregator.make .default).feedAlong packets 0 acts).tick now ()).1 = .ok seen ∧
          shown.packets = seen.packets := by
  intro h
  let now : Moment := ⟨⟨0⟩, .epoch⟩
  have hframes := decodes_encode [heartbeat]
  obtain ⟨shown, hshown, hpackets⟩ := exists_tick_count [Frame.reread heartbeat] now
  obtain ⟨seen, hseen, hpackets'⟩ := exists_tick_count [] now
  obtain ⟨line, shown', seen', hrun, htick, hequal⟩ :=
    h _ _ 1 1 [] "" .log now hframes (Nat.le_refl 1) rfl
  have hevents := congrArg Prod.snd ((run_of_decodes hframes "" .log now hshown).symm.trans hrun)
  obtain rfl : seen = seen' := Except.ok.inj (hseen.symm.trans htick)
  cases hevents
  rw [hpackets, hpackets'] at hequal
  cases hequal

end Program.Replay

end PacketMeter
