import PacketMeter.Frame.File

/-!
# What reaches a sink

A sink may take bytes in parts, take none, interrupt a write or fail.  Whatever it does, what
reaches it are the first of the bytes that are written, and the writing works exactly when
they are all of them.  So a save works when the frames of all records have reached the sink
and the flush has worked as well.

Lists that are saved one after the other to one sink stand there one after the other.
-/

namespace PacketMeter.FrameFile

/-- The outcome of writing some bytes and those that were taken: the first ones, and all of
them exactly when it worked. -/
structure Takes (bytes taken : List UInt8) (outcome : Except Fault Unit) : Prop where
  isPrefix : taken <+: bytes
  ok_iff : outcome = .ok () ↔ taken = bytes

section Takes

variable {bytes taken : List UInt8} {outcome : Except Fault Unit}

theorem takes_all (bytes : List UInt8) : Takes bytes bytes (.ok ()) :=
  ⟨List.prefix_rfl, iff_of_true rfl rfl⟩

/-- A fault that comes before the first byte. -/
theorem takes_none (h : bytes ≠ []) (f : Fault) : Takes bytes [] (.error f) :=
  ⟨List.nil_prefix, iff_of_false nofun h.symm⟩

/-- Some bytes have been taken before. -/
theorem Takes.prepend (h : Takes bytes taken outcome) (earlier : List UInt8) :
    Takes (earlier ++ bytes) (earlier ++ taken) outcome where
  isPrefix := (List.prefix_append_right_inj earlier).2 h.isPrefix
  ok_iff := h.ok_iff.trans (List.append_right_inj earlier).symm

/-- A fault among the first bytes is a fault of all of them. -/
theorem Takes.of_error {f : Fault} (h : Takes bytes taken (.error f)) (more : List UInt8) :
    Takes (bytes ++ more) taken (.error f) where
  isPrefix := h.isPrefix.trans (List.prefix_append bytes more)
  ok_iff := by
    have hne : taken ≠ bytes := fun he => nomatch h.ok_iff.2 he
    refine iff_of_false nofun fun he => hne ?_
    refine h.isPrefix.eq_of_length_le ?_
    rw [he, List.length_append]
    exact Nat.le_add_right _ _

end Takes

theorem takes_writeAll (bytes : List UInt8) (script : List Acceptance) :
    Takes bytes (writeAll bytes script).2.1 (writeAll bytes script).1 := by
  induction script generalizing bytes with
  | nil => exact takes_all bytes
  | cons a script ih =>
      cases bytes with
      | nil => cases a <;> exact takes_all []
      | cons b bytes =>
          cases a with
          | fault f =>
              rw [writeAll, if_neg (by simp)]
              split
              · exact ih (b :: bytes)
              · exact takes_none (List.cons_ne_nil b bytes) f
          | takes n =>
              rw [writeAll, if_neg (by simp)]
              split
              · exact takes_none (List.cons_ne_nil b bytes) nothingTaken
              · have h := (ih ((b :: bytes).drop n)).prepend ((b :: bytes).take n)
                rwa [List.take_append_drop] at h

theorem takes_writeRecords (records : List PacketRecord) (script : List Acceptance) :
    Takes (records.flatMap Frame.encode) (writeRecords records script).2.1
      (writeRecords records script).1 := by
  induction records generalizing script with
  | nil => exact takes_all []
  | cons r records ih =>
      have h := takes_writeAll (Frame.encode r) script
      rw [List.flatMap_cons, writeRecords]
      split
      · rename_i f taken left he
        rw [he] at h
        exact h.of_error _
      · rename_i taken left he
        rw [he] at h
        rw [← h.ok_iff.1 rfl]
        exact (ih left).prepend taken

theorem snd_save (records : List PacketRecord) (sink : Sink) :
    (save records sink).2 = (writeRecords records sink.script).2.1 := by
  rw [save]
  split
  · rename_i he
    rw [he]
  · rename_i he
    split <;> rw [he]

theorem isPrefix_save (records : List PacketRecord) (sink : Sink) :
    (save records sink).2 <+: records.flatMap Frame.encode := by
  rw [snd_save]
  exact (takes_writeRecords records sink.script).isPrefix

/-- A save gives the number of records when all bytes have reached the sink and the flush has
worked, and otherwise it fails. -/
theorem save_eq_ok_iff (records : List PacketRecord) (sink : Sink) (n : Nat) :
    (save records sink).1 = .ok n ↔ n = records.length ∧
      (save records sink).2 = records.flatMap Frame.encode ∧ sink.flushFault? = none := by
  have h := takes_writeRecords records sink.script
  rw [snd_save, ← h.ok_iff, save]
  split
  · rename_i he
    rw [he]
    exact iff_of_false nofun fun h => nomatch h.2.1
  · rename_i he
    rw [he]
    split
    · rename_i hf
      rw [hf]
      exact iff_of_false nofun fun h => nomatch h.2.2
    · rename_i hf
      rw [hf, Except.ok.injEq, eq_comm]
      exact (and_iff_left ⟨rfl, rfl⟩).symm

/-! ## One save after the other -/

/-- Saves lists one after the other to one sink, each with the fault of its flush.  The script
of the sink goes on where the save before has left it. -/
def saveEach : List (List PacketRecord × Option Fault) → List Acceptance →
    List (Except Failure Nat × List UInt8)
  | [], _ => []
  | (records, flushFault?) :: batches, script =>
    save records ⟨script, flushFault?⟩ :: saveEach batches (writeRecords records script).2.2

/-- What has reached the sink when every save has worked. -/
theorem flatMap_saveEach {batches : List (List PacketRecord × Option Fault)}
    {script : List Acceptance} (h : ∀ x ∈ saveEach batches script, ∃ n, x.1 = .ok n) :
    (saveEach batches script).flatMap Prod.snd =
      (batches.flatMap Prod.fst).flatMap Frame.encode := by
  induction batches generalizing script with
  | nil => rfl
  | cons batch batches ih =>
      obtain ⟨records, flushFault?⟩ := batch
      rw [saveEach] at h ⊢
      rw [List.forall_mem_cons] at h
      obtain ⟨⟨n, hn⟩, hmore⟩ := h
      obtain ⟨-, hall, -⟩ := (save_eq_ok_iff _ _ n).1 hn
      rw [List.flatMap_cons, List.flatMap_cons, List.flatMap_append, hall, ih hmore]

end PacketMeter.FrameFile
