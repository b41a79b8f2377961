import Mathlib.Order.Monotone.Basic
import PacketMeter.Proofs.Channel.Waiting

/-!
# Queues under other numbers

Queues have the numbers in which they were subscribed.  Somebody who subscribes and lets go of the
queue at once leaves nothing but a queue that nobody holds, and new queues have other numbers from
then on.

`Renumbered f ch ch'` says that `ch'` has the queues of `ch` under the numbers that `f` gives them,
with the same waits for them, and possibly some queues more.  An action on a queue and the one on
this queue under its other number have the same outcome, and the queues stay the same.
-/

namespace PacketMeter

/-- The same wait, where queues have other numbers. -/
def Wait.renumber (f : Nat → Nat) (wait : Wait) : Wait := { wait with queue := f wait.queue }

namespace Channel

variable {α : Type} {f : Nat → Nat}

/-- The same action, where queues have other numbers. -/
def Action.renumber (f : Nat → Nat) : Action α → Action α
  | .hold i => .hold (f i)
  | .release i => .release (f i)
  | .take i mode => .take (f i) mode
  | .beginWait i mode => .beginWait (f i) mode
  | x@(.send _) | x@.close | x@.subscribe | x@(.pollWait _) | x@(.cancel _) => x

/-! ## Lists of queues -/

/-- A list has the queues of another one under other numbers.  The queues that are still to come
have numbers that follow one another. -/
structure Placed (f : Nat → Nat) (queues queues' : List (ItemQueue α)) : Prop where
  strictMono : StrictMono f
  succ_eq : ∀ i, queues.length ≤ i → f (i + 1) = f i + 1
  length_eq : queues'.length = f queues.length
  getElem?_eq : ∀ i, queues'[f i]? = queues[i]?

section Placed

variable {queues queues' : List (ItemQueue α)}

theorem placed_id (queues : List (ItemQueue α)) : Placed id queues queues :=
  ⟨strictMono_id, fun _ _ => rfl, rfl, fun _ => rfl⟩

theorem Placed.map (h : Placed f queues queues') (g : ItemQueue α → ItemQueue α) :
    Placed f (queues.map g) (queues'.map g) where
  strictMono := h.strictMono
  succ_eq i hi := h.succ_eq i (by rwa [List.length_map] at hi)
  length_eq := by rw [List.length_map, List.length_map, h.length_eq]
  getElem?_eq i := by rw [List.getElem?_map, List.getElem?_map, h.getElem?_eq]

theorem Placed.modify (h : Placed f queues queues') (i : Nat) (g : ItemQueue α → ItemQueue α) :
    Placed f (queues.modify i g) (queues'.modify (f i) g) where
  strictMono := h.strictMono
  succ_eq j hj := h.succ_eq j (by rwa [List.length_modify] at hj)
  length_eq := by rw [List.length_modify, List.length_modify, h.length_eq]
  getElem?_eq j := by
    rw [List.getElem?_modify, List.getElem?_modify, h.getElem?_eq]
    simp only [h.strictMono.injective.eq_iff]

theorem Placed.concat (h : Placed f queues queues') (q : ItemQueue α) :
    Placed f (queues ++ [q]) (queues' ++ [q]) where
  strictMono := h.strictMono
  succ_eq i hi := by
    rw [List.length_append] at hi
    exact h.succ_eq i (Nat.le_trans (Nat.le_add_right _ _) hi)
  length_eq := by
    rw [List.length_append, List.length_append, List.length_singleton, h.length_eq,
      h.succ_eq _ (Nat.le_refl _)]
  getElem?_eq i := by
    rw [List.getElem?_append, List.getElem?_append, h.getElem?_eq, h.length_eq,
      List.getElem?_singleton, List.getElem?_singleton]
    simp only [h.strictMono.lt_iff_lt, Nat.sub_eq_zero_iff_le, h.strictMono.le_iff_le]

end Placed

/-! ## Channels -/

/-- A channel is another one whose queues have other numbers. -/
structure Renumbered (f : Nat → Nat) (ch ch' : Channel α) : Prop where
  capacity_eq : ch'.capacity = ch.capacity
  batch_eq : ch'.batch = ch.batch
  closed_eq : ch'.closed = ch.closed
  placed : Placed f ch.queues ch'.queues
  waits_eq : ch'.waits = ch.waits.map (Prod.map id (Wait.renumber f))
  nextWait_eq : ch'.nextWait = ch.nextWait

section Renumbered

variable {ch ch' : Channel α}

theorem renumbered_id (ch : Channel α) : Renumbered id ch ch where
  capacity_eq := rfl
  batch_eq := rfl
  closed_eq := rfl
  placed := placed_id ch.queues
  waits_eq := (List.map_id ch.waits).symm
  nextWait_eq := rfl

theorem Renumbered.queue?_eq (h : Renumbered f ch ch') (i : Nat) :
    ch'.queue? (f i) = ch.queue? i := h.placed.getElem?_eq i

theorem Renumbered.modify (h : Renumbered f ch ch') (i : Nat) (g : ItemQueue α → ItemQueue α) :
    Renumbered f (ch.modify i g) (ch'.modify (f i) g) :=
  { h with placed := h.placed.modify i g }

theorem Renumbered.wakeLive_eq (h : Renumbered f ch ch') :
    ch'.wakeLive = ch.wakeLive.map (Prod.map id (Wait.renumber f)) := by
  have hlive : ∀ i, ch'.isLive (f i) = ch.isLive i := by
    intro i
    rw [isLive, isLive, h.queue?_eq]
  rw [wakeLive, wakeLive, h.waits_eq, List.map_map, List.map_map]
  refine List.map_congr_left fun e _ => ?_
  simp only [Function.comp_apply, Prod.map, id_eq, Wait.renumber, hlive]

theorem Renumbered.send (h : Renumbered f ch ch') (a : α) :
    (ch'.send a).1 = (ch.send a).1 ∧ Renumbered f (ch.send a).2 (ch'.send a).2 := by
  unfold Channel.send
  rw [h.closed_eq]
  split
  · exact ⟨rfl, h⟩
  · refine ⟨rfl, { h with closed_eq := rfl, placed := ?_, waits_eq := h.wakeLive_eq }⟩
    rw [h.capacity_eq]
    exact h.placed.map _

theorem Renumbered.close (h : Renumbered f ch ch') : Renumbered f ch.close ch'.close :=
  { h with closed_eq := rfl, placed := h.placed.map _, waits_eq := h.wakeLive_eq }

theorem Renumbered.subscribe (h : Renumbered f ch ch') :
    ch'.subscribe.1 = f ch.subscribe.1 ∧ Renumbered f ch.subscribe.2 ch'.subscribe.2 := by
  refine ⟨h.placed.length_eq, { h with placed := ?_ }⟩
  rw [Channel.subscribe, Channel.subscribe, h.closed_eq]
  exact h.placed.concat _

theorem Renumbered.take (h : Renumbered f ch ch') (i : Nat) (mode : TakeMode) :
    (ch'.take (f i) mode).1 = (ch.take i mode).1 ∧
      Renumbered f (ch.take i mode).2 (ch'.take (f i) mode).2 := by
  unfold Channel.take
  rw [h.queue?_eq, h.batch_eq]
  cases ch.queue? i with
  | none => exact ⟨rfl, h⟩
  | some q => exact ⟨rfl, h.modify i _⟩

theorem Renumbered.beginWait (h : Renumbered f ch ch') (i : Nat) (mode : TakeMode) :
    (ch'.beginWait (f i) mode).1 = (ch.beginWait i mode).1 ∧
      (ch'.beginWait (f i) mode).2.1 = (ch.beginWait i mode).2.1 ∧
        Renumbered f (ch.beginWait i mode).2.2 (ch'.beginWait (f i) mode).2.2 := by
  obtain ⟨hresult, ht⟩ := h.take i mode
  by_cases hp : (ch.take i mode).1 = .pending
  · rw [beginWait_of_pending hp, beginWait_of_pending (hresult.trans hp), h.nextWait_eq]
    refine ⟨rfl, rfl, { h.modify i _ with waits_eq := ?_, nextWait_eq := rfl }⟩
    rw [h.waits_eq, List.map_append]
    rfl
  · rw [beginWait_of_ne_pending hp, beginWait_of_ne_pending (hresult ▸ hp)]
    exact ⟨hresult, rfl, ht⟩

theorem Renumbered.lookup_eq (h : Renumbered f ch ch') (w : Nat) :
    ch'.waits.lookup w = (ch.waits.lookup w).map (Wait.renumber f) := by
  rw [h.waits_eq]
  exact Entries.lookup_map _ _ (fun _ => Wait.renumber f) (fun _ _ => rfl) w

theorem Renumbered.cancel (h : Renumbered f ch ch') (w : Nat) :
    Renumbered f (ch.cancel w) (ch'.cancel w) := by
  have hl := h.lookup_eq w
  cases hw : ch.waits.lookup w with
  | none =>
      rw [hw] at hl
      rw [cancel_of_none hw, cancel_of_none hl]
      exact h
  | some wait =>
      rw [hw] at hl
      rw [cancel_of_some hw, cancel_of_some hl]
      refine { h.modify wait.queue _ with waits_eq := ?_ }
      rw [h.waits_eq, List.filter_map]
      rfl

theorem Renumbered.resume (h : Renumbered f ch ch') (w : Nat) :
    Renumbered f (ch.resume w) (ch'.resume w) := by
  refine { h with waits_eq := ?_ }
  rw [Channel.resume, Channel.resume, h.waits_eq, List.map_map, List.map_map]
  refine List.map_congr_left fun e _ => ?_
  simp only [Function.comp_apply, Prod.map, id_eq]
  split <;> rfl

theorem Renumbered.pollWait (h : Renumbered f ch ch') (w : Nat) :
    (ch'.pollWait w).1 = (ch.pollWait w).1 ∧
      Renumbered f (ch.pollWait w).2 (ch'.pollWait w).2 := by
  have hl := h.lookup_eq w
  cases hw : ch.waits.lookup w with
  | none =>
      rw [hw] at hl
      rw [pollWait_of_none hw, pollWait_of_none hl]
      exact ⟨rfl, h⟩
  | some wait =>
      rw [hw] at hl
      cases hwoken : wait.woken with
      | false =>
          rw [pollWait_of_not_woken hw hwoken, pollWait_of_not_woken hl hwoken]
          exact ⟨rfl, h⟩
      | true =>
          obtain ⟨hresult, ht⟩ := h.take wait.queue wait.mode
          by_cases hp : (ch.take wait.queue wait.mode).1 = .pending
          · rw [pollWait_of_pending hw hwoken hp,
              pollWait_of_pending hl hwoken (hresult.trans hp)]
            exact ⟨rfl, h.resume w⟩
          · rw [pollWait_of_ne_pending hw hwoken hp,
              pollWait_of_ne_pending hl hwoken (hresult ▸ hp)]
            exact ⟨hresult, ht.cancel w⟩

/-- The queues stay the same, whatever is done. -/
theorem Renumbered.act (h : Renumbered f ch ch') (x : Action α) :
    Renumbered f (ch.act x) (ch'.act (x.renumber f)) := by
  cases x with
  | send a => exact (h.send a).2
  | close => exact h.close
  | subscribe => exact h.subscribe.2
  | hold i => exact h.modify i _
  | release i => exact h.modify i _
  | take i mode => exact (h.take i mode).2
  | beginWait i mode => exact (h.beginWait i mode).2.2
  | pollWait w => exact (h.pollWait w).2
  | cancel w => exact h.cancel w

/-- Who asks a queue does not see which number it has. -/
theorem Renumbered.outcome_eq (h : Renumbered f ch ch') (x : Action α) :
    ch'.outcome (x.renumber f) = ch.outcome x := by
  cases x with
  | take i mode => exact (h.take i mode).1
  | beginWait i mode => exact (h.beginWait i mode).1
  | pollWait w => exact (h.pollWait w).1
  | send | close | subscribe | hold | release | cancel => rfl

end Renumbered

/-! ## Queues that are left behind -/

/-- The number of a queue where another one came in between with the number `m`. -/
def past (m i : Nat) : Nat := if i < m then i else i + 1

theorem past_of_lt {m i : Nat} (h : i < m) : past m i = i := if_pos h

theorem past_of_le {m i : Nat} (h : m ≤ i) : past m i = i + 1 := if_neg (Nat.not_lt.2 h)

theorem strictMono_past (m : Nat) : StrictMono (past m) := by
  intro i j h
  unfold past
  split <;> split <;> omega

/-- A queue that is new comes in between. -/
theorem placed_past (queues : List (ItemQueue α)) (q : ItemQueue α) :
    Placed (past queues.length) queues (queues ++ [q]) where
  strictMono := strictMono_past _
  succ_eq i hi := by rw [past_of_le hi, past_of_le (Nat.le_succ_of_le hi)]
  length_eq := by rw [List.length_append, List.length_singleton, past_of_le (Nat.le_refl _)]
  getElem?_eq i := by
    rcases Nat.lt_or_ge i queues.length with hi | hi
    · rw [past_of_lt hi, List.getElem?_append_left hi]
    · rw [past_of_le hi, List.getElem?_eq_none hi, List.getElem?_eq_none]
      rw [List.length_append]
      exact Nat.succ_le_succ hi

/-- The channel with a new queue that nobody holds any more. -/
def deserted (ch : Channel α) : Channel α :=
  { ch with queues := ch.queues ++ [⟨[], ch.closed, 0, 0, !ch.closed⟩] }

/-- Who subscribes and lets go of the queue leaves it behind. -/
theorem release_subscribe (ch : Channel α) :
    ch.subscribe.2.release ch.queues.length = ch.deserted :=
  congrArg (fun queues => { ch with queues }) (List.modifyTailIdx_add _ 0 ch.queues [_])

theorem queue?_deserted {ch : Channel α} {i : Nat} {q : ItemQueue α} (hq : ch.queue? i = some q) :
    ch.deserted.queue? i = some q := by
  have hi : i < ch.queues.length := lt_length_iff.2 ⟨q, hq⟩
  rw [queue?, deserted, List.getElem?_append_left hi]
  exact hq

theorem WellFormed.renumbered_deserted {ch : Channel α} (h : ch.WellFormed) :
    Renumbered (past ch.queues.length) ch ch.deserted where
  capacity_eq := rfl
  batch_eq := rfl
  closed_eq := rfl
  placed := placed_past ch.queues _
  nextWait_eq := rfl
  waits_eq := by
    -- A wait holds its queue, which therefore is an older one.
    have hlt : ∀ e ∈ ch.waits, e.2.queue < ch.queues.length := by
      intro e he
      have hpos : 0 < ch.waitsOn e.2.queue := List.countP_pos_iff.2 ⟨e, he, decide_eq_true rfl⟩
      obtain ⟨q, hq, -⟩ :=
        exists_queue_of_holdersAt (Nat.lt_of_lt_of_le hpos (h.waitsOn_le e.2.queue))
      exact lt_length_iff.2 ⟨q, hq⟩
    change ch.waits = ch.waits.map _
    conv_lhs => rw [← List.map_id ch.waits]
    refine List.map_congr_left fun e he => ?_
    simp only [id_eq, Prod.map, Wait.renumber, past_of_lt (hlt e he)]

end Channel

end PacketMeter
