import PacketMeter.Proofs.Channel.Runs

/-!
# Whose queue an action is about

Who holds a queue acts on that queue, and leaves the others to those who hold them: nothing
comes to them, nothing is handed out of them, and they keep their holders.

Asking often enough empties a queue, and hands out all that it held.
-/

namespace PacketMeter.Channel

variable {α : Type} {ch : Channel α} {i : Nat} {x : Action α}

/-- Whether an action is one of those who hold a queue. -/
def Action.isHolders : Action α → Bool
  | .send _ | .close | .subscribe => false
  | .hold _ | .release _ | .take _ _ | .beginWait _ _ | .pollWait _ | .cancel _ => true

/-- The queue that an action of a holder is about. -/
def target (ch : Channel α) : Action α → Option Nat
  | .hold i | .release i => some i
  | .cancel w => (ch.waits.lookup w).map Wait.queue
  | x => ch.asked x

theorem accepted_of_isHolders (hx : x.isHolders = true) (ch : Channel α) : ch.accepted x = [] := by
  cases x with
  | send a => cases hx
  | _ => rfl

theorem closes_of_isHolders (hx : x.isHolders = true) : x.closes = false := by
  cases x with
  | close => cases hx
  | _ => rfl

theorem handed_of_target_ne (ht : ch.target x ≠ some i) : ch.handed i x = [] := by
  cases x with
  | take j mode => exact if_neg ht
  | beginWait j mode => exact if_neg ht
  | pollWait w => exact if_neg ht
  | _ => rfl

theorem WellFormed.spare_act_of_target_ne (h : ch.WellFormed) (ha : ch.Allowed x)
    (hx : x.isHolders = true) (ht : ch.target x ≠ some i) : (ch.act x).spare i = ch.spare i := by
  cases x with
  | send a => cases hx
  | close => cases hx
  | subscribe => cases hx
  | hold j =>
      have hne : j ≠ i := by
        rintro rfl
        exact ht rfl
      rw [Channel.act, h.spare_hold ha, if_neg hne, Nat.add_zero]
  | release j =>
      have hne : j ≠ i := by
        rintro rfl
        exact ht rfl
      rw [Channel.act, spare_release, if_neg hne, Nat.sub_zero]
  | take j mode => exact spare_take ch j mode i
  | beginWait j mode => exact spare_beginWait ha mode i
  | pollWait w => exact h.spare_pollWait w i
  | cancel w => exact h.spare_cancel w i

/-! ## Several actions -/

/-- Several actions that those who hold the queues of a channel can take. -/
def AllowedAll (ch : Channel α) : List (Action α) → Prop
  | [] => True
  | x :: xs => ch.Allowed x ∧ AllowedAll (ch.act x) xs

theorem allowedAll_append {xs ys : List (Action α)} :
    ch.AllowedAll (xs ++ ys) ↔ ch.AllowedAll xs ∧ (ch.actAll xs).AllowedAll ys := by
  induction xs generalizing ch with
  | nil => exact (and_iff_right trivial).symm
  | cons x xs ih => rw [List.cons_append, AllowedAll, AllowedAll, ih, actAll_cons, and_assoc]

theorem WellFormed.actAll (h : ch.WellFormed) {xs : List (Action α)} (hx : ch.AllowedAll xs) :
    (ch.actAll xs).WellFormed := by
  induction xs generalizing ch with
  | nil => exact h
  | cons x xs ih => exact ih (h.act hx.1) hx.2

/-- Whether an action needs no hold on a queue. -/
def Action.isFree : Action α → Bool
  | .hold _ | .release _ | .beginWait _ _ => false
  | _ => true

theorem allowedAll_of_isFree {xs : List (Action α)} (hx : ∀ x ∈ xs, x.isFree = true)
    (ch : Channel α) : ch.AllowedAll xs := by
  induction xs generalizing ch with
  | nil => trivial
  | cons x xs ih =>
      refine ⟨?_, ih (fun y hy => hx y (List.mem_cons_of_mem x hy)) _⟩
      have hf := hx x List.mem_cons_self
      cases x with
      | hold i => cases hf
      | release i => cases hf
      | beginWait i mode => cases hf
      | _ => trivial

/-- What the channel does by itself and new queues leave the queues that are there to their
holders. -/
theorem WellFormed.spare_actAll (h : ch.WellFormed) {xs : List (Action α)}
    (hx : ∀ x ∈ xs, x.isHolders = false) (hi : i < ch.queues.length) :
    (ch.actAll xs).spare i = ch.spare i := by
  induction xs generalizing ch with
  | nil => rfl
  | cons x xs ih =>
      have hrest := fun y hy => hx y (List.mem_cons_of_mem x hy)
      have hhead := hx x List.mem_cons_self
      cases x with
      | send a =>
          refine (ih (h.send a) hrest ?_).trans (spare_send ch a i)
          rwa [length_queues_send]
      | close =>
          refine (ih h.close hrest ?_).trans (spare_close ch i)
          rwa [Channel.close, List.length_map]
      | subscribe =>
          refine (ih h.subscribe hrest ?_).trans ?_
          · rw [Channel.subscribe, List.length_append]
            exact Nat.lt_add_right _ hi
          · rw [h.spare_subscribe, if_neg (Nat.ne_of_lt hi), Nat.add_zero]
      | _ => cases hhead

/-- A closed channel and a queue of it that is empty stay so. -/
theorem itemsAt_actAll_of_closed (hc : ch.closed = true) (hi : ch.itemsAt i = [])
    (hl : i < ch.queues.length) (xs : List (Action α)) :
    (ch.actAll xs).closed = true ∧ (ch.actAll xs).itemsAt i = [] := by
  obtain ⟨q, hq⟩ := lt_length_iff.1 hl
  obtain ⟨q', hq', hitems, -⟩ := queue?_actAll_of_sentAll hq (sentAll_of_closed hc i xs)
  rw [itemsAt_of_some hq] at hi
  rw [hi] at hitems
  rw [closed_actAll, hc, Bool.true_or, itemsAt_of_some hq']
  exact ⟨rfl, (List.append_eq_nil_iff.1 hitems.symm).2⟩

/-! ## Emptying a queue -/

/-- Asking a queue so many times. -/
def takes (i n : Nat) : List (Action α) := List.replicate n (.take i .batch)

theorem eq_take_of_mem_takes {n : Nat} (hx : x ∈ takes i n) : x = .take i .batch :=
  List.eq_of_mem_replicate hx

theorem sentAll_takes (ch : Channel α) (i j n : Nat) : ch.sentAll j (takes i n) = [] := by
  induction n generalizing ch with
  | zero => rfl
  | succ n ih =>
      rw [takes, List.replicate_succ, sentAll]
      exact List.append_eq_nil_iff.2 ⟨ite_self _, ih _⟩

theorem handedAll_takes_of_ne {j : Nat} (h : i ≠ j) (ch : Channel α) (n : Nat) :
    ch.handedAll j (takes i n) = [] := by
  induction n generalizing ch with
  | zero => rfl
  | succ n ih =>
      rw [takes, List.replicate_succ, handedAll]
      refine List.append_eq_nil_iff.2 ⟨handed_of_target_ne ?_, ih _⟩
      exact fun he => h (Option.some.inj he)

theorem spare_actAll_takes (ch : Channel α) (i j n : Nat) :
    (ch.actAll (takes i n)).spare j = ch.spare j := by
  induction n generalizing ch with
  | zero => rfl
  | succ n ih =>
      rw [takes, List.replicate_succ]
      exact (ih _).trans (spare_take ch i .batch j)

theorem modify_take {q : ItemQueue α} (hq : ch.queue? i = some q) (mode : TakeMode) :
    (ch.take i mode).2.modify i (fun q => { q with items := [] }) =
      ch.modify i fun q => { q with items := [] } := by
  by_cases hi : q.items = []
  · rw [take_of_nil mode hq hi]
  · have hm : ∀ n : Nat, (ch.modify i fun _ => { q with items := q.items.drop n }).modify i
        (fun q => { q with items := [] }) = ch.modify i fun q => { q with items := [] } := by
      intro n
      rw [modify, modify, modify, Channel.mk.injEq]
      refine ⟨rfl, rfl, rfl, ?_, rfl, rfl⟩
      apply List.ext_getElem?
      intro j
      rw [List.getElem?_modify, List.getElem?_modify, List.getElem?_modify]
      by_cases hj : i = j
      · subst hj
        simp [show ch.queues[i]? = some q from hq]
      · simp [hj]
    rw [take_of_ne_nil mode hq hi]
    exact hm _

/-- Asking at least as often as there are items empties a queue. -/
theorem actAll_takes (hb : 0 < ch.batch) {q : ItemQueue α} (hq : ch.queue? i = some q) {n : Nat}
    (hn : q.items.length ≤ n) :
    ch.actAll (takes i n) = (ch.modify i fun q => { q with items := [] }) ∧
      ch.handedAll i (takes i n) = q.items := by
  have hs := sentAll_takes ch i i n
  obtain ⟨q', hq', hitems, -⟩ := queue?_actAll_of_sentAll hq hs
  have hact : ch.actAll (takes i n) = (ch.modify i fun q => { q with items := [] }) := by
    clear hs hitems hq'
    induction n generalizing ch q with
    | zero =>
        have hi : q.items = [] := List.eq_nil_of_length_eq_zero (Nat.le_zero.1 hn)
        refine (modify_self hq ?_).symm
        rw [← hi]
    | succ n ih =>
        rw [takes, List.replicate_succ, actAll_cons, act]
        have hq₁ := queue?_take ch i i .batch
        rw [hq, Option.map_some, if_pos rfl] at hq₁
        have hb₁ : 0 < (ch.take i .batch).2.batch := by
          have hc := batch_act ch (.take i .batch)
          rw [act] at hc
          rwa [hc]
        refine (ih hb₁ hq₁ ?_).trans (modify_take hq .batch)
        rw [List.length_drop, ItemQueue.room]
        omega
  refine ⟨hact, ?_⟩
  rw [hact, queue?_modify, hq, Option.map_some, if_pos rfl] at hq'
  obtain rfl := Option.some.inj hq'
  rw [hitems, List.append_nil]

end PacketMeter.Channel
