import PacketMeter.Proofs.Channel.Action

/-!
# Holders and waits of a queue

What a channel knows about a queue, read as functions of the number of the queue: its
items, the number of its holders, and the number of waits on it.  A wait is one of
the holders.  `Channel.spare` counts those that are not: receivers, streams, and
whoever else keeps the queue alive without waiting for it.
-/

namespace PacketMeter

namespace Channel

variable {α : Type}

/-- The items of a queue, if there is one. -/
def itemsAt (ch : Channel α) (i : Nat) : List α :=
  match ch.queue? i with
  | some q => q.items
  | none => []

/-- The number of holders of a queue, if there is one. -/
def holdersAt (ch : Channel α) (i : Nat) : Nat :=
  match ch.queue? i with
  | some q => q.holders
  | none => 0

/-- The number of waits on a queue. -/
def waitsOn (ch : Channel α) (i : Nat) : Nat := ch.waits.countP fun e => e.2.queue = i

/-- The number of holders of a queue that are not waits. -/
def spare (ch : Channel α) (i : Nat) : Nat := ch.holdersAt i - ch.waitsOn i

theorem itemsAt_of_some {ch : Channel α} {i : Nat} {q : ItemQueue α}
    (hq : ch.queue? i = some q) : ch.itemsAt i = q.items := by
  simp [itemsAt, hq]

theorem holdersAt_of_some {ch : Channel α} {i : Nat} {q : ItemQueue α}
    (hq : ch.queue? i = some q) : ch.holdersAt i = q.holders := by
  simp [holdersAt, hq]

theorem holdersAt_of_none {ch : Channel α} {i : Nat} (hq : ch.queue? i = none) :
    ch.holdersAt i = 0 := by
  simp [holdersAt, hq]

theorem exists_queue_of_holdersAt {ch : Channel α} {i : Nat} (h : 0 < ch.holdersAt i) :
    ∃ q, ch.queue? i = some q ∧ 0 < q.holders := by
  cases hq : ch.queue? i with
  | none => simp [holdersAt, hq] at h
  | some q =>
      rw [holdersAt_of_some hq] at h
      exact ⟨q, rfl, h⟩

theorem holdersAt_pos_of_spare {ch : Channel α} {i : Nat} (h : 0 < ch.spare i) :
    0 < ch.holdersAt i :=
  Nat.lt_of_lt_of_le h (Nat.sub_le _ _)

/-! ## Counting holders and waits -/

section Counts

variable (ch : Channel α) (i j : Nat)

theorem holdersAt_eq (ch' : Channel α) (f : ItemQueue α → ItemQueue α)
    (hf : ∀ q, (f q).holders = q.holders) (h : ch'.queue? i = (ch.queue? i).map f) :
    ch'.holdersAt i = ch.holdersAt i := by
  unfold holdersAt
  rw [h]
  cases ch.queue? i with
  | none => rfl
  | some q => exact hf q

@[simp] theorem holdersAt_send (a : α) : (ch.send a).2.holdersAt i = ch.holdersAt i := by
  refine holdersAt_eq ch i _ _ ?_ (queue?_send ch i a)
  intro q
  split
  · rfl
  · simp

@[simp] theorem holdersAt_close : ch.close.holdersAt i = ch.holdersAt i :=
  holdersAt_eq ch i _ _ ItemQueue.holders_shut (queue?_close ch i)

@[simp] theorem holdersAt_take (mode : TakeMode) :
    (ch.take j mode).2.holdersAt i = ch.holdersAt i := by
  refine holdersAt_eq ch i _ _ ?_ (queue?_take ch i j mode)
  intro q
  split <;> rfl

theorem holdersAt_hold (h : 0 < ch.holdersAt j) :
    (ch.hold j).holdersAt i = ch.holdersAt i + if j = i then 1 else 0 := by
  unfold holdersAt
  rw [queue?_hold]
  by_cases hi : j = i
  · subst hi
    obtain ⟨q, hq, -⟩ := exists_queue_of_holdersAt h
    simp [hq]
  · cases ch.queue? i <;> simp [hi]

theorem holdersAt_release :
    (ch.release j).holdersAt i = ch.holdersAt i - if j = i then 1 else 0 := by
  unfold holdersAt
  rw [queue?_release]
  cases ch.queue? i with
  | none => simp
  | some q => by_cases hi : j = i <;> simp [hi]

theorem holdersAt_subscribe :
    ch.subscribe.2.holdersAt i = ch.holdersAt i + if i = ch.queues.length then 1 else 0 := by
  cases hq : ch.queue? i with
  | some q =>
      have hi : i ≠ ch.queues.length := Nat.ne_of_lt (lt_length_iff.2 ⟨q, hq⟩)
      rw [holdersAt_of_some (queue?_subscribe_of_lt ch i hq), holdersAt_of_some hq, if_neg hi]
      rfl
  | none =>
      rw [holdersAt_of_none hq]
      by_cases hi : i = ch.queues.length
      · have hn := queue?_subscribe ch
        rw [show ch.subscribe.1 = i from hi.symm] at hn
        rw [holdersAt_of_some hn, if_pos hi]
      · have hn : ch.subscribe.2.queue? i = none := by
          have hl := not_lt_length hq
          simp only [queue?, subscribe, List.getElem?_eq_none_iff, List.length_append,
            List.length_singleton]
          omega
        rw [holdersAt_of_none hn, if_neg hi]

end Counts

/-! ## The list of waits -/

section Waits

variable (ch : Channel α) (i v w : Nat)

theorem lookup_wakeLive :
    ch.wakeLive.lookup w =
      (ch.waits.lookup w).map fun u => { u with woken := u.woken || ch.isLive u.queue } := by
  unfold wakeLive
  refine Entries.lookup_map ch.waits _
    (fun _ u => { u with woken := u.woken || ch.isLive u.queue }) ?_ w
  exact fun _ _ => rfl

theorem keys_wakeLive : ch.wakeLive.map Prod.fst = ch.waits.map Prod.fst := by
  unfold wakeLive
  exact Entries.keys_map ch.waits _ fun _ => rfl

theorem countP_wakeLive :
    (ch.wakeLive.countP fun e => e.2.queue = i) = ch.waitsOn i := by
  rw [wakeLive, List.countP_map]
  rfl

theorem lookup_resume :
    (ch.resume w).waits.lookup v =
      (ch.waits.lookup v).map fun u => if v = w then { u with woken := false } else u := by
  refine Entries.lookup_map ch.waits _ (fun k u => if k = w then { u with woken := false } else u)
    ?_ v
  intro k u
  by_cases h : k = w <;> simp [h]

theorem keys_resume : (ch.resume w).waits.map Prod.fst = ch.waits.map Prod.fst := by
  refine Entries.keys_map ch.waits _ ?_
  intro e
  by_cases h : e.1 = w <;> simp [h]

theorem waitsOn_resume : (ch.resume w).waitsOn i = ch.waitsOn i := by
  rw [waitsOn, resume, List.countP_map, waitsOn]
  congr 1
  funext e
  by_cases h : e.1 = w <;> simp [h]

end Waits

end Channel

end PacketMeter
