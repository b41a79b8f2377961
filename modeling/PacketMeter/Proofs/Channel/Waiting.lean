import PacketMeter.Proofs.Channel.History
import PacketMeter.Proofs.Channel.Holders

/-!
# Waits that miss nothing

A wait looks at its queue only after it was woken.  That it misses nothing is an
invariant: a wait that was not woken stands at a queue that is empty, on a channel
that is open.  It holds because a wait begins asleep only when it found just that,
and because whatever could end that state, an item or the close, wakes every wait on
the queue.

For the last point the channel must still deliver to the queue.  It does so as long
as somebody holds the queue, and every wait holds its queue.  Hence the holders are
counted, and an action is allowed when it does not count on a holder that is not
there.
-/

namespace PacketMeter

namespace Channel

variable {α : Type}

/-- Whether those who hold the queues of a channel can take an action.  Who takes,
shares or drops a hold on a queue has one. -/
def Allowed (ch : Channel α) : Action α → Prop
  | .hold i | .release i | .beginWait i _ => 0 < ch.spare i
  | _ => True

/-- What holds of a channel whose holders take allowed actions only: a queue that is
held is open as long as the channel is, waits have numbers of their own and hold
their queues, and a wait that was not woken has nothing to look for. -/
structure WellFormed (ch : Channel α) : Prop extends ch.Sound where
  served : ∀ {i q}, ch.queue? i = some q → 0 < q.holders →
    q.attached = !ch.closed ∧ q.closed = ch.closed
  ids_nodup : (ch.waits.map Prod.fst).Nodup
  id_lt : ∀ w ∈ ch.waits.map Prod.fst, w < ch.nextWait
  waitsOn_le : ∀ i, ch.waitsOn i ≤ ch.holdersAt i
  asleep : ∀ {w wait}, ch.waits.lookup w = some wait → wait.woken = false →
    ch.closed = false ∧ ch.itemsAt wait.queue = []

theorem wellFormed_make (capacity batch : Nat) :
    (make capacity batch : Channel α).WellFormed where
  toSound := sound_make capacity batch
  served := by intro i q hq; simp [make, queue?] at hq
  ids_nodup := List.nodup_nil
  id_lt := by intro w hw; simp [make] at hw
  waitsOn_le := by intro i; simp [make, waitsOn]
  asleep := by intro w wait hw; simp [make] at hw

/-- A queue that is held gets what is sent, or got all of it up to the close. -/
theorem WellFormed.isServed {ch : Channel α} (h : ch.WellFormed) {i : Nat} {q : ItemQueue α}
    (hq : ch.queue? i = some q) (hp : 0 < q.holders) : q.IsServed := by
  obtain ⟨ha, hc⟩ := h.served hq hp
  cases hcl : ch.closed with
  | false => exact .inl (by rw [ha, hcl]; rfl)
  | true => exact .inr (by rw [hc, hcl])

/-- Every wait holds its queue. -/
theorem WellFormed.exists_queue {ch : Channel α} (h : ch.WellFormed) {w : Nat} {wait : Wait}
    (hw : ch.waits.lookup w = some wait) :
    ∃ q, ch.queue? wait.queue = some q ∧ 0 < q.holders := by
  apply exists_queue_of_holdersAt
  refine Nat.lt_of_lt_of_le ?_ (h.waitsOn_le wait.queue)
  exact List.countP_pos_iff.2 ⟨_, Entries.mem_of_lookup hw, by simp⟩

/-- A held queue that has nothing at once is empty, on an open channel. -/
theorem WellFormed.of_take_pending {ch : Channel α} (h : ch.WellFormed) {i : Nat}
    {mode : TakeMode} (hh : 0 < ch.holdersAt i) (ht : (ch.take i mode).1 = .pending) :
    ch.closed = false ∧ ch.itemsAt i = [] := by
  obtain ⟨q, hq, hp⟩ := exists_queue_of_holdersAt hh
  rw [itemsAt_of_some hq]
  by_cases hi : q.items = []
  · rw [take_of_nil mode hq hi] at ht
    refine ⟨?_, hi⟩
    rw [← (h.served hq hp).2]
    cases hc : q.closed with
    | false => rfl
    | true => simp [hc] at ht
  · rw [take_of_ne_nil mode hq hi] at ht
    cases ht

/-- The next number belongs to no wait. -/
theorem WellFormed.lookup_nextWait {ch : Channel α} (h : ch.WellFormed) :
    ch.waits.lookup ch.nextWait = none := by
  cases hw : ch.waits.lookup ch.nextWait with
  | none => rfl
  | some wait =>
      have hm : ch.nextWait ∈ ch.waits.map Prod.fst :=
        List.mem_map.2 ⟨_, Entries.mem_of_lookup hw, rfl⟩
      exact absurd (h.id_lt _ hm) (Nat.lt_irrefl _)

/-! ## What an action keeps -/

section Steps

variable {ch : Channel α}

theorem itemsAt_act_of_nil {x : Action α} (hx : ch.accepted x = []) {i : Nat}
    (h : ch.itemsAt i = []) : (ch.act x).itemsAt i = [] := by
  cases hq : ch.queue? i with
  | none =>
      cases hq' : (ch.act x).queue? i with
      | none => simp [itemsAt, hq']
      | some q' =>
          obtain ⟨rfl, -⟩ := queue?_act_of_none hq x hq'
          rw [itemsAt_of_some hq']
  | some q =>
      obtain ⟨q', hq', hc⟩ := change_act hq x
      rw [itemsAt_of_some hq] at h
      rw [itemsAt_of_some hq']
      have hi := (hc.of_sent_nil hx).1
      rw [h] at hi
      exact (List.append_eq_nil_iff.1 hi.symm).2

/-- A queue that is held is open as long as the channel is, when it was held before. -/
theorem WellFormed.served_act (h : ch.WellFormed) (x : Action α)
    (hh : ∀ i q, ch.queue? i = some q → 0 < (ch.act x).holdersAt i → 0 < q.holders)
    {i : Nat} {q' : ItemQueue α} (hq' : (ch.act x).queue? i = some q')
    (hp : 0 < q'.holders) :
    q'.attached = !(ch.act x).closed ∧ q'.closed = (ch.act x).closed := by
  rw [closed_act]
  cases hq : ch.queue? i with
  | none =>
      obtain ⟨rfl, rfl⟩ := queue?_act_of_none hq x hq'
      simp [Action.closes]
  | some q =>
      obtain ⟨p, hp', hc⟩ := change_act hq x
      rw [hq'] at hp'
      obtain rfl := Option.some.inj hp'
      have hpos : 0 < q.holders := hh i q hq (by rw [holdersAt_of_some hq']; exact hp)
      exact hc.served (h.served hq hpos) hpos

/-- An action that leaves the waits alone, and no wait without its hold. -/
theorem WellFormed.act_of_waits_eq (h : ch.WellFormed) {x : Action α}
    (ha : ch.accepted x = []) (hc : x.closes = false)
    (hw : (ch.act x).waits = ch.waits) (hn : (ch.act x).nextWait = ch.nextWait)
    (hh : ∀ i q, ch.queue? i = some q → 0 < (ch.act x).holdersAt i → 0 < q.holders)
    (hle : ∀ i, ch.waitsOn i ≤ (ch.act x).holdersAt i) : (ch.act x).WellFormed where
  toSound := h.toSound.act x
  served := h.served_act x hh
  ids_nodup := by rw [hw]; exact h.ids_nodup
  id_lt := by rw [hw, hn]; exact h.id_lt
  waitsOn_le := by
    intro i
    rw [waitsOn, hw]
    exact hle i
  asleep := by
    intro w wait hl hk
    rw [hw] at hl
    obtain ⟨ho, hi⟩ := h.asleep hl hk
    refine ⟨?_, itemsAt_act_of_nil ha hi⟩
    rw [closed_act, ho, hc, Bool.or_false]

theorem WellFormed.take (h : ch.WellFormed) (i : Nat) (mode : TakeMode) :
    (ch.take i mode).2.WellFormed := by
  obtain ⟨queues, hq⟩ := ch.take_snd_eq i mode
  refine h.act_of_waits_eq (x := .take i mode) rfl rfl (waits_take ch i mode) ?_ ?_ ?_
  · change (ch.take i mode).2.nextWait = ch.nextWait
    rw [hq]
  · intro j q hj hp
    rw [act, holdersAt_take, holdersAt_of_some hj] at hp
    exact hp
  · intro j
    rw [act, holdersAt_take]
    exact h.waitsOn_le j

theorem WellFormed.subscribe (h : ch.WellFormed) : ch.subscribe.2.WellFormed := by
  refine h.act_of_waits_eq (x := .subscribe) rfl rfl rfl rfl ?_ ?_
  · intro j q hj hp
    have hl : j ≠ ch.queues.length := Nat.ne_of_lt (lt_length_iff.2 ⟨q, hj⟩)
    rw [act, holdersAt_subscribe, if_neg hl, holdersAt_of_some hj] at hp
    exact hp
  · intro j
    rw [act, holdersAt_subscribe]
    exact Nat.le_trans (h.waitsOn_le j) (Nat.le_add_right _ _)

theorem WellFormed.hold (h : ch.WellFormed) {i : Nat} (hx : 0 < ch.spare i) :
    (ch.hold i).WellFormed := by
  have hi := holdersAt_pos_of_spare hx
  refine h.act_of_waits_eq (x := .hold i) rfl rfl rfl rfl ?_ ?_
  · intro j q hj hp
    by_cases hij : i = j
    · subst hij
      rwa [holdersAt_of_some hj] at hi
    · rw [act, holdersAt_hold ch j i hi, if_neg hij, holdersAt_of_some hj] at hp
      exact hp
  · intro j
    rw [act, holdersAt_hold ch j i hi]
    exact Nat.le_trans (h.waitsOn_le j) (Nat.le_add_right _ _)

theorem WellFormed.release (h : ch.WellFormed) {i : Nat} (hx : 0 < ch.spare i) :
    (ch.release i).WellFormed := by
  refine h.act_of_waits_eq (x := .release i) rfl rfl rfl rfl ?_ ?_
  · intro j q hj hp
    rw [act, holdersAt_release, holdersAt_of_some hj] at hp
    omega
  · intro j
    rw [act, holdersAt_release]
    have := h.waitsOn_le j
    by_cases hij : i = j
    · subst hij
      unfold spare at hx
      simp only [if_true]
      omega
    · rwa [if_neg hij, Nat.sub_zero]

/-- Whatever wakes the waits on an open channel wakes all of them, since every wait
holds its queue and a held queue is live. -/
theorem WellFormed.woken_of_wakeLive (h : ch.WellFormed) (ho : ch.closed = false) {w : Nat}
    {wait : Wait} (hw : ch.wakeLive.lookup w = some wait) : wait.woken = true := by
  rw [lookup_wakeLive] at hw
  obtain ⟨u, hu, rfl⟩ := Option.map_eq_some_iff.1 hw
  obtain ⟨q, hq, hp⟩ := h.exists_queue hu
  have ha := (h.served hq hp).1
  rw [ho] at ha
  simp [isLive, hq, ItemQueue.isLive, ha, hp]

theorem WellFormed.send (h : ch.WellFormed) (a : α) : (ch.send a).2.WellFormed := by
  cases ho : ch.closed with
  | true =>
      rw [send_of_closed a ho]
      exact h
  | false =>
      have hs : (ch.send a).2 =
          { ch with
            queues := ch.queues.map (ItemQueue.deliver ch.capacity a)
            waits := ch.wakeLive } := by simp [Channel.send, ho]
      have hw : (ch.send a).2.waits = ch.wakeLive := by rw [hs]
      refine ⟨h.toSound.act (.send a), h.served_act (.send a) ?_, ?_, ?_, ?_, ?_⟩
      · intro j q hj hp
        rw [act, holdersAt_send, holdersAt_of_some hj] at hp
        exact hp
      · rw [hw, keys_wakeLive]
        exact h.ids_nodup
      · rw [hw, keys_wakeLive, hs]
        exact h.id_lt
      · intro i
        rw [waitsOn, hw, countP_wakeLive, holdersAt_send]
        exact h.waitsOn_le i
      · intro w wait hl hk
        rw [hw] at hl
        rw [h.woken_of_wakeLive ho hl] at hk
        cases hk

theorem WellFormed.close (h : ch.WellFormed) : ch.close.WellFormed := by
  refine ⟨h.toSound.act .close, h.served_act .close ?_, ?_, ?_, ?_, ?_⟩
  · intro j q hj hp
    rw [act, holdersAt_close, holdersAt_of_some hj] at hp
    exact hp
  · rw [show ch.close.waits = ch.wakeLive from rfl, keys_wakeLive]
    exact h.ids_nodup
  · rw [show ch.close.waits = ch.wakeLive from rfl, keys_wakeLive]
    exact h.id_lt
  · intro i
    rw [waitsOn, show ch.close.waits = ch.wakeLive from rfl, countP_wakeLive, holdersAt_close]
    exact h.waitsOn_le i
  · intro w wait hl hk
    have hl' : ch.wakeLive.lookup w = some wait := hl
    cases ho : ch.closed with
    | false =>
        rw [h.woken_of_wakeLive ho hl'] at hk
        cases hk
    | true =>
        -- On a channel that was closed before, no wait is asleep any more.
        rw [lookup_wakeLive] at hl'
        obtain ⟨u, hu, rfl⟩ := Option.map_eq_some_iff.1 hl'
        have := (h.asleep hu (Bool.or_eq_false_iff.1 hk).1).1
        rw [ho] at this
        cases this

theorem keys_cancel_sublist (ch : Channel α) (w : Nat) :
    ((ch.cancel w).waits.map Prod.fst).Sublist (ch.waits.map Prod.fst) := by
  cases hw : ch.waits.lookup w with
  | none => rw [cancel_of_none hw]
  | some wait =>
      rw [cancel_of_some hw]
      exact List.filter_sublist.map Prod.fst

theorem lookup_cancel (ch : Channel α) (w v : Nat) :
    (ch.cancel w).waits.lookup v = if v = w then none else ch.waits.lookup v := by
  cases hw : ch.waits.lookup w with
  | none =>
      rw [cancel_of_none hw]
      by_cases hv : v = w
      · rw [if_pos hv, hv, hw]
      · rw [if_neg hv]
  | some wait =>
      rw [cancel_of_some hw]
      exact Entries.lookup_filter_ne ch.waits w v

theorem nextWait_cancel (ch : Channel α) (w : Nat) : (ch.cancel w).nextWait = ch.nextWait := by
  obtain ⟨queues, waits, h⟩ := ch.cancel_eq w
  rw [h]

theorem holdersAt_cancel {w : Nat} {wait : Wait} (hw : ch.waits.lookup w = some wait) (i : Nat) :
    (ch.cancel w).holdersAt i = ch.holdersAt i - if wait.queue = i then 1 else 0 := by
  rw [cancel_of_some hw, ← holdersAt_release]
  rfl

/-- A wait that is cancelled takes one hold with it, its own. -/
theorem WellFormed.waitsOn_cancel (h : ch.WellFormed) {w : Nat} {wait : Wait}
    (hw : ch.waits.lookup w = some wait) (i : Nat) :
    (ch.cancel w).waitsOn i + (if wait.queue = i then 1 else 0) = ch.waitsOn i := by
  have hf := Entries.countP_filter_ne h.ids_nodup hw fun e => e.2.queue = i
  simp only [decide_eq_true_eq] at hf
  rw [cancel_of_some hw]
  exact hf

theorem WellFormed.cancel (h : ch.WellFormed) (w : Nat) : (ch.cancel w).WellFormed := by
  cases hw : ch.waits.lookup w with
  | none =>
      rw [cancel_of_none hw]
      exact h
  | some wait =>
      refine ⟨h.toSound.act (.cancel w), h.served_act (.cancel w) ?_, ?_, ?_, ?_, ?_⟩
      · intro j q hj hp
        rw [act, holdersAt_cancel hw, holdersAt_of_some hj] at hp
        omega
      · exact h.ids_nodup.sublist (keys_cancel_sublist ch w)
      · intro v hv
        rw [nextWait_cancel]
        exact h.id_lt v ((keys_cancel_sublist ch w).mem hv)
      · intro i
        have hc := h.waitsOn_cancel hw i
        have hl := h.waitsOn_le i
        rw [holdersAt_cancel hw]
        omega
      · intro v u hv hk
        rw [lookup_cancel] at hv
        split at hv
        · cases hv
        · obtain ⟨ho, hi⟩ := h.asleep hv hk
          refine ⟨?_, itemsAt_act_of_nil (x := .cancel w) rfl hi⟩
          have hcl := closed_act ch (.cancel w)
          simpa [act, ho, Action.closes] using hcl

/-- A wait may go back to sleep when its queue had nothing. -/
theorem WellFormed.resume (h : ch.WellFormed) {w : Nat} {wait : Wait}
    (hw : ch.waits.lookup w = some wait)
    (hn : ch.closed = false ∧ ch.itemsAt wait.queue = []) : (ch.resume w).WellFormed := by
  refine ⟨⟨h.capacity_pos, h.batch_pos, h.length_le, h.closed_of_closed, h.open_of_attached⟩,
    h.served, ?_, ?_, ?_, ?_⟩
  · rw [keys_resume]
    exact h.ids_nodup
  · rw [keys_resume]
    exact h.id_lt
  · intro i
    rw [waitsOn_resume]
    exact h.waitsOn_le i
  · intro v u hv hk
    rw [lookup_resume] at hv
    obtain ⟨u₀, hu₀, hu⟩ := Option.map_eq_some_iff.1 hv
    by_cases hvw : v = w
    · subst hvw
      rw [hw] at hu₀
      obtain rfl := Option.some.inj hu₀
      rw [if_pos rfl] at hu
      subst hu
      exact hn
    · rw [if_neg hvw] at hu
      subst hu
      exact h.asleep hu₀ hk

/-- The three things that asking a wait again can do. -/
theorem pollWait_snd_cases (ch : Channel α) (w : Nat) :
    (ch.pollWait w).2 = ch ∨
      (∃ wait, ch.waits.lookup w = some wait ∧ wait.woken = true ∧
        (ch.take wait.queue wait.mode).1 = .pending ∧ (ch.pollWait w).2 = ch.resume w) ∨
      ∃ wait, ch.waits.lookup w = some wait ∧
        (ch.pollWait w).2 = (ch.take wait.queue wait.mode).2.cancel w := by
  cases hw : ch.waits.lookup w with
  | none => exact .inl (by rw [pollWait_of_none hw])
  | some wait =>
      cases hk : wait.woken with
      | false => exact .inl (by rw [pollWait_of_not_woken hw hk])
      | true =>
          by_cases hp : (ch.take wait.queue wait.mode).1 = .pending
          · exact .inr (.inl ⟨wait, rfl, hk, hp, by rw [pollWait_of_pending hw hk hp]⟩)
          · exact .inr (.inr ⟨wait, rfl, by rw [pollWait_of_ne_pending hw hk hp]⟩)

theorem WellFormed.pollWait (h : ch.WellFormed) (w : Nat) : (ch.pollWait w).2.WellFormed := by
  rcases ch.pollWait_snd_cases w with he | ⟨wait, hw, -, hp, he⟩ | ⟨wait, hw, he⟩
  · rw [he]
    exact h
  · rw [he]
    obtain ⟨q, hq, hpos⟩ := h.exists_queue hw
    refine h.resume hw (h.of_take_pending ?_ hp)
    rw [holdersAt_of_some hq]
    exact hpos
  · rw [he]
    exact (h.take wait.queue wait.mode).cancel w

theorem WellFormed.beginWait (h : ch.WellFormed) {i : Nat} (hx : 0 < ch.spare i)
    (mode : TakeMode) : (ch.beginWait i mode).2.2.WellFormed := by
  by_cases hp : (ch.take i mode).1 = .pending
  · have hh := h.hold hx
    obtain ⟨ho, hi⟩ := h.of_take_pending (holdersAt_pos_of_spare hx) hp
    rw [beginWait_of_pending hp]
    refine ⟨⟨hh.capacity_pos, hh.batch_pos, hh.length_le, hh.closed_of_closed,
      hh.open_of_attached⟩, hh.served, ?_, ?_, ?_, ?_⟩
    · simp only [List.map_append, List.map_cons, List.map_nil]
      rw [List.nodup_append]
      refine ⟨h.ids_nodup, List.nodup_singleton _, ?_⟩
      intro v hv u hu
      rw [List.mem_singleton.1 hu]
      exact Nat.ne_of_lt (h.id_lt v hv)
    · intro v hv
      simp only [List.map_append, List.map_cons, List.map_nil, List.mem_append,
        List.mem_singleton] at hv
      rcases hv with hv | rfl
      · exact Nat.lt_succ_of_lt (h.id_lt v hv)
      · exact Nat.lt_succ_self _
    · intro j
      have hl := h.waitsOn_le j
      have hj := holdersAt_hold ch j i (holdersAt_pos_of_spare hx)
      change (ch.waits ++ _).countP _ ≤ (ch.hold i).holdersAt j
      rw [hj, List.countP_append]
      simp only [List.countP_singleton, decide_eq_true_eq]
      exact Nat.add_le_add_right hl _
    · intro v u hv hk
      have ha : ch.itemsAt u.queue = [] → (ch.hold i).itemsAt u.queue = [] :=
        itemsAt_act_of_nil (x := .hold i) rfl
      rw [List.lookup_append] at hv
      cases hl : ch.waits.lookup v with
      | some u₀ =>
          rw [hl] at hv
          obtain rfl := Option.some.inj hv
          exact ⟨(h.asleep hl hk).1, ha (h.asleep hl hk).2⟩
      | none =>
          rw [hl, Option.none_or] at hv
          have hm := Entries.mem_of_lookup hv
          rw [List.mem_singleton, Prod.mk.injEq] at hm
          obtain ⟨-, rfl⟩ := hm
          exact ⟨ho, ha hi⟩
  · rw [beginWait_of_ne_pending hp]
    exact h.take i mode

/-- Every allowed action keeps a channel well-formed. -/
theorem WellFormed.act (h : ch.WellFormed) {x : Action α} (hx : ch.Allowed x) :
    (ch.act x).WellFormed := by
  cases x with
  | send a => exact h.send a
  | close => exact h.close
  | subscribe => exact h.subscribe
  | hold i => exact h.hold hx
  | release i => exact h.release hx
  | take i mode => exact h.take i mode
  | beginWait i mode => exact h.beginWait hx mode
  | pollWait w => exact h.pollWait w
  | cancel w => exact h.cancel w

/-- Whether an action ends a wait: by cancelling it, or by giving it its result. -/
def Ends (ch : Channel α) (x : Action α) (w : Nat) : Prop :=
  x = .cancel w ∨ x = .pollWait w ∧ (ch.pollWait w).1 ≠ .pending

/-- The wait that an action can end. -/
def Action.wait? : Action α → Option Nat
  | .cancel w | .pollWait w => some w
  | _ => none

theorem not_ends {ch : Channel α} {x : Action α} (hx : x.wait? = none) (w : Nat) :
    ¬ ch.Ends x w := by
  rintro (rfl | ⟨rfl, -⟩)
  · cases hx
  · cases hx

theorem lookup_pollWait {ch : Channel α} {w v : Nat} {wait : Wait}
    (hv : ch.waits.lookup v = some wait) (hx : v = w → (ch.pollWait w).1 = .pending) :
    ∃ woken, (ch.pollWait w).2.waits.lookup v = some { wait with woken } := by
  cases hw : ch.waits.lookup w with
  | none => exact ⟨wait.woken, by rw [pollWait_of_none hw, hv]⟩
  | some u =>
      cases hk : u.woken with
      | false => exact ⟨wait.woken, by rw [pollWait_of_not_woken hw hk, hv]⟩
      | true =>
          by_cases hp : (ch.take u.queue u.mode).1 = .pending
          · rw [pollWait_of_pending hw hk hp, lookup_resume, hv]
            by_cases hvw : v = w
            · exact ⟨false, by simp [hvw]⟩
            · exact ⟨wait.woken, by simp [hvw]⟩
          · rw [pollWait_of_ne_pending hw hk hp] at hx ⊢
            have hvw : v ≠ w := fun he => hp (hx he)
            exact ⟨wait.woken, by rw [lookup_cancel, if_neg hvw, waits_take, hv]⟩

/-- A wait that an action does not end goes on: on its queue, for as many items, at
most woken or asleep again. -/
theorem lookup_act {ch : Channel α} {x : Action α} {v : Nat} {wait : Wait}
    (hv : ch.waits.lookup v = some wait) (hx : ¬ ch.Ends x v) :
    ∃ woken, (ch.act x).waits.lookup v = some { wait with woken } := by
  have hwake : ch.wakeLive.lookup v =
      some { wait with woken := wait.woken || ch.isLive wait.queue } := by
    rw [lookup_wakeLive, hv]
    rfl
  cases x with
  | send a =>
      cases ho : ch.closed with
      | true => exact ⟨wait.woken, by rw [act, send_of_closed a ho, hv]⟩
      | false => exact ⟨_, by simpa [act, send, ho] using hwake⟩
  | close => exact ⟨_, hwake⟩
  | subscribe => exact ⟨wait.woken, hv⟩
  | hold i => exact ⟨wait.woken, hv⟩
  | release i => exact ⟨wait.woken, hv⟩
  | take i mode => exact ⟨wait.woken, by rw [act, waits_take, hv]⟩
  | beginWait i mode =>
      refine ⟨wait.woken, ?_⟩
      by_cases hp : (ch.take i mode).1 = .pending
      · rw [act, beginWait_of_pending hp, List.lookup_append, hv]
        rfl
      · rw [act, beginWait_of_ne_pending hp, waits_take, hv]
  | pollWait w =>
      refine lookup_pollWait hv ?_
      rintro rfl
      by_contra hp
      exact hx (.inr ⟨rfl, hp⟩)
  | cancel w =>
      have hvw : v ≠ w := by
        rintro rfl
        exact hx (.inl rfl)
      exact ⟨wait.woken, by rw [act, lookup_cancel, if_neg hvw, hv]⟩

end Steps

/-! ## Holders that are not waits -/

section Spare

variable {ch : Channel α}

@[simp] theorem spare_send (ch : Channel α) (a : α) (i : Nat) :
    (ch.send a).2.spare i = ch.spare i := by
  cases ho : ch.closed with
  | true => rw [send_of_closed a ho]
  | false =>
      have hs : (ch.send a).2.waits = ch.wakeLive := by simp [send, ho]
      rw [spare, holdersAt_send, spare, waitsOn, hs, countP_wakeLive]

@[simp] theorem spare_close (ch : Channel α) (i : Nat) : ch.close.spare i = ch.spare i := by
  rw [spare, holdersAt_close, spare, waitsOn, show ch.close.waits = ch.wakeLive from rfl,
    countP_wakeLive]

@[simp] theorem spare_take (ch : Channel α) (i : Nat) (mode : TakeMode) (j : Nat) :
    (ch.take i mode).2.spare j = ch.spare j := by
  rw [spare, holdersAt_take, waitsOn, waits_take]
  rfl

@[simp] theorem spare_resume (ch : Channel α) (w i : Nat) : (ch.resume w).spare i = ch.spare i := by
  rw [spare, waitsOn_resume]
  rfl

theorem WellFormed.spare_subscribe (h : ch.WellFormed) (i : Nat) :
    ch.subscribe.2.spare i = ch.spare i + if i = ch.queues.length then 1 else 0 := by
  have hl := h.waitsOn_le i
  rw [spare, holdersAt_subscribe, spare]
  change _ - ch.waitsOn i = _
  omega

theorem WellFormed.spare_hold (h : ch.WellFormed) {i : Nat} (hi : 0 < ch.spare i) (j : Nat) :
    (ch.hold i).spare j = ch.spare j + if i = j then 1 else 0 := by
  have hl := h.waitsOn_le j
  rw [spare, holdersAt_hold ch j i (holdersAt_pos_of_spare hi), spare]
  change _ - ch.waitsOn j = _
  omega

theorem spare_release (ch : Channel α) (i j : Nat) :
    (ch.release i).spare j = ch.spare j - if i = j then 1 else 0 := by
  rw [spare, holdersAt_release, spare]
  change _ - ch.waitsOn j = _
  omega

/-- A wait that ends gives back the hold that it brought. -/
theorem WellFormed.spare_cancel (h : ch.WellFormed) (w i : Nat) :
    (ch.cancel w).spare i = ch.spare i := by
  cases hw : ch.waits.lookup w with
  | none => rw [cancel_of_none hw]
  | some wait =>
      have hc := h.waitsOn_cancel hw i
      have hl := h.waitsOn_le i
      rw [spare, holdersAt_cancel hw, spare]
      omega

theorem spare_beginWait {i : Nat} (hi : 0 < ch.spare i)
    (mode : TakeMode) (j : Nat) : (ch.beginWait i mode).2.2.spare j = ch.spare j := by
  by_cases hp : (ch.take i mode).1 = .pending
  · rw [beginWait_of_pending hp]
    have hh := holdersAt_hold ch j i (holdersAt_pos_of_spare hi)
    have hw : (ch.waits ++ [(ch.nextWait, (⟨i, mode, false⟩ : Wait))]).countP
        (fun e => e.2.queue = j) = ch.waitsOn j + if i = j then 1 else 0 := by
      rw [List.countP_append, List.countP_singleton]
      simp only [decide_eq_true_eq]
      rfl
    change (ch.hold i).holdersAt j - _ = _
    rw [hh, waitsOn, hw, spare]
    omega
  · rw [beginWait_of_ne_pending hp, spare_take]

theorem WellFormed.spare_pollWait (h : ch.WellFormed) (w i : Nat) :
    (ch.pollWait w).2.spare i = ch.spare i := by
  rcases ch.pollWait_snd_cases w with he | ⟨wait, -, -, -, he⟩ | ⟨wait, -, he⟩
  · rw [he]
  · rw [he, spare_resume]
  · rw [he, (h.take wait.queue wait.mode).spare_cancel, spare_take]

end Spare

end Channel

end PacketMeter
