import PacketMeter.Proofs.Channel.Action

/-!
# The history of a queue

`Channel.sentAll ch i xs` are the items that the channel accepts in the actions `xs`
while it has the queue `i`, and `Channel.handedAll ch i xs` are the items that it
hands out of this queue, both in order.

`ItemQueue.Account` ties a queue to its history: what was sent is a part that is
gone, followed by what the queue holds; what was handed out is a subsequence of the
part that is gone, and the rest of that part was dropped.  An account is kept by
every change of a queue that the channel serves, hence along every run.

Where nothing is sent, as after the close, the account is simpler: nothing is dropped,
and the queue hands out what it held, from the front.
-/

namespace PacketMeter

namespace ItemQueue

variable {α : Type}

/-- What was sent to a queue since it was subscribed is what is gone, and what it
holds.  What is gone was handed out in this order, or dropped. -/
structure Account (sent handed : List α) (q : ItemQueue α) : Prop where
  exists_gone : ∃ gone, sent = gone ++ q.items ∧ List.Sublist handed gone ∧
    handed.length + q.dropped = gone.length

/-- Whether a queue gets what is sent, or got all of it up to the close. -/
def IsServed (q : ItemQueue α) : Prop := q.attached = true ∨ q.closed = true

theorem Account.length_add {sent handed : List α} {q : ItemQueue α}
    (h : q.Account sent handed) :
    handed.length + q.dropped + q.items.length = sent.length := by
  obtain ⟨gone, rfl, -, hc⟩ := h.exists_gone
  rw [List.length_append, hc]

/-- A queue that drops nothing has handed out all that it does not hold. -/
theorem Account.append_eq {sent handed : List α} {q : ItemQueue α} (h : q.Account sent handed)
    (hd : q.dropped = 0) : handed ++ q.items = sent := by
  obtain ⟨gone, rfl, hsub, hc⟩ := h.exists_gone
  rw [hd] at hc
  rw [hsub.eq_of_length hc]

theorem Account.nil {q : ItemQueue α} (hi : q.items = []) (hd : q.dropped = 0) :
    q.Account [] [] :=
  ⟨[], by simp [hi], List.Sublist.slnil, by simp [hd]⟩

/-- What a queue neither has handed out nor holds it has dropped. -/
theorem Account.exists_lost {sent handed : List α} {q : ItemQueue α}
    (h : q.Account sent handed) : ∃ lost, lost.length = q.dropped ∧
      sent.Perm (handed ++ q.items ++ lost) := by
  obtain ⟨gone, rfl, hsub, hc⟩ := h.exists_gone
  obtain ⟨lost, hp⟩ := hsub.exists_perm_append
  refine ⟨lost, ?_, ?_⟩
  · have hl := hp.length_eq
    rw [List.length_append] at hl
    omega
  · rw [List.append_assoc]
    refine (hp.append_right q.items).trans ?_
    rw [List.append_assoc]
    exact List.perm_append_comm.append_left handed

/-- Handing out the front of a queue. -/
theorem Account.use {sent handed : List α} {q : ItemQueue α} (h : q.Account sent handed)
    (n holders : Nat) :
    Account sent (handed ++ q.items.take n) { q with items := q.items.drop n, holders } := by
  obtain ⟨gone, hs, hsub, hc⟩ := h.exists_gone
  refine ⟨gone ++ q.items.take n, ?_, hsub.append (List.Sublist.refl _), ?_⟩
  · rw [List.append_assoc, List.take_append_drop, hs]
  · simp only [List.length_append]
    omega

/-- A queue with room takes a new item, and a full one drops its oldest item for
it. -/
theorem Account.push {sent handed : List α} {q : ItemQueue α} (h : q.Account sent handed)
    {capacity : Nat} (hp : 0 < capacity) (a : α) :
    Account (sent ++ [a]) handed (q.push capacity a) := by
  obtain ⟨gone, hs, hsub, hc⟩ := h.exists_gone
  unfold ItemQueue.push
  split
  · rename_i hfull
    obtain ⟨b, rest, hb⟩ : ∃ b rest, q.items = b :: rest := by
      apply List.exists_cons_of_length_pos
      omega
    refine ⟨gone ++ [b], ?_, hsub.trans (List.sublist_append_left gone [b]), ?_⟩
    · simp [hs, hb]
    · simp only [List.length_append, List.length_singleton]
      omega
  · exact ⟨gone, by simp [hs], hsub, hc⟩

/-- A queue that the channel serves gets what is sent.  That one which nobody holds is
detached does no harm, for it is not served any more. -/
theorem Account.deliver {sent handed : List α} {q : ItemQueue α} (h : q.Account sent handed)
    {capacity : Nat} (hp : 0 < capacity) (a : α) (ha : q.attached = true)
    (hs : (q.deliver capacity a).attached = true) :
    Account (sent ++ [a]) handed (q.deliver capacity a) := by
  unfold ItemQueue.deliver at hs ⊢
  rw [if_pos ha] at hs ⊢
  split at hs
  · cases hs
  · rename_i hh
    rw [if_neg hh]
    exact h.push hp a

theorem Account.shut {sent handed : List α} {q : ItemQueue α} (h : q.Account sent handed) :
    q.shut.Account sent handed := by
  obtain ⟨gone, hs, hsub, hc⟩ := h.exists_gone
  exact ⟨gone, by simpa using hs, hsub, by simpa using hc⟩

/-- An item is dropped only to make room for one that is sent to a full queue. -/
theorem Change.of_dropped_lt {capacity : Nat} {closes : Bool} {q q' : ItemQueue α}
    {sent handed : List α} (h : Change capacity closes q sent handed q')
    (hd : q.dropped < q'.dropped) :
    ∃ a, sent = [a] ∧ capacity ≤ q.items.length ∧ q'.dropped = q.dropped + 1 := by
  cases h with
  | use _ n holders => exact absurd hd (Nat.lt_irrefl _)
  | deliver _ a =>
      refine ⟨a, rfl, ?_⟩
      unfold ItemQueue.deliver ItemQueue.push at hd ⊢
      by_cases ha : q.attached = true
      · by_cases hh : q.holders = 0
        · simp [ha, hh] at hd
        · by_cases hf : capacity ≤ q.items.length
          · simp [ha, hh, hf]
          · simp [ha, hh, hf] at hd
      · simp [ha] at hd
  | shut _ => simp at hd

/-- Where there is room for what is sent nothing is dropped. -/
theorem Change.of_room {capacity : Nat} {closes : Bool} {q q' : ItemQueue α}
    {sent handed : List α} (h : Change capacity closes q sent handed q')
    (hr : q.items.length + sent.length ≤ capacity) :
    q'.dropped = q.dropped ∧ q'.items.length ≤ q.items.length + sent.length := by
  cases h with
  | use _ n holders =>
      refine ⟨rfl, ?_⟩
      rw [List.length_drop]
      exact Nat.sub_le _ _
  | deliver _ a =>
      have hp : ¬ capacity ≤ q.items.length := Nat.not_le.2 hr
      unfold ItemQueue.deliver ItemQueue.push
      rw [if_neg hp]
      split
      · split
        · exact ⟨rfl, Nat.le_add_right _ _⟩
        · exact ⟨rfl, Nat.le_of_eq List.length_append⟩
      · exact ⟨rfl, Nat.le_add_right _ _⟩
  | shut _ => exact ⟨dropped_shut q, by rw [items_shut]; exact Nat.le_add_right _ _⟩

/-- Where nothing is sent, a queue hands out its front and keeps the rest. -/
theorem Change.of_sent_nil {capacity : Nat} {closes : Bool} {q q' : ItemQueue α}
    {sent handed : List α} (h : Change capacity closes q sent handed q') (hs : sent = []) :
    q.items = handed ++ q'.items ∧ q'.dropped = q.dropped := by
  cases h with
  | use _ n holders => exact ⟨(List.take_append_drop n q.items).symm, rfl⟩
  | deliver _ a => cases hs
  | shut _ => simp

theorem Change.length_le {capacity : Nat} {closes : Bool} {q q' : ItemQueue α}
    {sent handed : List α} (h : Change capacity closes q sent handed q') (hp : 0 < capacity)
    (hl : q.items.length ≤ capacity) : q'.items.length ≤ capacity := by
  cases h with
  | use _ n holders =>
      rw [List.length_drop]
      omega
  | deliver _ a =>
      unfold ItemQueue.deliver
      split
      · split
        · exact hl
        · exact length_push_le q a hp hl
      · exact hl
  | shut _ => simpa using hl

theorem Change.closed {capacity : Nat} {closes : Bool} {q q' : ItemQueue α}
    {sent handed : List α} (h : Change capacity closes q sent handed q')
    (hc : q'.closed = true) : q.closed = true ∨ closes = true := by
  cases h with
  | use _ n holders => exact .inl hc
  | deliver _ a => exact .inl (by simpa using hc)
  | shut _ => exact .inr rfl

theorem Change.attached {capacity : Nat} {closes : Bool} {q q' : ItemQueue α}
    {sent handed : List α} (h : Change capacity closes q sent handed q')
    (ha : q'.attached = true) : q.attached = true ∧ closes = false := by
  cases h with
  | use _ n holders => exact ⟨ha, rfl⟩
  | deliver _ a =>
      refine ⟨?_, rfl⟩
      unfold ItemQueue.deliver at ha
      split at ha
      · assumption
      · exact ha
  | shut _ => simp at ha

/-- A queue that is held is open as long as its channel is, before a change and after
it. -/
theorem Change.served {capacity : Nat} {closes closed : Bool} {q q' : ItemQueue α}
    {sent handed : List α} (h : Change capacity closes q sent handed q')
    (hq : q.attached = !closed ∧ q.closed = closed) (hp : 0 < q.holders) :
    q'.attached = !(closed || closes) ∧ q'.closed = (closed || closes) := by
  cases h with
  | use _ n holders => simpa using hq
  | deliver _ a =>
      refine ⟨?_, by simpa using hq.2⟩
      unfold ItemQueue.deliver
      split
      · rw [if_neg (Nat.pos_iff_ne_zero.1 hp)]
        simpa using hq.1
      · simpa using hq.1
  | shut _ =>
      refine ⟨by simp, ?_⟩
      unfold ItemQueue.shut ItemQueue.isLive
      cases closed <;> simp [hq.1, hq.2, hp]

/-- A queue that is served was served before. -/
theorem IsServed.of_change {capacity : Nat} {closes : Bool} {q q' : ItemQueue α}
    {sent handed : List α} (h : q'.IsServed)
    (hx : Change capacity closes q sent handed q') : q.IsServed := by
  rcases h with h | h
  · exact .inl (hx.attached h).1
  · cases hx with
    | use _ n holders => exact .inr h
    | deliver _ a => exact .inr (by simpa using h)
    | shut _ =>
        unfold ItemQueue.shut at h
        split at h
        · rename_i hl
          rw [isLive, Bool.and_eq_true] at hl
          exact .inl hl.1
        · exact .inr h

/-- What a queue hands out and what it holds was sent to it, in this order. -/
theorem Change.sublist {capacity : Nat} {closes : Bool} {q q' : ItemQueue α}
    {sent handed s t : List α} (hx : Change capacity closes q s t q')
    (h : (handed ++ q.items).Sublist sent) :
    (handed ++ t ++ q'.items).Sublist (sent ++ s) := by
  cases hx with
  | use _ n holders =>
      rw [List.append_nil, List.append_assoc, List.take_append_drop]
      exact h
  | deliver _ a =>
      have hkept : (q.deliver capacity a).items.Sublist (q.items ++ [a]) := by
        unfold ItemQueue.deliver
        split
        · split
          · exact List.sublist_append_left _ _
          · rw [items_push]
            refine List.Sublist.append ?_ (.refl _)
            split
            · exact List.drop_sublist _ _
            · exact .refl _
        · exact List.sublist_append_left _ _
      rw [List.append_nil]
      refine (List.Sublist.append (.refl handed) hkept).trans ?_
      rw [← List.append_assoc]
      exact h.append (.refl _)
  | shut _ =>
      rw [List.append_nil, List.append_nil, items_shut]
      exact h

/-- An account is kept by every change of a served queue.  What is sent comes to it
because it is attached, since a closed queue is sent nothing. -/
theorem Account.change {capacity : Nat} {closes : Bool} {q q' : ItemQueue α}
    {sent handed s t : List α} (h : q.Account sent handed)
    (hx : Change capacity closes q s t q') (hp : 0 < capacity)
    (hs : s ≠ [] → q'.attached = true) : q'.Account (sent ++ s) (handed ++ t) := by
  cases hx with
  | use _ n holders =>
      rw [List.append_nil]
      exact h.use n holders
  | deliver _ a =>
      have ha' := hs (List.cons_ne_nil a [])
      have hd : Change capacity false q [a] [] (q.deliver capacity a) := .deliver q a
      have ha := hd.attached ha'
      rw [List.append_nil]
      exact h.deliver hp a ha.1 ha'
  | shut _ =>
      rw [List.append_nil, List.append_nil]
      exact h.shut

end ItemQueue

namespace Channel

variable {α : Type}

/-- What holds of a channel whoever acts on it: there is room for one item, no queue
holds more than the capacity, and the flags of the queues agree with the channel. -/
structure Sound (ch : Channel α) : Prop where
  capacity_pos : 0 < ch.capacity
  batch_pos : 0 < ch.batch
  length_le : ∀ {i q}, ch.queue? i = some q → q.items.length ≤ ch.capacity
  closed_of_closed : ∀ {i q}, ch.queue? i = some q → q.closed = true → ch.closed = true
  open_of_attached : ∀ {i q}, ch.queue? i = some q → q.attached = true → ch.closed = false

theorem sound_make (capacity batch : Nat) : (make capacity batch : Channel α).Sound where
  capacity_pos := capacity_make_pos capacity batch
  batch_pos := batch_make_pos capacity batch
  length_le := by intro i q hq; simp [make, queue?] at hq
  closed_of_closed := by intro i q hq; simp [make, queue?] at hq
  open_of_attached := by intro i q hq; simp [make, queue?] at hq

/-- A property of single queues that holds of a new queue and is kept by every change
holds after an action. -/
theorem queue?_act_induction {ch : Channel α} {x : Action α} {P : Nat → ItemQueue α → Prop}
    (hnew : ∀ i, P i ⟨[], ch.closed, 0, 1, !ch.closed⟩)
    (hchange : ∀ i q q', ch.queue? i = some q →
      q.Change ch.capacity x.closes (ch.accepted x) (ch.handed i x) q' → P i q')
    {i : Nat} {q' : ItemQueue α} (hq' : (ch.act x).queue? i = some q') : P i q' := by
  cases hq : ch.queue? i with
  | none =>
      obtain ⟨rfl, -⟩ := queue?_act_of_none hq x hq'
      exact hnew i
  | some q =>
      obtain ⟨p, hp, hc⟩ := change_act hq x
      rw [hp] at hq'
      obtain rfl := Option.some.inj hq'
      exact hchange i q p hq hc

theorem Sound.act {ch : Channel α} (h : ch.Sound) (x : Action α) : (ch.act x).Sound where
  capacity_pos := by rw [capacity_act]; exact h.capacity_pos
  batch_pos := by rw [batch_act]; exact h.batch_pos
  length_le := by
    intro i q' hq'
    rw [capacity_act]
    refine queue?_act_induction (P := fun _ q => q.items.length ≤ ch.capacity) ?_ ?_ hq'
    · exact fun _ => Nat.zero_le _
    · exact fun i q q' hq hc => hc.length_le h.capacity_pos (h.length_le hq)
  closed_of_closed := by
    intro i q' hq'
    rw [closed_act, Bool.or_eq_true]
    refine queue?_act_induction
      (P := fun _ q => q.closed = true → ch.closed = true ∨ x.closes = true) ?_ ?_ hq'
    · exact fun _ hc => .inl hc
    · intro i q q' hq hx hc
      rcases hx.closed hc with hc | hc
      · exact .inl (h.closed_of_closed hq hc)
      · exact .inr hc
  open_of_attached := by
    intro i q' hq' ha
    rw [closed_act, Bool.or_eq_false_iff]
    cases hq : ch.queue? i with
    | none =>
        obtain ⟨rfl, rfl⟩ := queue?_act_of_none hq x hq'
        exact ⟨by simpa using ha, rfl⟩
    | some q =>
        obtain ⟨p, hp, hc⟩ := change_act hq x
        rw [hp] at hq'
        obtain rfl := Option.some.inj hq'
        exact ⟨h.open_of_attached hq (hc.attached ha).1, (hc.attached ha).2⟩

/-! ## Several actions -/

/-- The items that the channel accepts in several actions, as far as it has a queue. -/
def sentAll (ch : Channel α) (i : Nat) : List (Action α) → List α
  | [] => []
  | x :: xs =>
      (if i < ch.queues.length then ch.accepted x else []) ++ sentAll (ch.act x) i xs

/-- The items that several actions hand out of a queue. -/
def handedAll (ch : Channel α) (i : Nat) : List (Action α) → List α
  | [] => []
  | x :: xs => ch.handed i x ++ handedAll (ch.act x) i xs

theorem sentAll_append (ch : Channel α) (i : Nat) (xs ys : List (Action α)) :
    ch.sentAll i (xs ++ ys) = ch.sentAll i xs ++ (ch.actAll xs).sentAll i ys := by
  induction xs generalizing ch with
  | nil => rfl
  | cons x xs ih => rw [List.cons_append, sentAll, sentAll, actAll_cons, ih, List.append_assoc]

theorem handedAll_append (ch : Channel α) (i : Nat) (xs ys : List (Action α)) :
    ch.handedAll i (xs ++ ys) = ch.handedAll i xs ++ (ch.actAll xs).handedAll i ys := by
  induction xs generalizing ch with
  | nil => rfl
  | cons x xs ih =>
      rw [List.cons_append, handedAll, handedAll, actAll_cons, ih, List.append_assoc]

theorem accepted_of_closed {ch : Channel α} (h : ch.closed = true) (x : Action α) :
    ch.accepted x = [] := by
  cases x <;> simp [accepted, h]

theorem accepted_of_closes {ch : Channel α} {x : Action α} (h : x.closes = true) :
    ch.accepted x = [] := by
  cases x with
  | send a => cases h
  | _ => rfl

theorem handed_of_none {ch : Channel α} {i : Nat} (hq : ch.queue? i = none) (x : Action α) :
    ch.handed i x = [] := by
  unfold handed
  split
  · rename_i ha
    cases x with
    | take j mode =>
        obtain rfl : j = i := Option.some.inj ha
        simp [outcome, take_of_none mode hq]
    | beginWait j mode =>
        obtain rfl : j = i := Option.some.inj ha
        simp [outcome, beginWait_fst, take_of_none mode hq]
    | pollWait w =>
        obtain ⟨wait, hw, rfl⟩ := Option.map_eq_some_iff.1 ha
        have ht := take_of_none wait.mode hq
        cases hk : wait.woken with
        | false => simp [outcome, pollWait_of_not_woken hw hk]
        | true => simp [outcome, pollWait_of_pending hw hk (by rw [ht])]
    | _ => rfl
  · rfl

theorem queue?_of_act_none {ch : Channel α} {i : Nat} {x : Action α}
    (h : (ch.act x).queue? i = none) : ch.queue? i = none := by
  cases hq : ch.queue? i with
  | none => rfl
  | some q =>
      obtain ⟨q', hq', -⟩ := change_act hq x
      rw [hq'] at h
      cases h

/-- One action continues the account of a queue with what it sends and hands out. -/
theorem account_act {ch : Channel α} (h : ch.Sound) (x : Action α) {i : Nat}
    {q q' : ItemQueue α} {sent handed : List α} (hq : ch.queue? i = some q)
    (hq' : (ch.act x).queue? i = some q') (ha : q.Account sent handed) (hs : q'.IsServed) :
    q'.Account (sent ++ ch.accepted x) (handed ++ ch.handed i x) := by
  obtain ⟨p, hp, hc⟩ := change_act hq x
  rw [hq'] at hp
  obtain rfl := Option.some.inj hp
  refine ha.change hc h.capacity_pos ?_
  intro hne
  rcases hs with hs | hs
  · exact hs
  · -- A closed queue belongs to a closed channel, which accepts nothing.
    have hcl := (h.act x).closed_of_closed hq' hs
    rw [closed_act, Bool.or_eq_true] at hcl
    rcases hcl with hcl | hcl
    · exact absurd (accepted_of_closed hcl x) hne
    · exact absurd (accepted_of_closes hcl) hne

/-- Along a run every served queue keeps its account.  A queue that comes with the
run starts with nothing. -/
theorem account_actAll {ch : Channel α} (h : ch.Sound) (xs : List (Action α)) (i : Nat)
    {sent handed : List α}
    (hold : ∀ q, ch.queue? i = some q → q.IsServed → q.Account sent handed)
    (hnone : ch.queue? i = none → sent = [] ∧ handed = []) {q' : ItemQueue α}
    (hq' : (ch.actAll xs).queue? i = some q') (hs : q'.IsServed) :
    q'.Account (sent ++ ch.sentAll i xs) (handed ++ ch.handedAll i xs) := by
  induction xs generalizing ch sent handed with
  | nil =>
      rw [sentAll, handedAll, List.append_nil, List.append_nil]
      exact hold q' hq' hs
  | cons x xs ih =>
      rw [sentAll, handedAll, ← List.append_assoc, ← List.append_assoc]
      refine ih (h.act x) ?_ ?_ hq'
      · intro q₁ hq₁ hs₁
        cases hq : ch.queue? i with
        | none =>
            obtain ⟨rfl, -⟩ := queue?_act_of_none hq x hq₁
            obtain ⟨rfl, rfl⟩ := hnone hq
            rw [if_neg (not_lt_length hq), handed_of_none hq]
            exact .nil rfl rfl
        | some q =>
            obtain ⟨p, hp, hc⟩ := change_act hq x
            rw [hq₁] at hp
            obtain rfl := Option.some.inj hp
            rw [if_pos (lt_length_iff.2 ⟨q, hq⟩)]
            exact account_act h x hq hq₁ (hold q hq (hs₁.of_change hc)) hs₁
      · intro hn
        have hq := queue?_of_act_none hn
        obtain ⟨rfl, rfl⟩ := hnone hq
        rw [if_neg (not_lt_length hq), handed_of_none hq]
        exact ⟨rfl, rfl⟩

theorem exists_queue?_actAll {ch : Channel α} {i : Nat} {q : ItemQueue α}
    (hq : ch.queue? i = some q) (xs : List (Action α)) :
    ∃ q', (ch.actAll xs).queue? i = some q' := by
  induction xs generalizing ch q with
  | nil => exact ⟨q, hq⟩
  | cons x xs ih =>
      obtain ⟨p, hp, -⟩ := change_act hq x
      exact ih hp

/-- Along a run a queue hands out only what was sent, in the order of the sending. -/
theorem sublist_actAll {ch : Channel α} {i : Nat} {q : ItemQueue α} (hq : ch.queue? i = some q)
    {sent handed : List α} (h : (handed ++ q.items).Sublist sent) (xs : List (Action α)) :
    ∃ q', (ch.actAll xs).queue? i = some q' ∧
      (handed ++ ch.handedAll i xs ++ q'.items).Sublist (sent ++ ch.sentAll i xs) := by
  induction xs generalizing ch q sent handed with
  | nil => exact ⟨q, hq, by rwa [handedAll, sentAll, List.append_nil, List.append_nil]⟩
  | cons x xs ih =>
      obtain ⟨p, hp, hc⟩ := change_act hq x
      obtain ⟨q', hq', hs⟩ := ih hp (hc.sublist h)
      refine ⟨q', hq', ?_⟩
      rwa [handedAll, sentAll, if_pos (lt_length_iff.2 ⟨q, hq⟩), ← List.append_assoc,
        ← List.append_assoc sent]

/-- A queue that has had no item yet accounts for all that comes. -/
theorem account_actAll_of_new {ch : Channel α} (h : ch.Sound) {i : Nat} {q : ItemQueue α}
    (hq : ch.queue? i = some q) (hi : q.items = []) (hd : q.dropped = 0)
    (xs : List (Action α)) :
    ∃ q', (ch.actAll xs).queue? i = some q' ∧
      (ch.handedAll i xs ++ q'.items).Sublist (ch.sentAll i xs) ∧
      (q'.IsServed → q'.Account (ch.sentAll i xs) (ch.handedAll i xs)) := by
  have hnone : (([] : List α) ++ q.items).Sublist [] := by
    rw [hi]
    exact .slnil
  obtain ⟨q', hq', hsub⟩ := sublist_actAll hq hnone xs
  refine ⟨q', hq', hsub, fun hs => ?_⟩
  rw [← List.nil_append (ch.sentAll i xs), ← List.nil_append (ch.handedAll i xs)]
  refine account_actAll h xs i ?_ ?_ hq' hs
  · intro q₁ hq₁ _
    obtain rfl := Option.some.inj (hq.symm.trans hq₁)
    exact .nil hi hd
  · intro hn
    rw [hq] at hn
    cases hn

/-- Where nothing is sent nothing is dropped, and a queue hands out its front and keeps
the rest. -/
theorem queue?_actAll_of_sentAll {ch : Channel α} {xs : List (Action α)} {i : Nat}
    {q : ItemQueue α} (hq : ch.queue? i = some q) (hs : ch.sentAll i xs = []) :
    ∃ q', (ch.actAll xs).queue? i = some q' ∧
      q.items = ch.handedAll i xs ++ q'.items ∧ q'.dropped = q.dropped := by
  induction xs generalizing ch q with
  | nil => exact ⟨q, hq, rfl, rfl⟩
  | cons x xs ih =>
      rw [sentAll, if_pos (lt_length_iff.2 ⟨q, hq⟩), List.append_eq_nil_iff] at hs
      obtain ⟨p, hp, hc⟩ := change_act hq x
      obtain ⟨hi, hd⟩ := hc.of_sent_nil hs.1
      obtain ⟨q', hq', hi', hd'⟩ := ih hp hs.2
      refine ⟨q', hq', ?_, hd'.trans hd⟩
      rw [hi, hi', handedAll, List.append_assoc]

/-- A queue that has room for all that is sent drops nothing. -/
theorem dropped_actAll_of_room {ch : Channel α} {xs : List (Action α)} {i : Nat}
    {q q' : ItemQueue α} (hq : ch.queue? i = some q) (hq' : (ch.actAll xs).queue? i = some q')
    (hr : q.items.length + (ch.sentAll i xs).length ≤ ch.capacity) : q'.dropped = q.dropped := by
  induction xs generalizing ch q with
  | nil =>
      obtain rfl := Option.some.inj (hq.symm.trans hq')
      rfl
  | cons x xs ih =>
      obtain ⟨p, hp, hc⟩ := change_act hq x
      rw [sentAll, if_pos (lt_length_iff.2 ⟨q, hq⟩), List.length_append] at hr
      obtain ⟨hd, hl⟩ := hc.of_room (by omega)
      rw [← hd]
      refine ih hp hq' ?_
      rw [capacity_act]
      omega

/-- A new queue with room for all that is sent has handed it out when it is at its end. -/
theorem handedAll_of_ended {ch : Channel α} (h : ch.Sound) {i : Nat} {q : ItemQueue α}
    (hq : ch.queue? i = some q) (hi : q.items = []) (hd : q.dropped = 0) {xs : List (Action α)}
    (hr : (ch.sentAll i xs).length ≤ ch.capacity) {mode : TakeMode}
    (he : ((ch.actAll xs).take i mode).1 = .ended) : ch.handedAll i xs = ch.sentAll i xs := by
  obtain ⟨q', hq', -, haccount⟩ := account_actAll_of_new h hq hi hd xs
  have hdropped : q'.dropped = 0 := by
    rw [← hd]
    refine dropped_actAll_of_room hq hq' ?_
    rwa [hi, List.length_nil, Nat.zero_add]
  by_cases hi' : q'.items = []
  · rw [take_of_nil mode hq' hi'] at he
    have hserved : q'.IsServed := by
      refine .inr ?_
      cases hc : q'.closed with
      | true => rfl
      | false =>
          rw [hc] at he
          cases he
    have hall := (haccount hserved).append_eq hdropped
    rwa [hi', List.append_nil] at hall
  · rw [take_of_ne_nil mode hq' hi'] at he
    cases he

theorem sentAll_of_closed {ch : Channel α} (h : ch.closed = true) (i : Nat)
    (xs : List (Action α)) : ch.sentAll i xs = [] := by
  induction xs generalizing ch with
  | nil => rfl
  | cons x xs ih =>
      have hc : (ch.act x).closed = true := by rw [closed_act, h, Bool.true_or]
      rw [sentAll, accepted_of_closed h, ite_self, List.nil_append, ih hc]

end Channel

end PacketMeter
