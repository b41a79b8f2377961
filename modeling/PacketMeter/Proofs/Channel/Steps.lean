import PacketMeter.Proofs.Channel.Ownership

/-!
# Steps of the holders

Every step of a holder keeps the books, so they agree in every state that steps can
lead to.  A step is read as the actions that it takes on the channel, none for most
names that are not there, one for most others, and as many as there are items for a
step that sends several.
-/

namespace PacketMeter

/-- Whether there is nothing yet. -/
def Poll.isPending {α : Type} : Poll α → Bool
  | .pending => true
  | .ready _ | .ended => false

/-- Whether there is nothing ever again. -/
def Poll.isEnded {α : Type} : Poll α → Bool
  | .ended => true
  | .ready _ | .pending => false

theorem Poll.isPending_iff {α : Type} {result : Poll α} :
    result.isPending = true ↔ result = .pending := by
  cases result <;> simp [isPending]

theorem Poll.isEnded_iff {α : Type} {result : Poll α} :
    result.isEnded = true ↔ result = .ended := by
  cases result <;> simp [isEnded]

namespace Channel

variable {α : Type} {ch : Channel α}

/-- A queue is at its end when it is empty and its channel closed. -/
theorem Sound.of_take_ended (h : ch.Sound) {i : Nat} {mode : TakeMode}
    (ht : (ch.take i mode).1 = .ended) : ch.closed = true ∧ ch.itemsAt i = [] := by
  cases hq : ch.queue? i with
  | none =>
      rw [take_of_none mode hq] at ht
      cases ht
  | some q =>
      by_cases hi : q.items = []
      · rw [take_of_nil mode hq hi] at ht
        refine ⟨?_, by rw [itemsAt_of_some hq, hi]⟩
        cases hc : q.closed with
        | false => simp [hc] at ht
        | true => exact h.closed_of_closed hq hc
      · rw [take_of_ne_nil mode hq hi] at ht
        cases ht

/-- A wait that gets a result gets what its queue gives. -/
theorem exists_take_of_pollWait {w : Nat} (hp : (ch.pollWait w).1 ≠ .pending) :
    ∃ wait, ch.waits.lookup w = some wait ∧
      (ch.pollWait w).1 = (ch.take wait.queue wait.mode).1 := by
  cases hw : ch.waits.lookup w with
  | none => exact absurd (by rw [pollWait_of_none hw]) hp
  | some wait =>
      cases hk : wait.woken with
      | false => exact absurd (by rw [pollWait_of_not_woken hw hk]) hp
      | true =>
          refine ⟨wait, rfl, ?_⟩
          by_cases ht : (ch.take wait.queue wait.mode).1 = .pending
          · rw [pollWait_of_pending hw hk ht, ht]
          · rw [pollWait_of_ne_pending hw hk ht]

/-- What is empty on a closed channel stays so. -/
theorem ended_act (x : Action α) {i : Nat} (h : ch.closed = true ∧ ch.itemsAt i = []) :
    (ch.act x).closed = true ∧ (ch.act x).itemsAt i = [] := by
  refine ⟨?_, itemsAt_act_of_nil (accepted_of_closed h.1 x) h.2⟩
  rw [closed_act, h.1, Bool.true_or]

/-- A wait begins when its queue has nothing at once, and has the next number. -/
theorem of_beginWait_eq_some {i w : Nat} {mode : TakeMode}
    (h : (ch.beginWait i mode).2.1 = some w) :
    (ch.take i mode).1 = .pending ∧ w = ch.nextWait := by
  by_cases ht : (ch.take i mode).1 = .pending
  · rw [beginWait_of_pending ht] at h
    exact ⟨ht, (Option.some.inj h).symm⟩
  · rw [beginWait_of_ne_pending ht] at h
    cases h

theorem WellFormed.lookup_beginWait (h : ch.WellFormed) {i : Nat} {mode : TakeMode}
    (ht : (ch.take i mode).1 = .pending) :
    (ch.beginWait i mode).2.2.waits.lookup ch.nextWait = some ⟨i, mode, false⟩ := by
  rw [beginWait_of_pending ht, List.lookup_append, h.lookup_nextWait, Option.none_or]
  simp

theorem tryBatch_eq (ch : Channel α) (i : Nat) :
    ch.tryBatch i = ((ch.take i .batch).1.items, (ch.take i .batch).2) := by
  cases h : ch.take i .batch with
  | mk result ch' => cases result <;> simp [tryBatch, h]

theorem closed_send (ch : Channel α) (a : α) : (ch.send a).2.closed = ch.closed := by
  rw [← Bool.or_false ch.closed]
  exact closed_act ch (.send a)

theorem snd_sendAll (ch : Channel α) (items : List α) :
    (ch.sendAll items).2 = ch.actAll (items.map .send) := by
  induction items generalizing ch with
  | nil => rfl
  | cons a as ih =>
      rw [List.map_cons, actAll_cons, ← ih, act]
      cases h : ch.send a with
      | mk result ch' => cases result <;> simp [sendAll, h]

/-- All of the items are sent, or none. -/
theorem fst_sendAll (ch : Channel α) (items : List α) :
    (ch.sendAll items).1 = if ch.closed then 0 else items.length := by
  induction items generalizing ch with
  | nil => simp [sendAll]
  | cons a as ih =>
      cases hc : ch.closed with
      | true =>
          rw [sendAll, send_of_closed a hc]
          simp [ih, hc]
      | false =>
          have hs : (ch.send a).2.closed = false := (closed_send ch a).trans hc
          have h : ch.send a = (.ok (), (ch.send a).2) := by simp [send, hc]
          rw [sendAll, h]
          simp [ih, hs]

end Channel

namespace ChannelHandles

variable {α : Type}

/-- The handles after several steps. -/
def after (h : ChannelHandles α) : List (ChannelStep α) → ChannelHandles α
  | [] => h
  | s :: rest => after (h.step s).2 rest

@[simp] theorem after_nil (h : ChannelHandles α) : h.after [] = h := rfl

@[simp] theorem after_cons (h : ChannelHandles α) (s : ChannelStep α)
    (rest : List (ChannelStep α)) : h.after (s :: rest) = (h.step s).2.after rest := rfl

theorem after_append (h : ChannelHandles α) (steps rest : List (ChannelStep α)) :
    h.after (steps ++ rest) = (h.after steps).after rest := by
  induction steps generalizing h with
  | nil => rfl
  | cons s steps ih => rw [List.cons_append, after_cons, after_cons, ih]

/-! ## Streams -/

theorem askStream_of_ended {s : ItemStream} (ch : Channel α) (he : s.ended = true) :
    askStream ch s = (.ended, s, ch) := by
  simp [askStream, he]

/-- A stream with a wait asks it. -/
theorem askStream_of_some {s : ItemStream} {w : Nat} (ch : Channel α) (he : s.ended = false)
    (hw : s.wait? = some w) :
    askStream ch s =
      ((ch.pollWait w).1,
        { s with
          wait? := if (ch.pollWait w).1.isPending then some w else none
          ended := (ch.pollWait w).1.isEnded },
        (ch.pollWait w).2) := by
  obtain ⟨queue, mode, wait?, ended⟩ := s
  obtain rfl : ended = false := he
  obtain rfl : wait? = some w := hw
  cases hp : ch.pollWait w with
  | mk result ch' => cases result <;> simp [askStream, hp, Poll.isPending, Poll.isEnded]

/-- A stream without a wait begins one. -/
theorem askStream_of_none {s : ItemStream} (ch : Channel α) (he : s.ended = false)
    (hw : s.wait? = none) :
    askStream ch s =
      ((ch.take s.queue s.mode).1,
        { s with
          wait? := (ch.beginWait s.queue s.mode).2.1
          ended := (ch.take s.queue s.mode).1.isEnded },
        (ch.beginWait s.queue s.mode).2.2) := by
  obtain ⟨queue, mode, wait?, ended⟩ := s
  obtain rfl : ended = false := he
  obtain rfl : wait? = none := hw
  simp only
  rw [← Channel.beginWait_fst]
  cases hp : ch.beginWait queue mode with
  | mk result rest => cases result <;> simp [askStream, hp, Poll.isEnded]

theorem queue_askStream (ch : Channel α) (s : ItemStream) :
    (askStream ch s).2.1.queue = s.queue := by
  cases he : s.ended with
  | true => rw [askStream_of_ended ch he]
  | false =>
      cases hw : s.wait? with
      | none => rw [askStream_of_none ch he hw]
      | some w => rw [askStream_of_some ch he hw]

/-- What a stream is, and its channel, once it was asked. -/
def Asked (loose : List Nat) (h : ChannelHandles α) (s : ItemStream) (channel : Channel α) : Prop :=
  Consistent loose { h with channel } ∧ Follows channel s ∧
    ∀ w, s.wait? = some w → w ∉ h.keptWaits

section Ask

variable {h : ChannelHandles α} {loose : List Nat} {s : ItemStream}

/-- The wait of a stream goes on only when it was told that there is nothing yet, and
the stream has ended only when it was told that nothing can come. -/
theorem Consistent.ask_of_some {w : Nat} (hc : h.Consistent (s.queue :: loose))
    (hf : Follows h.channel s) (hw : s.wait? = some w) (hk : w ∉ h.keptWaits) :
    Asked (s.queue :: loose) h
      { s with
        wait? := if (h.channel.pollWait w).1.isPending then some w else none
        ended := (h.channel.pollWait w).1.isEnded }
      (h.channel.pollWait w).2 := by
  obtain ⟨woken, hl⟩ := hf.wait_known hw
  refine ⟨?_, ⟨?_, ?_⟩, ?_⟩
  · refine hc.act_of_spare_eq (x := .pollWait w) trivial (hc.channel.spare_pollWait w) ?_
    rintro v hv (hx | ⟨hx, -⟩)
    · cases hx
    · cases hx
      exact hk hv
  · intro v hv
    obtain ⟨hr, hv⟩ := Option.ite_none_right_eq_some.1 hv
    obtain rfl := Option.some.inj hv
    exact Channel.lookup_pollWait hl fun _ => Poll.isPending_iff.1 hr
  · intro he
    have hr : (h.channel.pollWait w).1 = .ended := Poll.isEnded_iff.1 he
    have hne : (h.channel.pollWait w).1 ≠ .pending := by
      rw [hr]
      exact Poll.ended_ne_pending
    obtain ⟨wait, hl', ht⟩ := Channel.exists_take_of_pollWait hne
    rw [hl] at hl'
    obtain rfl := Option.some.inj hl'
    rw [hr] at ht
    refine ⟨by simp [hr, Poll.isPending], ?_⟩
    exact Channel.ended_act (.pollWait w) (hc.channel.of_take_ended ht.symm)
  · intro v hv
    obtain ⟨-, hv⟩ := Option.ite_none_right_eq_some.1 hv
    obtain rfl := Option.some.inj hv
    exact hk

/-- The wait that a stream begins is one that nobody else keeps. -/
theorem Consistent.ask_of_none (hc : h.Consistent (s.queue :: loose)) :
    Asked (s.queue :: loose) h
      { s with
        wait? := (h.channel.beginWait s.queue s.mode).2.1
        ended := (h.channel.take s.queue s.mode).1.isEnded }
      (h.channel.beginWait s.queue s.mode).2.2 := by
  have hs := hc.spare_pos_of_loose
  have hc' := hc.act_of_spare_eq (x := .beginWait s.queue s.mode) hs
    (Channel.spare_beginWait hs s.mode) fun w _ => Channel.not_ends rfl w
  refine ⟨hc', ⟨?_, ?_⟩, ?_⟩
  · intro v hv
    obtain ⟨ht, rfl⟩ := Channel.of_beginWait_eq_some hv
    exact ⟨false, hc.channel.lookup_beginWait ht⟩
  · intro he
    have ht : (h.channel.take s.queue s.mode).1 = .ended := Poll.isEnded_iff.1 he
    have hne : (h.channel.take s.queue s.mode).1 ≠ .pending := by
      rw [ht]
      exact Poll.ended_ne_pending
    refine ⟨by rw [Channel.beginWait_of_ne_pending hne], ?_⟩
    exact Channel.ended_act (.beginWait s.queue s.mode) (hc.channel.of_take_ended ht)
  · intro v hv
    obtain ⟨-, rfl⟩ := Channel.of_beginWait_eq_some hv
    exact hc.nextWait_not_kept

/-- Whatever a stream finds, the books go on to agree. -/
theorem Consistent.ask (hc : h.Consistent (s.queue :: loose)) (hf : Follows h.channel s)
    (hk : ∀ w, s.wait? = some w → w ∉ h.keptWaits) :
    Asked (s.queue :: loose) h (askStream h.channel s).2.1 (askStream h.channel s).2.2 := by
  cases he : s.ended with
  | true =>
      rw [askStream_of_ended h.channel he]
      exact ⟨hc, hf, hk⟩
  | false =>
      cases hw : s.wait? with
      | none =>
          rw [askStream_of_none h.channel he hw]
          exact hc.ask_of_none
      | some w =>
          rw [askStream_of_some h.channel he hw]
          exact hc.ask_of_some hf hw (hk w hw)

end Ask

/-! ## What a step comes to -/

section Equations

variable {h : ChannelHandles α}

theorem step_send (hs : h.senders ≠ 0) (a : α) :
    h.step (.send a) =
      (if h.channel.closed then .failed .closed else .done,
        { h with channel := (h.channel.send a).2 }) := by
  refine (if_neg hs).trans ?_
  cases hc : h.channel.closed with
  | true => rw [Channel.send_of_closed a hc, if_pos rfl]
  | false => simp [Channel.send, hc]

theorem step_sendAll (hs : h.senders ≠ 0) (items : List α) :
    h.step (.sendAll items) =
      (.sent (if h.channel.closed then 0 else items.length),
        { h with channel := h.channel.actAll (items.map .send) }) := by
  rw [← Channel.fst_sendAll, ← Channel.snd_sendAll]
  exact if_neg hs

theorem step_subscribe (hs : h.senders ≠ 0) (name : String) :
    h.step (.subscribe name) =
      (.done,
        nameReceiver { h with channel := h.channel.subscribe.2 } name h.channel.queues.length) :=
  if_neg hs

theorem step_clone {source : String} {i : Nat} (hl : h.receivers.lookup source = some i)
    (name : String) :
    h.step (.clone source name) =
      (.done, nameReceiver { h with channel := h.channel.hold i } name i) := by
  unfold ChannelHandles.step
  simp only [hl]

theorem step_stream {source : String} {i : Nat} (hl : h.receivers.lookup source = some i)
    (name : String) (mode : TakeMode) :
    h.step (.stream source name mode) =
      (.done,
        let h' := dropStream { h with receivers := without source h.receivers } name
        { h' with streams := (name, ⟨i, mode, none, false⟩) :: h'.streams }) := by
  unfold ChannelHandles.step
  simp only [hl]

theorem step_tryBatch {name : String} {i : Nat} (hl : h.receivers.lookup name = some i) :
    h.step (.tryBatch name) =
      (.items (h.channel.take i .batch).1.items,
        { h with channel := (h.channel.take i .batch).2 }) := by
  unfold ChannelHandles.step
  simp only [hl, Channel.tryBatch_eq]

theorem step_receive {name : String} {i : Nat} (hl : h.receivers.lookup name = some i)
    (mode : TakeMode) :
    h.step (.receive name mode) =
      (.polled mode (h.channel.take i mode).1,
        { h with channel := (h.channel.take i mode).2 }) := by
  unfold ChannelHandles.step
  simp only [hl]

/-- A wait that finds nothing at once gets its name. -/
theorem step_wait_of_pending {source : String} {i : Nat}
    (hl : h.receivers.lookup source = some i) (name : String) {mode : TakeMode}
    (ht : (h.channel.take i mode).1 = .pending) :
    h.step (.wait source name mode) =
      (.polled mode .pending,
        let h' := cancelWait { h with channel := (h.channel.beginWait i mode).2.2 } name
        { h' with waits := (name, h.channel.nextWait) :: h'.waits }) := by
  unfold ChannelHandles.step
  simp only [hl, Channel.beginWait_of_pending ht]

theorem step_wait_of_ne_pending {source : String} {i : Nat}
    (hl : h.receivers.lookup source = some i) (name : String) {mode : TakeMode}
    (ht : (h.channel.take i mode).1 ≠ .pending) :
    h.step (.wait source name mode) =
      (.polled mode (h.channel.take i mode).1,
        { h with channel := (h.channel.take i mode).2 }) := by
  unfold ChannelHandles.step
  simp only [hl, Channel.beginWait_of_ne_pending ht]

/-- A wait loses its name with its result. -/
theorem step_poll {name : String} {w : Nat} {wait : Wait} (hl : h.waits.lookup name = some w)
    (hw : h.channel.waits.lookup w = some wait) :
    h.step (.poll name) =
      (.polled wait.mode (h.channel.pollWait w).1,
        { h with
          channel := (h.channel.pollWait w).2
          waits := if (h.channel.pollWait w).1.isPending then h.waits
            else without name h.waits }) := by
  unfold ChannelHandles.step
  simp only [hl, hw]
  cases hp : h.channel.pollWait w with
  | mk result channel => cases result <;> rfl

theorem step_next {name : String} {s : ItemStream} (hl : h.streams.lookup name = some s) :
    h.step (.next name) =
      (.polled s.mode (askStream h.channel s).1,
        { h with
          channel := (askStream h.channel s).2.2
          streams := (name, (askStream h.channel s).2.1) :: without name h.streams }) := by
  unfold ChannelHandles.step
  simp only [hl]

end Equations

/-! ## What every step keeps -/

section Step

variable {h : ChannelHandles α}

theorem Consistent.send (hc : h.Consistent []) (a : α) :
    Consistent [] { h with channel := (h.channel.send a).2 } := by
  exact hc.act_of_spare_eq (x := .send a) trivial (Channel.spare_send h.channel a)
    fun w _ => Channel.not_ends rfl w

theorem Consistent.sendAll (hc : h.Consistent []) (items : List α) :
    Consistent [] { h with channel := h.channel.actAll (items.map .send) } := by
  induction items generalizing h with
  | nil => exact hc
  | cons a as ih => exact ih (hc.send a)

theorem Consistent.take (hc : h.Consistent []) (i : Nat) (mode : TakeMode) :
    Consistent [] { h with channel := (h.channel.take i mode).2 } := by
  exact hc.act_of_spare_eq (x := .take i mode) trivial (Channel.spare_take h.channel i mode)
    fun w _ => Channel.not_ends rfl w

theorem Consistent.close (hc : h.Consistent []) :
    Consistent [] { h with channel := h.channel.close } :=
  hc.act_of_spare_eq (x := .close) trivial (Channel.spare_close h.channel)
    fun w _ => Channel.not_ends rfl w

/-- A queue that is subscribed has a holder, who has no name yet. -/
theorem Consistent.subscribe (hc : h.Consistent []) :
    Consistent [h.channel.queues.length] { h with channel := h.channel.subscribe.2 } := by
  refine hc.act (x := .subscribe) trivial ?_ fun w _ => Channel.not_ends rfl w
  intro j
  rw [Channel.act, hc.channel.spare_subscribe, List.count_nil, List.count_singleton]
  simp only [beq_iff_eq, Nat.add_zero, @eq_comm _ j]

theorem Consistent.hold (hc : h.Consistent []) {i : Nat} (hp : 0 < h.channel.spare i) :
    Consistent [i] { h with channel := h.channel.hold i } := by
  refine hc.act (x := .hold i) hp ?_ fun w _ => Channel.not_ends rfl w
  intro j
  rw [Channel.act, hc.channel.spare_hold hp, List.count_nil, List.count_singleton]
  simp only [beq_iff_eq, Nat.add_zero]

theorem Consistent.beginWait (hc : h.Consistent []) {i : Nat} (hp : 0 < h.channel.spare i)
    (mode : TakeMode) :
    Consistent [] { h with channel := (h.channel.beginWait i mode).2.2 } :=
  hc.act_of_spare_eq (x := .beginWait i mode) hp (Channel.spare_beginWait hp mode)
    fun w _ => Channel.not_ends rfl w

/-- A wait that is asked keeps its name as long as it goes on. -/
theorem Consistent.pollWait_of_pending (hc : h.Consistent []) {w : Nat}
    (hr : (h.channel.pollWait w).1 = .pending) :
    Consistent [] { h with channel := (h.channel.pollWait w).2 } := by
  refine hc.act_of_spare_eq (x := .pollWait w) trivial (hc.channel.spare_pollWait w) ?_
  rintro v - (hx | ⟨hx, hne⟩)
  · cases hx
  · cases hx
    exact hne hr

theorem Consistent.pollWait_of_not_kept (hc : h.Consistent []) {w : Nat}
    (hk : w ∉ h.keptWaits) : Consistent [] { h with channel := (h.channel.pollWait w).2 } := by
  refine hc.act_of_spare_eq (x := .pollWait w) trivial (hc.channel.spare_pollWait w) ?_
  rintro v hv (hx | ⟨hx, -⟩)
  · cases hx
  · cases hx
    exact hk hv

/-- A wait that gets a name takes it from the wait that had it, which ends. -/
theorem Consistent.nameWait (hc : h.Consistent []) (name : String) {w : Nat} {wait : Wait}
    (hk : w ∉ h.keptWaits) (hl : h.channel.waits.lookup w = some wait) :
    Consistent [] { h.cancelWait name with waits := (name, w) :: (h.cancelWait name).waits } := by
  refine (hc.cancelWait name).addWait ?_ ?_
  · unfold ChannelHandles.cancelWait
    split
    · exact hk
    · have hsub : (without name h.waits).Sublist h.waits := List.filter_sublist
      intro hm
      exact hk (((hsub.map Prod.snd).append (List.Sublist.refl _)).mem hm)
  · unfold ChannelHandles.cancelWait
    split
    · exact ⟨wait, hl⟩
    · rename_i v hv
      have hne : w ≠ v := by
        rintro rfl
        exact hk (List.mem_append_left _ (List.mem_map.2 ⟨_, Entries.mem_of_lookup hv, rfl⟩))
      refine ⟨wait, ?_⟩
      change (h.channel.cancel v).waits.lookup w = some wait
      rw [Channel.lookup_cancel, if_neg hne, hl]

/-- Every step keeps the books. -/
theorem Consistent.step (hc : h.Consistent []) (s : ChannelStep α) :
    (h.step s).2.Consistent [] := by
  cases s with
  | send a =>
      by_cases hs : h.senders = 0
      · rw [ChannelHandles.step, if_pos hs]
        exact hc
      · rw [step_send hs]
        exact hc.send a
  | sendAll items =>
      by_cases hs : h.senders = 0
      · rw [ChannelHandles.step, if_pos hs]
        exact hc
      · rw [step_sendAll hs]
        exact hc.sendAll items
  | close =>
      rw [ChannelHandles.step]
      split
      · exact hc
      · exact hc.close
  | askSender => exact hc
  | cloneSender =>
      rw [ChannelHandles.step]
      split
      · exact hc
      · exact ⟨hc.channel, hc.receivers_nodup, hc.streams_nodup, hc.spare, hc.kept_nodup,
          hc.waits_known, hc.follows⟩
  | dropSender =>
      exact ⟨hc.channel, hc.receivers_nodup, hc.streams_nodup, hc.spare, hc.kept_nodup,
        hc.waits_known, hc.follows⟩
  | subscribe name =>
      by_cases hs : h.senders = 0
      · rw [ChannelHandles.step, if_pos hs]
        exact hc
      · rw [step_subscribe hs]
        exact hc.subscribe.nameReceiver name
  | clone source name =>
      cases hl : h.receivers.lookup source with
      | none =>
          rw [ChannelHandles.step, hl]
          exact hc
      | some q =>
          rw [step_clone hl]
          exact (hc.hold (hc.spare_pos_of_receiver hl)).nameReceiver name
  | drop name => exact (hc.dropReceiver name).1
  | tryBatch name =>
      cases hl : h.receivers.lookup name with
      | none =>
          rw [ChannelHandles.step, hl]
          exact hc
      | some q =>
          rw [step_tryBatch hl]
          exact hc.take q .batch
  | receive name mode =>
      cases hl : h.receivers.lookup name with
      | none =>
          rw [ChannelHandles.step, hl]
          exact hc
      | some q =>
          rw [step_receive hl]
          exact hc.take q mode
  | inspect name =>
      rw [ChannelHandles.step]
      split <;> exact hc
  | wait source name mode =>
      cases hl : h.receivers.lookup source with
      | none =>
          rw [ChannelHandles.step, hl]
          exact hc
      | some q =>
          by_cases ht : (h.channel.take q mode).1 = .pending
          · rw [step_wait_of_pending hl name ht]
            have hb := hc.beginWait (hc.spare_pos_of_receiver hl) mode
            exact hb.nameWait name hc.nextWait_not_kept (hc.channel.lookup_beginWait ht)
          · rw [step_wait_of_ne_pending hl name ht]
            exact hc.take q mode
  | poll name =>
      cases hl : h.waits.lookup name with
      | none =>
          rw [ChannelHandles.step, hl]
          exact hc
      | some w =>
          have hm := Entries.mem_of_lookup hl
          obtain ⟨wait, hw⟩ := hc.waits_known _ hm
          rw [step_poll hl hw]
          cases hr : (h.channel.pollWait w).1.isPending with
          | true => exact hc.pollWait_of_pending (Poll.isPending_iff.1 hr)
          | false =>
              -- The wait ends, so its name is forgotten first.
              obtain ⟨hf, hk⟩ := hc.forgetWait hl
              exact hf.pollWait_of_not_kept hk
  | cancel name => exact hc.cancelWait name
  | stream source name mode =>
      cases hl : h.receivers.lookup source with
      | none =>
          rw [ChannelHandles.step, hl]
          exact hc
      | some q =>
          rw [step_stream hl]
          obtain ⟨hd, hn⟩ := (hc.forgetReceiver hl).dropStream name
          exact Consistent.addStream (s := ⟨q, mode, none, false⟩) hd hn (follows_new _ q mode)
            (by simp)
  | next name =>
      cases hl : h.streams.lookup name with
      | none =>
          rw [ChannelHandles.step, hl]
          exact hc
      | some s =>
          rw [step_next hl]
          obtain ⟨hf, hk⟩ := hc.forgetStream hl
          obtain ⟨ha, hs, hw⟩ := hf.ask (hc.follows _ (Entries.mem_of_lookup hl)) hk
          rw [← queue_askStream h.channel s] at ha
          exact ha.addStream (not_mem_without name h.streams) hs hw
  | dropStream name => exact (hc.dropStream name).1

theorem Consistent.after (hc : h.Consistent []) (steps : List (ChannelStep α)) :
    (h.after steps).Consistent [] := by
  induction steps generalizing h with
  | nil => exact hc
  | cons s steps ih => exact ih (hc.step s)

/-- The books agree in every state that a new channel comes to. -/
theorem consistent_after_make (capacity batch : Nat) (steps : List (ChannelStep α)) :
    ((make capacity batch).after steps).Consistent [] :=
  (consistent_make capacity batch).after steps

end Step

end ChannelHandles

end PacketMeter
