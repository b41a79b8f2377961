import PacketMeter.Proofs.Channel.Wakeup

/-!
# The end of a stream

A closed channel refuses what is sent.  Its queues still give what they had at the
close, the first item first, and then they are at their end.  On an open channel
nothing ends, and nobody ever gets an empty batch.
-/

namespace PacketMeter

namespace ItemQueue

theorem room_pos {batch : Nat} (h : 0 < batch) (mode : TakeMode) : 0 < room batch mode := by
  cases mode with
  | one => exact Nat.one_pos
  | batch => exact h

theorem offer_of_ne_nil {α : Type} {q : ItemQueue α} (h : q.items ≠ []) (n : Nat)
    (closed : Bool) : q.offer n closed = .ready (q.items.take n) := by
  rw [offer, if_neg (by simpa using h)]

end ItemQueue

namespace ChannelHandles

variable {α : Type} {h : ChannelHandles α} {i : Nat} {s : ChannelStep α}

theorem Consistent.fst_take (hc : h.Consistent []) {q : ItemQueue α}
    (hq : h.channel.queue? i = some q) (hp : 0 < q.holders) (mode : TakeMode) :
    (h.channel.take i mode).1 =
      q.offer (ItemQueue.room h.channel.batch mode) h.channel.closed := by
  rw [Channel.fst_take hq, (hc.channel.served hq hp).2]

/-- Who asks a queue gets what the queue offers, whatever kind of holder asks.  Trying
for a batch is asking without a word on the end. -/
theorem Consistent.answer_of_target (hc : h.Consistent []) (ht : h.target s = some i) :
    ∃ q, h.channel.queue? i = some q ∧ 0 < q.holders ∧
      ((∃ name, s = .tryBatch name ∧ (h.step s).1 = .items (q.items.take h.channel.batch)) ∨
        ∃ mode, (h.step s).1 =
          .polled mode (q.offer (ItemQueue.room h.channel.batch mode) h.channel.closed)) := by
  have hreceiver : ∀ {name}, h.receivers.lookup name = some i →
      ∃ q, h.channel.queue? i = some q ∧ 0 < q.holders := by
    intro name hl
    exact hc.exists_queue (.inl ⟨(name, i), Entries.mem_of_lookup hl, rfl⟩)
  cases s with
  | tryBatch name =>
      have hl : h.receivers.lookup name = some i := ht
      obtain ⟨q, hq, hp⟩ := hreceiver hl
      refine ⟨q, hq, hp, .inl ⟨name, rfl, ?_⟩⟩
      rw [step_tryBatch hl, Channel.items_take .batch hq]
      rfl
  | receive name mode =>
      have hl : h.receivers.lookup name = some i := ht
      obtain ⟨q, hq, hp⟩ := hreceiver hl
      refine ⟨q, hq, hp, .inr ⟨mode, ?_⟩⟩
      rw [step_receive hl, hc.fst_take hq hp]
  | wait source name mode =>
      have hl : h.receivers.lookup source = some i := ht
      obtain ⟨q, hq, hp⟩ := hreceiver hl
      refine ⟨q, hq, hp, .inr ⟨mode, ?_⟩⟩
      rw [← hc.fst_take hq hp]
      by_cases hn : (h.channel.take i mode).1 = .pending
      · rw [step_wait_of_pending hl name hn, hn]
      · rw [step_wait_of_ne_pending hl name hn]
  | poll name =>
      obtain ⟨w, hl, hw⟩ := Option.bind_eq_some_iff.1 ht
      obtain ⟨wait, hk, rfl⟩ := Option.map_eq_some_iff.1 hw
      obtain ⟨q, hq, hp⟩ := hc.channel.exists_queue hk
      refine ⟨q, hq, hp, .inr ⟨wait.mode, ?_⟩⟩
      rw [step_poll hl hk, hc.channel.fst_pollWait hk, hc.fst_take hq hp]
  | next name =>
      obtain ⟨s, hl, rfl⟩ := Option.map_eq_some_iff.1 ht
      have hm := Entries.mem_of_lookup hl
      obtain ⟨q, hq, hp⟩ := hc.exists_queue (.inr (.inl ⟨(name, s), hm, rfl⟩))
      refine ⟨q, hq, hp, .inr ⟨s.mode, ?_⟩⟩
      rw [step_next hl]
      cases he : s.ended with
      | true =>
          obtain ⟨-, hcl, hi⟩ := (hc.follows _ hm).of_ended he
          rw [Channel.itemsAt_of_some hq] at hi
          rw [askStream_of_ended h.channel he, ItemQueue.offer, hi, hcl]
          rfl
      | false =>
          cases hw : s.wait? with
          | none => rw [askStream_of_none h.channel he hw, hc.fst_take hq hp]
          | some w =>
              obtain ⟨woken, hk⟩ := (hc.follows _ hm).wait_known hw
              rw [askStream_of_some h.channel he hw, hc.channel.fst_pollWait hk,
                hc.fst_take hq hp]
  | _ => cases ht

/-- Only who asks a queue is told anything of it. -/
theorem Consistent.exists_target_of_polled (hc : h.Consistent []) {mode : TakeMode}
    {result : Poll α} (hs : (h.step s).1 = .polled mode result) :
    ∃ i, h.target s = some i := by
  cases s with
  | send a =>
      rw [ChannelHandles.step] at hs
      split at hs
      · cases hs
      · split at hs <;> cases hs
  | askSender => cases hs
  | dropSender => cases hs
  | drop name => cases hs
  | cancel name => cases hs
  | dropStream name => cases hs
  | receive name mode =>
      cases hl : h.receivers.lookup name with
      | none =>
          rw [ChannelHandles.step, hl] at hs
          cases hs
      | some i => exact ⟨i, hl⟩
  | wait source name mode =>
      cases hl : h.receivers.lookup source with
      | none =>
          rw [ChannelHandles.step, hl] at hs
          cases hs
      | some i => exact ⟨i, hl⟩
  | poll name =>
      cases hl : h.waits.lookup name with
      | none =>
          rw [ChannelHandles.step, hl] at hs
          cases hs
      | some w =>
          obtain ⟨wait, hw⟩ := hc.waits_known _ (Entries.mem_of_lookup hl)
          exact ⟨wait.queue, by rw [target, hl, Option.bind_some, hw]; rfl⟩
  | next name =>
      cases hl : h.streams.lookup name with
      | none =>
          rw [ChannelHandles.step, hl] at hs
          cases hs
      | some s => exact ⟨s.queue, by rw [target, hl]; rfl⟩
  | _ =>
      rw [ChannelHandles.step] at hs
      split at hs <;> cases hs

/-- Nobody ever gets an empty batch, and only who asks a closed channel is told the
end. -/
theorem Consistent.of_polled (hc : h.Consistent []) {mode : TakeMode} {result : Poll α}
    (hs : (h.step s).1 = .polled mode result) :
    (result = .ended → h.channel.closed = true) ∧
      ∀ items, result = .ready items →
        items ≠ [] ∧ items.length ≤ ItemQueue.room h.channel.batch mode := by
  obtain ⟨i, ht⟩ := hc.exists_target_of_polled hs
  obtain ⟨q, -, -, ⟨name, -, ha⟩ | ⟨mode', ha⟩⟩ := hc.answer_of_target ht
  · rw [ha] at hs
    cases hs
  · rw [ha] at hs
    obtain ⟨rfl, rfl⟩ := ChannelAnswer.polled.inj hs
    by_cases hi : q.items = []
    · rw [ItemQueue.offer, hi, List.isEmpty_nil, if_pos rfl]
      cases hcl : h.channel.closed with
      | false =>
          refine ⟨fun he => absurd he.symm Poll.ended_ne_pending, ?_⟩
          exact fun items he => absurd he.symm (Poll.ready_ne_pending items)
      | true => exact ⟨fun _ => rfl, fun items he => absurd he (Poll.ended_ne_ready items)⟩
    · rw [ItemQueue.offer_of_ne_nil hi]
      refine ⟨fun he => absurd he.symm (Poll.ended_ne_ready _), ?_⟩
      intro items he
      obtain rfl := Poll.ready.inj he
      have hr := ItemQueue.room_pos hc.channel.batch_pos mode'
      refine ⟨?_, List.length_take_le _ _⟩
      rw [ne_eq, List.take_eq_nil_iff, not_or]
      exact ⟨Nat.ne_of_gt hr, hi⟩

theorem Consistent.closed_after (hc : h.Consistent []) (hcl : h.channel.closed = true)
    (steps : List (ChannelStep α)) : (h.after steps).channel.closed = true := by
  obtain ⟨xs, hch, -⟩ := hc.exists_actAll steps
  rw [hch, Channel.closed_actAll, hcl, Bool.true_or]

end ChannelHandles

end PacketMeter
