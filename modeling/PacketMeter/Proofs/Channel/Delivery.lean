import PacketMeter.Proofs.Channel.Runs

/-!
# Every item is accounted for

What the senders have sent to a queue that somebody holds is what the holders got from
it, what it dropped and what it still has.  An item is dropped only to make room, and
nothing that is done to other queues makes a difference.
-/

namespace PacketMeter

namespace ChannelHandles

variable {α : Type} {h : ChannelHandles α} {i : Nat} {q q' : ItemQueue α}

/-- A held queue accounts for all that was sent since it was subscribed. -/
theorem account_after_make (capacity batch : Nat) (steps : List (ChannelStep α))
    (hq : ((make capacity batch).after steps).channel.queue? i = some q) (hp : 0 < q.holders) :
    q.Account ((make capacity batch).sentSince i steps)
      ((make capacity batch).handedSince i steps) := by
  have hc := consistent_after_make capacity batch steps (α := α)
  obtain ⟨xs, hch, hs, hh⟩ := (consistent_make capacity batch (α := α)).exists_actAll steps
  have hserved := hc.channel.isServed hq hp
  rw [hch] at hq
  have hnone : (Channel.make capacity batch : Channel α).queue? i = none := rfl
  rw [← hs, ← hh, ← List.nil_append (Channel.sentAll _ _ _),
    ← List.nil_append (Channel.handedAll _ _ _)]
  refine Channel.account_actAll (Channel.sound_make capacity batch) xs i ?_ ?_ hq hserved
  · intro p hp
    rw [hnone] at hp
    cases hp
  · exact fun _ => ⟨rfl, rfl⟩

/-- Only who sends drops items, and who sends a single item drops at most one, from a
full queue. -/
theorem Consistent.of_dropped_lt (hc : h.Consistent []) (hq : h.channel.queue? i = some q)
    {s : ChannelStep α} (hq' : (h.step s).2.channel.queue? i = some q')
    (hd : q.dropped < q'.dropped) :
    (∃ a, s = .send a ∧ q.items.length = h.channel.capacity ∧ q'.dropped = q.dropped + 1) ∨
      ∃ items, s = .sendAll items := by
  by_cases ha : h.accepted s = []
  · -- Where nothing is sent nothing is dropped.
    obtain ⟨xs, hx⟩ := hc.exists_performs s
    have hs : h.channel.sentAll i xs = [] := by rw [hx.sent, ha, ite_self]
    obtain ⟨p, hp, -, hd'⟩ := Channel.queue?_actAll_of_sentAll hq hs
    rw [hx.channel, hp] at hq'
    obtain rfl := Option.some.inj hq'
    exact absurd hd (by rw [hd']; exact Nat.lt_irrefl _)
  · cases s with
    | send a =>
        refine .inl ⟨a, rfl, ?_⟩
        have hs : h.senders ≠ 0 := by
          intro hs
          exact ha (by rw [accepted, ChannelHandles.step, if_pos hs]; rfl)
        rw [step_send hs] at hq'
        obtain ⟨p, hp, hx⟩ := Channel.change_act hq (.send a)
        rw [Channel.act, hq'] at hp
        obtain rfl := Option.some.inj hp
        obtain ⟨-, -, hl, he⟩ := hx.of_dropped_lt hd
        exact ⟨Nat.le_antisymm (hc.channel.length_le hq) hl, he⟩
    | sendAll items => exact .inr ⟨items, rfl⟩
    | _ => exact absurd rfl ha

/-- A queue that somebody holds accounts for every item.  It has the last of the items
that were sent since it was subscribed, no more than the capacity.  What the holders
got is a subsequence of the items before those, and what they did not get was dropped,
each item by a send that found the queue full.  Sending several items is sending one
after the other, and a step that neither sends nor asks this queue changes nothing. -/
theorem held_queue_accounts (capacity batch : Nat) (steps : List (ChannelStep α))
    (hi : ((make capacity batch).after steps).IsHeld i) :
    let start : ChannelHandles α := make capacity batch
    let h := start.after steps
    ∃ q, h.channel.queue? i = some q ∧ q.items.length ≤ max capacity 1 ∧
      (∃ gone, start.sentSince i steps = gone ++ q.items ∧
        (start.handedSince i steps).Sublist gone) ∧
      (start.handedSince i steps).length + q.dropped + q.items.length =
        (start.sentSince i steps).length ∧
      (∀ s, ∃ q', (h.step s).2.channel.queue? i = some q' ∧
        (q.dropped < q'.dropped →
          (∃ a, s = .send a ∧ q.items.length = max capacity 1 ∧ q'.dropped = q.dropped + 1) ∨
            ∃ items, s = .sendAll items) ∧
        (h.accepted s = [] → h.target s ≠ some i →
          q'.items = q.items ∧ q'.dropped = q.dropped ∧
            start.sentSince i (steps ++ [s]) = start.sentSince i steps ∧
            start.handedSince i (steps ++ [s]) = start.handedSince i steps)) ∧
      ∀ items, (h.step (.sendAll items)).2 = h.after (items.map .send) := by
  intro start h
  have hc : h.Consistent [] := consistent_after_make capacity batch steps
  have hcap : h.channel.capacity = max capacity 1 := capacity_after_make capacity batch steps
  obtain ⟨q, hq, hp⟩ := hc.exists_queue hi
  have ha := account_after_make capacity batch steps hq hp
  obtain ⟨gone, hsent, hsub, -⟩ := ha.exists_gone
  refine ⟨q, hq, ?_, ⟨gone, hsent, hsub⟩, ha.length_add, ?_, h.step_sendAll_eq_after⟩
  · rw [← hcap]
    exact hc.channel.length_le hq
  · intro s
    obtain ⟨xs, hx⟩ := hc.exists_performs s
    obtain ⟨q', hq'⟩ : ∃ q', (h.step s).2.channel.queue? i = some q' := by
      rw [hx.channel]
      exact Channel.exists_queue?_actAll hq xs
    refine ⟨q', hq', ?_, ?_⟩
    · intro hd
      rw [← hcap]
      exact hc.of_dropped_lt hq hq' hd
    · intro hacc ht
      obtain ⟨p, hp', hitems, hdropped⟩ := hc.queue?_step_of_other hq hacc ht
      rw [hq'] at hp'
      obtain rfl := Option.some.inj hp'
      refine ⟨hitems, hdropped, ?_, ?_⟩
      · rw [sentSince_append, sentSince, hacc, ite_self, sentSince, List.append_nil,
          List.append_nil]
      · rw [handedSince_append, handedSince, handed, if_neg ht, handedSince, List.append_nil,
          List.append_nil]

/-- Of three items that are sent to a queue with room for two, the first is dropped and
a stream takes the second. -/
theorem held_queue_accounts_overflow :
    let start : ChannelHandles Nat := make 2 0
    let steps : List (ChannelStep Nat) :=
      [.subscribe "a", .clone "a" "b", .send 1, .send 2, .send 3, .stream "b" "s" .batch,
        .next "s"]
    start.sentSince 0 steps = [1, 2, 3] ∧ start.handedSince 0 steps = [2] ∧
      ∃ q, (start.after steps).channel.queue? 0 = some q ∧ q.items = [3] ∧
        1 + q.dropped + 1 = 3 := by
  intro start steps
  have hs : start.sentSince 0 steps = [1, 2, 3] := by decide
  have hh : start.handedSince 0 steps = [2] := by decide
  obtain ⟨q, hq, -, -, hl, -⟩ := held_queue_accounts 2 0 steps (.inl ⟨("a", 0), by decide, rfl⟩)
  have hi : q.items = [3] := by
    have he : ((start.after steps).channel.queue? 0).map ItemQueue.items = some [3] := by decide
    rw [hq] at he
    exact Option.some.inj he
  rw [hs, hh, hi] at hl
  exact ⟨hs, hh, q, hq, hi, hl⟩

end ChannelHandles

end PacketMeter
