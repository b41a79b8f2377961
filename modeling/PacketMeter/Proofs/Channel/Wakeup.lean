import PacketMeter.Proofs.Channel.Runs

/-!
# No wakeup is lost

A wait looks at its queue only after it was woken.  All the same, asking it again finds
what the queue has at that time: no item and no close passes by a wait unseen, whoever
else waits, takes or gives up.
-/

namespace PacketMeter

/-- What somebody gets who asks a queue. -/
def ItemQueue.offer {α : Type} (q : ItemQueue α) (n : Nat) (closed : Bool) : Poll α :=
  if q.items.isEmpty then (if closed then .ended else .pending) else .ready (q.items.take n)

namespace Channel

variable {α : Type} {ch : Channel α} {w : Nat} {wait : Wait}

theorem fst_take {i : Nat} {q : ItemQueue α} (hq : ch.queue? i = some q) (mode : TakeMode) :
    (ch.take i mode).1 = q.offer (ItemQueue.room ch.batch mode) q.closed := by
  by_cases hi : q.items = []
  · rw [take_of_nil mode hq hi, ItemQueue.offer, hi]
    rfl
  · rw [take_of_ne_nil mode hq hi, ItemQueue.offer, if_neg (by simpa using hi)]

/-- Asking a wait finds what asking its queue finds. -/
theorem WellFormed.fst_pollWait (h : ch.WellFormed) (hw : ch.waits.lookup w = some wait) :
    (ch.pollWait w).1 = (ch.take wait.queue wait.mode).1 := by
  cases hk : wait.woken with
  | true =>
      by_cases ht : (ch.take wait.queue wait.mode).1 = .pending
      · rw [pollWait_of_pending hw hk ht, ht]
      · rw [pollWait_of_ne_pending hw hk ht]
  | false =>
      -- The wait does not look, but there is nothing to be seen.
      obtain ⟨ho, hi⟩ := h.asleep hw hk
      obtain ⟨q, hq, hp⟩ := h.exists_queue hw
      rw [itemsAt_of_some hq] at hi
      rw [pollWait_of_not_woken hw hk, take_of_nil wait.mode hq hi, (h.served hq hp).2, ho]
      rfl

/-- A wait that finds nothing is put back to sleep, and nothing else happens. -/
theorem snd_pollWait_of_pending (hw : ch.waits.lookup w = some wait)
    (ht : (ch.take wait.queue wait.mode).1 = .pending) :
    (ch.pollWait w).2.queues = ch.queues ∧
      (ch.pollWait w).2.waits.lookup w = some { wait with woken := false } := by
  cases hk : wait.woken with
  | true =>
      rw [pollWait_of_pending hw hk ht]
      refine ⟨rfl, ?_⟩
      rw [lookup_resume, hw]
      simp
  | false =>
      rw [pollWait_of_not_woken hw hk, hw, ← hk]
      exact ⟨rfl, rfl⟩

/-- A wait that finds something ends with it. -/
theorem WellFormed.snd_pollWait_of_ne_pending (h : ch.WellFormed)
    (hw : ch.waits.lookup w = some wait) (ht : (ch.take wait.queue wait.mode).1 ≠ .pending) :
    (ch.pollWait w).2 = (ch.take wait.queue wait.mode).2.cancel w := by
  have hp : (ch.pollWait w).1 ≠ .pending := by
    rw [h.fst_pollWait hw]
    exact ht
  cases hk : wait.woken with
  | true => rw [pollWait_of_ne_pending hw hk ht]
  | false => exact absurd (by rw [pollWait_of_not_woken hw hk]) hp

end Channel

namespace ChannelHandles

variable {α : Type} {h : ChannelHandles α}

/-- The wait that a step asks again. -/
def askedWait (h : ChannelHandles α) : ChannelStep α → Option Nat
  | .poll name => h.waits.lookup name
  | .next name => (h.streams.lookup name).bind ItemStream.wait?
  | _ => none

/-- The wait that a step gives up. -/
def cancelledWait (h : ChannelHandles α) : ChannelStep α → Option Nat
  | .cancel name => h.waits.lookup name
  | .dropStream name => (h.streams.lookup name).bind ItemStream.wait?
  | _ => none

/-- A step that asks a wait again answers what the wait finds, and the wait goes on
when that is nothing. -/
theorem Consistent.step_of_askedWait (hc : h.Consistent []) {s : ChannelStep α} {w : Nat}
    (hs : h.askedWait s = some w) :
    ∃ wait, h.channel.waits.lookup w = some wait ∧
      (h.step s).1 = .polled wait.mode (h.channel.pollWait w).1 ∧
      (h.step s).2.channel = (h.channel.pollWait w).2 ∧
      ((h.channel.pollWait w).1 = .pending → (h.step s).2.askedWait s = some w) := by
  cases s with
  | poll name =>
      have hl : h.waits.lookup name = some w := hs
      obtain ⟨wait, hw⟩ := hc.waits_known _ (Entries.mem_of_lookup hl)
      refine ⟨wait, hw, ?_, ?_, ?_⟩
      · rw [step_poll hl hw]
      · rw [step_poll hl hw]
      · intro hp
        rw [step_poll hl hw, askedWait, hp]
        exact hl
  | next name =>
      obtain ⟨s, hl, hw⟩ := Option.bind_eq_some_iff.1 hs
      have hf := hc.follows _ (Entries.mem_of_lookup hl)
      obtain ⟨woken, hk⟩ := hf.wait_known hw
      have he : s.ended = false := by
        cases he : s.ended with
        | false => rfl
        | true =>
            have hn := (hf.of_ended he).1
            rw [hn] at hw
            cases hw
      have hstep := step_next hl
      rw [askStream_of_some h.channel he hw] at hstep
      refine ⟨_, hk, ?_, ?_, ?_⟩
      · rw [hstep]
      · rw [hstep]
      · intro hp
        rw [hstep, askedWait, hp, List.lookup_cons_self]
        rfl
  | _ => cases hs

theorem Consistent.closed_step (hc : h.Consistent []) {s : ChannelStep α} (hs : s ≠ .close) :
    (h.step s).2.channel.closed = h.channel.closed := by
  obtain ⟨xs, hx⟩ := hc.exists_performs s
  have hcl : xs.any Channel.Action.closes = false := by
    rw [← Bool.not_eq_true]
    exact fun ht => hs (hx.closes ht).1
  rw [hx.channel, Channel.closed_actAll, hcl, Bool.or_false]

theorem Consistent.capacity_step (hc : h.Consistent []) (s : ChannelStep α) :
    (h.step s).2.channel.capacity = h.channel.capacity := by
  obtain ⟨xs, hx⟩ := hc.exists_performs s
  rw [hx.channel, Channel.capacity_actAll]

theorem Consistent.batch_step (hc : h.Consistent []) (s : ChannelStep α) :
    (h.step s).2.channel.batch = h.channel.batch := by
  obtain ⟨xs, hx⟩ := hc.exists_performs s
  rw [hx.channel, Channel.batch_actAll]

/-- Who gives up a wait leaves every other wait to those who ask it. -/
theorem lookup_of_cancelledWait {c s : ChannelStep α} {v w : Nat}
    (hv : h.cancelledWait c = some v) (hs : h.askedWait s = some w) (hne : w ≠ v) :
    (h.step c).2.askedWait s = some w ∧
      (h.step c).2.channel.waits.lookup w = h.channel.waits.lookup w := by
  cases c with
  | cancel name =>
      have hl : h.waits.lookup name = some v := hv
      have hstep : h.step (.cancel name) =
          (.done, { h with channel := h.channel.cancel v, waits := without name h.waits }) := by
        rw [ChannelHandles.step, cancelWait, hl]
      rw [hstep]
      refine ⟨?_, by simp only [Channel.lookup_cancel, if_neg hne]⟩
      cases s with
      | poll other =>
          have hn : other ≠ name := by
            rintro rfl
            rw [askedWait, hl] at hs
            exact hne (Option.some.inj hs).symm
          rw [askedWait, without, Entries.lookup_filter_ne, if_neg hn]
          exact hs
      | next other => exact hs
      | _ => cases hs
  | dropStream name =>
      obtain ⟨s', hl, hw⟩ := Option.bind_eq_some_iff.1 hv
      have hstep : h.step (.dropStream name) =
          (.done,
            { h with
              channel := (h.channel.cancel v).release s'.queue
              streams := without name h.streams }) := by
        rw [ChannelHandles.step, dropStream, hl]
        simp only [hw]
      rw [hstep]
      refine ⟨?_, ?_⟩
      · cases s with
        | poll other => exact hs
        | next other =>
            have hn : other ≠ name := by
              rintro rfl
              rw [askedWait, hl, Option.bind_some, hw] at hs
              exact hne (Option.some.inj hs).symm
            rw [askedWait, without, Entries.lookup_filter_ne, if_neg hn]
            exact hs
        | _ => cases hs
      · change (h.channel.cancel v).waits.lookup w = _
        rw [Channel.lookup_cancel, if_neg hne]
  | _ => cases hv

/-- What a wait finds depends on its queue and on the close only. -/
theorem Consistent.exists_of_askedWait (hc : h.Consistent []) {s : ChannelStep α} {w : Nat}
    (hs : h.askedWait s = some w) :
    ∃ wait q, h.channel.waits.lookup w = some wait ∧
      h.channel.queue? wait.queue = some q ∧
      (h.step s).1 = .polled wait.mode
        (q.offer (ItemQueue.room h.channel.batch wait.mode) h.channel.closed) := by
  obtain ⟨wait, hw, hans, -⟩ := hc.step_of_askedWait hs
  obtain ⟨q, hq, hp⟩ := hc.channel.exists_queue hw
  refine ⟨wait, q, hw, hq, ?_⟩
  rw [hans, hc.channel.fst_pollWait hw, Channel.fst_take hq, (hc.channel.served hq hp).2]

/-- Who gives up a wait takes nothing, and all others find what they would have found. -/
theorem Consistent.step_of_cancelledWait (hc : h.Consistent []) {c : ChannelStep α} {v : Nat}
    (hv : h.cancelledWait c = some v) :
    (∀ i p, h.channel.queue? i = some p → ∃ p', (h.step c).2.channel.queue? i = some p' ∧
      p'.items = p.items ∧ p'.dropped = p.dropped) ∧
    ∀ s w, h.askedWait s = some w → w ≠ v →
      (h.step c).2.askedWait s = some w ∧ ((h.step c).2.step s).1 = (h.step s).1 := by
  have hquiet : h.accepted c = [] ∧ (∀ i, h.target c ≠ some i) ∧ c ≠ .close := by
    cases c with
    | cancel name =>
        exact ⟨rfl, fun i => (Option.some_ne_none i).symm, by simp⟩
    | dropStream name =>
        exact ⟨rfl, fun i => (Option.some_ne_none i).symm, by simp⟩
    | _ => cases hv
  obtain ⟨ha, ht, hcl⟩ := hquiet
  have hkeep : ∀ i p, h.channel.queue? i = some p → ∃ p', (h.step c).2.channel.queue? i = some p' ∧
      p'.items = p.items ∧ p'.dropped = p.dropped :=
    fun i p hp => hc.queue?_step_of_other hp ha (ht i)
  refine ⟨hkeep, ?_⟩
  intro s w hs hne
  obtain ⟨hs', hlookup⟩ := lookup_of_cancelledWait hv hs hne
  refine ⟨hs', ?_⟩
  obtain ⟨wait, q, hw, hq, hans⟩ := hc.exists_of_askedWait hs
  obtain ⟨wait', q', hw', hq', hans'⟩ := (hc.step c).exists_of_askedWait hs'
  rw [hlookup, hw] at hw'
  obtain rfl := Option.some.inj hw'
  obtain ⟨p', hp', hi, -⟩ := hkeep _ q hq
  rw [hq'] at hp'
  obtain rfl := Option.some.inj hp'
  rw [hans, hans', ItemQueue.offer, ItemQueue.offer, hi, hc.closed_step hcl, hc.batch_step]

/-- Whenever a wait is asked again, it gets the first items of its queue when there are
any, the end when there are none and the channel is closed, and nothing otherwise.  In
the last case it goes on, asleep again, and can be asked by the same step.  Who gives
up a wait takes nothing from any queue, and every other wait that is asked afterwards
gets what it would have got. -/
theorem asked_wait_finds_queue (capacity batch : Nat) (steps : List (ChannelStep α))
    {s : ChannelStep α} {w : Nat}
    (hs : ((make capacity batch).after steps).askedWait s = some w) :
    let h : ChannelHandles α := (make capacity batch).after steps
    ∃ wait q, h.channel.waits.lookup w = some wait ∧ h.channel.queue? wait.queue = some q ∧
      (q.items ≠ [] →
        (h.step s).1 = .polled wait.mode
          (.ready (q.items.take (ItemQueue.room (max batch 1) wait.mode))) ∧
        (h.step s).2.channel.waits.lookup w = none ∧
        ∃ q', (h.step s).2.channel.queue? wait.queue = some q' ∧
          q'.items = q.items.drop (ItemQueue.room (max batch 1) wait.mode)) ∧
      (q.items = [] → h.channel.closed = true →
        (h.step s).1 = .polled wait.mode .ended ∧
        (h.step s).2.channel.waits.lookup w = none) ∧
      (q.items = [] → h.channel.closed = false →
        (h.step s).1 = .polled wait.mode .pending ∧
        (h.step s).2.channel.waits.lookup w = some { wait with woken := false } ∧
        (h.step s).2.channel.queues = h.channel.queues ∧
        (h.step s).2.askedWait s = some w) ∧
      ∀ c v, h.cancelledWait c = some v →
        (∀ i p, h.channel.queue? i = some p → ∃ p', (h.step c).2.channel.queue? i = some p' ∧
          p'.items = p.items ∧ p'.dropped = p.dropped) ∧
        (w ≠ v →
          (h.step c).2.askedWait s = some w ∧ ((h.step c).2.step s).1 = (h.step s).1) := by
  intro h
  have hc : h.Consistent [] := consistent_after_make capacity batch steps
  have hbatch : h.channel.batch = max batch 1 := batch_after_make capacity batch steps
  obtain ⟨wait, hw, hans, hch, hagain⟩ := hc.step_of_askedWait hs
  obtain ⟨q, hq, hp⟩ := hc.channel.exists_queue hw
  have hclosed := (hc.channel.served hq hp).2
  have htake := hc.channel.fst_pollWait hw
  rw [← hbatch]
  refine ⟨wait, q, hw, hq, ?_, ?_, ?_, ?_⟩
  · intro hi
    have ht := Channel.take_of_ne_nil wait.mode hq hi
    have hne : (h.channel.take wait.queue wait.mode).1 ≠ .pending := by
      rw [ht]
      exact Poll.ready_ne_pending _
    refine ⟨by rw [hans, htake, ht], ?_, ?_⟩
    · rw [hch, hc.channel.snd_pollWait_of_ne_pending hw hne, Channel.lookup_cancel, if_pos rfl]
    · have hq' : (h.channel.take wait.queue wait.mode).2.queue? wait.queue =
          some { q with items := q.items.drop (ItemQueue.room h.channel.batch wait.mode) } := by
        rw [Channel.queue?_take, hq, Option.map_some, if_pos rfl]
      obtain ⟨n, hn⟩ := Channel.change_cancel hq' w
      rw [hch, hc.channel.snd_pollWait_of_ne_pending hw hne]
      exact ⟨_, hn, rfl⟩
  · intro hi hcl
    have ht := Channel.take_of_nil wait.mode hq hi
    rw [hclosed, hcl, if_pos rfl] at ht
    have hne : (h.channel.take wait.queue wait.mode).1 ≠ .pending := by
      rw [ht]
      exact Poll.ended_ne_pending
    refine ⟨by rw [hans, htake, ht], ?_⟩
    rw [hch, hc.channel.snd_pollWait_of_ne_pending hw hne, Channel.lookup_cancel, if_pos rfl]
  · intro hi hcl
    have ht := Channel.take_of_nil wait.mode hq hi
    rw [hclosed, hcl, if_neg Bool.false_ne_true] at ht
    have hpend : (h.channel.take wait.queue wait.mode).1 = .pending := by rw [ht]
    obtain ⟨hqueues, hlookup⟩ := Channel.snd_pollWait_of_pending hw hpend
    rw [hch]
    exact ⟨by rw [hans, htake, hpend], hlookup, hqueues, hagain (htake.trans hpend)⟩
  · intro c v hv
    obtain ⟨hkeep, hother⟩ := hc.step_of_cancelledWait hv
    exact ⟨hkeep, hother s w hs⟩

/-- Two waits are woken by one item.  The first is given up, and the second gets the
item. -/
theorem asked_wait_finds_queue_cancelled :
    let h : ChannelHandles Nat := (make 4 4).after
      [.subscribe "a", .wait "a" "x" .one, .wait "a" "y" .one, .send 7, .cancel "x"]
    (h.step (.poll "y")).1 = .polled .one (.ready [7]) := by
  intro h
  obtain ⟨wait, q, hw, hq, hready, -⟩ := asked_wait_finds_queue 4 4
    [.subscribe "a", .wait "a" "x" .one, .wait "a" "y" .one, .send (7 : Nat), .cancel "x"]
    (s := .poll "y") (w := 1) (by decide)
  have hwait : h.channel.waits.lookup 1 = some ⟨0, .one, true⟩ := by decide
  rw [hw] at hwait
  obtain rfl := Option.some.inj hwait
  have hitems : (h.channel.queue? 0).map ItemQueue.items = some [7] := by decide
  rw [hq] at hitems
  have hi : q.items = [7] := Option.some.inj hitems
  rw [(hready (by rw [hi]; exact List.cons_ne_nil 7 [])).1, hi]
  rfl

end ChannelHandles

end PacketMeter
