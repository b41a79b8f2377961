import PacketMeter.Proofs.Channel.Steps

/-!
# What the holders send and get

The history of a queue, told by the answers that the holders see: what they have sent
with success since the queue was subscribed, and what they got from it.

A step is read as the actions that it takes on the channel.  `Performs` says that they
are the right ones, so that everything known of runs of actions holds of runs of
steps.
-/

namespace PacketMeter

/-- The items that a holder gets with an answer. -/
def ChannelAnswer.handed {α : Type} : ChannelAnswer α → List α
  | .items as => as
  | .polled _ result => result.items
  | _ => []

/-- The items of a step that were accepted, when this is the answer to it. -/
def ChannelStep.acceptedBy {α : Type} : ChannelStep α → ChannelAnswer α → List α
  | .send a, .done => [a]
  | .sendAll as, .sent n => as.take n
  | _, _ => []

namespace Channel

variable {α : Type}

/-- Whether an action neither sends anything nor asks for anything. -/
def Action.isQuiet : Action α → Bool
  | .close | .subscribe | .hold _ | .release _ | .cancel _ => true
  | .send _ | .take _ _ | .beginWait _ _ | .pollWait _ => false

theorem accepted_of_quiet {x : Action α} (hx : x.isQuiet = true) (ch : Channel α) :
    ch.accepted x = [] := by
  cases x with
  | send a => cases hx
  | _ => rfl

theorem handed_of_quiet {x : Action α} (hx : x.isQuiet = true) (ch : Channel α) (i : Nat) :
    ch.handed i x = [] := by
  cases x with
  | take j mode => cases hx
  | beginWait j mode => cases hx
  | pollWait w => cases hx
  | _ => rfl

theorem sentAll_of_quiet {xs : List (Action α)} (hx : ∀ x ∈ xs, x.isQuiet = true)
    (ch : Channel α) (i : Nat) : ch.sentAll i xs = [] := by
  induction xs generalizing ch with
  | nil => rfl
  | cons x xs ih =>
      rw [sentAll, accepted_of_quiet (hx x List.mem_cons_self), ite_self, List.nil_append]
      exact ih (fun y hy => hx y (List.mem_cons_of_mem x hy)) _

theorem handedAll_of_quiet {xs : List (Action α)} (hx : ∀ x ∈ xs, x.isQuiet = true)
    (ch : Channel α) (i : Nat) : ch.handedAll i xs = [] := by
  induction xs generalizing ch with
  | nil => rfl
  | cons x xs ih =>
      rw [handedAll, handed_of_quiet (hx x List.mem_cons_self), List.nil_append]
      exact ih (fun y hy => hx y (List.mem_cons_of_mem x hy)) _

theorem length_queues_send (ch : Channel α) (a : α) :
    (ch.send a).2.queues.length = ch.queues.length := by
  cases hc : ch.closed with
  | true => rw [send_of_closed a hc]
  | false => simp [send, hc]

theorem sentAll_map_send (ch : Channel α) (i : Nat) (items : List α) :
    ch.sentAll i (items.map .send) =
      if i < ch.queues.length then (if ch.closed then [] else items) else [] := by
  induction items generalizing ch with
  | nil => simp [sentAll]
  | cons a as ih =>
      rw [List.map_cons, sentAll, act, ih, length_queues_send, closed_send]
      by_cases hi : i < ch.queues.length
      · cases h : ch.closed <;> simp [accepted, hi, h]
      · simp [hi]

theorem handedAll_map_send (ch : Channel α) (i : Nat) (items : List α) :
    ch.handedAll i (items.map .send) = [] := by
  induction items generalizing ch with
  | nil => rfl
  | cons a as ih => rw [List.map_cons, handedAll, ih]; rfl

end Channel

namespace ChannelHandles

variable {α : Type}

/-- The items of a step that the channel has accepted. -/
def accepted (h : ChannelHandles α) (s : ChannelStep α) : List α := s.acceptedBy (h.step s).1

/-- The queue that a step asks for items. -/
def target (h : ChannelHandles α) : ChannelStep α → Option Nat
  | .tryBatch name | .receive name _ | .wait name _ _ => h.receivers.lookup name
  | .poll name => (h.waits.lookup name).bind fun w => (h.channel.waits.lookup w).map Wait.queue
  | .next name => (h.streams.lookup name).map ItemStream.queue
  | _ => none

/-- The items that a step gets from a queue. -/
def handed (h : ChannelHandles α) (i : Nat) (s : ChannelStep α) : List α :=
  if h.target s = some i then (h.step s).1.handed else []

theorem handed_of_target_none {h : ChannelHandles α} {s : ChannelStep α} {i : Nat}
    (ht : h.target s = none) : h.handed i s = [] := by
  rw [handed, ht]
  exact if_neg (Option.some_ne_none i).symm

/-- The items that were sent with success while the channel had a queue, in order. -/
def sentSince (h : ChannelHandles α) (i : Nat) : List (ChannelStep α) → List α
  | [] => []
  | s :: rest =>
      (if i < h.channel.queues.length then h.accepted s else []) ++
        sentSince (h.step s).2 i rest

/-- The items that were got from a queue by whomever, in order. -/
def handedSince (h : ChannelHandles α) (i : Nat) : List (ChannelStep α) → List α
  | [] => []
  | s :: rest => h.handed i s ++ handedSince (h.step s).2 i rest

/-- The actions that a step takes on the channel: they lead where it leads, send what
was accepted, and hand out what was got. -/
structure Performs (h : ChannelHandles α) (s : ChannelStep α) (xs : List (Channel.Action α)) :
    Prop where
  channel : (h.step s).2.channel = h.channel.actAll xs
  sent : ∀ i, h.channel.sentAll i xs = if i < h.channel.queues.length then h.accepted s else []
  handed : ∀ i, h.channel.handedAll i xs = h.handed i s
  closes : xs.any Channel.Action.closes = true → s = .close ∧ h.senders ≠ 0

section Performs

variable {h : ChannelHandles α} {s : ChannelStep α}

/-- A step that sends nothing and gets nothing. -/
theorem Performs.of_quiet {answer : ChannelAnswer α} {h' : ChannelHandles α}
    {xs : List (Channel.Action α)} (hs : h.step s = (answer, h'))
    (hch : h'.channel = h.channel.actAll xs) (hx : ∀ x ∈ xs, x.isQuiet = true)
    (ha : s.acceptedBy answer = []) (hi : answer.handed = [])
    (hcl : xs.any Channel.Action.closes = true → s = .close ∧ h.senders ≠ 0) :
    Performs h s xs where
  channel := by rw [hs, hch]
  sent := by
    intro i
    rw [Channel.sentAll_of_quiet hx, accepted, hs, ha, ite_self]
  handed := by
    intro i
    rw [Channel.handedAll_of_quiet hx, ChannelHandles.handed, hs, hi, ite_self]
  closes := hcl

/-- A step that only drops things. -/
theorem Performs.of_drop {answer : ChannelAnswer α} {h' : ChannelHandles α}
    {xs : List (Channel.Action α)} (hs : h.step s = (answer, h'))
    (hch : h'.channel = h.channel.actAll xs) (hx : ∀ x ∈ xs, x.isQuiet = true)
    (ha : s.acceptedBy answer = []) (hi : answer.handed = [])
    (hcl : xs.any Channel.Action.closes = false) : Performs h s xs :=
  .of_quiet hs hch hx ha hi fun hx => absurd hx (Bool.eq_false_iff.1 hcl)

/-- A step that leaves the channel alone. -/
theorem Performs.of_rest {answer : ChannelAnswer α} {h' : ChannelHandles α}
    (hs : h.step s = (answer, h')) (hch : h'.channel = h.channel)
    (ha : s.acceptedBy answer = []) (hi : answer.handed = []) : Performs h s [] :=
  .of_quiet hs hch (by simp) ha hi (by simp)

/-- A step that asks a queue, and does no more than drop things afterwards. -/
theorem Performs.of_ask {answer : ChannelAnswer α} {h' : ChannelHandles α}
    {x : Channel.Action α} {xs : List (Channel.Action α)} (hs : h.step s = (answer, h'))
    (hch : h'.channel = (h.channel.act x).actAll xs) (hx : ∀ y ∈ xs, y.isQuiet = true)
    (ha : s.acceptedBy answer = []) (hxa : h.channel.accepted x = [])
    (ht : h.channel.asked x = h.target s) (hi : (h.channel.outcome x).items = answer.handed)
    (hcl : (x :: xs).any Channel.Action.closes = false) : Performs h s (x :: xs) where
  channel := by rw [hs, hch, Channel.actAll_cons]
  sent := by
    intro i
    rw [Channel.sentAll, hxa, Channel.sentAll_of_quiet hx, accepted, hs, ha, ite_self]
    rfl
  handed := by
    intro i
    rw [Channel.handedAll, Channel.handedAll_of_quiet hx, List.append_nil, Channel.handed,
      ChannelHandles.handed, hs, ht, hi]
  closes := fun hx => absurd hx (Bool.eq_false_iff.1 hcl)

/-- What is dropped with a receiver. -/
theorem channel_dropReceiver (h : ChannelHandles α) (name : String) :
    ∃ xs, (∀ x ∈ xs, x.isQuiet = true) ∧ xs.any Channel.Action.closes = false ∧
      (h.dropReceiver name).channel = h.channel.actAll xs := by
  unfold dropReceiver
  split
  · exact ⟨[], by simp, rfl, rfl⟩
  · rename_i i hl
    exact ⟨[.release i], by simp [Channel.Action.isQuiet], rfl, rfl⟩

theorem channel_cancelWait (h : ChannelHandles α) (name : String) :
    ∃ xs, (∀ x ∈ xs, x.isQuiet = true) ∧ xs.any Channel.Action.closes = false ∧
      (h.cancelWait name).channel = h.channel.actAll xs := by
  unfold cancelWait
  split
  · exact ⟨[], by simp, rfl, rfl⟩
  · rename_i w hl
    exact ⟨[.cancel w], by simp [Channel.Action.isQuiet], rfl, rfl⟩

theorem channel_dropStream (h : ChannelHandles α) (name : String) :
    ∃ xs, (∀ x ∈ xs, x.isQuiet = true) ∧ xs.any Channel.Action.closes = false ∧
      (h.dropStream name).channel = h.channel.actAll xs := by
  unfold dropStream
  split
  · exact ⟨[], by simp, rfl, rfl⟩
  · rename_i s hl
    cases hw : s.wait? with
    | none => exact ⟨[.release s.queue], by simp [Channel.Action.isQuiet], rfl, rfl⟩
    | some w =>
        exact ⟨[.cancel w, .release s.queue], by simp [Channel.Action.isQuiet], rfl, rfl⟩

end Performs

/-- Every step performs some actions. -/
theorem Consistent.exists_performs {h : ChannelHandles α} (hc : h.Consistent [])
    (s : ChannelStep α) : ∃ xs, Performs h s xs := by
  cases s with
  | send a =>
      by_cases hs : h.senders = 0
      · exact ⟨[], .of_rest (by rw [ChannelHandles.step, if_pos hs]) rfl rfl rfl⟩
      · refine ⟨[.send a], ?_, ?_, ?_, ?_⟩
        · rw [step_send hs]
          rfl
        · intro i
          have hm := h.channel.sentAll_map_send i [a]
          rw [List.map_singleton] at hm
          rw [accepted, step_send hs, hm]
          cases h.channel.closed <;> rfl
        · intro i
          rw [handed_of_target_none rfl]
          exact h.channel.handedAll_map_send i [a]
        · simp [Channel.Action.closes]
  | sendAll items =>
      by_cases hs : h.senders = 0
      · exact ⟨[], .of_rest (by rw [ChannelHandles.step, if_pos hs]) rfl rfl rfl⟩
      · refine ⟨items.map .send, ?_, ?_, ?_, ?_⟩
        · rw [step_sendAll hs]
        · intro i
          rw [accepted, step_sendAll hs, Channel.sentAll_map_send, ChannelStep.acceptedBy]
          cases h.channel.closed <;> simp
        · intro i
          rw [handed_of_target_none rfl]
          exact h.channel.handedAll_map_send i items
        · simp [Channel.Action.closes]
  | close =>
      by_cases hs : h.senders = 0
      · exact ⟨[], .of_rest (by rw [ChannelHandles.step, if_pos hs]) rfl rfl rfl⟩
      · exact ⟨[.close], .of_quiet (by rw [ChannelHandles.step, if_neg hs]) rfl
          (by simp [Channel.Action.isQuiet]) rfl rfl fun _ => ⟨rfl, hs⟩⟩
  | askSender => exact ⟨[], .of_rest rfl rfl rfl rfl⟩
  | cloneSender =>
      by_cases hs : h.senders = 0
      · exact ⟨[], .of_rest (by rw [ChannelHandles.step, if_pos hs]) rfl rfl rfl⟩
      · have hstep : h.step .cloneSender = (.done, { h with senders := h.senders + 1 }) := by
          rw [ChannelHandles.step, if_neg hs]
        exact ⟨[], .of_rest hstep rfl rfl rfl⟩
  | dropSender => exact ⟨[], .of_rest rfl rfl rfl rfl⟩
  | subscribe name =>
      by_cases hs : h.senders = 0
      · exact ⟨[], .of_rest (by rw [ChannelHandles.step, if_pos hs]) rfl rfl rfl⟩
      · obtain ⟨xs, hx, hcl, hch⟩ :=
          channel_dropReceiver { h with channel := h.channel.subscribe.2 } name
        refine ⟨.subscribe :: xs, .of_drop (step_subscribe hs name) hch ?_ rfl rfl hcl⟩
        exact List.forall_mem_cons.2 ⟨rfl, hx⟩
  | clone source name =>
      cases hl : h.receivers.lookup source with
      | none => exact ⟨[], .of_rest (by rw [ChannelHandles.step, hl]) rfl rfl rfl⟩
      | some i =>
          obtain ⟨xs, hx, hcl, hch⟩ :=
            channel_dropReceiver { h with channel := h.channel.hold i } name
          refine ⟨.hold i :: xs, .of_drop (step_clone hl name) hch ?_ rfl rfl hcl⟩
          exact List.forall_mem_cons.2 ⟨rfl, hx⟩
  | drop name =>
      obtain ⟨xs, hx, hcl, hch⟩ := h.channel_dropReceiver name
      exact ⟨xs, .of_drop rfl hch hx rfl rfl hcl⟩
  | tryBatch name =>
      cases hl : h.receivers.lookup name with
      | none => exact ⟨[], .of_rest (by rw [ChannelHandles.step, hl]) rfl rfl rfl⟩
      | some i =>
          exact ⟨[.take i .batch], .of_ask (step_tryBatch hl) rfl (by simp) rfl rfl hl.symm rfl
            rfl⟩
  | receive name mode =>
      cases hl : h.receivers.lookup name with
      | none => exact ⟨[], .of_rest (by rw [ChannelHandles.step, hl]) rfl rfl rfl⟩
      | some i =>
          exact ⟨[.take i mode], .of_ask (step_receive hl mode) rfl (by simp) rfl rfl hl.symm rfl
            rfl⟩
  | inspect name =>
      cases hl : (h.receivers.lookup name).bind h.channel.queue? with
      | none => exact ⟨[], .of_rest (by rw [ChannelHandles.step, hl]) rfl rfl rfl⟩
      | some q => exact ⟨[], .of_rest (by rw [ChannelHandles.step, hl]) rfl rfl rfl⟩
  | wait source name mode =>
      cases hl : h.receivers.lookup source with
      | none => exact ⟨[], .of_rest (by rw [ChannelHandles.step, hl]) rfl rfl rfl⟩
      | some i =>
          by_cases ht : (h.channel.take i mode).1 = .pending
          · obtain ⟨xs, hx, hcl, hch⟩ := channel_cancelWait
              { h with channel := (h.channel.beginWait i mode).2.2 } name
            refine ⟨.beginWait i mode :: xs, .of_ask (step_wait_of_pending hl name ht) hch hx rfl
              rfl hl.symm ?_ hcl⟩
            rw [Channel.outcome, Channel.beginWait_fst, ht]
            rfl
          · refine ⟨[.take i mode], .of_ask (step_wait_of_ne_pending hl name ht) rfl (by simp)
              rfl rfl hl.symm rfl rfl⟩
  | poll name =>
      cases hl : h.waits.lookup name with
      | none => exact ⟨[], .of_rest (by rw [ChannelHandles.step, hl]) rfl rfl rfl⟩
      | some w =>
          obtain ⟨wait, hw⟩ := hc.waits_known _ (Entries.mem_of_lookup hl)
          refine ⟨[.pollWait w], .of_ask (step_poll hl hw) rfl (by simp) rfl rfl ?_ rfl rfl⟩
          rw [Channel.asked, target, hl]
          rfl
  | cancel name =>
      obtain ⟨xs, hx, hcl, hch⟩ := h.channel_cancelWait name
      exact ⟨xs, .of_drop rfl hch hx rfl rfl hcl⟩
  | stream source name mode =>
      cases hl : h.receivers.lookup source with
      | none => exact ⟨[], .of_rest (by rw [ChannelHandles.step, hl]) rfl rfl rfl⟩
      | some i =>
          obtain ⟨xs, hx, hcl, hch⟩ :=
            channel_dropStream { h with receivers := without source h.receivers } name
          exact ⟨xs, .of_drop (step_stream hl name mode) hch hx rfl rfl hcl⟩
  | next name =>
      cases hl : h.streams.lookup name with
      | none => exact ⟨[], .of_rest (by rw [ChannelHandles.step, hl]) rfl rfl rfl⟩
      | some s =>
          cases he : s.ended with
          | true =>
              have hs := step_next hl
              rw [askStream_of_ended h.channel he] at hs
              exact ⟨[], .of_rest hs rfl rfl rfl⟩
          | false =>
              cases hw : s.wait? with
              | none =>
                  have hs := step_next hl
                  rw [askStream_of_none h.channel he hw] at hs
                  refine ⟨[.beginWait s.queue s.mode], .of_ask hs rfl (by simp) rfl rfl ?_ ?_
                    rfl⟩
                  · rw [Channel.asked, target, hl]
                    rfl
                  · rw [Channel.outcome, Channel.beginWait_fst]
                    rfl
              | some w =>
                  have hs := step_next hl
                  rw [askStream_of_some h.channel he hw] at hs
                  refine ⟨[.pollWait w], .of_ask hs rfl (by simp) rfl rfl ?_ rfl rfl⟩
                  obtain ⟨woken, hk⟩ :=
                    (hc.follows _ (Entries.mem_of_lookup hl)).wait_known hw
                  rw [Channel.asked, hk, target, hl]
                  rfl
  | dropStream name =>
      obtain ⟨xs, hx, hcl, hch⟩ := h.channel_dropStream name
      exact ⟨xs, .of_drop rfl hch hx rfl rfl hcl⟩

/-- A run of steps is a run of actions with the same history. -/
theorem Consistent.exists_actAll {h : ChannelHandles α} (hc : h.Consistent [])
    (steps : List (ChannelStep α)) :
    ∃ xs, (h.after steps).channel = h.channel.actAll xs ∧
      (∀ i, h.channel.sentAll i xs = h.sentSince i steps) ∧
      ∀ i, h.channel.handedAll i xs = h.handedSince i steps := by
  induction steps generalizing h with
  | nil => exact ⟨[], rfl, fun _ => rfl, fun _ => rfl⟩
  | cons s steps ih =>
      obtain ⟨xs, hx⟩ := hc.exists_performs s
      obtain ⟨ys, hch, hs, hh⟩ := ih (hc.step s)
      rw [hx.channel] at hch hs hh
      refine ⟨xs ++ ys, ?_, ?_, ?_⟩
      · rw [after_cons, hch, Channel.actAll_append]
      · intro i
        rw [Channel.sentAll_append, hx.sent, hs, sentSince]
      · intro i
        rw [Channel.handedAll_append, hx.handed, hh, handedSince]

theorem sentSince_append (h : ChannelHandles α) (i : Nat) (steps rest : List (ChannelStep α)) :
    h.sentSince i (steps ++ rest) = h.sentSince i steps ++ (h.after steps).sentSince i rest := by
  induction steps generalizing h with
  | nil => rfl
  | cons s steps ih =>
      rw [List.cons_append, sentSince, sentSince, after_cons, ih, List.append_assoc]

theorem handedSince_append (h : ChannelHandles α) (i : Nat)
    (steps rest : List (ChannelStep α)) :
    h.handedSince i (steps ++ rest) =
      h.handedSince i steps ++ (h.after steps).handedSince i rest := by
  induction steps generalizing h with
  | nil => rfl
  | cons s steps ih =>
      rw [List.cons_append, handedSince, handedSince, after_cons, ih, List.append_assoc]

/-- Sending several items is sending one after the other. -/
theorem step_sendAll_eq_after (h : ChannelHandles α) (items : List α) :
    (h.step (.sendAll items)).2 = h.after (items.map .send) := by
  by_cases hs : h.senders = 0
  · have hr : ∀ as : List α, h.after (as.map .send) = h := by
      intro as
      induction as with
      | nil => rfl
      | cons a as ih => rw [List.map_cons, after_cons, ChannelHandles.step, if_pos hs, ih]
    rw [hr, ChannelHandles.step, if_pos hs]
  · rw [step_sendAll hs]
    induction items generalizing h with
    | nil => rfl
    | cons a as ih =>
        rw [List.map_cons, List.map_cons, after_cons, step_send hs]
        exact ih { h with channel := (h.channel.send a).2 } hs

theorem capacity_after_make (capacity batch : Nat) (steps : List (ChannelStep α)) :
    ((make capacity batch).after steps).channel.capacity = max capacity 1 := by
  obtain ⟨xs, hch, -⟩ := (consistent_make capacity batch (α := α)).exists_actAll steps
  rw [hch, Channel.capacity_actAll]
  rfl

theorem batch_after_make (capacity batch : Nat) (steps : List (ChannelStep α)) :
    ((make capacity batch).after steps).channel.batch = max batch 1 := by
  obtain ⟨xs, hch, -⟩ := (consistent_make capacity batch (α := α)).exists_actAll steps
  rw [hch, Channel.batch_actAll]
  rfl

/-- A step that sends nothing and asks other queues leaves a queue as it is. -/
theorem Consistent.queue?_step_of_other {h : ChannelHandles α} (hc : h.Consistent [])
    {i : Nat} {q : ItemQueue α} (hq : h.channel.queue? i = some q) {s : ChannelStep α}
    (ha : h.accepted s = []) (ht : h.target s ≠ some i) :
    ∃ q', (h.step s).2.channel.queue? i = some q' ∧ q'.items = q.items ∧
      q'.dropped = q.dropped := by
  obtain ⟨xs, hx⟩ := hc.exists_performs s
  have hs : h.channel.sentAll i xs = [] := by rw [hx.sent, ha, ite_self]
  obtain ⟨q', hq', hi, hd⟩ := Channel.queue?_actAll_of_sentAll hq hs
  rw [hx.handed, handed, if_neg ht, List.nil_append] at hi
  exact ⟨q', by rw [hx.channel, hq'], hi.symm, hd⟩

end ChannelHandles

end PacketMeter
