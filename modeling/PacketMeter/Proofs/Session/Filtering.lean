import PacketMeter.Proofs.Channel.Ending
import PacketMeter.Session.Subscription

/-!
# Subscriptions through a filter

A subscription with a filter asks the same stream as one without, only more often: a batch of
which nothing is left is passed over, and the stream is asked again at once.  So whatever the
other holders of the channel do in between, there is a subscription without a filter that gets
all the batches, and the filter makes of its answers those of the other.

Asking again comes to an end, since every batch takes at least one record out of the queue.
-/

namespace PacketMeter.Session.Subscription

open ChannelHandles (without askStream)

/-! ## Runs -/

/-- A stream that was asked, put back under its name. -/
def putBack (h : ChannelHandles PacketRecord) (name : String) (stream : ItemStream)
    (channel : Channel PacketRecord) : ChannelHandles PacketRecord :=
  { h with channel, streams := (name, stream) :: without name h.streams }

/-- Asks a subscription whose stream has a name, through a filter if there is one. -/
def next (filter? : Option Filter) (name : String) (h : ChannelHandles PacketRecord) :
    Option (Poll PacketRecord) × ChannelHandles PacketRecord :=
  match h.streams.lookup name with
  | none => (none, h)
  | some stream =>
    let (result, s, channel) := ask ⟨0, stream, filter?⟩ h.channel
    (some result, putBack h name s.stream channel)

/-- What happens next: some holder of the channel takes a step, or the subscriber asks. -/
inductive Turn where
  | step (x : ChannelStep PacketRecord)
  | ask
  deriving Inhabited

section Run

variable (filter? : Option Filter) (name : String)

/-- The answer to the subscriber, if this turn is a question, and the handles afterwards. -/
def turn (h : ChannelHandles PacketRecord) :
    Turn → Option (Poll PacketRecord) × ChannelHandles PacketRecord
  | .step x => (none, (h.step x).2)
  | .ask => next filter? name h

/-- The answers to the subscriber. -/
def answers (h : ChannelHandles PacketRecord) : List Turn → List (Poll PacketRecord)
  | [] => []
  | t :: ts => (turn filter? name h t).1.toList ++ answers (turn filter? name h t).2 ts

/-- The handles after several turns. -/
def after (h : ChannelHandles PacketRecord) : List Turn → ChannelHandles PacketRecord
  | [] => h
  | t :: ts => after (turn filter? name h t).2 ts

theorem answers_append (h : ChannelHandles PacketRecord) (ts us : List Turn) :
    answers filter? name h (ts ++ us) =
      answers filter? name h ts ++ answers filter? name (after filter? name h ts) us := by
  induction ts generalizing h with
  | nil => rfl
  | cons t ts ih => rw [List.cons_append, answers, answers, ih, after, List.append_assoc]

theorem after_append (h : ChannelHandles PacketRecord) (ts us : List Turn) :
    after filter? name h (ts ++ us) = after filter? name (after filter? name h ts) us := by
  induction ts generalizing h with
  | nil => rfl
  | cons t ts ih => rw [List.cons_append, after, ih, after]

end Run

/-- The same turns, but every question is asked several times in a row. -/
inductive Expands : List Turn → List Turn → Prop where
  | nil : Expands [] []
  | step (x : ChannelStep PacketRecord) {turns plan : List Turn} (h : Expands turns plan) :
      Expands (.step x :: turns) (.step x :: plan)
  | ask (n : Nat) {turns plan : List Turn} (h : Expands turns plan) :
      Expands (.ask :: turns) (List.replicate (n + 1) .ask ++ plan)

/-- What a filter makes of an answer.  A batch of which nothing is left is no answer. -/
def passed (f : Filter) : Poll PacketRecord → Option (Poll PacketRecord)
  | .ready batch => if (f.select batch).isEmpty then none else some (.ready (f.select batch))
  | .ended => some .ended
  | .pending => some .pending

/-! ## One question -/

section Stream

variable {name : String} {h : ChannelHandles PacketRecord} {stream : ItemStream}

@[simp] theorem channel_putBack (h : ChannelHandles PacketRecord) (name : String)
    (stream : ItemStream) (channel : Channel PacketRecord) :
    (putBack h name stream channel).channel = channel := rfl

theorem lookup_putBack (h : ChannelHandles PacketRecord) (name : String) (stream : ItemStream)
    (channel : Channel PacketRecord) :
    (putBack h name stream channel).streams.lookup name = some stream :=
  List.lookup_cons_self

theorem putBack_putBack (h : ChannelHandles PacketRecord) (name : String)
    (stream stream' : ItemStream) (channel channel' : Channel PacketRecord) :
    putBack (putBack h name stream channel) name stream' channel' =
      putBack h name stream' channel' := by
  simp [putBack, without]

theorem batch_ne_nil (hc : h.Consistent []) (hl : h.streams.lookup name = some stream)
    {batch : List PacketRecord} (hb : (askStream h.channel stream).1 = .ready batch) :
    batch ≠ [] :=
  ((hc.of_polled (congrArg Prod.fst (ChannelHandles.step_next hl))).2 batch hb).1

/-- A stream without a filter is asked once. -/
theorem next_none (hc : h.Consistent []) (hl : h.streams.lookup name = some stream) :
    next none name h = (some (askStream h.channel stream).1,
      putBack h name (askStream h.channel stream).2.1 (askStream h.channel stream).2.2) := by
  have hbatch : ∀ batch, (askStream h.channel stream).1 = .ready batch → batch ≠ [] :=
    fun _ => batch_ne_nil hc hl
  rw [next, hl]
  dsimp only
  rw [ask, askWithin]
  generalize askStream h.channel stream = asked at hbatch ⊢
  obtain ⟨result, stream', channel'⟩ := asked
  cases result with
  | ready batch =>
      have hne : batch.isEmpty = false := List.isEmpty_eq_false_iff.2 (hbatch batch rfl)
      simp only [selected_none, hne]
      rfl
  | ended => rfl
  | pending => rfl

/-- Asking a named stream is a step of its holder. -/
theorem snd_next_none (hc : h.Consistent []) (hl : h.streams.lookup name = some stream) :
    (next none name h).2 = (h.step (.next name)).2 := by
  rw [next_none hc hl, ChannelHandles.step_next hl]
  rfl

theorem consistent_turn (hc : h.Consistent []) (name : String) (t : Turn) :
    (turn none name h t).2.Consistent [] := by
  cases t with
  | step x => exact hc.step x
  | ask =>
      rw [turn]
      cases hl : h.streams.lookup name with
      | none =>
          rw [next, hl]
          exact hc
      | some stream =>
          rw [snd_next_none hc hl]
          exact hc.step (.next name)

theorem consistent_after (hc : h.Consistent []) (name : String) (ts : List Turn) :
    (after none name h ts).Consistent [] := by
  induction ts generalizing h with
  | nil => exact hc
  | cons t ts ih => exact ih (consistent_turn hc name t)

/-- A stream gives the first records of its queue, if there are any. -/
theorem itemsAt_askStream (hc : h.Consistent []) (hl : h.streams.lookup name = some stream) :
    h.channel.itemsAt stream.queue = (askStream h.channel stream).1.items ++
        (askStream h.channel stream).2.2.itemsAt stream.queue ∧
      ((h.channel.itemsAt stream.queue = [] ∧
          (askStream h.channel stream).1 = if h.channel.closed then .ended else .pending) ∨
        ∃ batch, (askStream h.channel stream).1 = .ready batch) := by
  have hstep := ChannelHandles.step_next hl
  have ht : h.target (.next name) = some stream.queue := by
    rw [ChannelHandles.target, hl]
    rfl
  obtain ⟨xs, hx⟩ := hc.exists_performs (.next name)
  obtain ⟨q, hq, -, ⟨_, ha, -⟩ | ⟨mode, ha⟩⟩ := hc.answer_of_target ht
  · cases ha
  · rw [hstep] at ha
    obtain ⟨rfl, ha⟩ := ChannelAnswer.polled.inj ha
    have hs : h.channel.sentAll stream.queue xs = [] := by
      rw [hx.sent, ite_eq_right_iff]
      exact fun _ => rfl
    obtain ⟨q', hq', hitems, -⟩ := Channel.queue?_actAll_of_sentAll hq hs
    rw [← hx.channel, hstep] at hq'
    rw [hx.handed, ChannelHandles.handed, if_pos ht, hstep] at hitems
    rw [Channel.itemsAt_of_some hq, Channel.itemsAt_of_some hq']
    refine ⟨hitems, ?_⟩
    by_cases hi : q.items = []
    · refine .inl ⟨hi, ?_⟩
      rw [ha, ItemQueue.offer, hi]
      rfl
    · exact .inr ⟨_, ha.trans (ItemQueue.offer_of_ne_nil hi _ _)⟩

theorem waiting_eq (s : Subscription) (channel : Channel PacketRecord) :
    s.waiting channel = (channel.itemsAt s.stream.queue).length := by
  rw [waiting, Channel.itemsAt]
  cases channel.queue? s.stream.queue <;> rfl

/-- A batch leaves fewer records in the queue. -/
theorem waiting_askStream_lt (hc : h.Consistent []) (hl : h.streams.lookup name = some stream)
    {batch : List PacketRecord} (hb : (askStream h.channel stream).1 = .ready batch)
    (filter? : Option Filter) :
    waiting ⟨0, (askStream h.channel stream).2.1, filter?⟩ (askStream h.channel stream).2.2 <
      waiting ⟨0, stream, filter?⟩ h.channel := by
  have hpos := List.length_pos_iff.2 (batch_ne_nil hc hl hb)
  rw [waiting_eq, waiting_eq, ChannelHandles.queue_askStream, (itemsAt_askStream hc hl).1, hb,
    Poll.items_ready, List.length_append]
  exact Nat.lt_add_of_pos_left hpos

/-- What a question through a filter finds: the first of the records in the queue that the
filter selects, or nothing when there are none. -/
inductive Finds (f : Filter) (items : List PacketRecord) (closed : Bool) :
    Poll PacketRecord → Prop where
  | batch (kept rest : List PacketRecord) (hne : kept ≠ [])
      (h : f.select items = kept ++ rest) : Finds f items closed (.ready kept)
  | nothing (h : f.select items = []) :
      Finds f items closed (if closed then .ended else .pending)

/-- A batch of which nothing is left does not matter. -/
theorem Finds.pass {f : Filter} {batch items : List PacketRecord} {closed : Bool}
    {result : Poll PacketRecord} (h : Finds f items closed result) (hb : f.select batch = []) :
    Finds f (batch ++ items) closed result := by
  cases h with
  | batch kept rest hne h =>
      refine .batch kept rest hne ?_
      rw [Filter.select_append, hb, List.nil_append, h]
  | nothing h =>
      refine .nothing ?_
      rw [Filter.select_append, hb, List.nil_append, h]

variable {f : Filter} {channel : Channel PacketRecord}

theorem passed_eq_none_iff {result : Poll PacketRecord} :
    passed f result = none ↔ ∃ batch, result = .ready batch ∧ f.select batch = [] := by
  cases result with
  | ready batch => simp [passed]
  | ended => simp [passed]
  | pending => simp [passed]

theorem passed_eq_some_iff {result r : Poll PacketRecord} :
    passed f result = some r ↔
      (∃ batch, result = .ready batch ∧ f.select batch ≠ [] ∧ r = .ready (f.select batch)) ∨
        ((∀ batch, result ≠ .ready batch) ∧ r = result) := by
  cases result with
  | ready batch => simp [passed, @eq_comm _ r]
  | ended => simp [passed, @eq_comm _ r]
  | pending => simp [passed, @eq_comm _ r]

theorem items_of_passed {result r : Poll PacketRecord} (h : passed f result = some r) :
    r.items = f.select result.items := by
  obtain ⟨batch, rfl, -, rfl⟩ | ⟨hr, rfl⟩ := passed_eq_some_iff.1 h
  · rfl
  · cases r with
    | ready batch => exact absurd rfl (hr batch)
    | ended => rfl
    | pending => rfl

/-- An answer that passes the filter is what was to be found. -/
theorem finds_of_passed {items rest : List PacketRecord} {closed : Bool}
    {result r : Poll PacketRecord} (hitems : items = result.items ++ rest)
    (hresult : (items = [] ∧ result = if closed then .ended else .pending) ∨
      ∃ batch, result = .ready batch)
    (hp : passed f result = some r) : Finds f items closed r := by
  obtain ⟨batch, rfl, hb, rfl⟩ | ⟨hr, rfl⟩ := passed_eq_some_iff.1 hp
  · refine .batch (f.select batch) (f.select rest) hb ?_
    rw [hitems, Poll.items_ready, Filter.select_append]
  · rcases hresult with ⟨rfl, rfl⟩ | ⟨batch, rfl⟩
    · exact .nothing (Filter.select_nil f)
    · exact absurd rfl (hr batch)

/-- A stream is asked again when nothing is left of its batch. -/
theorem askWithin_of_passed (rounds : Nat) (h : passed f (askStream channel stream).1 = none) :
    askWithin (rounds + 1) ⟨0, stream, some f⟩ channel =
      askWithin rounds ⟨0, (askStream channel stream).2.1, some f⟩
        (askStream channel stream).2.2 := by
  rw [askWithin]
  generalize askStream channel stream = asked at h ⊢
  obtain ⟨result, stream', channel'⟩ := asked
  obtain ⟨batch, rfl, hb⟩ := passed_eq_none_iff.1 h
  have hempty : (selected (some f) batch).isEmpty = true := List.isEmpty_iff.2 hb
  simp only [hempty, if_true]

theorem askWithin_of_some (rounds : Nat) {r : Poll PacketRecord}
    (h : passed f (askStream channel stream).1 = some r) :
    askWithin (rounds + 1) ⟨0, stream, some f⟩ channel =
      (r, ⟨0, (askStream channel stream).2.1, some f⟩, (askStream channel stream).2.2) := by
  rw [askWithin]
  generalize askStream channel stream = asked at h ⊢
  obtain ⟨result, stream', channel'⟩ := asked
  obtain ⟨batch, rfl, hb, rfl⟩ | ⟨hr, rfl⟩ := passed_eq_some_iff.1 h
  · have hkept : (selected (some f) batch).isEmpty = false := List.isEmpty_eq_false_iff.2 hb
    simp only [hkept, Bool.false_eq_true, if_false]
    rfl
  · cases r with
    | ready batch => exact absurd rfl (hr batch)
    | ended => rfl
    | pending => rfl

/-- Asking through a filter is asking until something is left, and as often as there are
records in the queue is enough. -/
theorem exists_asks (hc : h.Consistent []) (hl : h.streams.lookup name = some stream) {rounds : Nat}
    (hr : waiting ⟨0, stream, some f⟩ h.channel < rounds) :
    ∃ n, let r := askWithin rounds ⟨0, stream, some f⟩ h.channel
      after none name h (List.replicate (n + 1) .ask) = putBack h name r.2.1.stream r.2.2 ∧
        (answers none name h (List.replicate (n + 1) .ask)).filterMap (passed f) = [r.1] ∧
        Finds f (h.channel.itemsAt stream.queue) h.channel.closed r.1 := by
  induction rounds generalizing h stream with
  | zero => exact absurd hr (Nat.not_lt_zero _)
  | succ rounds ih =>
      obtain ⟨hitems, hresult⟩ := itemsAt_askStream hc hl
      have hnext := next_none hc hl
      have hfirst : ∀ ts, after none name h (.ask :: ts) =
          after none name (next none name h).2 ts := fun _ => rfl
      have hanswer : ∀ ts, answers none name h (.ask :: ts) =
          (askStream h.channel stream).1 :: answers none name (next none name h).2 ts := fun ts => by
        rw [answers, turn, hnext]
        rfl
      cases hp : passed f (askStream h.channel stream).1 with
      | some r =>
          rw [askWithin_of_some rounds hp]
          refine ⟨0, ?_, ?_, finds_of_passed hitems hresult hp⟩
          · rw [List.replicate_one, hfirst, hnext]
            rfl
          · rw [List.replicate_one, hanswer]
            exact List.filterMap_cons_some hp
      | none =>
          rw [askWithin_of_passed rounds hp]
          obtain ⟨batch, hbatch, hb⟩ := passed_eq_none_iff.1 hp
          have hc' := consistent_turn hc name .ask
          have hclosed : (next none name h).2.channel.closed = h.channel.closed := by
            rw [snd_next_none hc hl]
            exact hc.closed_step nofun
          rw [turn, hnext] at hc'
          rw [hnext] at hfirst hanswer hclosed
          have hshort := waiting_askStream_lt hc hl hbatch (some f)
          obtain ⟨n, hafter, hanswers, hfinds⟩ :=
            ih hc' (lookup_putBack h name _ _) (Nat.lt_of_lt_of_le hshort (Nat.le_of_lt_succ hr))
          refine ⟨n + 1, ?_, ?_, ?_⟩
          · rw [List.replicate_succ, hfirst, hafter, putBack_putBack]
            rfl
          · rw [List.replicate_succ, hanswer, List.filterMap_cons_none hp, hanswers]
            rfl
          · rw [hclosed, channel_putBack, ChannelHandles.queue_askStream] at hfinds
            rw [hitems, hbatch]
            exact hfinds.pass hb

/-- One question through a filter is some questions without one. -/
theorem exists_next (hc : h.Consistent []) (name : String) (f : Filter) :
    ∃ n, after none name h (List.replicate (n + 1) .ask) = (next (some f) name h).2 ∧
      (answers none name h (List.replicate (n + 1) .ask)).filterMap (passed f) =
        (next (some f) name h).1.toList := by
  cases hl : h.streams.lookup name with
  | none =>
      have hnone : ∀ filter?, next filter? name h = (none, h) := fun filter? => by rw [next, hl]
      refine ⟨0, ?_, ?_⟩
      · rw [List.replicate_one, after, turn, hnone, hnone]
        rfl
      · rw [List.replicate_one, answers, turn, hnone, hnone]
        rfl
  | some stream =>
      obtain ⟨n, hafter, hanswers, -⟩ := exists_asks (f := f) hc hl (Nat.lt_succ_self _)
      rw [next, hl]
      exact ⟨n, hafter, hanswers⟩

theorem exists_finds (hc : h.Consistent []) (hl : h.streams.lookup name = some stream)
    (f : Filter) : ∃ r, (next (some f) name h).1 = some r ∧
      Finds f (h.channel.itemsAt stream.queue) h.channel.closed r := by
  obtain ⟨-, -, -, hfinds⟩ := exists_asks (f := f) hc hl (Nat.lt_succ_self _)
  rw [next, hl]
  exact ⟨_, rfl, hfinds⟩

end Stream

/-! ## Whole subscriptions -/

section Whole

variable {h : ChannelHandles PacketRecord}

/-- Whatever happens in between, the answers through a filter are the filtered answers to a
subscription that asks the same stream without one. -/
theorem exists_plan (hc : h.Consistent []) (name : String) (f : Filter) (turns : List Turn) :
    ∃ plan, Expands turns plan ∧ after none name h plan = after (some f) name h turns ∧
      (answers none name h plan).filterMap (passed f) = answers (some f) name h turns := by
  induction turns generalizing h with
  | nil => exact ⟨[], .nil, rfl, rfl⟩
  | cons t turns ih =>
      cases t with
      | step x =>
          obtain ⟨plan, hplan, hafter, hanswers⟩ := ih (hc.step x)
          exact ⟨.step x :: plan, .step x hplan, hafter, hanswers⟩
      | ask =>
          obtain ⟨n, hnext, hanswer⟩ := exists_next hc name f
          have hc' := consistent_after hc name (List.replicate (n + 1) .ask)
          rw [hnext] at hc'
          obtain ⟨plan, hplan, hafter, hanswers⟩ := ih hc'
          refine ⟨_, .ask n hplan, ?_, ?_⟩
          · rw [after_append, hnext, hafter]
            rfl
          · rw [answers_append, List.filterMap_append, hnext, hanswer, hanswers]
            rfl

theorem flatMap_items_passed (f : Filter) (results : List (Poll PacketRecord)) :
    (results.filterMap (passed f)).flatMap Poll.items =
      f.select (results.flatMap Poll.items) := by
  induction results with
  | nil => rfl
  | cons result results ih =>
      rw [List.flatMap_cons, Filter.select_append, ← ih]
      cases hp : passed f result with
      | none =>
          obtain ⟨batch, rfl, hb⟩ := passed_eq_none_iff.1 hp
          rw [List.filterMap_cons_none hp, Poll.items_ready, hb, List.nil_append]
      | some r => rw [List.filterMap_cons_some hp, List.flatMap_cons, items_of_passed hp]

theorem ended_mem_passed_iff (f : Filter) (results : List (Poll PacketRecord)) :
    .ended ∈ results.filterMap (passed f) ↔ .ended ∈ results := by
  rw [List.mem_filterMap]
  constructor
  · rintro ⟨result, hr, hp⟩
    obtain ⟨batch, -, -, he⟩ | ⟨-, rfl⟩ := passed_eq_some_iff.1 hp
    · cases he
    · exact hr
  · exact fun hr => ⟨.ended, hr, rfl⟩

theorem ne_nil_of_mem_passed {f : Filter} {results : List (Poll PacketRecord)}
    {kept : List PacketRecord} (h : .ready kept ∈ results.filterMap (passed f)) : kept ≠ [] := by
  obtain ⟨result, -, hp⟩ := List.mem_filterMap.1 h
  obtain ⟨batch, -, hb, he⟩ | ⟨hr, rfl⟩ := passed_eq_some_iff.1 hp
  · rwa [Poll.ready.inj he]
  · exact absurd rfl (hr kept)

/-- Whatever else happens on a channel, a subscription with a filter gets what the filter
selects of the batches that one without a filter gets, which asks the same stream at the same
times, only more often.  So both have the same records to come, put together the batches of
the first are the selected records in their order, none of them is empty, and it is told the
end when the other one is.  A question without a filter is one question to the stream.  A
question through a filter finds the first of the selected records that wait in the queue, and
is told that there are none only when there are none. -/
theorem filtered_batches_are_selected (capacity size : Nat)
    (steps : List (ChannelStep PacketRecord)) (name : String) (f : Filter) (turns : List Turn) :
    let h := (ChannelHandles.make capacity size).after steps
    let h' := after (some f) name h turns
    let filtered := answers (some f) name h turns
    (∃ plan, Expands turns plan ∧ after none name h plan = h' ∧
      filtered = (answers none name h plan).filterMap (passed f) ∧
      filtered.flatMap Poll.items = f.select ((answers none name h plan).flatMap Poll.items) ∧
      (.ended ∈ filtered ↔ .ended ∈ answers none name h plan)) ∧
      (∀ batch, .ready batch ∈ filtered → batch ≠ []) ∧
      ∀ stream, h'.streams.lookup name = some stream →
        (next none name h').1 = some (askStream h'.channel stream).1 ∧
          ∃ result, (next (some f) name h').1 = some result ∧
            Finds f (h'.channel.itemsAt stream.queue) h'.channel.closed result := by
  intro h h' filtered
  have hc : h.Consistent [] := ChannelHandles.consistent_after_make capacity size steps
  obtain ⟨plan, hplan, (hafter : after none name h plan = h'), hanswers⟩ :=
    exists_plan hc name f turns
  have hfiltered : filtered = (answers none name h plan).filterMap (passed f) := hanswers.symm
  have hc' : h'.Consistent [] := by
    rw [← hafter]
    exact consistent_after hc name plan
  rw [hfiltered]
  refine ⟨⟨plan, hplan, hafter, rfl, flatMap_items_passed f _, ended_mem_passed_iff f _⟩,
    fun _ hb => ne_nil_of_mem_passed hb, fun stream hl => ⟨?_, exists_finds hc' hl f⟩⟩
  rw [next_none hc' hl]

/-- A record that was sent to a port. -/
def recordTo (port : UInt16) : PacketRecord := { (default : PacketRecord) with dstPort := port }

/-- Two batches of one record each come, and the filter selects the second record.  The first
question passes over the first batch, and the second question is told the end. -/
theorem filtered_batches_are_selected_port :
    let h := (ChannelHandles.make 4 1).after [.subscribe "rx", .stream "rx" "batches" .batch]
    let turns : List Turn := [.step (.send (recordTo 80)), .step (.send (recordTo 53)), .ask,
      .step .close, .ask]
    answers (some (.destPort 53)) "batches" h turns = [.ready [recordTo 53], .ended] ∧
      [recordTo 53] ≠ [] ∧
      ∃ plan, Expands turns plan ∧ .ended ∈ answers none "batches" h plan ∧
        (Filter.destPort 53).select ((answers none "batches" h plan).flatMap Poll.items) =
          [recordTo 53] := by
  intro h turns
  obtain ⟨⟨plan, hplan, -, -, hitems, hended⟩, hne, -⟩ := filtered_batches_are_selected 4 1
    [.subscribe "rx", .stream "rx" "batches" .batch] "batches" (.destPort 53) turns
  have hanswers : answers (some (.destPort 53)) "batches" h turns =
      [.ready [recordTo 53], .ended] := by decide +kernel
  rw [hanswers] at hitems hended hne
  refine ⟨hanswers, hne _ List.mem_cons_self, plan, hplan, ?_, hitems.symm⟩
  exact hended.1 (List.mem_cons_of_mem _ List.mem_cons_self)

end Whole

end PacketMeter.Session.Subscription
