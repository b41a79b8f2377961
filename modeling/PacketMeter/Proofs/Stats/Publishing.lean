import Mathlib.Data.List.TakeWhile
import PacketMeter.Proofs.Channel.Wakeup
import PacketMeter.Stats.Publisher

/-!
# What a publisher keeps and hands on

A publisher puts a snapshot down as the last one and then sends it.  Until it is closed nothing
that was made is refused, so that the last snapshot is the one that was published last, and every
queue that is held ends in it at the moment of its publication.

A closed publisher refuses what is made, and hands nothing on.  But it has put the snapshot down
before, so that from then on the last snapshot is one that nobody was handed.
-/

namespace PacketMeter

/-- Whether a step is one of those who receive. -/
def ChannelStep.isReceivers {α : Type} : ChannelStep α → Bool
  | .subscribe _ | .clone _ _ | .drop _ | .tryBatch _ | .receive _ _ | .inspect _ | .wait _ _ _
  | .poll _ | .cancel _ | .stream _ _ _ | .next _ | .dropStream _ => true
  | .send _ | .sendAll _ | .close | .askSender | .cloneSender | .dropSender => false

namespace Stats

/-- A publisher, and those who receive from it under names. -/
structure Publication (α : Type) where
  handles : ChannelHandles α
  latest? : Option α

namespace Publication

variable {α : Type}

def publisher (p : Publication α) : Publisher α := ⟨p.handles.channel, p.latest?⟩

/-- Those who receive are left with another state of the publisher. -/
def withPublisher (p : Publication α) (publisher : Publisher α) : Publication α :=
  ⟨{ p.handles with channel := publisher.channel }, publisher.latest?⟩

/-- A new publisher, from which nobody receives yet. -/
def make (capacity : Nat) : Publication α := ⟨ChannelHandles.make capacity 1, none⟩

/-- What is done to a publisher: something is to be published that was made or could not be
made, the publisher is closed, or one of those who receive takes a step. -/
inductive Action (α : Type) where
  | publish (made : Except Failure α)
  | close
  | receivers (step : ChannelStep α) (h : step.isReceivers = true)

def act (p : Publication α) : Action α → Publication α
  | .publish made => p.withPublisher (p.publisher.publish made).2
  | .close => p.withPublisher p.publisher.close
  | .receivers step _ => { p with handles := (p.handles.step step).2 }

/-- The publication after several actions. -/
def after (p : Publication α) (xs : List (Action α)) : Publication α := xs.foldl act p

def Action.isClose : Action α → Bool
  | .close => true
  | .publish _ | .receivers _ _ => false

/-- The snapshot that was made for an action. -/
def Action.made? : Action α → Option α
  | .publish (.ok snapshot) => some snapshot
  | .publish (.error _) | .close | .receivers _ _ => none

/-- The snapshots that were made. -/
def made (xs : List (Action α)) : List α := xs.filterMap Action.made?

/-- The snapshot that an action publishes. -/
def published? (p : Publication α) : Action α → Option α
  | .publish made => (p.publisher.publish made).1.toOption
  | .close | .receivers _ _ => none

/-- The snapshots that are published along a run. -/
def published (p : Publication α) : List (Action α) → List α
  | [] => []
  | x :: xs => (p.published? x).toList ++ (p.act x).published xs

end Publication

namespace Publisher

variable {α : Type} {p : Publisher α}

theorem publish_of_open (h : p.channel.closed = false) (snapshot : α) :
    p.publish (.ok snapshot) = (.ok snapshot, ⟨(p.channel.send snapshot).2, some snapshot⟩) := by
  rw [publish, Channel.send, if_neg (Bool.eq_false_iff.1 h)]

theorem publish_of_closed (h : p.channel.closed = true) (snapshot : α) :
    p.publish (.ok snapshot) = (.error .closed, ⟨p.channel, some snapshot⟩) := by
  rw [publish, Channel.send_of_closed snapshot h]

/-- A publication fails before anything is put down, is refused after that, or works. -/
theorem publish_cases (p : Publisher α) (outcome : Except Failure α) :
    (∃ f, outcome = .error f ∧ p.publish outcome = (.error f, p)) ∨
      (∃ snapshot, outcome = .ok snapshot ∧ p.channel.closed = true ∧
        p.publish outcome = (.error .closed, ⟨p.channel, some snapshot⟩)) ∨
      ∃ snapshot, outcome = .ok snapshot ∧ p.channel.closed = false ∧
        p.publish outcome = (.ok snapshot, ⟨(p.channel.send snapshot).2, some snapshot⟩) := by
  cases outcome with
  | error f => exact .inl ⟨f, rfl, rfl⟩
  | ok snapshot =>
      cases h : p.channel.closed with
      | true => exact .inr (.inl ⟨snapshot, rfl, rfl, publish_of_closed h snapshot⟩)
      | false => exact .inr (.inr ⟨snapshot, rfl, rfl, publish_of_open h snapshot⟩)

theorem channel_publish_ok (p : Publisher α) (snapshot : α) :
    (p.publish (.ok snapshot)).2.channel = (p.channel.send snapshot).2 := by
  cases h : p.channel.closed with
  | false => rw [publish_of_open h]
  | true => rw [publish_of_closed h, Channel.send_of_closed snapshot h]

end Publisher

namespace Publication

variable {α : Type} {p : Publication α} {capacity : Nat}

@[simp] theorem after_nil (p : Publication α) : p.after [] = p := rfl

@[simp] theorem after_cons (p : Publication α) (x : Action α) (xs : List (Action α)) :
    p.after (x :: xs) = (p.act x).after xs := rfl

/-- What every action keeps: the books of those who receive, and the room of the queues. -/
structure Kept (capacity : Nat) (p : Publication α) : Prop where
  consistent : p.handles.Consistent []
  capacity_eq : p.handles.channel.capacity = max capacity 1

theorem kept_make (capacity : Nat) : (make capacity : Publication α).Kept capacity where
  consistent := ChannelHandles.consistent_make capacity 1
  capacity_eq := rfl

theorem act_publish_ok (p : Publication α) (snapshot : α) :
    p.act (.publish (.ok snapshot)) =
      ⟨{ p.handles with channel := (p.handles.channel.send snapshot).2 }, some snapshot⟩ := by
  rw [act, withPublisher, Publisher.channel_publish_ok, Publisher.latest?_publish_ok]
  rfl

theorem Kept.act (h : p.Kept capacity) (x : Action α) : (p.act x).Kept capacity := by
  cases x with
  | publish made =>
      cases made with
      | error f => exact h
      | ok snapshot =>
          rw [act_publish_ok]
          exact ⟨h.consistent.send snapshot,
            (Channel.capacity_act _ (.send snapshot)).trans h.capacity_eq⟩
  | close => exact ⟨h.consistent.close, h.capacity_eq⟩
  | receivers step =>
      exact ⟨h.consistent.step step, (h.consistent.capacity_step step).trans h.capacity_eq⟩

theorem Kept.after (h : p.Kept capacity) (xs : List (Action α)) :
    (p.after xs).Kept capacity := by
  induction xs generalizing p with
  | nil => exact h
  | cons x xs ih => exact ih (h.act x)

/-! ## The last snapshot -/

theorem latest?_act (p : Publication α) (x : Action α) :
    (p.act x).latest? = x.made?.or p.latest? := by
  cases x with
  | publish made =>
      cases made with
      | error => rfl
      | ok snapshot =>
          rw [act_publish_ok]
          rfl
  | close | receivers => rfl

theorem made_cons (x : Action α) (xs : List (Action α)) :
    made (x :: xs) = x.made?.toList ++ made xs := by
  cases h : x.made? with
  | none => exact List.filterMap_cons_none h
  | some snapshot => exact List.filterMap_cons_some h

theorem latest?_after (p : Publication α) (xs : List (Action α)) :
    (p.after xs).latest? = (made xs).getLast?.or p.latest? := by
  induction xs generalizing p with
  | nil => rfl
  | cons x xs ih =>
      rw [after_cons, ih, latest?_act, made_cons, List.getLast?_append, Option.or_assoc]
      cases x.made? with
      | none => rfl
      | some => rfl

/-! ## What is published -/

theorem Kept.closed_act (h : p.Kept capacity) (x : Action α) :
    (p.act x).handles.channel.closed = (p.handles.channel.closed || x.isClose) := by
  cases x with
  | publish made =>
      rw [Action.isClose, Bool.or_false]
      cases made with
      | error => rfl
      | ok snapshot =>
          rw [act_publish_ok]
          exact Channel.closed_send p.handles.channel snapshot
  | close => exact (Bool.or_true _).symm
  | receivers step hr =>
      rw [Action.isClose, Bool.or_false]
      refine h.consistent.closed_step ?_
      rintro rfl
      cases hr

theorem Kept.closed_after (h : p.Kept capacity) (xs : List (Action α)) :
    (p.after xs).handles.channel.closed =
      (p.handles.channel.closed || xs.any Action.isClose) := by
  induction xs generalizing p with
  | nil => exact (Bool.or_false _).symm
  | cons x xs ih => rw [after_cons, ih (h.act x), h.closed_act, List.any_cons, Bool.or_assoc]

theorem published?_of_open (ho : p.handles.channel.closed = false) (x : Action α) :
    p.published? x = x.made? := by
  cases x with
  | publish made =>
      cases made with
      | error => rfl
      | ok snapshot =>
          rw [published?, Publisher.publish_of_open (p := p.publisher) ho]
          rfl
  | close | receivers => rfl

theorem published?_of_closed (hc : p.handles.channel.closed = true) (x : Action α) :
    p.published? x = none := by
  cases x with
  | publish made =>
      cases made with
      | error => rfl
      | ok snapshot =>
          rw [published?, Publisher.publish_of_closed (p := p.publisher) hc]
          rfl
  | close | receivers => rfl

theorem Kept.published_of_closed (h : p.Kept capacity) (hc : p.handles.channel.closed = true)
    (xs : List (Action α)) : p.published xs = [] := by
  induction xs generalizing p with
  | nil => rfl
  | cons x xs ih =>
      have hnext : (p.act x).handles.channel.closed = true := by
        rw [h.closed_act, hc, Bool.true_or]
      rw [published, published?_of_closed hc, ih (h.act x) hnext]
      rfl

/-- What is made before the close is published, and nothing else. -/
theorem Kept.published_eq (h : p.Kept capacity) (ho : p.handles.channel.closed = false)
    (xs : List (Action α)) :
    p.published xs = made (xs.takeWhile fun x => !x.isClose) := by
  induction xs generalizing p with
  | nil => rfl
  | cons x xs ih =>
      have hnext := h.closed_act x
      rw [ho, Bool.false_or] at hnext
      rw [published, published?_of_open ho]
      cases hx : x.isClose with
      | false =>
          rw [hx] at hnext
          rw [ih (h.act x) hnext, List.takeWhile_cons_of_pos (by rw [hx]; rfl), made_cons]
      | true =>
          rw [hx] at hnext
          rw [(h.act x).published_of_closed hnext, List.takeWhile_cons_of_neg (by rw [hx]; simp)]
          cases x with
          | close => rfl
          | publish | receivers => cases hx

/-- A queue that is held gets what is sent at its end. -/
theorem Kept.queue_send (h : p.Kept capacity) (ho : p.handles.channel.closed = false)
    {i : Nat} (hi : p.handles.IsHeld i) (snapshot : α) :
    ∃ q, p.handles.channel.queue? i = some q ∧
      (p.handles.channel.send snapshot).2.queue? i = some (q.push (max capacity 1) snapshot) := by
  obtain ⟨q, hq, hp⟩ := h.consistent.exists_queue hi
  refine ⟨q, hq, ?_⟩
  have ha : q.attached = true := by rw [(h.consistent.channel.served hq hp).1, ho]; rfl
  rw [Channel.queue?_send, hq, Option.map_some, ho, if_neg Bool.false_ne_true, h.capacity_eq,
    ItemQueue.deliver, if_pos ha, if_neg (Nat.pos_iff_ne_zero.1 hp)]

/-- What works when something is published. -/
theorem Kept.of_publish_ok (h : p.Kept capacity) {outcome : Except Failure α} {snapshot : α}
    (hp : (p.publisher.publish outcome).1 = .ok snapshot) :
    outcome = .ok snapshot ∧ p.handles.channel.closed = false ∧
      (p.publisher.publish outcome).2.latest? = some snapshot ∧
      ∀ i, p.handles.IsHeld i → ∃ q q' kept, p.handles.channel.queue? i = some q ∧
        (p.publisher.publish outcome).2.channel.queue? i = some q' ∧
        q'.items = kept ++ [snapshot] ∧ (kept = q.items ∨ kept = q.items.drop 1) := by
  obtain ⟨f, ho, hn⟩ | ⟨made, ho, hc, hn⟩ | ⟨made, ho, hc, hn⟩ :=
    p.publisher.publish_cases outcome
  · rw [hn] at hp
    cases hp
  · rw [hn] at hp
    cases hp
  · rw [hn] at hp ⊢
    obtain rfl := Except.ok.inj hp
    refine ⟨ho, hc, rfl, fun i hi => ?_⟩
    obtain ⟨q, hq, hq'⟩ := h.queue_send hc hi made
    refine ⟨q, _, _, hq, hq', ItemQueue.items_push _ q made, ?_⟩
    split
    · exact .inr rfl
    · exact .inl rfl

/-- What fails when something is published. -/
theorem of_publish_error {outcome : Except Failure α} {f : Failure}
    (hp : (p.publisher.publish outcome).1 = .error f) :
    (p.publisher.publish outcome).2.channel = p.handles.channel ∧
      (outcome = .error f ∧ (p.publisher.publish outcome).2.latest? = p.latest? ∨
        p.handles.channel.closed = true ∧ ∃ snapshot, outcome = .ok snapshot ∧
          (p.publisher.publish outcome).2.latest? = some snapshot) := by
  obtain ⟨g, ho, hn⟩ | ⟨made, ho, hc, hn⟩ | ⟨made, ho, hc, hn⟩ :=
    p.publisher.publish_cases outcome
  · rw [hn] at hp ⊢
    obtain rfl := Except.error.inj hp
    exact ⟨rfl, .inl ⟨ho, rfl⟩⟩
  · rw [hn]
    exact ⟨rfl, .inr ⟨hc, made, ho, rfl⟩⟩
  · rw [hn] at hp
    cases hp

/-- Whatever is published, received and closed, the last snapshot is the one that was made last.
What was made before the close was published, and nothing else.  So the last snapshot of an open
publisher is the one that was published last.

A publication that works puts its snapshot down as the last one and at the end of every queue that
somebody holds, which lost at most its oldest snapshot for it.  A publication that fails hands
nothing on.  When nothing could be made, the last snapshot is left alone.  Otherwise the publisher
was closed, and its last snapshot is now the one that it refused to publish. -/
theorem latest_and_queues (capacity : Nat) (xs : List (Action α)) :
    let p : Publication α := (make capacity).after xs
    let closed := p.handles.channel.closed
    p.latest? = (made xs).getLast? ∧
      (make capacity).published xs = made (xs.takeWhile fun x => !x.isClose) ∧
      closed = xs.any Action.isClose ∧
      (closed = false → p.latest? = ((make capacity).published xs).getLast?) ∧
      ∀ outcome,
        let next := p.publisher.publish outcome
        (∀ snapshot, next.1 = .ok snapshot →
          outcome = .ok snapshot ∧ closed = false ∧ next.2.latest? = some snapshot ∧
            ∀ i, p.handles.IsHeld i → ∃ q q' kept, p.handles.channel.queue? i = some q ∧
              next.2.channel.queue? i = some q' ∧ q'.items = kept ++ [snapshot] ∧
              (kept = q.items ∨ kept = q.items.drop 1)) ∧
        ∀ f, next.1 = .error f → next.2.channel = p.handles.channel ∧
          (outcome = .error f ∧ next.2.latest? = p.latest? ∨
            closed = true ∧ ∃ snapshot, outcome = .ok snapshot ∧
              next.2.latest? = some snapshot) := by
  intro p closed
  have h : p.Kept capacity := (kept_make capacity).after xs
  have hlatest : p.latest? = (made xs).getLast? := by
    rw [latest?_after]
    exact Option.or_none
  have hpublished : (make capacity).published xs = made (xs.takeWhile fun x => !x.isClose) :=
    (kept_make capacity).published_eq rfl xs
  have hclosed : closed = xs.any Action.isClose := (kept_make capacity).closed_after xs
  refine ⟨hlatest, hpublished, hclosed, fun ho => ?_, fun outcome => ?_⟩
  · have hopen : xs.takeWhile (fun x => !x.isClose) = xs := by
      rw [hclosed, List.any_eq_false] at ho
      rw [List.takeWhile_eq_self_iff]
      exact fun x hx => by rw [Bool.eq_false_iff.2 (ho x hx)]; rfl
    rw [hlatest, hpublished, hopen]
  · exact ⟨fun _ hp => h.of_publish_ok hp, fun _ hp => of_publish_error hp⟩

/-- Three snapshots are published to a subscriber with room for two, and one could not be made.
The last one is also the end of what the subscriber has left. -/
theorem latest_and_queues_overflow :
    let xs : List (Action Nat) := [.receivers (.subscribe "a") rfl, .publish (.ok 1),
      .publish (.error .closed), .publish (.ok 2)]
    let p : Publication Nat := (make 2).after xs
    p.latest? = ((make 2).published xs).getLast? ∧
      ∃ q q' kept, p.handles.channel.queue? 0 = some q ∧
        (p.publisher.publish (.ok 3)).2.channel.queue? 0 = some q' ∧ q'.items = kept ++ [3] ∧
        (kept = q.items ∨ kept = q.items.drop 1) := by
  intro xs p
  obtain ⟨-, -, -, hopen, hnext⟩ := latest_and_queues 2 xs
  obtain ⟨-, -, -, hqueues⟩ := (hnext (.ok 3)).1 3 rfl
  exact ⟨hopen rfl, hqueues 0 (.inl ⟨("a", 0), List.mem_cons_self, rfl⟩)⟩

/-- What a closed publisher refuses is its last snapshot all the same. -/
theorem refused_is_latest :
    ¬ ∀ (capacity : Nat) (xs : List (Action Nat)) (outcome : Except Failure Nat) (f : Failure),
      let p : Publication Nat := (make capacity).after xs
      (p.publisher.publish outcome).1 = .error f →
        (p.publisher.publish outcome).2.latest? = p.latest? := by
  intro h
  cases h 2 [.receivers (.subscribe "a") rfl, .publish (.ok 1), .close] (.ok 2) .closed rfl

end Publication

end Stats

end PacketMeter
