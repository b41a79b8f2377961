import PacketMeter.Proofs.Stats.Switching

/-!
# Feeds that are left counting

Native feeds can be watched: the questions to them are noted in their order, each with whether
it worked.  A feed counts from the moment it is switched on until it is told to stop.

Along a run the installed feed has been switched on and cleared, and nothing has told it to
stop.  Every other feed that was switched on has been told to stop, but for one case: a feed
that can be switched on and then cannot be cleared is not installed, and nobody tells it to
stop.  It counts on unused.
-/

namespace PacketMeter.Stats

namespace Feed

/-- A question without its answer. -/
inductive Request where
  | enable (on : Bool)
  | clear
  | totals
  | protocols (limit : Nat)
  | sources (limit : Nat)
  | destinations (limit : Nat)
  | ports (limit : Nat)
  deriving DecidableEq, Repr, Inhabited

/-- Whether a feed is told to count or to stop counting. -/
def Request.isEnable : Request → Bool
  | .enable _ => true
  | .clear | .totals | .protocols _ | .sources _ | .destinations _ | .ports _ => false

def Request.of {α : Type} : FeedCall α → Request
  | .enable on => .enable on
  | .clear => .clear
  | .totals => .totals
  | .protocols limit => .protocols limit
  | .sources limit => .sources limit
  | .destinations limit => .destinations limit
  | .ports limit => .ports limit

/-- A question that a feed was asked, and whether it had an answer. -/
structure Note where
  feed : Nat
  request : Request
  worked : Bool
  deriving DecidableEq, Repr, Inhabited

/-- Feeds with the questions that they were asked. -/
structure Noted (σ : Type) where
  feeds : σ
  notes : List Note

/-- Feeds that were not asked yet. -/
def Noted.of {σ : Type} (feeds : σ) : Noted σ := ⟨feeds, []⟩

variable {σ : Type}

instance [FeedHost σ] : FeedHost (Noted σ) where
  answer n question s :=
    let (outcome, feeds) := FeedHost.answer n question s.feeds
    (outcome, ⟨feeds, s.notes ++ [⟨n, .of question, outcome.isOk⟩]⟩)

/-! ## What the notes tell of a feed -/

/-- A feed was switched on, and was not told to stop afterwards. -/
def LeftOn (n : Nat) (notes : List Note) : Prop :=
  ∃ before after, notes = before ++ ⟨n, .enable true, true⟩ :: after ∧
    ∀ worked, ⟨n, .enable false, worked⟩ ∉ after

/-- A feed was switched on and cleared, and was neither switched on nor told to stop
afterwards. -/
def Taken (n : Nat) (notes : List Note) : Prop :=
  ∃ before after, notes = before ++ ⟨n, .enable true, true⟩ :: ⟨n, .clear, true⟩ :: after ∧
    ∀ on worked, ⟨n, .enable on, worked⟩ ∉ after

/-- When a feed was last switched on it could not be cleared, and it was not told to stop
afterwards. -/
def Stranded (n : Nat) (notes : List Note) : Prop :=
  ∃ before after, notes = before ++ ⟨n, .enable true, true⟩ :: ⟨n, .clear, false⟩ :: after ∧
    ⟨n, .enable true, true⟩ ∉ after ∧ ∀ worked, ⟨n, .enable false, worked⟩ ∉ after

section Notes

variable {n : Nat} {notes added : List Note}

theorem Taken.append (h : Taken n notes) (hadded : ∀ on worked, ⟨n, .enable on, worked⟩ ∉ added) :
    Taken n (notes ++ added) := by
  obtain ⟨before, after, rfl, hafter⟩ := h
  refine ⟨before, after ++ added, by simp, fun on worked => ?_⟩
  exact List.not_mem_append (hafter on worked) (hadded on worked)

theorem Stranded.append (h : Stranded n notes) (hon : ⟨n, .enable true, true⟩ ∉ added)
    (hoff : ∀ worked, ⟨n, .enable false, worked⟩ ∉ added) : Stranded n (notes ++ added) := by
  obtain ⟨before, after, rfl, hafter, hafter'⟩ := h
  refine ⟨before, after ++ added, by simp, List.not_mem_append hafter hon, fun worked => ?_⟩
  exact List.not_mem_append (hafter' worked) (hoff worked)

/-- A feed that is left on and was not switched on lately has been on before. -/
theorem LeftOn.of_append (h : LeftOn n (notes ++ added))
    (hon : ⟨n, .enable true, true⟩ ∉ added) :
    LeftOn n notes ∧ ∀ worked, ⟨n, .enable false, worked⟩ ∉ added := by
  obtain ⟨before, after, heq, hafter⟩ := h
  rcases List.append_eq_append_iff.1 heq with ⟨middle, rfl, hadded⟩ | ⟨middle, rfl, hmiddle⟩
  · refine absurd ?_ hon
    rw [hadded]
    exact List.mem_append_right _ List.mem_cons_self
  · cases middle with
    | nil =>
        refine absurd ?_ hon
        rw [List.nil_append] at hmiddle
        rw [← hmiddle]
        exact List.mem_cons_self
    | cons x middle =>
        rw [List.cons_append, List.cons.injEq] at hmiddle
        obtain ⟨rfl, rfl⟩ := hmiddle
        refine ⟨⟨before, middle, rfl, fun worked hm => ?_⟩, fun worked hm => ?_⟩
        · exact hafter worked (List.mem_append_left _ hm)
        · exact hafter worked (List.mem_append_right _ hm)

theorem Stranded.leftOn (h : Stranded n notes) : LeftOn n notes := by
  obtain ⟨before, after, rfl, -, hafter⟩ := h
  refine ⟨before, _, rfl, fun worked hm => ?_⟩
  rcases List.mem_cons.1 hm with hm | hm
  · cases hm
  · exact hafter worked hm

/-- The installed feed counts, and another feed does so only if it could not be cleared. -/
structure Settled (feed? : Option Nat) (notes : List Note) : Prop where
  taken : ∀ n, feed? = some n → Taken n notes
  stranded : ∀ n, feed? ≠ some n → LeftOn n notes → Stranded n notes

theorem settled_nil : Settled none [] where
  taken _ h := by cases h
  stranded n _ h := by
    obtain ⟨before, after, heq, -⟩ := h
    simp at heq

variable {feed? : Option Nat}

/-- What is not switched on stays as it is. -/
theorem Settled.stranded_append (h : Settled feed? notes) (hn : feed? ≠ some n)
    (hon : ⟨n, .enable true, true⟩ ∉ added) (hleft : LeftOn n (notes ++ added)) :
    Stranded n (notes ++ added) := by
  obtain ⟨hbefore, hoff⟩ := hleft.of_append hon
  exact (h.stranded n hn hbefore).append hon hoff

/-- Other questions change nothing. -/
theorem Settled.quiet (h : Settled feed? notes)
    (hadded : ∀ x ∈ added, x.request.isEnable = false) : Settled feed? (notes ++ added) where
  taken n hn := (h.taken n hn).append fun _ _ hm => absurd (hadded _ hm).symm Bool.false_ne_true
  stranded _ hn := h.stranded_append hn fun hm => absurd (hadded _ hm).symm Bool.false_ne_true

/-- The installed feed is told to stop. -/
theorem Settled.released {n : Nat} (h : Settled (some n) notes) (worked : Bool) :
    Settled none (notes ++ [⟨n, .enable false, worked⟩]) where
  taken _ hk := by cases hk
  stranded k _ hleft := by
    have hon : (⟨k, .enable true, true⟩ : Note) ∉ [⟨n, .enable false, worked⟩] := by simp
    refine h.stranded_append ?_ hon hleft
    intro hk
    rw [Option.some.injEq] at hk
    subst hk
    exact (hleft.of_append hon).2 worked List.mem_cons_self

/-- A feed cannot be switched on. -/
theorem Settled.notEnabled (h : Settled none notes) (n : Nat) :
    Settled none (notes ++ [⟨n, .enable true, false⟩]) where
  taken _ hk := by cases hk
  stranded _ hk := h.stranded_append hk (by simp)

/-- A feed is switched on and then asked to clear itself. -/
theorem Settled.enabled (h : Settled none notes) (n : Nat) (worked : Bool) :
    Settled (if worked then some n else none)
      (notes ++ [⟨n, .enable true, true⟩, ⟨n, .clear, worked⟩]) where
  taken k hk := by
    cases worked with
    | false => cases hk
    | true =>
        obtain rfl : n = k := Option.some.inj hk
        exact ⟨notes, [], rfl, fun _ _ => List.not_mem_nil⟩
  stranded k hk hleft := by
    by_cases hkn : k = n
    · subst hkn
      cases worked with
      | false => exact ⟨notes, [], rfl, List.not_mem_nil, fun _ => List.not_mem_nil⟩
      | true => exact absurd rfl hk
    · exact h.stranded_append nofun (by simp [hkn]) hleft

end Notes

/-! ## What is asked -/

section Quiet

variable {s s' : Noted σ}

/-- Between two states no feed is switched on or told to stop. -/
def Quiet (s s' : Noted σ) : Prop :=
  ∃ added, s'.notes = s.notes ++ added ∧ ∀ x ∈ added, x.request.isEnable = false

theorem Quiet.rfl : Quiet s s := ⟨[], (List.append_nil _).symm, List.forall_mem_nil _⟩

theorem Quiet.trans {s₁ s₂ s₃ : Noted σ} (h : Quiet s₁ s₂) (h' : Quiet s₂ s₃) : Quiet s₁ s₃ := by
  obtain ⟨xs, hxs, hq⟩ := h
  obtain ⟨ys, hys, hq'⟩ := h'
  refine ⟨xs ++ ys, ?_, List.forall_mem_append.2 ⟨hq, hq'⟩⟩
  rw [hys, hxs, List.append_assoc]

theorem Quiet.andThen {α β : Type} {asked : Except Failure α × Noted σ}
    {next : α → Noted σ → Except Failure β × Noted σ} (h : Quiet s asked.2)
    (hnext : ∀ x s', Quiet s' (next x s').2) : Quiet s (andThen asked next).2 := by
  obtain ⟨outcome, s'⟩ := asked
  cases outcome with
  | ok x => exact h.trans (hnext x s')
  | error f => exact h

theorem Quiet.settled {feed? : Option Nat} (hq : Quiet s s') (h : Settled feed? s.notes) :
    Settled feed? s'.notes := by
  obtain ⟨added, hs, hadded⟩ := hq
  rw [hs]
  exact h.quiet hadded

end Quiet

section Host

variable [FeedHost σ]

/-- A question is noted, and is answered or fails. -/
theorem answer_cases {α : Type} (n : Nat) (question : FeedCall α) (s : Noted σ) :
    (∃ x s', FeedHost.answer n question s = (.ok x, s') ∧
        s'.notes = s.notes ++ [⟨n, .of question, true⟩]) ∨
      ∃ f s', FeedHost.answer n question s = (.error f, s') ∧
        s'.notes = s.notes ++ [⟨n, .of question, false⟩] := by
  have he : FeedHost.answer n question s = ((FeedHost.answer n question s.feeds).1,
    ⟨(FeedHost.answer n question s.feeds).2,
      s.notes ++ [⟨n, .of question, (FeedHost.answer n question s.feeds).1.isOk⟩]⟩) := rfl
  rw [he]
  generalize (FeedHost.answer n question s.feeds).1 = outcome
  cases outcome with
  | ok x => exact .inl ⟨x, _, rfl, rfl⟩
  | error f => exact .inr ⟨f, _, rfl, rfl⟩

theorem exists_notes_answer {α : Type} (n : Nat) (question : FeedCall α) (s : Noted σ) :
    ∃ worked, (FeedHost.answer n question s).2.notes = s.notes ++ [⟨n, .of question, worked⟩] :=
  ⟨_, rfl⟩

theorem quiet_answer {α : Type} (n : Nat) (question : FeedCall α) (s : Noted σ)
    (h : (Request.of question).isEnable = false) :
    Quiet s (FeedHost.answer n question s).2 := by
  obtain ⟨worked, hs⟩ := exists_notes_answer n question s
  exact ⟨_, hs, List.forall_mem_singleton.2 h⟩

theorem quiet_tally (n : Nat) (cfg : StatsConfig) (s : Noted σ) : Quiet s (tally n cfg s).2 := by
  refine (quiet_answer n .totals s rfl).andThen fun totals s => ?_
  refine (quiet_answer n (.protocols _) s rfl).andThen fun protocols s => ?_
  refine (quiet_answer n (.sources _) s rfl).andThen fun sources s => ?_
  refine (quiet_answer n (.destinations _) s rfl).andThen fun destinations s => ?_
  exact (quiet_answer n (.ports _) s rfl).andThen fun ports s => .rfl

end Host

end Feed

/-! ## Runs -/

namespace Aggregator

open Feed

variable {σ : Type} [FeedHost σ] {a : Aggregator} {s : Noted σ}

/-- An action on an aggregator and the feeds it asks. -/
def operate (p : Aggregator × Noted σ) : Action → Aggregator × Noted σ
  | .record r => (p.1.record r, p.2)
  | .recordAll records => (p.1.recordAll records, p.2)
  | .begin now => (p.1.begin now, p.2)
  | .finish now => (p.1.finish now, p.2)
  | .clear now => (p.1.clear now p.2).2
  | .tick now => (p.1.tick now p.2).2
  | .switch source offered? => (p.1.switch source offered? p.2).2

/-- Several actions one after the other. -/
def operateAll (p : Aggregator × Noted σ) (xs : List Action) : Aggregator × Noted σ :=
  xs.foldl operate p

theorem quiet_tick (a : Aggregator) (now : Moment) (s : Noted σ) : Quiet s (a.tick now s).2.2 := by
  have hq : Quiet s (a.tally s).2 := by
    unfold Aggregator.tally
    split
    · exact quiet_tally _ _ s
    · exact .rfl
  unfold Aggregator.tick
  split
  · rename_i he
    rwa [he] at hq
  · rename_i he
    rwa [he] at hq

theorem quiet_clear (a : Aggregator) (now : Duration) (s : Noted σ) :
    Quiet s (a.clear now s).2.2 := by
  have hq : Quiet s (a.clearCounts s).2.2 := by
    unfold clearCounts
    split
    · exact quiet_answer _ .clear s rfl
    · exact .rfl
  unfold Aggregator.clear
  split
  · rename_i he
    rwa [he] at hq
  · rename_i he
    rwa [he] at hq

theorem settled_release (h : Settled a.feed? s.notes) : Settled none (a.release s).2.notes := by
  unfold release
  split
  · rename_i n hn
    obtain ⟨worked, hs⟩ := exists_notes_answer n (.enable false) s
    rw [hn] at h
    rw [Feed.enable]
    dsimp only
    rw [hs]
    exact h.released worked
  · rename_i hn
    rwa [hn] at h

/-- A feed that cannot be cleared is not installed and is not told to stop. -/
theorem settled_install (hf : a.feed? = none) (h : Settled none s.notes) (n : Nat) :
    Settled (a.install n s).2.1.feed? (a.install n s).2.2.notes := by
  rw [install, Feed.enable]
  obtain ⟨⟨⟩, s₁, he, hs₁⟩ | ⟨f, s₁, he, hs₁⟩ := answer_cases n (.enable true) s
  · rw [he]
    dsimp only
    rw [Feed.clear]
    obtain ⟨⟨⟩, s₂, he', hs₂⟩ | ⟨f, s₂, he', hs₂⟩ := answer_cases n .clear s₁
    · rw [he']
      dsimp only
      rw [hs₂, hs₁, List.append_assoc]
      exact h.enabled n true
    · rw [he']
      dsimp only
      rw [hf, hs₂, hs₁, List.append_assoc]
      exact h.enabled n false
  · rw [he]
    dsimp only
    rw [hf, hs₁]
    exact h.notEnabled n

theorem settled_switch (h : Settled a.feed? s.notes) (source : Source) (offered? : Option Nat) :
    Settled (a.switch source offered? s).2.1.feed? (a.switch source offered? s).2.2.notes := by
  have hrelease : (a.release s).1.feed? = none := by rw [release_eq]
  have hsettled := settled_release h
  cases source with
  | managed =>
      change Settled (a.release s).1.feed? _
      rw [hrelease]
      exact hsettled
  | native =>
      cases offered? with
      | none => exact h
      | some n =>
          have hinstall := settled_install hrelease hsettled n
          rw [switch]
          dsimp only
          split
          · rename_i he
            rwa [he] at hinstall
          · rename_i he
            rw [he] at hinstall
            exact hinstall

/-- An action that asks no feed to count or to stop counting leaves the feeds as they are. -/
theorem settled_operate (h : Settled a.feed? s.notes) (x : Action) :
    Settled (operate (a, s) x).1.feed? (operate (a, s) x).2.notes := by
  cases x with
  | record r =>
      have hf : (a.record r).feed? = a.feed? := a.feed?_recordAll [r]
      rw [operate, hf]
      exact h
  | recordAll records =>
      rw [operate, feed?_recordAll]
      exact h
  | begin | finish => exact h
  | clear now =>
      obtain ⟨_, _, _, _, -, -, hc⟩ := a.exists_clear_eq now s
      rw [operate, hc]
      exact (a.quiet_clear now s).settled h
  | tick now =>
      obtain ⟨rates, hr⟩ := a.exists_tick_eq now s
      rw [operate, hr]
      exact (a.quiet_tick now s).settled h
  | switch source offered? => exact settled_switch h source offered?

theorem settled_operateAll (h : Settled a.feed? s.notes) (xs : List Action) :
    Settled (operateAll (a, s) xs).1.feed? (operateAll (a, s) xs).2.notes := by
  induction xs generalizing a s with
  | nil => exact h
  | cons x xs ih => exact ih (settled_operate h x)

/-- Whatever is done to an aggregator, and whatever the feeds answer, the installed feed was
switched on and cleared, and it was neither switched on nor told to stop since then.  Any
other feed was told to stop after it was last switched on, unless it could not be cleared
then.  So no feed counts unused when all feeds can be cleared. -/
theorem unused_feeds_are_off (cfg : StatsConfig) (xs : List Action) (feeds : σ) :
    let p := operateAll (make cfg, Noted.of feeds) xs
    (∀ n, p.1.feed? = some n → Taken n p.2.notes) ∧
      (∀ n, p.1.feed? ≠ some n → (LeftOn n p.2.notes ↔ Stranded n p.2.notes)) ∧
      ((∀ n, ⟨n, .clear, false⟩ ∉ p.2.notes) → ∀ n, LeftOn n p.2.notes → p.1.feed? = some n) := by
  intro p
  have h : Settled p.1.feed? p.2.notes := settled_operateAll settled_nil xs
  refine ⟨h.taken, fun n hn => ⟨h.stranded n hn, Stranded.leftOn⟩, fun hclear n hleft => ?_⟩
  by_contra hn
  obtain ⟨before, after, hnotes, -⟩ := h.stranded n hn hleft
  refine hclear n ?_
  rw [hnotes]
  exact List.mem_append_right _ (List.mem_cons_of_mem _ List.mem_cons_self)

/-- Feeds that have counted nothing, with the numbers of those that cannot be cleared. -/
structure Uncleared where
  feeds : List Nat

instance : FeedHost Uncleared where
  answer n question s := (match question with
    | .clear => if n ∈ s.feeds then .error (.engineUnavailable "no answer") else .ok ()
    | .enable _ => .ok ()
    | .totals => .ok default
    | .protocols _ | .sources _ | .destinations _ => .ok []
    | .ports _ => .ok [], s)

/-- Three feeds are taken one after the other, and the second one cannot be cleared. -/
theorem unused_feeds_are_off_three :
    let p := operateAll (make .default, Noted.of (⟨[1]⟩ : Uncleared))
      [.switch .native (some 0), .switch .native (some 1), .switch .native (some 2)]
    let q := operateAll (make .default, Noted.of (⟨[]⟩ : Uncleared))
      [.switch .native (some 0), .switch .managed none]
    Taken 2 p.2.notes ∧ LeftOn 1 p.2.notes ∧ Stranded 1 p.2.notes ∧ ¬ LeftOn 0 q.2.notes := by
  intro p q
  obtain ⟨htaken, hothers, -⟩ := unused_feeds_are_off .default
    [.switch .native (some 0), .switch .native (some 1), .switch .native (some 2)]
    (⟨[1]⟩ : Uncleared)
  obtain ⟨-, -, hoff⟩ := unused_feeds_are_off .default
    [.switch .native (some 0), .switch .managed none] (⟨[]⟩ : Uncleared)
  have hp : p.2.notes =
      [⟨0, .enable true, true⟩, ⟨0, .clear, true⟩, ⟨0, .enable false, true⟩] ++
        ⟨1, .enable true, true⟩ :: [⟨1, .clear, false⟩, ⟨2, .enable true, true⟩, ⟨2, .clear, true⟩] :=
    rfl
  have hq : q.2.notes = [⟨0, .enable true, true⟩, ⟨0, .clear, true⟩, ⟨0, .enable false, true⟩] :=
    rfl
  have hleft : LeftOn 1 p.2.notes := ⟨_, _, hp, by simp⟩
  refine ⟨htaken 2 rfl, hleft, (hothers 1 (by decide)).1 hleft, fun h => ?_⟩
  cases hoff (fun n => by rw [hq]; simp) 0 h

/-- A feed that cannot be cleared counts on, although it was not installed. -/
theorem uncleared_feed_counts_on :
    ¬ ∀ (xs : List Action) (feeds : Uncleared) (n : Nat),
      let p := operateAll (make .default, Noted.of feeds) xs
      p.1.feed? ≠ some n → ¬ LeftOn n p.2.notes := by
  intro h
  have hnotes : (operateAll (make .default, Noted.of (⟨[0]⟩ : Uncleared))
      [.switch .native (some 0)]).2.notes = [⟨0, .enable true, true⟩, ⟨0, .clear, false⟩] := rfl
  exact h [.switch .native (some 0)] ⟨[0]⟩ 0 nofun ⟨[], _, hnotes, by simp⟩

end Aggregator

end PacketMeter.Stats
