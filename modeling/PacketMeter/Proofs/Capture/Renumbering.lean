import PacketMeter.Proofs.Capture.Sending
import PacketMeter.Proofs.Channel.Renumbering

/-!
# Captures on channels with other numbers

A reader sends to its channel and closes it, and so does not see which numbers the queues of the
channel have.  The same is true of the bridge.

`Bridge.Renumbered f b b'` says that the queues of every channel have other numbers, which are those
of `f` and the number of the channel.  The bridges do the same with the host, come to the same
outcomes and stay the same but for the numbers.
-/

namespace PacketMeter.Capture

/-- The same result, with the same at its side, and related states in between. -/
structure Agrees {ρ β τ : Type} (R : β → β → Prop) (x y : ρ × β × τ) : Prop where
  result_eq : y.1 = x.1
  related : R x.2.1 y.2.1
  rest_eq : y.2.2 = x.2.2

theorem Agrees.exists_eq {ρ β τ : Type} {R : β → β → Prop} {x y : ρ × β × τ} (h : Agrees R x y) :
    ∃ result a b rest, x = (result, a, rest) ∧ y = (result, b, rest) ∧ R a b := by
  obtain ⟨result, a, rest⟩ := x
  obtain ⟨result', b, rest'⟩ := y
  obtain ⟨rfl, hr, rfl⟩ := h
  exact ⟨result', a, b, rest', rfl, rfl, hr⟩

namespace Reader

variable {f : Nat → Nat} {packets packets' : Packets}

theorem agrees_exit (r : Reader) (h : packets.Renumbered f packets') :
    Agrees (Channel.Renumbered f) (r.exit packets) (r.exit packets') := ⟨rfl, h.close, rfl⟩

theorem agrees_forward (r : Reader) (h : packets.Renumbered f packets')
    (record : PacketRecord) :
    Agrees (Channel.Renumbered f) (r.forward packets record) (r.forward packets' record) := by
  obtain ⟨ho, hs⟩ := h.send record
  unfold forward
  generalize packets.send record = p at ho hs ⊢
  generalize packets'.send record = q at ho hs ⊢
  obtain ⟨outcome, packets⟩ := p
  obtain ⟨outcome', packets'⟩ := q
  obtain rfl : outcome' = outcome := ho
  cases outcome' with
  | error f => exact agrees_exit _ hs
  | ok => exact ⟨rfl, hs, rfl⟩

theorem agrees_handle (r : Reader) (h : packets.Renumbered f packets') (x : Reading) :
    Agrees (Channel.Renumbered f) (r.handle packets x) (r.handle packets' x) := by
  cases x with
  | ended => exact agrees_exit r h
  | failed fault =>
      rw [handle, handle]
      split
      · exact agrees_exit r h
      · exact ⟨rfl, h, rfl⟩
  | frame bytes =>
      rw [handle, handle]
      split
      · exact ⟨rfl, h, rfl⟩
      · split
        · exact ⟨rfl, h, rfl⟩
        · exact agrees_forward r h _

theorem agrees_round (r : Reader) (h : packets.Renumbered f packets') (x : Reading) :
    Agrees (Channel.Renumbered f) (r.round packets x) (r.round packets' x) := by
  obtain ⟨r₁, packets₁, packets₁', reports, hp, hp', h₁⟩ := (agrees_handle r h x).exists_eq
  rw [round, round, hp, hp']
  dsimp only
  split
  · exact ⟨rfl, h₁.close, rfl⟩
  · exact ⟨rfl, h₁, rfl⟩

theorem agrees_take (r : Reader) (h : packets.Renumbered f packets') (script : List Delivery) :
    Agrees (Channel.Renumbered f) (r.take packets script) (r.take packets' script) := by
  fun_induction take r packets script generalizing packets' with
  | case1 r packets script he =>
      rw [take, if_pos he]
      exact ⟨rfl, h, rfl⟩
  | case2 r packets script he frames rest ha =>
      rw [take, if_neg he, ha]
      exact ⟨rfl, h, rfl⟩
  | case3 r packets script he x frames rest ha r₁ packets₁ reports hround r₂ packets₂ more htake
      ih =>
      obtain ⟨_, _, packets₁', _, hp, hp', h₁⟩ := (agrees_round { r with frames } h x).exists_eq
      obtain ⟨rfl, rfl, rfl⟩ := hround.symm.trans hp
      obtain ⟨_, _, packets₂', _, ht, ht', h₂⟩ := (ih h₁).exists_eq
      obtain ⟨rfl, rfl, rfl⟩ := htake.symm.trans ht
      rw [take, if_neg he, ha]
      dsimp only
      rw [hp']
      dsimp only
      rw [ht']
      exact ⟨rfl, h₂, rfl⟩

theorem agrees_finish (r : Reader) (h : packets.Renumbered f packets') :
    Agrees (Channel.Renumbered f) (r.finish packets) (r.finish packets') := by
  unfold finish
  split
  · exact ⟨rfl, h, rfl⟩
  · exact agrees_round r h _

end Reader

/-! ## Bridges -/

/-- The queues of every channel have other numbers, but not those of the channels to come. -/
structure Relisted (f : Nat → Nat → Nat) (channels channels' : List Packets) : Prop where
  length_eq : channels'.length = channels.length
  rel : ∀ i, Option.Rel (Channel.Renumbered (f i)) channels[i]? channels'[i]?
  fresh : ∀ i, channels.length ≤ i → f i = id

section Relisted

variable {f : Nat → Nat → Nat} {channels channels' : List Packets}

theorem Relisted.set (h : Relisted f channels channels') {i : Nat} {packets packets' : Packets}
    (hp : packets.Renumbered (f i) packets') :
    Relisted f (channels.set i packets) (channels'.set i packets') where
  length_eq := by rw [List.length_set, List.length_set, h.length_eq]
  rel j := by
    rw [List.getElem?_set, List.getElem?_set, h.length_eq]
    split
    · rename_i hij
      subst hij
      split
      · exact .some hp
      · exact .none
    · exact h.rel j
  fresh j hj := h.fresh j (by rwa [List.length_set] at hj)

theorem Relisted.modify (h : Relisted f channels channels') {i : Nat} {g g' : Packets → Packets}
    (hg : ∀ packets packets' : Packets, channels[i]? = some packets →
      channels'[i]? = some packets' → packets.Renumbered (f i) packets' →
        (g packets).Renumbered (f i) (g' packets')) :
    Relisted f (channels.modify i g) (channels'.modify i g') where
  length_eq := by rw [List.length_modify, List.length_modify, h.length_eq]
  rel j := by
    rw [List.getElem?_modify, List.getElem?_modify]
    by_cases hij : i = j
    · subst hij
      have hr := h.rel i
      revert hg hr
      generalize channels[i]? = o
      generalize channels'[i]? = o'
      intro hg hr
      cases hr with
      | none => exact .none
      | some hp => simpa using hg _ _ rfl rfl hp
    · simpa [hij] using h.rel j
  fresh j hj := h.fresh j (by rwa [List.length_modify] at hj)

theorem Relisted.concat (h : Relisted f channels channels') (packets : Packets) :
    Relisted f (channels ++ [packets]) (channels' ++ [packets]) where
  length_eq := by rw [List.length_append, List.length_append, h.length_eq]
  rel i := by
    rw [List.getElem?_append, List.getElem?_append, h.length_eq]
    split
    · exact h.rel i
    · rename_i hi
      rw [h.fresh i (Nat.le_of_not_lt hi), List.getElem?_singleton]
      split
      · exact .some packets.renumbered_id
      · exact .none
  fresh i hi := by
    rw [List.length_append] at hi
    exact h.fresh i (Nat.le_trans (Nat.le_add_right _ _) hi)

end Relisted

namespace Bridge

variable {f : Nat → Nat → Nat} {b b' : Bridge}

/-- A bridge is another one whose channels have queues with other numbers. -/
def Renumbered (f : Nat → Nat → Nat) (b b' : Bridge) : Prop :=
  ∃ channels, b' = { b with channels } ∧ Relisted f b.channels channels

theorem Renumbered.rel (h : b.Renumbered f b') (i : Nat) :
    Option.Rel (Channel.Renumbered (f i)) (b.channel? i) (b'.channel? i) := by
  obtain ⟨channels, rfl, h⟩ := h
  exact h.rel i

theorem Renumbered.exists_channel (h : b.Renumbered f b') {i : Nat} {packets : Packets}
    (hp : b.channel? i = some packets) :
    ∃ packets', b'.channel? i = some packets' ∧ packets.Renumbered (f i) packets' := by
  have hr := h.rel i
  rw [hp] at hr
  generalize b'.channel? i = o at hr ⊢
  cases hr with
  | some hr => exact ⟨_, rfl, hr⟩

theorem Renumbered.channel?_of_none (h : b.Renumbered f b') {i : Nat}
    (hp : b.channel? i = none) : b'.channel? i = none := by
  have hr := h.rel i
  rw [hp] at hr
  generalize b'.channel? i = o at hr ⊢
  cases hr
  rfl

theorem Renumbered.modifyChannel (h : b.Renumbered f b') {i : Nat} {g g' : Packets → Packets}
    (hg : ∀ packets packets', b.channel? i = some packets → b'.channel? i = some packets' →
      packets.Renumbered (f i) packets' → (g packets).Renumbered (f i) (g' packets')) :
    (b.modifyChannel i g).Renumbered f (b'.modifyChannel i g') := by
  obtain ⟨channels, rfl, h⟩ := h
  exact ⟨_, rfl, h.modify hg⟩

/-- New channels have the same number. -/
theorem Renumbered.openChannel (h : b.Renumbered f b') (capacity batch : Nat) :
    (b'.openChannel capacity batch).1 = (b.openChannel capacity batch).1 ∧
      (b.openChannel capacity batch).2.Renumbered f (b'.openChannel capacity batch).2 := by
  obtain ⟨channels, rfl, h⟩ := h
  exact ⟨h.length_eq, _, rfl, h.concat _⟩

theorem Renumbered.report (h : b.Renumbered f b') (reports : List Report) :
    (b.report reports).Renumbered f (b'.report reports) := by
  obtain ⟨channels, rfl, h⟩ := h
  exact ⟨channels, rfl, h⟩

theorem Renumbered.run (h : b.Renumbered f b') (device channel : Nat) :
    (b.run device channel).Renumbered f (b'.run device channel) := by
  obtain ⟨channels, rfl, h⟩ := h
  exact ⟨channels, rfl, h⟩

theorem Renumbered.act (h : b.Renumbered f b') (worker : Nat)
    {action : Reader → Packets → Reader × Packets × List Report}
    (ha : ∀ r packets packets' g, Channel.Renumbered g packets packets' →
      Agrees (Channel.Renumbered g) (action r packets) (action r packets')) :
    (b.act worker action).Renumbered f (b'.act worker action) := by
  obtain ⟨channels, rfl, h⟩ := h
  unfold Bridge.act
  dsimp only
  cases b.workers[worker]? with
  | none => exact ⟨channels, rfl, h⟩
  | some w =>
      have hr := h.rel w.channel
      dsimp only
      generalize b.channels[w.channel]? = o at hr ⊢
      generalize channels[w.channel]? = o' at hr ⊢
      cases hr with
      | none => exact ⟨channels, rfl, h⟩
      | some hp =>
          have hw := ha w.reader _ _ _ hp
          refine ⟨_, ?_, h.set hw.related⟩
          dsimp only
          rw [hw.result_eq, hw.rest_eq]

theorem Renumbered.deliver (h : b.Renumbered f b') (worker : Nat) (script : List Delivery) :
    (b.deliver worker script).Renumbered f (b'.deliver worker script) :=
  h.act worker fun r _ _ _ hp => r.agrees_take hp script

theorem Renumbered.disconnect (h : b.Renumbered f b') (worker : Nat) :
    (b.disconnect worker).Renumbered f (b'.disconnect worker) :=
  h.act worker fun r _ _ _ hp => r.agrees_finish hp

section Host

variable {σ : Type} [CaptureHost σ]

theorem agrees_join (h : b.Renumbered f b') (cfg : CaptureConfig) (worker : Nat) (s : σ) :
    Agrees (Renumbered f) (b.join cfg worker s) (b'.join cfg worker s) := by
  have hd := h.disconnect worker
  have hr : b'.isReading worker = b.isReading worker := by
    obtain ⟨channels, rfl, -⟩ := h
    rfl
  unfold join
  rw [hr]
  split
  · split
    · exact ⟨rfl, h, rfl⟩
    · exact ⟨rfl, h, rfl⟩
    · exact ⟨rfl, hd, rfl⟩
    · exact ⟨rfl, h, rfl⟩
  · exact ⟨rfl, h, rfl⟩

theorem agrees_stop (h : b.Renumbered f b') (cfg : CaptureConfig) (s : σ) :
    Agrees (Renumbered f) (b.stop cfg s) (b'.stop cfg s) := by
  obtain ⟨channels, rfl, h⟩ := h
  unfold stop
  dsimp only
  split
  · exact ⟨rfl, ⟨channels, rfl, h⟩, rfl⟩
  · rename_i active _
    have htold : (({ b with active? := none } : Bridge).tellToStop active.worker).Renumbered f
        (({ b with channels, active? := none } : Bridge).tellToStop active.worker) :=
      ⟨channels, rfl, h⟩
    split
    · exact ⟨rfl, ⟨channels, rfl, h⟩, rfl⟩
    · split
      · exact ⟨rfl, htold, rfl⟩
      · exact agrees_join htold cfg _ _

theorem agrees_launch (h : b.Renumbered f b') (cfg : CaptureConfig) (device channel : Nat)
    (s : σ) :
    Agrees (Renumbered f) (b.launch cfg device channel s) (b'.launch cfg device channel s) := by
  unfold launch
  split
  · exact ⟨rfl, h, rfl⟩
  · exact ⟨rfl, h, rfl⟩
  · split
    · exact ⟨rfl, h, rfl⟩
    · exact ⟨rfl, h.run device channel, rfl⟩
    · split
      · exact ⟨rfl, h, rfl⟩
      · exact ⟨rfl, h, rfl⟩

theorem agrees_start (h : b.Renumbered f b') (cfg : CaptureConfig) (device channel : Nat)
    (s : σ) :
    Agrees (Renumbered f) (b.start cfg device channel s) (b'.start cfg device channel s) := by
  have hr : b'.isRunning = b.isRunning := by
    obtain ⟨channels, rfl, -⟩ := h
    rfl
  unfold start
  rw [hr]
  split
  · exact ⟨rfl, h, rfl⟩
  · obtain ⟨outcome, b₁, b₁', s₁, hs, hs', h₁⟩ := (agrees_stop h cfg s).exists_eq
    rw [hs, hs']
    cases outcome with
    | crashed => exact ⟨rfl, h₁, rfl⟩
    | done => exact agrees_launch h₁ cfg device channel s₁
    | failed failure => exact agrees_launch (h₁.report _) cfg device channel s₁

end Host

end Bridge

end PacketMeter.Capture
