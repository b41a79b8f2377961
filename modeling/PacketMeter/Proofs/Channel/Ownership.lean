import PacketMeter.Channel.Handles
import PacketMeter.Proofs.Channel.Waiting

/-!
# Who holds what

The named handles on a channel are its holders.  `ChannelHandles.Consistent` says that
the books agree: the holders of a queue that are no waits are the receivers and the
streams with its number, every wait that a name or a stream keeps is a wait of the
channel, no two of them keep the same wait, and a stream that has ended had reason
to.

Within a step the books may be off, for a hold is taken before it gets its name.
The list `loose` names the queues of such holds, and every step begins and ends with
none.  A step is made of few moves: a handle is forgotten, which leaves its hold
loose, an action is taken on the channel, and a handle is added, which takes up a
loose hold.
-/

namespace PacketMeter

namespace ChannelHandles

variable {α : Type}

/-- The number of receivers of a queue. -/
def receiversOn (h : ChannelHandles α) (i : Nat) : Nat := h.receivers.countP fun e => e.2 = i

/-- The number of streams on a queue. -/
def streamsOn (h : ChannelHandles α) (i : Nat) : Nat := h.streams.countP fun e => e.2.queue = i

/-- The waits that names and streams keep. -/
def keptWaits (h : ChannelHandles α) : List Nat :=
  h.waits.map Prod.snd ++ h.streams.filterMap fun e => e.2.wait?

/-- What holds of a stream: its wait, if it has one, is a wait of its own kind, and it
has ended only when nothing can come any more. -/
structure Follows (channel : Channel α) (s : ItemStream) : Prop where
  wait_known : ∀ {w}, s.wait? = some w →
    ∃ woken, channel.waits.lookup w = some ⟨s.queue, s.mode, woken⟩
  of_ended : s.ended = true → s.wait? = none ∧ channel.closed = true ∧
    channel.itemsAt s.queue = []

/-- A stream that was not asked yet follows any channel. -/
theorem follows_new (channel : Channel α) (i : Nat) (mode : TakeMode) :
    Follows channel ⟨i, mode, none, false⟩ where
  wait_known := by
    intro w hw
    cases hw
  of_ended := by
    intro he
    cases he

/-- The books of the holders agree with the channel, up to the holds on the queues
`loose` that have no name. -/
structure Consistent (loose : List Nat) (h : ChannelHandles α) : Prop where
  channel : h.channel.WellFormed
  receivers_nodup : (h.receivers.map Prod.fst).Nodup
  streams_nodup : (h.streams.map Prod.fst).Nodup
  spare : ∀ i, h.channel.spare i = h.receiversOn i + h.streamsOn i + loose.count i
  kept_nodup : h.keptWaits.Nodup
  waits_known : ∀ e ∈ h.waits, ∃ wait, h.channel.waits.lookup e.2 = some wait
  follows : ∀ e ∈ h.streams, Follows h.channel e.2

theorem consistent_make (capacity batch : Nat) :
    (make capacity batch : ChannelHandles α).Consistent [] where
  channel := Channel.wellFormed_make capacity batch
  receivers_nodup := List.nodup_nil
  streams_nodup := List.nodup_nil
  spare := by
    intro i
    simp [make, Channel.make, Channel.spare, Channel.holdersAt, Channel.queue?, receiversOn,
      streamsOn]
  kept_nodup := List.nodup_nil
  waits_known := by intro e he; simp [make] at he
  follows := by intro e he; simp [make] at he

/-- Whether somebody holds a queue: a receiver, a stream or a wait. -/
def IsHeld (h : ChannelHandles α) (i : Nat) : Prop :=
  (∃ e ∈ h.receivers, e.2 = i) ∨ (∃ e ∈ h.streams, e.2.queue = i) ∨
    ∃ e ∈ h.channel.waits, e.2.queue = i

/-- Who holds a queue is counted. -/
theorem Consistent.exists_queue {h : ChannelHandles α} {loose : List Nat}
    (hc : h.Consistent loose) {i : Nat} (hi : h.IsHeld i) :
    ∃ q, h.channel.queue? i = some q ∧ 0 < q.holders := by
  apply Channel.exists_queue_of_holdersAt
  have hs := hc.spare i
  have hw := hc.channel.waitsOn_le i
  rcases hi with ⟨e, he, hq⟩ | ⟨e, he, hq⟩ | ⟨e, he, hq⟩
  · have hp : 0 < h.receiversOn i := List.countP_pos_iff.2 ⟨e, he, by simpa using hq⟩
    exact Channel.holdersAt_pos_of_spare (by omega)
  · have hp : 0 < h.streamsOn i := List.countP_pos_iff.2 ⟨e, he, by simpa using hq⟩
    exact Channel.holdersAt_pos_of_spare (by omega)
  · have hp : 0 < h.channel.waitsOn i := List.countP_pos_iff.2 ⟨e, he, by simpa using hq⟩
    exact Nat.lt_of_lt_of_le hp hw

section Moves

variable {h : ChannelHandles α} {loose : List Nat} {name : String} {i : Nat} {s : ItemStream}

theorem Consistent.mem_keptWaits_of_stream (hs : (name, s) ∈ h.streams) {w : Nat}
    (hw : s.wait? = some w) : w ∈ h.keptWaits :=
  List.mem_append_right _ (List.mem_filterMap.2 ⟨_, hs, hw⟩)

/-- A queue with a loose hold, a receiver or a stream has a holder to spare. -/
theorem Consistent.spare_pos_of_loose (hc : h.Consistent (i :: loose)) :
    0 < h.channel.spare i := by
  rw [hc.spare i, List.count_cons_self]
  omega

theorem Consistent.spare_pos_of_receiver (hc : h.Consistent loose)
    (hr : h.receivers.lookup name = some i) : 0 < h.channel.spare i := by
  have hp : 0 < h.receiversOn i :=
    List.countP_pos_iff.2 ⟨_, Entries.mem_of_lookup hr, by simp⟩
  rw [hc.spare i]
  omega

theorem Follows.act {ch : Channel α} {s : ItemStream} (hf : Follows ch s) {x : Channel.Action α}
    (hx : ∀ w, s.wait? = some w → ¬ ch.Ends x w) : Follows (ch.act x) s where
  wait_known := by
    intro w hw
    obtain ⟨woken, hl⟩ := hf.wait_known hw
    exact Channel.lookup_act hl (hx w hw)
  of_ended := by
    intro he
    obtain ⟨hw, hcl, hi⟩ := hf.of_ended he
    refine ⟨hw, ?_, Channel.itemsAt_act_of_nil (Channel.accepted_of_closed hcl x) hi⟩
    rw [Channel.closed_act, hcl, Bool.true_or]

/-- An action on the channel that ends no wait which somebody keeps. -/
theorem Consistent.act {loose' : List Nat} (hc : h.Consistent loose) {x : Channel.Action α}
    (hx : h.channel.Allowed x)
    (hs : ∀ j, (h.channel.act x).spare j + loose.count j = h.channel.spare j + loose'.count j)
    (hk : ∀ w ∈ h.keptWaits, ¬ h.channel.Ends x w) :
    Consistent loose' { h with channel := h.channel.act x } where
  channel := hc.channel.act hx
  receivers_nodup := hc.receivers_nodup
  streams_nodup := hc.streams_nodup
  spare := by
    intro j
    have := hs j
    have := hc.spare j
    change (h.channel.act x).spare j = h.receiversOn j + h.streamsOn j + loose'.count j
    omega
  kept_nodup := hc.kept_nodup
  waits_known := by
    intro e he
    obtain ⟨wait, hw⟩ := hc.waits_known e he
    have hm : e.2 ∈ h.keptWaits := List.mem_append_left _ (List.mem_map.2 ⟨e, he, rfl⟩)
    obtain ⟨woken, hl⟩ := Channel.lookup_act hw (hk _ hm)
    exact ⟨_, hl⟩
  follows := by
    intro e he
    exact (hc.follows e he).act fun w hw => hk w (mem_keptWaits_of_stream he hw)

/-- The same for an action that changes no hold but those of waits. -/
theorem Consistent.act_of_spare_eq (hc : h.Consistent loose) {x : Channel.Action α}
    (hx : h.channel.Allowed x) (hs : ∀ j, (h.channel.act x).spare j = h.channel.spare j)
    (hk : ∀ w ∈ h.keptWaits, ¬ h.channel.Ends x w) :
    Consistent loose { h with channel := h.channel.act x } :=
  hc.act hx (fun j => by rw [hs j]) hk

theorem Consistent.forgetReceiver (hc : h.Consistent loose)
    (hr : h.receivers.lookup name = some i) :
    Consistent (i :: loose) { h with receivers := without name h.receivers } := by
  refine ⟨hc.channel, ?_, hc.streams_nodup, ?_, hc.kept_nodup, hc.waits_known, hc.follows⟩
  · exact hc.receivers_nodup.sublist (List.filter_sublist.map Prod.fst)
  · intro j
    have hj := hc.spare j
    have hw := Entries.countP_filter_ne hc.receivers_nodup hr fun e => e.2 = j
    simp only [decide_eq_true_eq] at hw
    rw [List.count_cons]
    simp only [beq_iff_eq]
    rw [hj, receiversOn, ← hw]
    change _ = (without name h.receivers).countP _ + h.streamsOn j + _
    rw [without]
    omega

theorem Consistent.addReceiver (hc : h.Consistent (i :: loose))
    (hn : name ∉ h.receivers.map Prod.fst) :
    Consistent loose { h with receivers := (name, i) :: h.receivers } := by
  refine ⟨hc.channel, ?_, hc.streams_nodup, ?_, hc.kept_nodup, hc.waits_known, hc.follows⟩
  · rw [List.map_cons, List.nodup_cons]
    exact ⟨hn, hc.receivers_nodup⟩
  · intro j
    have hj := hc.spare j
    rw [List.count_cons] at hj
    simp only [beq_iff_eq] at hj
    change h.channel.spare j = ((name, i) :: h.receivers).countP _ + h.streamsOn j + _
    rw [List.countP_cons]
    simp only [decide_eq_true_eq]
    change _ = h.receiversOn j + _ + _ + _
    omega

/-- A stream that is forgotten leaves its hold loose, and nobody keeps its wait. -/
theorem Consistent.forgetStream (hc : h.Consistent loose)
    (hs : h.streams.lookup name = some s) :
    Consistent (s.queue :: loose) { h with streams := without name h.streams } ∧
      ∀ w, s.wait? = some w →
        w ∉ keptWaits { h with streams := without name h.streams } := by
  obtain ⟨l₁, l₂, hl, hf⟩ := Entries.exists_split hc.streams_nodup hs
  have hk := hc.kept_nodup
  have hsub : (without name h.streams).Sublist h.streams := List.filter_sublist
  refine ⟨⟨hc.channel, hc.receivers_nodup, ?_, ?_, ?_, hc.waits_known, ?_⟩, ?_⟩
  · exact hc.streams_nodup.sublist (hsub.map Prod.fst)
  · intro j
    have hj := hc.spare j
    have hw := Entries.countP_filter_ne hc.streams_nodup hs fun e => e.2.queue = j
    simp only [decide_eq_true_eq] at hw
    rw [List.count_cons]
    simp only [beq_iff_eq]
    rw [hj, streamsOn, ← hw]
    change _ = h.receiversOn j + (without name h.streams).countP _ + _
    rw [without]
    omega
  · exact hk.sublist ((List.Sublist.refl _).append (hsub.filterMap _))
  · exact fun e he => hc.follows e (hsub.mem he)
  · intro w hw
    have hp : (h.waits.map Prod.snd ++ (l₁.filterMap (fun e => e.2.wait?) ++
        w :: l₂.filterMap fun e => e.2.wait?)).Nodup := by
      rw [keptWaits, hl, List.filterMap_append, List.filterMap_cons, hw] at hk
      exact hk
    rw [← List.append_assoc, List.nodup_middle, List.nodup_cons, List.append_assoc] at hp
    intro hm
    apply hp.1
    rw [keptWaits] at hm
    change w ∈ h.waits.map Prod.snd ++ (without name h.streams).filterMap _ at hm
    rwa [without, hf, List.filterMap_append] at hm

theorem Consistent.addStream (hc : h.Consistent (s.queue :: loose))
    (hn : name ∉ h.streams.map Prod.fst) (hf : Follows h.channel s)
    (hw : ∀ w, s.wait? = some w → w ∉ h.keptWaits) :
    Consistent loose { h with streams := (name, s) :: h.streams } := by
  refine ⟨hc.channel, hc.receivers_nodup, ?_, ?_, ?_, hc.waits_known, ?_⟩
  · rw [List.map_cons, List.nodup_cons]
    exact ⟨hn, hc.streams_nodup⟩
  · intro j
    have hj := hc.spare j
    rw [List.count_cons] at hj
    simp only [beq_iff_eq] at hj
    change h.channel.spare j = h.receiversOn j + ((name, s) :: h.streams).countP _ + _
    rw [List.countP_cons]
    simp only [decide_eq_true_eq]
    change _ = _ + (h.streamsOn j + _) + _
    omega
  · change (h.waits.map Prod.snd ++ ((name, s) :: h.streams).filterMap _).Nodup
    rw [List.filterMap_cons]
    cases hs : s.wait? with
    | none => exact hc.kept_nodup
    | some w =>
        rw [List.nodup_middle, List.nodup_cons]
        exact ⟨hw w hs, hc.kept_nodup⟩
  · intro e he
    rcases List.mem_cons.1 he with rfl | he
    · exact hf
    · exact hc.follows e he

/-- A name that is forgotten leaves its wait to nobody. -/
theorem Consistent.forgetWait (hc : h.Consistent loose) {w : Nat}
    (hw : h.waits.lookup name = some w) :
    Consistent loose { h with waits := without name h.waits } ∧
      w ∉ keptWaits { h with waits := without name h.waits } := by
  have hsub : (without name h.waits).Sublist h.waits := List.filter_sublist
  have hk := hc.kept_nodup
  refine ⟨⟨hc.channel, hc.receivers_nodup, hc.streams_nodup, hc.spare, ?_, ?_, hc.follows⟩, ?_⟩
  · exact hk.sublist ((hsub.map Prod.snd).append (List.Sublist.refl _))
  · exact fun e he => hc.waits_known e (hsub.mem he)
  · have hm := Entries.mem_of_lookup hw
    obtain ⟨hn, -, hd⟩ := List.nodup_append.1 hk
    intro hw'
    rcases List.mem_append.1 hw' with hw' | hw'
    · obtain ⟨e, he, rfl⟩ := List.mem_map.1 hw'
      have he' : e = (name, e.2) := List.inj_on_of_nodup_map hn (hsub.mem he) hm rfl
      have hne := (List.mem_filter.1 he).2
      rw [he'] at hne
      simp at hne
    · exact hd w (List.mem_map.2 ⟨_, hm, rfl⟩) w hw' rfl

theorem Consistent.addWait (hc : h.Consistent loose) {w : Nat} (hw : w ∉ h.keptWaits)
    (hl : ∃ wait, h.channel.waits.lookup w = some wait) :
    Consistent loose { h with waits := (name, w) :: h.waits } := by
  refine ⟨hc.channel, hc.receivers_nodup, hc.streams_nodup, hc.spare, ?_, ?_, hc.follows⟩
  · exact List.nodup_cons.2 ⟨hw, hc.kept_nodup⟩
  · intro e he
    rcases List.mem_cons.1 he with rfl | he
    · exact hl
    · exact hc.waits_known e he

/-- A wait that is kept is a wait of the channel. -/
theorem Consistent.lookup_of_kept (hc : h.Consistent loose) {w : Nat} (hw : w ∈ h.keptWaits) :
    ∃ wait, h.channel.waits.lookup w = some wait := by
  rcases List.mem_append.1 hw with hw | hw
  · obtain ⟨e, he, rfl⟩ := List.mem_map.1 hw
    exact hc.waits_known e he
  · obtain ⟨e, he, hs⟩ := List.mem_filterMap.1 hw
    obtain ⟨woken, hl⟩ := (hc.follows e he).wait_known hs
    exact ⟨_, hl⟩

/-- The next wait is kept by nobody yet. -/
theorem Consistent.nextWait_not_kept (hc : h.Consistent loose) :
    h.channel.nextWait ∉ h.keptWaits := by
  intro hw
  obtain ⟨wait, hl⟩ := hc.lookup_of_kept hw
  rw [hc.channel.lookup_nextWait] at hl
  cases hl

theorem not_mem_without {β : Type} (name : String) (entries : List (String × β)) :
    name ∉ (without name entries).map Prod.fst := by
  intro hm
  obtain ⟨e, he, hn⟩ := List.mem_map.1 hm
  have hne := (List.mem_filter.1 he).2
  simp [hn] at hne

theorem not_mem_of_lookup_none {β : Type} {name : String} {entries : List (String × β)}
    (hl : entries.lookup name = none) : name ∉ entries.map Prod.fst := by
  intro hm
  obtain ⟨e, he, rfl⟩ := List.mem_map.1 hm
  simpa using List.lookup_eq_none_iff.1 hl e he

end Moves

/-! ## What is dropped -/

section Drops

variable {h : ChannelHandles α} {loose : List Nat} (name : String)

theorem Consistent.release {i : Nat} (hc : h.Consistent (i :: loose)) :
    Consistent loose { h with channel := h.channel.release i } := by
  have hp := hc.spare_pos_of_loose
  refine hc.act (x := .release i) hp ?_ ?_
  · intro j
    change (h.channel.release i).spare j + _ = _
    rw [Channel.spare_release, List.count_cons]
    simp only [beq_iff_eq]
    by_cases hij : i = j
    · subst hij
      simp only [if_true]
      omega
    · simp [hij]
  · rintro w - (he | ⟨he, -⟩) <;> cases he

theorem Consistent.dropReceiver (hc : h.Consistent loose) :
    Consistent loose (h.dropReceiver name) ∧
      name ∉ (h.dropReceiver name).receivers.map Prod.fst := by
  unfold ChannelHandles.dropReceiver
  split
  · rename_i hl
    exact ⟨hc, not_mem_of_lookup_none hl⟩
  · rename_i q hl
    exact ⟨(hc.forgetReceiver hl).release, not_mem_without name h.receivers⟩

/-- A wait that nobody keeps may be cancelled. -/
theorem Consistent.cancel (hc : h.Consistent loose) {w : Nat} (hw : w ∉ h.keptWaits) :
    Consistent loose { h with channel := h.channel.cancel w } := by
  refine hc.act_of_spare_eq (x := .cancel w) trivial (hc.channel.spare_cancel w) ?_
  rintro v hv (he | ⟨he, -⟩)
  · cases he
    exact hw hv
  · cases he

theorem Consistent.cancelWait (hc : h.Consistent loose) : Consistent loose (h.cancelWait name) := by
  unfold ChannelHandles.cancelWait
  split
  · exact hc
  · rename_i w hl
    obtain ⟨hf, hw⟩ := hc.forgetWait hl
    exact hf.cancel hw

theorem Consistent.dropStream (hc : h.Consistent loose) :
    Consistent loose (h.dropStream name) ∧
      name ∉ (h.dropStream name).streams.map Prod.fst := by
  unfold ChannelHandles.dropStream
  split
  · rename_i hl
    exact ⟨hc, not_mem_of_lookup_none hl⟩
  · rename_i s hl
    obtain ⟨hf, hw⟩ := hc.forgetStream hl
    refine ⟨?_, not_mem_without name h.streams⟩
    cases hs : s.wait? with
    | none => exact hf.release
    | some w => exact (hf.cancel (hw w hs)).release

theorem Consistent.nameReceiver {i : Nat} (hc : h.Consistent (i :: loose)) :
    Consistent loose (h.nameReceiver name i) := by
  obtain ⟨hd, hn⟩ := hc.dropReceiver name
  exact hd.addReceiver hn

end Drops

end ChannelHandles

end PacketMeter
