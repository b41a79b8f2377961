import PacketMeter.Proofs.Stats.Counting
import PacketMeter.Stats.Feed

/-!
# What a native feed says

A native feed may have counted the same records as the own counters.  `CountsExactly` says so of
what it answers: its totals are those of the records, and its lists of keys are those of the own
counters, in any order and either complete or already cut to the first of their ranking.

The tally of such a feed is that of the own counters but for the number of addresses.  The own
counters know which addresses they have seen on both sides and count each of them once.  A feed
gives the numbers of its sources and of its destinations, which are added, so that an address
that is on both sides counts twice.
-/

namespace PacketMeter.Stats

namespace Feed

variable {σ : Type} {S : σ → Prop} {α β : Type} {P : α → Prop} {Q : β → Prop}

/-- Some asking works, with a result of which `P` holds, and ends in a state of `S`. -/
def Gives (S : σ → Prop) (P : α → Prop) (asked : Except Failure α × σ) : Prop :=
  ∃ a s, asked = (.ok a, s) ∧ P a ∧ S s

theorem Gives.andThen {asked : Except Failure α × σ} {next : α → σ → Except Failure β × σ}
    (h : Gives S P asked) (hnext : ∀ a s, P a → S s → Gives S Q (next a s)) :
    Gives S Q (andThen asked next) := by
  obtain ⟨a, s, rfl, ha, hs⟩ := h
  exact hnext a s ha hs

section Answers

variable [FeedHost σ]

/-- In every state of `S` a feed answers a question with something of which `P` holds, and is in
a state of `S` again. -/
def Answers (feed : Nat) (question : FeedCall α) (S : σ → Prop) (P : α → Prop) : Prop :=
  ∀ s, S s → Gives S P (FeedHost.answer feed question s)

/-- The totals of some records. -/
structure TotalsOf (records : List PacketRecord) (totals : FeedTotals) : Prop where
  packets_eq : totals.packets = UInt64.ofNat records.length
  bytes_eq : totals.bytes = UInt64.ofNat (Counters.bytesOf records)
  protocols_eq : totals.protocols.toNat =
    (Counters.texts PacketRecord.protocol records).toFinset.card
  sources_eq : totals.sources.toNat = (Counters.texts PacketRecord.srcIp records).toFinset.card
  destinations_eq : totals.destinations.toNat =
    (Counters.texts PacketRecord.dstIp records).toFinset.card

/-- What a feed may list when it is asked for so many of its keys: all of them, or the first of
their ranking, in any order. -/
def Lists {κ : Type} [LE κ] [DecidableLE κ] (counts : Counts κ) (limit : Nat)
    (listed : Counts κ) : Prop :=
  listed.Perm counts ∨ listed.Perm (rank counts limit)

/-- A feed has counted exactly some records, in every state of `S`. -/
structure CountsExactly (feed : Nat) (S : σ → Prop) (records : List PacketRecord) : Prop where
  totals : Answers feed .totals S (TotalsOf records)
  protocols : ∀ limit, Answers feed (.protocols limit) S
    (Lists (Counters.empty.recordAll records).protocols limit)
  sources : ∀ limit, Answers feed (.sources limit) S
    (Lists (Counters.empty.recordAll records).sources limit)
  destinations : ∀ limit, Answers feed (.destinations limit) S
    (Lists (Counters.empty.recordAll records).destinations limit)
  ports : ∀ limit, Answers feed (.ports limit) S
    (Lists (Counters.empty.recordAll records).ports limit)

end Answers

/-- Ranking again what a feed has listed gives the ranking of all counts. -/
theorem Lists.rank_eq {κ : Type} [LE κ] [LT κ] [Std.LawfulOrderLT κ] [Std.IsLinearOrder κ]
    [DecidableLE κ] {counts listed : Counts κ} {limit : Nat} (h : Lists counts limit listed) :
    rank listed limit = rank counts limit := by
  rcases h with h | h
  · exact rank_eq_of_perm h limit
  · rw [rank_eq_of_perm h limit, rank_rank, Nat.min_self]

section Tally

variable [FeedHost σ]

/-- The numbers of addresses on the two sides are added as words. -/
theorem TotalsOf.addresses_eq {records : List PacketRecord} {totals : FeedTotals}
    (h : TotalsOf records totals) : (totals.sources + totals.destinations).toNat =
      ((Counters.texts PacketRecord.srcIp records).toFinset.card +
        (Counters.texts PacketRecord.dstIp records).toFinset.card) % 2 ^ 64 := by
  rw [UInt64.toNat_add, h.sources_eq, h.destinations_eq]

theorem CountsExactly.tally_gives {feed : Nat} {records : List PacketRecord}
    (h : CountsExactly feed S records) (cfg : StatsConfig) {s : σ} (hs : S s) :
    Gives S (fun t => t = { (Counters.empty.recordAll records).tally cfg with
        uniqueIps := ((Counters.texts PacketRecord.srcIp records).toFinset.card +
          (Counters.texts PacketRecord.dstIp records).toFinset.card) % 2 ^ 64 })
      (Feed.tally feed cfg s) := by
  have hc := Counters.counted_recordAll_empty records
  refine (h.totals s hs).andThen fun totals s htotals hs => ?_
  refine (h.protocols _ s hs).andThen fun protocols s hprotocols hs => ?_
  refine (h.sources _ s hs).andThen fun sources s hsources hs => ?_
  refine (h.destinations _ s hs).andThen fun destinations s hdestinations hs => ?_
  refine (h.ports _ s hs).andThen fun ports s hports hs => ?_
  refine ⟨_, s, rfl, ?_, hs⟩
  rw [hprotocols.rank_eq, hsources.rank_eq, hdestinations.rank_eq, hports.rank_eq,
    htotals.packets_eq, htotals.bytes_eq, htotals.protocols_eq, htotals.addresses_eq,
    Counters.tally, hc.packets_eq, hc.bytes_eq, hc.protocols.length_eq]

/-- A feed that has counted some records makes the same tally as counters that have seen them:
packets, bytes, all rankings and the number of protocols.  Only the number of addresses is
another one, namely the sum of the numbers of sources and of destinations.  As long as that
fits into a word, it exceeds the number of distinct addresses by those that are on both sides,
and the tallies are equal exactly when no address is. -/
theorem tally_but_for_addresses (records : List PacketRecord) (cfg : StatsConfig) (feed : Nat)
    (h : CountsExactly feed S records) (s : σ) (hs : S s) :
    let own := (Counters.empty.recordAll records).tally cfg
    let sources := (Counters.texts PacketRecord.srcIp records).toFinset
    let destinations := (Counters.texts PacketRecord.dstIp records).toFinset
    ∃ t s', Feed.tally feed cfg s = (.ok t, s') ∧ S s' ∧
      t = { own with uniqueIps := (sources.card + destinations.card) % 2 ^ 64 } ∧
      own.uniqueIps = (sources ∪ destinations).card ∧
      (sources.card + destinations.card < 2 ^ 64 →
        t.uniqueIps = own.uniqueIps + (sources ∩ destinations).card ∧
          (t = own ↔ Disjoint sources destinations)) := by
  intro own sources destinations
  obtain ⟨t, s', htally, ht, hs'⟩ := h.tally_gives cfg hs
  have hown : own.uniqueIps = (sources ∪ destinations).card :=
    (Counters.counted_recordAll_empty records).length_addresses
  refine ⟨t, s', htally, hs', ht, hown, fun hfits => ?_⟩
  have hips : t.uniqueIps = sources.card + destinations.card := by
    rw [ht]
    exact Nat.mod_eq_of_lt hfits
  refine ⟨?_, ?_⟩
  · rw [hips, hown, Finset.card_union_add_card_inter]
  · rw [← Finset.card_union_eq_card_add_card, ← hown, ← hips]
    constructor
    · intro heq
      rw [heq]
    · intro heq
      rw [ht, ← hips.trans (Nat.mod_eq_of_lt hfits).symm, ← heq]

end Tally

end Feed

/-! ## A feed that keeps counters -/

/-- A feed that counts as the own counters do.  It ranks and cuts its protocols and its ports, and
gives all of its addresses, the last one first. -/
structure Mirror where
  counters : Counters

namespace Mirror

def totals (m : Mirror) : FeedTotals where
  packets := m.counters.packets
  bytes := m.counters.bytes
  protocols := UInt64.ofNat m.counters.protocols.length
  sources := UInt64.ofNat m.counters.sources.length
  destinations := UInt64.ofNat m.counters.destinations.length

instance : FeedHost Mirror where
  answer _ question m := match question with
    | .enable _ => (.ok (), m)
    | .clear => (.ok (), ⟨Counters.empty⟩)
    | .totals => (.ok m.totals, m)
    | .protocols limit => (.ok (rank m.counters.protocols limit), m)
    | .sources _ => (.ok m.counters.sources.reverse, m)
    | .destinations _ => (.ok m.counters.destinations.reverse, m)
    | .ports limit => (.ok (rank m.counters.ports limit), m)

theorem card_texts_le (field : PacketRecord → String) (records : List PacketRecord) :
    (Counters.texts field records).toFinset.card ≤ records.length := by
  refine (List.toFinset_card_le _).trans ((List.length_filter_le _ _).trans ?_)
  rw [List.length_map]

theorem toNat_length {counts : Counts String} {field : PacketRecord → String}
    {records : List PacketRecord} (h : counts.OfValues (Counters.texts field records))
    (hfew : records.length < 2 ^ 64) :
    (UInt64.ofNat counts.length).toNat = (Counters.texts field records).toFinset.card := by
  rw [h.length_eq, UInt64.toNat_ofNat']
  exact Nat.mod_eq_of_lt (Nat.lt_of_le_of_lt (card_texts_le field records) hfew)

/-- Such a feed has counted what its counters have seen. -/
theorem countsExactly {records : List PacketRecord} (hfew : records.length < 2 ^ 64) (feed : Nat) :
    Feed.CountsExactly feed (· = Mirror.mk (Counters.empty.recordAll records)) records := by
  have hc := Counters.counted_recordAll_empty records
  refine ⟨?_, ?_, ?_, ?_, ?_⟩
  · rintro _ rfl
    exact ⟨_, _, rfl, ⟨hc.packets_eq, hc.bytes_eq, toNat_length hc.protocols hfew,
      toNat_length hc.sources hfew, toNat_length hc.destinations hfew⟩, rfl⟩
  · rintro limit _ rfl
    exact ⟨_, _, rfl, .inr .rfl, rfl⟩
  · rintro limit _ rfl
    exact ⟨_, _, rfl, .inl (List.reverse_perm _), rfl⟩
  · rintro limit _ rfl
    exact ⟨_, _, rfl, .inl (List.reverse_perm _), rfl⟩
  · rintro limit _ rfl
    exact ⟨_, _, rfl, .inr .rfl, rfl⟩

/-- A packet from one address to another. -/
def packet (source destination : String) : PacketRecord :=
  { (default : PacketRecord) with protocol := "TCP", srcIp := source, dstIp := destination }

/-- Two sources that send to a third address: nobody is on both sides, and the tallies are
equal. -/
theorem tally_but_for_addresses_one_way :
    let records := [packet "10.0.0.1" "10.0.0.9", packet "10.0.0.2" "10.0.0.9"]
    let own := Counters.empty.recordAll records
    (Feed.tally 0 .default (Mirror.mk own)).1 = .ok (own.tally .default) := by
  intro records own
  obtain ⟨t, s, htally, -, -, -, hfits⟩ := Feed.tally_but_for_addresses records .default 0
    (countsExactly (by decide) 0) (Mirror.mk own) rfl
  have hequal := (hfits (by decide)).2.2 (by decide)
  rw [htally, hequal]

/-- A packet that a host sends to itself: the own counters have seen one address, and the feed
counts it on either side. -/
theorem loopback_counted_twice :
    ¬ ∀ (records : List PacketRecord) (cfg : StatsConfig) (feed : Nat) (S : Mirror → Prop)
      (s : Mirror), Feed.CountsExactly feed S records → S s →
        (Feed.tally feed cfg s).1 = .ok ((Counters.empty.recordAll records).tally cfg) := by
  intro h
  have hequal := h [packet "127.0.0.1" "127.0.0.1"] .default 0 _ _ (countsExactly (by decide) 0) rfl
  have hips := congrArg (Except.map Tally.uniqueIps) hequal
  cases hips

end Mirror

end PacketMeter.Stats
