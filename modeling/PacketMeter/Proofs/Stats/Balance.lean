import PacketMeter.Proofs.Stats.Counting

/-!
# Counting some of what is sent

Counters have counted some records when others are sent, of which some are lost on the way.
Whatever is counted of them then, packets, bytes or the values of a field, has grown by what
was sent less what was lost.
-/

namespace PacketMeter.Stats

/-- What was sent, and is either kept or lost. -/
theorem ofNat_add_sub {sent kept lost : Nat} (h : sent = kept + lost) (earlier : Nat) :
    UInt64.ofNat (earlier + kept) =
      UInt64.ofNat earlier + UInt64.ofNat sent - UInt64.ofNat lost := by
  rw [h, UInt64.ofNat_add, UInt64.ofNat_add, ← UInt64.add_assoc, UInt64.add_sub_cancel]

theorem Counts.OfValues.balanced {κ : Type} [DecidableEq κ] {before after : Counts κ}
    {earlier kept sent lost : List κ} (h : before.OfValues earlier)
    (h' : after.OfValues (earlier ++ kept)) (hp : sent.Perm (kept ++ lost)) (k : κ) :
    after.countOf k =
      before.countOf k + UInt64.ofNat (sent.count k) - UInt64.ofNat (lost.count k) := by
  rw [h'.countOf_eq, h.countOf_eq, List.count_append]
  exact ofNat_add_sub ((hp.count_eq k).trans List.count_append) _

/-- A ranking shows some of the counts. -/
theorem Counts.OfValues.countOf_of_mem_rank {κ : Type} [DecidableEq κ] [LE κ] [DecidableLE κ]
    {counts : Counts κ} {values : List κ} (h : counts.OfValues values) {limit : Nat}
    {entry : κ × UInt64} (he : entry ∈ rank counts limit) : counts.countOf entry.1 = entry.2 := by
  have hm : entry ∈ counts := List.mem_mergeSort.1 (List.mem_of_mem_take he)
  exact ((mem_iff_countOf h.nodup _ _).1 hm).2

namespace Counters

theorem texts_append (field : PacketRecord → String) (records more : List PacketRecord) :
    texts field (records ++ more) = texts field records ++ texts field more := by
  rw [texts, List.map_append, List.filter_append]
  rfl

theorem portsOf_append (records more : List PacketRecord) :
    portsOf (records ++ more) = portsOf records ++ portsOf more := by
  rw [portsOf, List.map_append, List.filter_append]
  rfl

theorem bytesOf_append (records more : List PacketRecord) :
    bytesOf (records ++ more) = bytesOf records + bytesOf more := by
  rw [bytesOf, List.map_append, List.sum_append]
  rfl

theorem bytesOf_perm {records records' : List PacketRecord} (hp : records.Perm records') :
    bytesOf records = bytesOf records' := by
  rw [bytesOf, bytesOf, (hp.map _).sum_nat]

/-- Since counters were as `before`, all of some records were counted but those lost. -/
structure Balanced (before after : Counters) (sent lost : List PacketRecord) : Prop where
  packets_eq : after.packets =
    before.packets + UInt64.ofNat sent.length - UInt64.ofNat lost.length
  bytes_eq : after.bytes =
    before.bytes + UInt64.ofNat (bytesOf sent) - UInt64.ofNat (bytesOf lost)
  protocols_eq : ∀ k, after.protocols.countOf k = before.protocols.countOf k +
    UInt64.ofNat ((texts PacketRecord.protocol sent).count k) -
      UInt64.ofNat ((texts PacketRecord.protocol lost).count k)
  sources_eq : ∀ k, after.sources.countOf k = before.sources.countOf k +
    UInt64.ofNat ((texts PacketRecord.srcIp sent).count k) -
      UInt64.ofNat ((texts PacketRecord.srcIp lost).count k)
  destinations_eq : ∀ k, after.destinations.countOf k = before.destinations.countOf k +
    UInt64.ofNat ((texts PacketRecord.dstIp sent).count k) -
      UInt64.ofNat ((texts PacketRecord.dstIp lost).count k)
  ports_eq : ∀ k, after.ports.countOf k = before.ports.countOf k +
    UInt64.ofNat ((portsOf sent).count k) - UInt64.ofNat ((portsOf lost).count k)

theorem Counted.balanced {before after : Counters} {earlier kept sent lost : List PacketRecord}
    (h : before.Counted earlier) (h' : after.Counted (earlier ++ kept))
    (hp : sent.Perm (kept ++ lost)) : before.Balanced after sent lost := by
  have htexts : ∀ field : PacketRecord → String,
      (texts field sent).Perm (texts field kept ++ texts field lost) := by
    intro field
    rw [← texts_append]
    exact (hp.map field).filter _
  have hports : (portsOf sent).Perm (portsOf kept ++ portsOf lost) := by
    rw [← portsOf_append]
    exact (hp.map PacketRecord.dstPort).filter _
  have hprotocols := h'.protocols
  have hsources := h'.sources
  have hdestinations := h'.destinations
  have hdstPorts := h'.ports
  rw [texts_append] at hprotocols hsources hdestinations
  rw [portsOf_append] at hdstPorts
  refine ⟨?_, ?_, h.protocols.balanced hprotocols (htexts _), h.sources.balanced hsources (htexts _),
    h.destinations.balanced hdestinations (htexts _), h.ports.balanced hdstPorts hports⟩
  · rw [h'.packets_eq, h.packets_eq, List.length_append]
    exact ofNat_add_sub (hp.length_eq.trans List.length_append) _
  · rw [h'.bytes_eq, h.bytes_eq, bytesOf_append]
    exact ofNat_add_sub ((bytesOf_perm hp).trans (bytesOf_append kept lost)) _

/-- The entries of a tally are counts of some counters. -/
structure Shows (c : Counters) (t : Tally) : Prop where
  protocols : ∀ entry ∈ t.protocols, c.protocols.countOf entry.1 = entry.2
  sources : ∀ entry ∈ t.sources, c.sources.countOf entry.1 = entry.2
  destinations : ∀ entry ∈ t.destinations, c.destinations.countOf entry.1 = entry.2
  ports : ∀ entry ∈ t.ports, c.ports.countOf entry.1 = entry.2

theorem Counted.shows {c : Counters} {records : List PacketRecord} (h : c.Counted records)
    (cfg : StatsConfig) : c.Shows (c.tally cfg) where
  protocols _ he := h.protocols.countOf_of_mem_rank he
  sources _ he := h.sources.countOf_of_mem_rank he
  destinations _ he := h.destinations.countOf_of_mem_rank he
  ports _ he := h.ports.countOf_of_mem_rank he

end Counters

end PacketMeter.Stats
