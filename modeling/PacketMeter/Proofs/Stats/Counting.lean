import PacketMeter.Proofs.Stats.Ranking
import PacketMeter.Stats.Tally

/-!
# What counters count

`Counters.Counted` ties counters to the records that they have seen since they were
cleared: the number of the records, the sum of their bytes, and the counts of the values of
four fields.  Recording keeps the tie, and it does not matter in which order the records
came or in which order the counts are kept.

A tally is then a function of the records alone.  Its rankings are those of the values, and
its numbers of keys are the sizes of sets of values.
-/

namespace PacketMeter.Stats

namespace Counters

/-- The values of a text field in some records, without the empty ones. -/
def texts (field : PacketRecord → String) (records : List PacketRecord) : List String :=
  (records.map field).filter (· ≠ "")

/-- The destination ports of some records, without the port zero. -/
def portsOf (records : List PacketRecord) : List UInt16 :=
  (records.map PacketRecord.dstPort).filter (· ≠ 0)

/-- The bytes of all of some records. -/
def bytesOf (records : List PacketRecord) : Nat := (records.map fun r => r.bytes.toNat).sum

/-- What counters say of the records that they have seen. -/
structure Counted (c : Counters) (records : List PacketRecord) : Prop where
  packets_eq : c.packets = UInt64.ofNat records.length
  bytes_eq : c.bytes = UInt64.ofNat (bytesOf records)
  protocols : c.protocols.OfValues (texts PacketRecord.protocol records)
  sources : c.sources.OfValues (texts PacketRecord.srcIp records)
  destinations : c.destinations.OfValues (texts PacketRecord.dstIp records)
  ports : c.ports.OfValues (portsOf records)

theorem counted_empty : empty.Counted [] where
  packets_eq := rfl
  bytes_eq := rfl
  protocols := .nil
  sources := .nil
  destinations := .nil
  ports := .nil

theorem ofValues_bumpText {counts : Counts String} {field : PacketRecord → String}
    {records : List PacketRecord} (h : counts.OfValues (texts field records))
    (r : PacketRecord) :
    (bumpText (field r) counts).OfValues (texts field (records ++ [r])) := by
  rw [texts, List.map_append, List.filter_append, bumpText]
  by_cases he : field r = ""
  · simpa [he, texts] using h
  · simpa [he, texts] using h.bump (field r)

theorem ofValues_bumpPort {counts : Counts UInt16} {records : List PacketRecord}
    (h : counts.OfValues (portsOf records)) (r : PacketRecord) :
    (bumpPort r.dstPort counts).OfValues (portsOf (records ++ [r])) := by
  rw [portsOf, List.map_append, List.filter_append, bumpPort]
  by_cases he : r.dstPort = 0
  · simpa [he, portsOf] using h
  · simpa [he, portsOf] using h.bump r.dstPort

theorem Counted.record {c : Counters} {records : List PacketRecord} (h : c.Counted records)
    (r : PacketRecord) : (c.record r).Counted (records ++ [r]) where
  packets_eq := by
    rw [Counters.record, h.packets_eq, List.length_append, UInt64.ofNat_add]
    rfl
  bytes_eq := by
    rw [Counters.record, h.bytes_eq, bytesOf, bytesOf, List.map_append, List.sum_append,
      UInt64.ofNat_add]
    simp
  protocols := ofValues_bumpText h.protocols r
  sources := ofValues_bumpText h.sources r
  destinations := ofValues_bumpText h.destinations r
  ports := ofValues_bumpPort h.ports r

theorem Counted.recordAll {c : Counters} {records : List PacketRecord} (h : c.Counted records)
    (more : List PacketRecord) : (c.recordAll more).Counted (records ++ more) := by
  induction more generalizing c records with
  | nil => rwa [List.append_nil]
  | cons r more ih =>
      rw [List.append_cons]
      exact ih (h.record r)

/-- New counters have counted what they have seen since. -/
theorem counted_recordAll_empty (records : List PacketRecord) :
    (empty.recordAll records).Counted records :=
  counted_empty.recordAll records

/-- The order of the records does not matter. -/
theorem Counted.of_perm {c : Counters} {records records' : List PacketRecord}
    (h : c.Counted records) (hp : records.Perm records') : c.Counted records' where
  packets_eq := by rw [h.packets_eq, hp.length_eq]
  bytes_eq := by rw [h.bytes_eq, bytesOf, bytesOf, (hp.map _).sum_nat]
  protocols := h.protocols.of_perm ((hp.map _).filter _)
  sources := h.sources.of_perm ((hp.map _).filter _)
  destinations := h.destinations.of_perm ((hp.map _).filter _)
  ports := h.ports.of_perm ((hp.map _).filter _)

/-- The same counters with their counts listed in another order. -/
structure Rearranged (c c' : Counters) : Prop where
  packets_eq : c'.packets = c.packets
  bytes_eq : c'.bytes = c.bytes
  protocols : c.protocols.Perm c'.protocols
  sources : c.sources.Perm c'.sources
  destinations : c.destinations.Perm c'.destinations
  ports : c.ports.Perm c'.ports

theorem Counted.rearranged {c c' : Counters} {records : List PacketRecord}
    (h : c.Counted records) (hr : c.Rearranged c') : c'.Counted records where
  packets_eq := hr.packets_eq.trans h.packets_eq
  bytes_eq := hr.bytes_eq.trans h.bytes_eq
  protocols := h.protocols.counts_perm hr.protocols
  sources := h.sources.counts_perm hr.sources
  destinations := h.destinations.counts_perm hr.destinations
  ports := h.ports.counts_perm hr.ports

/-- The addresses are the values of two fields, each once. -/
theorem Counted.length_addresses {c : Counters} {records : List PacketRecord}
    (h : c.Counted records) :
    c.addresses.length = ((texts PacketRecord.srcIp records).toFinset ∪
      (texts PacketRecord.dstIp records).toFinset).card := by
  have hnodup : c.addresses.Nodup := by
    refine List.nodup_append.2 ⟨h.sources.nodup, h.destinations.nodup.filter _, ?_⟩
    rintro a ha b hb rfl
    simp [ha] at hb
  rw [← List.toFinset_card_of_nodup hnodup]
  congr 1
  ext ip
  rw [List.mem_toFinset, Finset.mem_union, List.mem_toFinset, List.mem_toFinset,
    ← h.sources.mem_keys_iff, ← h.destinations.mem_keys_iff, addresses, List.mem_append,
    List.mem_filter]
  by_cases hs : ip ∈ c.sources.keys <;> simp [hs]

/-- Counters that have seen the same records, in whatever order, say the same. -/
theorem Counted.tally_eq {c c' : Counters} {records records' : List PacketRecord}
    (h : c.Counted records) (h' : c'.Counted records') (hp : records.Perm records')
    (cfg : StatsConfig) : c.tally cfg = c'.tally cfg := by
  have h := h.of_perm hp
  rw [tally, tally, Tally.mk.injEq]
  refine ⟨h.packets_eq.trans h'.packets_eq.symm, h.bytes_eq.trans h'.bytes_eq.symm, ?_, ?_, ?_,
    ?_, ?_, ?_⟩
  · exact (h.protocols.isRanking _).eq (h'.protocols.isRanking _) .rfl
  · exact (h.sources.isRanking _).eq (h'.sources.isRanking _) .rfl
  · exact (h.destinations.isRanking _).eq (h'.destinations.isRanking _) .rfl
  · exact (h.ports.isRanking _).eq (h'.ports.isRanking _) .rfl
  · rw [h.protocols.length_eq, h'.protocols.length_eq]
  · rw [h.length_addresses, h'.length_addresses]

/-! ## Recording and clearing -/

/-- What is done to counters. -/
inductive Call where
  | record (r : PacketRecord)
  | clear
  deriving Inhabited

/-- The counters after a call. -/
def call (c : Counters) : Call → Counters
  | .record r => c.record r
  | .clear => empty

/-- The counters after several calls. -/
def after (c : Counters) (calls : List Call) : Counters := calls.foldl call c

/-- The records that come after the last clearing. -/
def sinceClear (calls : List Call) : List PacketRecord :=
  calls.foldl (fun records => fun
    | .record r => records ++ [r]
    | .clear => []) []

theorem sinceClear_concat (calls : List Call) (x : Call) :
    sinceClear (calls ++ [x]) = match x with
      | .record r => sinceClear calls ++ [r]
      | .clear => [] := by
  rw [sinceClear, List.foldl_append]
  cases x <;> rfl

theorem counted_after (calls : List Call) : (empty.after calls).Counted (sinceClear calls) := by
  induction calls using List.reverseRecOn with
  | nil => exact counted_empty
  | append_singleton calls x ih =>
      rw [sinceClear_concat, after, List.foldl_append]
      cases x with
      | record r => exact ih.record r
      | clear => exact counted_empty

/-- Whatever was recorded and cleared, a tally is that of the records since the last
clearing: their number, their bytes, the rankings of the values of their fields and the
numbers of distinct values.  All counts are words.  The tally is the same for the same
records in another order, and however the counts are listed. -/
theorem tally_counts_records (calls : List Call) (cfg : StatsConfig) :
    let records := sinceClear calls
    let t := (empty.after calls).tally cfg
    t.packets.toNat = records.length % 2 ^ 64 ∧
      t.bytes.toNat = (records.map fun r => r.bytes.toNat).sum % 2 ^ 64 ∧
      IsRanking (texts PacketRecord.protocol records) cfg.protocols t.protocols ∧
      IsRanking (texts PacketRecord.srcIp records) cfg.talkers t.sources ∧
      IsRanking (texts PacketRecord.dstIp records) cfg.talkers t.destinations ∧
      IsRanking (portsOf records) cfg.ports t.ports ∧
      t.uniqueProtocols = (texts PacketRecord.protocol records).toFinset.card ∧
      t.uniqueIps = ((texts PacketRecord.srcIp records).toFinset ∪
        (texts PacketRecord.dstIp records).toFinset).card ∧
      (∀ calls', (sinceClear calls').Perm records → (empty.after calls').tally cfg = t) ∧
      ∀ c', (empty.after calls).Rearranged c' → c'.tally cfg = t := by
  intro records t
  have h : (empty.after calls).Counted records := counted_after calls
  refine ⟨?_, ?_, h.protocols.isRanking _, h.sources.isRanking _, h.destinations.isRanking _,
    h.ports.isRanking _, h.protocols.length_eq, h.length_addresses, ?_, ?_⟩
  · exact (congrArg UInt64.toNat h.packets_eq).trans UInt64.toNat_ofNat'
  · exact (congrArg UInt64.toNat h.bytes_eq).trans UInt64.toNat_ofNat'
  · intro calls' hp
    exact (counted_after calls').tally_eq h hp cfg
  · intro c' hr
    exact (h.rearranged hr).tally_eq h .rfl cfg

/-- A record of which only the protocol is known. -/
def ofProtocol (protocol : String) : PacketRecord := { (default : PacketRecord) with protocol }

/-- Two records after a clearing, and the same ones the other way round.  The ranking tells
the equal counts apart by their keys, in whatever order they are listed. -/
theorem tally_counts_records_two :
    let c := empty.after [.record (ofProtocol "ICMP"), .clear, .record (ofProtocol "UDP"),
      .record (ofProtocol "TCP")]
    let t := c.tally StatsConfig.default
    t.packets.toNat = 2 ∧ c.protocols = [("UDP", 1), ("TCP", 1)] ∧
      (empty.after [.record (ofProtocol "TCP"), .record (ofProtocol "UDP")]).tally
        StatsConfig.default = t ∧
      { c with protocols := [("TCP", 1), ("UDP", 1)] }.tally StatsConfig.default = t := by
  intro c t
  obtain ⟨hpackets, -, -, -, -, -, -, -, hreordered, hrearranged⟩ :=
    tally_counts_records [.record (ofProtocol "ICMP"), .clear, .record (ofProtocol "UDP"),
      .record (ofProtocol "TCP")] StatsConfig.default
  refine ⟨hpackets, rfl, hreordered _ (.swap _ _ _), hrearranged _ ?_⟩
  exact ⟨rfl, rfl, .swap _ _ _, .rfl, .rfl, .rfl⟩

end Counters

end PacketMeter.Stats
