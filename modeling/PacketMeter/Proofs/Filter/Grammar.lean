import PacketMeter.Filter
import PacketMeter.Proofs.Text.Trimming

/-!
# How a filter is written

`Reads t f` says which filter `f` a text `t` without blanks at its ends describes, without a word
on how it is taken apart: a rule for the texts that say nothing, one for the words that go with a
text, one for the words that go with a port, and one for all other texts.  A port is written in
decimal, and everything that is not the numeral of a port selects all records.

Every text describes one filter.  Blanks around it do not matter, nor do blanks around the value
behind a word.
-/

namespace PacketMeter

namespace Decimal

/-- A numeral and its value: ASCII digits, at least one of them, which a plus sign may precede. -/
def IsNumeral (s : List Char) (n : Nat) : Prop :=
  ∃ ds, (s = ds ∨ s = '+' :: ds) ∧ ds ≠ [] ∧ (∀ d ∈ ds, d.isDigit = true) ∧
    Nat.ofDigitChars 10 ds 0 = n

theorem digit?_eq (c : Char) :
    digit? c = if c.isDigit = true then some (c.toNat - '0'.toNat) else none := by
  have hdigit : ('0' ≤ c ∧ c ≤ '9') ↔ c.isDigit = true := by
    simp [Char.isDigit, Char.le_def]
  rw [digit?]
  exact if_congr hdigit rfl rfl

theorem digitsFrom?_eq_some_iff {acc n : Nat} {ds : List Char} :
    digitsFrom? acc ds = some n ↔
      (∀ d ∈ ds, d.isDigit = true) ∧ Nat.ofDigitChars 10 ds acc = n := by
  induction ds generalizing acc with
  | nil => simp [digitsFrom?]
  | cons d ds ih =>
      rw [digitsFrom?, digit?_eq, Nat.ofDigitChars_cons, List.forall_mem_cons]
      by_cases hd : d.isDigit = true
      · rw [if_pos hd, Option.bind_some, ih, Nat.mul_comm acc 10]
        simp only [hd, true_and]
      · simp [hd]

theorem natural?_eq_some_iff {ds : List Char} {n : Nat} :
    natural? ds = some n ↔
      ds ≠ [] ∧ (∀ d ∈ ds, d.isDigit = true) ∧ Nat.ofDigitChars 10 ds 0 = n := by
  rw [natural?]
  cases ds with
  | nil => simp
  | cons d ds =>
      rw [if_neg (by simp), digitsFrom?_eq_some_iff]
      simp

theorem unsigned?_eq_some_iff {greatest n : Nat} {s : List Char} :
    unsigned? greatest s = some n ↔ IsNumeral s n ∧ n ≤ greatest := by
  unfold unsigned?
  rw [Option.filter_eq_some_iff, decide_eq_true_eq]
  refine and_congr_left fun _ => ?_
  split
  · next rest =>
    rw [natural?_eq_some_iff]
    constructor
    · intro h
      exact ⟨rest, .inr rfl, h⟩
    · rintro ⟨ds, rfl | heq, h⟩
      · exact absurd (h.2.1 '+' List.mem_cons_self) (by decide)
      · rw [List.cons.inj heq |>.2]
        exact h
  · next hplus =>
    rw [natural?_eq_some_iff]
    constructor
    · intro h
      exact ⟨s, .inl rfl, h⟩
    · rintro ⟨ds, rfl | heq, h⟩
      · exact h
      · exact absurd heq (hplus ds)

end Decimal

namespace Filter

open Text Decimal

/-! ## Grammar -/

/-- The words that go with a text. -/
def textWords : List (String × (String → Filter)) :=
  [("proto", protocol), ("src", sourceIp), ("dst", destIp)]

/-- The words that go with a port. -/
def portWords : List (String × (UInt16 → Filter)) :=
  [("sport", sourcePort), ("dport", destPort)]

/-- A text that starts with a word and a colon. -/
def StartsWith (word : String) (t value : List Char) : Prop := t = word.toList ++ ':' :: value

/-- The filter that a text without blanks at its ends describes. -/
inductive Reads (t : List Char) : Filter → Prop where
  | blank (h : t = []) : Reads t any
  | word {word : String} {make : String → Filter} {value : List Char}
      (hw : (word, make) ∈ textWords) (h : StartsWith word t value) :
      Reads t (make (String.ofList (trim value)))
  | port {word : String} {make : UInt16 → Filter} {value : List Char} {port : UInt16}
      (hw : (word, make) ∈ portWords) (h : StartsWith word t value)
      (hp : IsNumeral (trim value) port.toNat) : Reads t (make port)
  | noPort {word : String} {make : UInt16 → Filter} {value : List Char}
      (hw : (word, make) ∈ portWords) (h : StartsWith word t value)
      (hp : ∀ port : UInt16, ¬ IsNumeral (trim value) port.toNat) : Reads t any
  | other (h : t ≠ []) (ht : ∀ w ∈ textWords, ∀ value, ¬ StartsWith w.1 t value)
      (hp : ∀ w ∈ portWords, ∀ value, ¬ StartsWith w.1 t value) :
      Reads t (text (String.ofList t))

/-! ## Reading -/

/-- The words before a colon that say how a value is meant. -/
def words : List String := textWords.map Prod.fst ++ portWords.map Prod.fst

theorem colon_not_mem {word : String} (hw : word ∈ words) : ':' ∉ word.toList := by
  revert word
  decide

theorem mem_words_of_textWords {word : String} {make : String → Filter}
    (hw : (word, make) ∈ textWords) : word ∈ words :=
  List.mem_append_left _ (List.mem_map_of_mem hw)

theorem mem_words_of_portWords {word : String} {make : UInt16 → Filter}
    (hw : (word, make) ∈ portWords) : word ∈ words :=
  List.mem_append_right _ (List.mem_map_of_mem hw)

theorem ofWord?_of_textWords {word : String} {make : String → Filter}
    (hw : (word, make) ∈ textWords) (value : List Char) :
    ofWord? word.toList value = some (make (String.ofList value)) := by
  simp only [textWords, List.mem_cons, Prod.mk.injEq, List.not_mem_nil, or_false] at hw
  rcases hw with ⟨rfl, rfl⟩ | ⟨rfl, rfl⟩ | ⟨rfl, rfl⟩
  · rfl
  · rfl
  · rfl

theorem ofWord?_of_portWords {word : String} {make : UInt16 → Filter}
    (hw : (word, make) ∈ portWords) (value : List Char) :
    ofWord? word.toList value = some (ofPort make value) := by
  simp only [portWords, List.mem_cons, Prod.mk.injEq, List.not_mem_nil, or_false] at hw
  rcases hw with ⟨rfl, rfl⟩ | ⟨rfl, rfl⟩
  · rfl
  · rfl

theorem ofWord?_eq_none {word : List Char} (h : ∀ w ∈ words, word ≠ w.toList)
    (value : List Char) : ofWord? word value = none := by
  rw [ofWord?, if_neg (h "proto" (by decide)), if_neg (h "src" (by decide)),
    if_neg (h "dst" (by decide)), if_neg (h "sport" (by decide)), if_neg (h "dport" (by decide))]

theorem ofTrimmed_of_startsWith {word : String} {t value : List Char} (hw : word ∈ words)
    (h : StartsWith word t value) :
    ofTrimmed t = (ofWord? word.toList (trim value)).getD (text (String.ofList t)) := by
  have hcut : cut? ':' t = some (word.toList, value) := by
    rw [h, cut?_append value (colon_not_mem hw)]
  have hne : t.isEmpty = false := by
    rw [h]
    simp
  rw [ofTrimmed, hne, hcut]
  rfl

theorem exists_of_cut? {mark : Char} {t before after : List Char}
    (h : cut? mark t = some (before, after)) : t = before ++ mark :: after := by
  induction t generalizing before with
  | nil => exact absurd h (by simp [cut?])
  | cons c t ih =>
      rw [cut?] at h
      split at h
      · next hc =>
        obtain ⟨rfl, rfl⟩ := Prod.mk.inj (Option.some.inj h)
        rw [hc, List.nil_append]
      · obtain ⟨⟨b, a⟩, hcut, heq⟩ := Option.map_eq_some_iff.1 h
        obtain ⟨rfl, rfl⟩ := Prod.mk.inj heq
        rw [ih hcut, List.cons_append]

theorem ofTrimmed_of_not_startsWith {t : List Char} (hne : t ≠ [])
    (h : ∀ w ∈ words, ∀ value, ¬ StartsWith w t value) :
    ofTrimmed t = text (String.ofList t) := by
  rw [ofTrimmed, if_neg (by simpa using hne)]
  cases hcut : cut? ':' t with
  | none => rfl
  | some parts =>
      obtain ⟨word, value⟩ := parts
      have hnone : ofWord? word (trim value) = none := by
        refine ofWord?_eq_none (fun w hw heq => h w hw value ?_) _
        rw [StartsWith, ← heq]
        exact exists_of_cut? hcut
      rw [Option.bind_some]
      dsimp only
      rw [hnone, Option.getD_none]

theorem ofPort_of_isNumeral {make : UInt16 → Filter} {value : List Char} {port : UInt16}
    (h : IsNumeral value port.toNat) : ofPort make value = make port := by
  have hread : unsigned? 65535 value = some port.toNat :=
    unsigned?_eq_some_iff.2 ⟨h, Nat.le_of_lt_succ port.toNat_lt⟩
  rw [ofPort, hread]
  simp

theorem ofPort_of_not_isNumeral (make : UInt16 → Filter) {value : List Char}
    (h : ∀ port : UInt16, ¬ IsNumeral value port.toNat) : ofPort make value = any := by
  cases hread : unsigned? 65535 value with
  | none => rw [ofPort, hread]
  | some n =>
      obtain ⟨hn, hle⟩ := unsigned?_eq_some_iff.1 hread
      refine absurd ?_ (h n.toUInt16)
      rwa [Nat.toUInt16_eq, UInt16.toNat_ofNat', Nat.mod_eq_of_lt (Nat.lt_succ_of_le hle)]

theorem Reads.eq_ofTrimmed {t : List Char} {f : Filter} (h : Reads t f) : f = ofTrimmed t := by
  cases h with
  | blank h =>
      rw [h]
      rfl
  | word hw h =>
      rw [ofTrimmed_of_startsWith (mem_words_of_textWords hw) h, ofWord?_of_textWords hw]
      rfl
  | port hw h hp =>
      rw [ofTrimmed_of_startsWith (mem_words_of_portWords hw) h, ofWord?_of_portWords hw,
        ofPort_of_isNumeral hp]
      rfl
  | noPort hw h hp =>
      rw [ofTrimmed_of_startsWith (mem_words_of_portWords hw) h, ofWord?_of_portWords hw,
        ofPort_of_not_isNumeral _ hp]
      rfl
  | other hne ht hp =>
      refine (ofTrimmed_of_not_startsWith hne fun w hw value h => ?_).symm
      rcases List.mem_append.1 hw with hw | hw
      · obtain ⟨entry, hentry, rfl⟩ := List.mem_map.1 hw
        exact ht entry hentry value h
      · obtain ⟨entry, hentry, rfl⟩ := List.mem_map.1 hw
        exact hp entry hentry value h

/-- Some rule applies to every text. -/
theorem exists_reads (t : List Char) : ∃ f, Reads t f := by
  by_cases hne : t = []
  · exact ⟨_, .blank hne⟩
  by_cases ht : ∃ w ∈ textWords, ∃ value, StartsWith w.1 t value
  · obtain ⟨w, hw, value, h⟩ := ht
    exact ⟨_, .word hw h⟩
  by_cases hp : ∃ w ∈ portWords, ∃ value, StartsWith w.1 t value
  · obtain ⟨w, hw, value, h⟩ := hp
    by_cases hn : ∃ port : UInt16, IsNumeral (trim value) port.toNat
    · obtain ⟨port, hn⟩ := hn
      exact ⟨_, .port hw h hn⟩
    · exact ⟨_, .noPort hw h fun port hport => hn ⟨port, hport⟩⟩
  · exact ⟨_, .other hne (fun w hw value h => ht ⟨w, hw, value, h⟩)
      fun w hw value h => hp ⟨w, hw, value, h⟩⟩

theorem reads_iff {t : List Char} {f : Filter} : Reads t f ↔ ofTrimmed t = f := by
  refine ⟨fun h => h.eq_ofTrimmed.symm, ?_⟩
  rintro rfl
  obtain ⟨f, h⟩ := exists_reads t
  rwa [← h.eq_ofTrimmed]

/-! ## Blanks -/

/-- Only the end of the value is trimmed when a word stands before it. -/
theorem trim_word {word : String} (hw : word ∈ words) (value : List Char) :
    trim (word.toList ++ ':' :: value) = word.toList ++ ':' :: trimEnd value := by
  have hhead : ∃ c cs, word.toList = c :: cs ∧ isBlank c = false := by
    simp only [words, textWords, portWords, List.map_cons, List.map_nil, List.cons_append,
      List.nil_append, List.mem_cons, List.not_mem_nil, or_false] at hw
    rcases hw with rfl | rfl | rfl | rfl | rfl <;> exact ⟨_, _, rfl, by decide⟩
  obtain ⟨c, cs, hword, hc⟩ := hhead
  rw [trim, hword, List.cons_append, trimStart_cons_of_not_blank _ hc, ← List.cons_append,
    trimEnd_append_cons (by decide)]

theorem isSome_ofWord? {word : String} (hw : word ∈ words) (value : List Char) :
    (ofWord? word.toList value).isSome = true := by
  rcases List.mem_append.1 hw with hw | hw
  · obtain ⟨⟨word, make⟩, hentry, rfl⟩ := List.mem_map.1 hw
    rw [ofWord?_of_textWords hentry]
    rfl
  · obtain ⟨⟨word, make⟩, hentry, rfl⟩ := List.mem_map.1 hw
    rw [ofWord?_of_portWords hentry]
    rfl

theorem ofWord?_eq_some_parse {word : String} (hw : word ∈ words) (value : String) :
    ofWord? word.toList (trim value.toList) = some (parse (word ++ ":" ++ value)) := by
  have hlist : (word ++ ":" ++ value).toList = word.toList ++ ':' :: value.toList := by
    simp
  obtain ⟨f, hf⟩ := Option.isSome_iff_exists.1 (isSome_ofWord? hw (trim value.toList))
  rw [parse, hlist, trim_word hw, ofTrimmed_of_startsWith hw rfl, trim_trimEnd, hf,
    Option.getD_some]

/-- A text describes the one filter that the grammar gives to what is left of it after trimming.
Blanks around the text, and around the value after a word, change nothing, and a word that goes
with a port selects everything when no port follows. -/
theorem parse_reads :
    (∀ (s : String) (f : Filter), Reads (trim s.toList) f ↔ parse s = f) ∧
      (∀ s before after : String, (∀ c ∈ before.toList ++ after.toList, isBlank c = true) →
        parse (before ++ s ++ after) = parse s) ∧
      (∀ word ∈ words, ∀ value before after : String,
        (∀ c ∈ before.toList ++ after.toList, isBlank c = true) →
          parse (word ++ ":" ++ (before ++ value ++ after)) = parse (word ++ ":" ++ value)) ∧
      ∀ entry ∈ portWords, ∀ value : String,
        (∀ port : UInt16, ¬ IsNumeral (trim value.toList) port.toNat) →
          ∀ r, (parse (entry.1 ++ ":" ++ value)).selects r = true := by
  have htrim {s before after : String} (h : ∀ c ∈ before.toList ++ after.toList,
      isBlank c = true) : trim (before ++ s ++ after).toList = trim s.toList := by
    rw [String.toList_append, String.toList_append]
    exact trim_between_blanks (fun c hc => h c (List.mem_append_left _ hc))
      (fun c hc => h c (List.mem_append_right _ hc)) _
  refine ⟨fun s f => reads_iff, fun s before after h => ?_, fun word hw value before after h => ?_,
    fun entry hentry value h r => ?_⟩
  · rw [parse, htrim h, parse]
  · refine Option.some.inj ?_
    rw [← ofWord?_eq_some_parse hw, ← ofWord?_eq_some_parse hw, htrim h]
  · have hany : some (parse (entry.1 ++ ":" ++ value)) = some any := by
      rw [← ofWord?_eq_some_parse (mem_words_of_portWords hentry), ofWord?_of_portWords hentry,
        ofPort_of_not_isNumeral _ h]
    rw [Option.some.inj hany, selects_any]

/-- Zeros and a plus sign may stand before a port, which cannot be greater than the greatest one. -/
theorem parse_reads_blanks :
    parse ("\u2003" ++ "sport:+0443" ++ "\n") = sourcePort 443 ∧
      parse ("proto" ++ ":" ++ ("\t" ++ " a :b" ++ " ")) = protocol "a :b" ∧
      ∀ r, (parse ("dport" ++ ":" ++ "65536")).selects r = true := by
  obtain ⟨hreads, haround, hvalue, hport⟩ := parse_reads
  refine ⟨?_, ?_, ?_⟩
  · rw [haround "sport:+0443" "\u2003" "\n" (List.all_eq_true.1 (by decide))]
    have hnumeral : IsNumeral (trim "+0443".toList) (443 : UInt16).toNat :=
      ⟨"0443".toList, .inr (by decide), by decide, List.all_eq_true.1 (by decide), by decide⟩
    have hword : ("sport", sourcePort) ∈ portWords := by simp [portWords]
    exact (hreads "sport:+0443" (sourcePort 443)).1 (.port hword (by rfl) hnumeral)
  · rw [hvalue "proto" (by decide) " a :b" "\t" " " (List.all_eq_true.1 (by decide))]
    rfl
  · refine hport ("dport", destPort) (by simp [portWords]) "65536" ?_
    intro port h
    have hread := unsigned?_eq_some_iff.2 ⟨h, Nat.le_of_lt_succ port.toNat_lt⟩
    have hgreat : unsigned? 65535 (trim "65536".toList) = none := by decide
    rw [hgreat] at hread
    exact absurd hread (by simp)

end Filter

end PacketMeter
