import PacketMeter.Filter
import PacketMeter.Proofs.Text.Casing

/-!
# What the filters for protocols and free texts find

Both filters compare in lower case, and the field and the part that is looked for are lower-cased
each on its own.  A part that stands in a field is found in it as long as its lower-case form is
the same there.  That is so unless a capital sigma of it ends a word in one of them and not in the
other, and such a part is missed: `protocol_misses_sigma` has a record of which the protocol holds
the part literally.

The case of the ASCII letters of the part has no effect, also where a free text is looked for in
the ports, which are compared literally: no port has a letter.
-/

namespace PacketMeter.Filter

open Text

/-- A part stands in a field, and its capital sigmas end the same words there. -/
def StandsIn (part field : String) : Prop :=
  ∃ before after, field.toList = before ++ part.toList ++ after ∧
    SameSigmas before.reverse part.toList after

theorem standsIn_of_not_mem {part field : String} (h : 'Σ' ∉ part.toList)
    (hin : part.toList <:+: field.toList) : StandsIn part field := by
  obtain ⟨before, after, hfield⟩ := hin
  exact ⟨before, after, hfield.symm, sameSigmas_of_not_mem h _ _⟩

theorem holdsLower_of_standsIn {part field : String} (h : StandsIn part field) :
    holdsLower field part = true := by
  obtain ⟨before, after, hfield, hsigmas⟩ := h
  rw [holdsLower, occurs_iff, hfield]
  exact infix_lowercase hsigmas

theorem holdsLower_congr {part part' : String}
    (h : part.toList.map Char.toLower = part'.toList.map Char.toLower) (field : String) :
    holdsLower field part = holdsLower field part' := by
  rw [holdsLower, holdsLower, lowercase_eq_of_map_toLower h]

theorem toLower_of_isDigit {c : Char} (h : c.isDigit = true) : c.toLower = c := by
  unfold Char.toLower
  rw [dif_neg]
  intro hletter
  have hle : c.toNat ≤ 57 := by
    simp only [Char.isDigit, Bool.and_eq_true, decide_eq_true_eq] at h
    exact UInt32.le_iff_toNat_le.1 h.2
  have hge : 65 ≤ c.toNat := UInt32.le_iff_toNat_le.1 hletter.1
  omega

/-- A digit has no other case. -/
theorem eq_of_toLower_eq {c d : Char} (hc : c.isDigit = true) (h : c.toLower = d.toLower) :
    c = d := by
  have hdigit : d.isDigit = true := by
    rw [← apply_toLower Char.isDigit (by decide) d, ← h,
      apply_toLower Char.isDigit (by decide) c, hc]
  rw [← toLower_of_isDigit hc, h, toLower_of_isDigit hdigit]

theorem eq_of_map_toLower_eq {s t : List Char} (hs : ∀ c ∈ s, c.isDigit = true)
    (h : s.map Char.toLower = t.map Char.toLower) : s = t := by
  induction s generalizing t with
  | nil => exact (List.map_eq_nil_iff.1 h.symm).symm
  | cons c s ih =>
      obtain ⟨d, t, rfl, hcd, hst⟩ := List.map_eq_cons_iff.1 h.symm
      rw [List.forall_mem_cons] at hs
      rw [eq_of_toLower_eq hs.1 hcd.symm, ih hs.2 hst.symm]

theorem isDigit_of_mem_portText {port : UInt16} {c : Char} (h : c ∈ (portText port).toList) :
    c.isDigit = true := by
  rw [portText, Nat.toString_eq_repr, Nat.toList_repr] at h
  exact Nat.isDigit_of_mem_toDigits (by decide) (by decide) h

theorem eq_of_holds_portText {port : UInt16} {part part' : String}
    (h : part.toList.map Char.toLower = part'.toList.map Char.toLower)
    (hin : holds (portText port) part = true) : part = part' := by
  have hdigits : ∀ c ∈ part.toList, c.isDigit = true := fun c hc =>
    isDigit_of_mem_portText ((occurs_iff.1 hin).mem hc)
  exact String.toList_inj.1 (eq_of_map_toLower_eq hdigits h)

theorem holds_portText_congr {part part' : String}
    (h : part.toList.map Char.toLower = part'.toList.map Char.toLower) (port : UInt16) :
    holds (portText port) part = holds (portText port) part' := by
  rw [Bool.eq_iff_iff]
  constructor
  · intro hin
    rwa [← eq_of_holds_portText h hin]
  · intro hin
    rwa [← eq_of_holds_portText h.symm hin]

/-- A part that stands in the protocol is found there, and one that stands in the protocol, an
address or a port is found by a filter for free texts; every part without a capital sigma stands
in a field that holds it.  Another case of its ASCII letters changes nothing. -/
theorem selects_standing (r : PacketRecord) (part : String) :
    (StandsIn part r.protocol → (protocol part).selects r = true) ∧
      ((∃ field ∈ [r.protocol, r.srcIp, r.dstIp], StandsIn part field) →
        (text part).selects r = true) ∧
      ((∃ port ∈ [r.srcPort, r.dstPort], part.toList <:+: (portText port).toList) →
        (text part).selects r = true) ∧
      ('Σ' ∉ part.toList → ∀ field : String, part.toList <:+: field.toList →
        StandsIn part field) ∧
      ∀ part' : String, part.toList.map Char.toLower = part'.toList.map Char.toLower →
        (protocol part).selects r = (protocol part').selects r ∧
          (text part).selects r = (text part').selects r := by
  refine ⟨holdsLower_of_standsIn, ?_, ?_, fun h field => standsIn_of_not_mem h,
    fun part' h => ⟨holdsLower_congr h _, ?_⟩⟩
  · rintro ⟨field, hfield, h⟩
    have hfound := holdsLower_of_standsIn h
    simp only [List.mem_cons, List.not_mem_nil, or_false] at hfield
    rcases hfield with rfl | rfl | rfl
    · simp [selects, hfound]
    · simp [selects, hfound]
    · simp [selects, hfound]
  · rintro ⟨port, hport, h⟩
    have hfound : holds (portText port) part = true := occurs_iff.2 h
    simp only [List.mem_cons, List.not_mem_nil, or_false] at hport
    rcases hport with rfl | rfl
    · simp [selects, hfound]
    · simp [selects, hfound]
  · simp only [selects, holdsLower_congr h, holds_portText_congr h]

/-- A sigma that ends no word in the field either is found, as is a part without one in any case
of its letters. -/
theorem selects_standing_sigma :
    let r : PacketRecord := { (default : PacketRecord) with protocol := "ΙΣΤΟΣ-tls", srcPort := 8443 }
    (protocol "ΣΤΟ").selects r = true ∧ (text "ΣΤΟ").selects r = true ∧
      (text "44").selects r = true ∧ (protocol "TLS").selects r = true := by
  intro r
  have hsigma : StandsIn "ΣΤΟ" r.protocol :=
    ⟨['Ι'], "Σ-tls".toList, by decide, sameSigmas_iff.2 (by decide)⟩
  obtain ⟨hprotocol, htext, -⟩ := selects_standing r "ΣΤΟ"
  obtain ⟨-, -, hport, -⟩ := selects_standing r "44"
  obtain ⟨htls, -, -, hplain, hcase⟩ := selects_standing r "tls"
  refine ⟨hprotocol hsigma, htext ⟨r.protocol, List.mem_cons_self, hsigma⟩, ?_, ?_⟩
  · exact hport ⟨8443, List.mem_cons_self, ['8'], ['3'], by decide⟩
  · rw [← (hcase "TLS" (by decide)).1]
    exact htls (hplain (by decide) r.protocol ⟨"ΙΣΤΟΣ-".toList, [], by decide⟩)

/-- A capital sigma at the end of a word is not found by itself. -/
theorem protocol_misses_sigma :
    let r : PacketRecord := { (default : PacketRecord) with protocol := "ΑΣ" }
    "Σ".toList <:+: r.protocol.toList ∧ (protocol "Σ").selects r = false ∧
      (text "Σ").selects r = false := by
  refine ⟨⟨['Α'], [], rfl⟩, ?_, ?_⟩
  · decide
  · decide

end PacketMeter.Filter
