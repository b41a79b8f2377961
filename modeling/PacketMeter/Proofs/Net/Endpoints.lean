import PacketMeter.Endpoint
import PacketMeter.Proofs.Net.AddressText

/-!
# The text of an endpoint

An endpoint that was read from some text is read again from its own text.  For a socket in the
file system the reason is that reading leaves no `unix://` in front of a path, so that the one
that is written is all that is taken off again; the path itself may look like an address, since
what stands in front of it is not `tcp://`.  For an address it is the text of the address.
-/

namespace PacketMeter

namespace Text

theorem stripFront?_eq_some_iff {front s rest : List Char} :
    stripFront? front s = some rest ↔ s = front ++ rest := by
  rw [stripFront?]
  constructor
  · intro h
    split at h
    · next hfront =>
      obtain ⟨t, rfl⟩ := List.isPrefixOf_iff_prefix.1 hfront
      rw [← Option.some.inj h, List.drop_left]
    · exact absurd h (by simp)
  · rintro rfl
    rw [if_pos (List.isPrefixOf_iff_prefix.2 (List.prefix_append _ _)), List.drop_left]

theorem stripAllFront_of_not_prefix {front s : List Char} (h : ¬ front <+: s) :
    stripAllFront front s = s := by
  rw [stripAllFront, dif_neg]
  rintro ⟨-, hfront⟩
  exact h (List.isPrefixOf_iff_prefix.1 hfront)

theorem stripAllFront_append {front : List Char} (hne : front ≠ []) (s : List Char) :
    stripAllFront front (front ++ s) = stripAllFront front s := by
  rw [stripAllFront, dif_pos ⟨hne, List.isPrefixOf_iff_prefix.2 (List.prefix_append _ _)⟩,
    List.drop_left]

/-- What is left does not start with what was removed. -/
theorem not_prefix_stripAllFront {front : List Char} (hne : front ≠ []) (s : List Char) :
    ¬ front <+: stripAllFront front s := by
  fun_induction stripAllFront front s with
  | case1 s h ih => exact ih
  | case2 s h => exact fun hfront => h ⟨hne, List.isPrefixOf_iff_prefix.2 hfront⟩

end Text

namespace Endpoint

open Text

theorem parse_tcp (rest : String) :
    parse ("tcp://" ++ rest) = match Net.SocketAddress.parse? rest with
      | some a => .ok (.tcp a)
      | none => .error (invalidAddress rest) := by
  have hrest : stripFront? "tcp://".toList ("tcp://" ++ rest).toList = some rest.toList :=
    stripFront?_eq_some_iff.2 (String.toList_append ..)
  have hread : String.ofList rest.toList = rest := String.ofList_toList
  unfold parse
  cases hparse : Net.SocketAddress.parse? rest with
  | none => simp only [hrest, hread, hparse]
  | some a => simp only [hrest, hread, hparse]

theorem parse_unix {s : String} (h : ∀ rest, s ≠ "tcp://" ++ rest) :
    parse s = .ok (.unix (String.ofList (stripAllFront "unix://".toList s.toList))) := by
  have hnone : stripFront? "tcp://".toList s.toList = none := by
    cases hrest : stripFront? "tcp://".toList s.toList with
    | none => rfl
    | some rest =>
        refine absurd ?_ (h (String.ofList rest))
        have hlist : (String.ofList rest).toList = rest := String.toList_ofList
        rw [← String.toList_inj, stripFront?_eq_some_iff.1 hrest, String.toList_append, hlist]
  unfold parse
  rw [hnone]

theorem unix_ne_tcp (path rest : String) : "unix://" ++ path ≠ "tcp://" ++ rest := by
  intro h
  have hlist := congrArg String.toList h
  rw [String.toList_append, String.toList_append] at hlist
  exact absurd (List.cons.inj hlist).1 (by decide)

/-- A path in front of which nothing is left to take off is read back. -/
theorem parse_text_unix {path : List Char} (h : ¬ "unix://".toList <+: path) :
    parse (unix (String.ofList path)).text = .ok (unix (String.ofList path)) := by
  have hlist : (String.ofList path).toList = path := String.toList_ofList
  rw [text, parse_unix (unix_ne_tcp _), String.toList_append, stripAllFront_append (by decide),
    hlist, stripAllFront_of_not_prefix h]

/-- Every endpoint that some text describes is described by its own text, and only what follows
`tcp://` and is no socket address describes none. -/
theorem text_describes (s : String) :
    (∀ e, parse s = .ok e → parse e.text = .ok e ∧ e.reparses = true) ∧
      ∀ m, parse s = .error m ↔
        ∃ rest, s = "tcp://" ++ rest ∧ Net.SocketAddress.parse? rest = none ∧
          m = invalidAddress rest := by
  have hreparses {e : Endpoint} (h : parse e.text = .ok e) : e.reparses = true := by
    rw [reparses, h]
    exact same_self e
  by_cases htcp : ∃ rest, s = "tcp://" ++ rest
  · obtain ⟨rest, rfl⟩ := htcp
    rw [parse_tcp]
    cases hread : Net.SocketAddress.parse? rest with
    | none =>
        refine ⟨fun e he => absurd he (by simp), fun m => ⟨?_, ?_⟩⟩
        · rintro hm
          exact ⟨rest, rfl, hread, (Except.error.inj hm).symm⟩
        · rintro ⟨rest', heq, -, rfl⟩
          rw [(String.append_right_inj _).1 heq]
    | some a =>
        refine ⟨?_, fun m => ⟨fun hm => absurd hm (by simp), ?_⟩⟩
        · rintro e he
          rw [← Except.ok.inj he]
          have htext : parse (tcp a).text = .ok (tcp a) := by
            rw [text, parse_tcp, Net.parse?_text (Net.isComplete_of_parse? hread)]
          exact ⟨htext, hreparses htext⟩
        · rintro ⟨rest', heq, hnone, -⟩
          rw [← (String.append_right_inj _).1 heq, hread] at hnone
          exact absurd hnone (by simp)
  · rw [parse_unix fun rest h => htcp ⟨rest, h⟩]
    refine ⟨?_, fun m => ⟨fun hm => absurd hm (by simp), fun ⟨rest, h, _⟩ => absurd ⟨rest, h⟩ htcp⟩⟩
    rintro e he
    rw [← Except.ok.inj he]
    have htext := parse_text_unix (not_prefix_stripAllFront (by decide) s.toList)
    exact ⟨htext, hreparses htext⟩

/-- A path that looks like an address, behind more than one `unix://`, and an address of which
zero groups in the middle were left out. -/
theorem text_describes_again :
    parse "unix://tcp://[::1]:80" = .ok (unix "tcp://[::1]:80") ∧
      parse "tcp://[fe80::1%7]:80" =
        .ok (tcp (.v6 ⟨[0xfe80, 0, 0, 0, 0, 0, 0, 1]⟩ 7 80)) := by
  have hpath : parse "unix://unix://tcp://[::1]:80" = .ok (unix "tcp://[::1]:80") := by
    decide +kernel
  have haddress : parse "tcp://[FE80:0::0.0.0.1%7]:080" =
      .ok (tcp (.v6 ⟨[0xfe80, 0, 0, 0, 0, 0, 0, 1]⟩ 7 80)) := by
    rfl
  exact ⟨((text_describes _).1 _ hpath).1, ((text_describes _).1 _ haddress).1⟩

end Endpoint

end PacketMeter
