import Mathlib.Data.List.TakeWhile
import PacketMeter.Proofs.Net.Numerals

/-!
# The text of a socket address

Every socket address is read back from its text.  For an IPv4 address this is the order of its
parts.  The groups of an IPv6 address are written with nothing, with `::` for a run of zero
groups, or with an IPv4 address at the end; a reader that does not know which of these it has
before it tries at each place to read an IPv4 address and then a group, and has to fail where the
writer did not put one.  `Ends` says of what follows the groups that no further group can be read
from it.

Reading gives eight groups, so that what was read can always be written.
-/

namespace PacketMeter.Net

/-! ## No IPv4 address among the groups -/

theorem Stops.ten {s : List Char} (h : Stops 16 s) : Stops 10 s := by
  intro c hc
  have hnone := h c hc
  unfold digit? at hnone ⊢
  rw [Option.filter_eq_none_iff] at hnone ⊢
  intro d hd
  have hlarge := hnone d hd
  simp only [decide_eq_true_eq] at hlarge ⊢
  omega

theorem part?_eq_none {s : List Char} (h : Stops 16 s) : part? s = none := by
  unfold part?
  rw [number?_eq_none h.ten]
  rfl

theorem ipv4?_eq_none {s : List Char} (h : Stops 16 s) : ipv4? s = none := by
  unfold ipv4?
  rw [part?_eq_none h]
  rfl

theorem drop_length_takeWhile (p : Char → Bool) (s : List Char) :
    s.drop (s.takeWhile p).length = s.dropWhile p := by
  induction s with
  | nil => rfl
  | cons c s ih =>
      by_cases h : p c = true
      · simp [h, ih]
      · simp [h]

theorem rest_of_part? {s rest : List Char} {n : UInt8} (h : part? s = some (n, rest)) :
    rest = s.dropWhile fun c => (digit? 10 c).isSome := by
  unfold part? number? at h
  dsimp only at h
  split at h
  · exact absurd h (by simp)
  · rw [Option.bind_eq_bind, Option.bind_some] at h
    dsimp only at h
    split at h
    · exact absurd h (by simp)
    · obtain ⟨-, rfl⟩ := Prod.mk.inj (Option.some.inj h)
      exact drop_length_takeWhile _ s

/-- A group is not the first part of an IPv4 address when no point follows it. -/
theorem ipv4?_toDigits (g : UInt16) {rest : List Char} (hr : Stops 16 rest)
    (hdot : rest.head? ≠ some '.') : ipv4? (Nat.toDigits 16 g.toNat ++ rest) = none := by
  cases hpart : part? (Nat.toDigits 16 g.toNat ++ rest) with
  | none =>
      unfold ipv4?
      rw [hpart]
      rfl
  | some read =>
      obtain ⟨a, after⟩ := read
      have hhead : after.head? ≠ some '.' := by
        rw [rest_of_part? hpart, List.dropWhile_append]
        split
        · rwa [dropWhile_of_stops hr.ten]
        · next hne =>
          rw [List.head?_append_of_ne_nil _ (by simpa using hne)]
          intro hhead
          have hmem : '.' ∈ Nat.toDigits 16 g.toNat :=
            (List.dropWhile_suffix _).mem (List.mem_of_mem_head? hhead)
          exact absurd (isSome_digit?_of_mem (by decide) (by decide) hmem) (by decide)
      have hafter : after? '.' after = none := by
        cases after with
        | nil => rfl
        | cons c after =>
            rw [after?, if_neg]
            rintro rfl
            exact hhead rfl
      unfold ipv4?
      simp only [hpart, hafter, Option.bind_eq_bind, Option.bind_some, Option.bind_none]

/-! ## Groups -/

/-- A text from which no group can be read after `count` others, nor a part of the group before
it. -/
structure Ends (count : Nat) (s : List Char) : Prop where
  stops : Stops 16 s
  no_dot : s.head? ≠ some '.'
  no_group : ∀ t, groupStart? count s = some t → Stops 16 t

/-- The groups of an address that stand after `count` others, as they are written. -/
def written (count : Nat) : List UInt16 → List Char
  | [] => []
  | g :: gs =>
    (if count = 0 then [] else [':']) ++ Nat.toDigits 16 g.toNat ++ written (count + 1) gs

section Groups

variable {count room : Nat} {s t rest : List Char}

theorem groups_of_stops (h : ∀ t, groupStart? count s = some t → Stops 16 t) :
    groups count room s = ([], false, s) := by
  cases room with
  | zero => rfl
  | succ room =>
      rw [groups]
      cases hstart : groupStart? count s with
      | none => simp
      | some t => simp [ipv4?_eq_none (h t hstart), group?_eq_none (h t hstart)]

theorem groups_of_group (hs : groupStart? count s = some t) (hip : ipv4? t = none) {g : UInt16}
    (hg : group? t = some (g, rest)) :
    groups count (room + 1) s = (g :: (groups (count + 1) room rest).1,
      (groups (count + 1) room rest).2.1, (groups (count + 1) room rest).2.2) := by
  rw [groups, hs]
  simp [hip, hg]

theorem groups_of_ipv4 (hs : groupStart? count s = some t) (hroom : room ≠ 0) {ip : Ipv4}
    (hip : ipv4? t = some (ip, rest)) :
    groups count (room + 1) s = (ip.groups, true, rest) := by
  rw [groups, hs]
  simp [hip, hroom]

theorem groups_written (gs : List UInt16) (hroom : gs.length ≤ room)
    (h : Ends (count + gs.length) rest) :
    groups count room (written count gs ++ rest) = (gs, false, rest) := by
  induction gs generalizing count room with
  | nil => exact groups_of_stops h.no_group
  | cons g gs ih =>
      obtain ⟨room, rfl⟩ : ∃ n, room = n + 1 := ⟨room - 1, by simp at hroom; omega⟩
      have hrest : groups (count + 1) room (written (count + 1) gs ++ rest) = (gs, false, rest) :=
        ih (by simpa using hroom)
          (by rwa [List.length_cons, Nat.add_comm gs.length, ← Nat.add_assoc] at h)
      have hstart : groupStart? count (written count (g :: gs) ++ rest) =
          some (Nat.toDigits 16 g.toNat ++ (written (count + 1) gs ++ rest)) := by
        rw [written, groupStart?]
        split
        · simp
        · simp [after?]
      -- Behind the group stands the colon of the next one, or what follows them all.
      have hstops : Stops 16 (written (count + 1) gs ++ rest) ∧
          (written (count + 1) gs ++ rest).head? ≠ some '.' := by
        cases gs with
        | nil => exact ⟨h.stops, h.no_dot⟩
        | cons g' gs =>
            rw [written, if_neg (Nat.succ_ne_zero count)]
            exact ⟨stops_cons _ (by decide), by simp⟩
      rw [groups_of_group hstart (ipv4?_toDigits g hstops.1 hstops.2) (group?_toDigits g hstops.1),
        hrest]

end Groups

/-! ## IPv6 addresses -/

/-- Only the first group can be without a colon in front. -/
theorem written_succ (count : Nat) (gs : List UInt16) :
    written (count + 1) gs = written 1 gs := by
  induction gs generalizing count with
  | nil => rfl
  | cons g gs ih =>
      rw [written, written, ih (count + 1), ih 1]
      simp

theorem toList_groupsText (gs : List UInt16) : (groupsText gs).toList = written 0 gs := by
  rw [groupsText]
  induction gs with
  | nil => simp [written]
  | cons g gs ih =>
      cases gs with
      | nil => simp [written, groupText]
      | cons g' gs =>
          rw [List.map_cons, List.map_cons, String.intercalate_cons_cons, ← List.map_cons,
            String.toList_append, ih]
          simp [written, groupText, written_succ]

/-- The longest run of zero groups is a part of the groups. -/
theorem longestZeroRun_spec (gs : List UInt16) (i : Nat) :
    ∃ front back, gs = front ++ List.replicate (longestZeroRun i gs).2 0 ++ back ∧
      (longestZeroRun i gs).1 = i + front.length := by
  induction gs generalizing i with
  | nil => exact ⟨[], [], rfl, rfl⟩
  | cons g gs ih =>
      rw [longestZeroRun]
      dsimp only
      split
      · refine ⟨[], (g :: gs).dropWhile (· == 0), ?_, rfl⟩
        have hrun : (g :: gs).takeWhile (· == 0) = List.replicate (zeroRun (g :: gs)) 0 :=
          List.eq_replicate_iff.2 ⟨rfl, fun x hx => by simpa using List.mem_takeWhile_imp hx⟩
        rw [List.nil_append, ← hrun, List.takeWhile_append_dropWhile]
      · obtain ⟨front, back, hgs, hplace⟩ := ih (i + 1)
        refine ⟨g :: front, back, ?_, ?_⟩
        · rw [List.cons_append, List.cons_append, ← hgs]
        · rw [hplace, List.length_cons]
          omega

/-- What follows an IPv6 address in brackets. -/
def Closes (s : List Char) : Prop := ∃ t, s = ']' :: t ∨ s = '%' :: t

theorem Closes.ends {s : List Char} (h : Closes s) (count : Nat) : Ends count s := by
  have hends {c : Char} {t : List Char} (hstop : Stops 16 (c :: t)) (hdot : c ≠ '.')
      (hcolon : c ≠ ':') : Ends count (c :: t) :=
    { stops := hstop
      no_dot := by simpa using hdot
      no_group := by
        intro u hu
        rw [groupStart?] at hu
        split at hu
        · rwa [← Option.some.inj hu]
        · rw [after?, if_neg hcolon] at hu
          exact absurd hu (by simp) }
  obtain ⟨t, rfl | rfl⟩ := h
  · exact hends (stops_cons t (by decide)) (by decide) (by decide)
  · exact hends (stops_cons t (by decide)) (by decide) (by decide)

/-- No group begins where zero groups were left out. -/
theorem ends_gap (count : Nat) (s : List Char) : Ends count (':' :: ':' :: s) where
  stops := stops_cons _ (by decide)
  no_dot := by simp
  no_group := by
    intro t ht
    rw [groupStart?] at ht
    split at ht
    · rw [← Option.some.inj ht]
      exact stops_cons _ (by decide)
    · rw [after?, if_pos rfl] at ht
      rw [← Option.some.inj ht]
      exact stops_cons _ (by decide)

theorem ipv6?_of_groups {gs : List UInt16} (hlength : gs.length = 8) {rest : List Char}
    (h : Closes rest) : ipv6? (written 0 gs ++ rest) = some (⟨gs⟩, rest) := by
  unfold ipv6?
  rw [groups_written gs (Nat.le_of_eq hlength) (h.ends _)]
  simp [hlength]

/-- What stands on both sides of the groups that were left out is read, and they are zeros. -/
theorem ipv6?_of_gap {front : List UInt16} (hlength : front.length < 8) {s rest : List Char}
    {back : List UInt16} {ended : Bool}
    (hback : groups 0 (7 - front.length) s = (back, ended, rest)) :
    ipv6? (written 0 front ++ ':' :: ':' :: s) =
      some (⟨front ++ List.replicate (8 - front.length - back.length) 0 ++ back⟩, rest) := by
  unfold ipv6?
  rw [groups_written front (Nat.le_of_lt hlength) (ends_gap _ _)]
  dsimp only
  rw [if_neg (Nat.ne_of_lt hlength)]
  simp [after?, hback]

theorem groups_of_mapped? {ip : Ipv6} {ipv4 : Ipv4} (h : ip.mapped? = some ipv4) :
    ip.groups = [0, 0, 0, 0, 0, 0xffff] ++ ipv4.groups := by
  have hword (w : UInt16) : (w / 256).toUInt8.toUInt16 * 256 + (w % 256).toUInt8.toUInt16 = w := by
    have hlt := w.toNat_lt
    rw [← UInt16.toNat_inj]
    simp
    omega
  unfold Ipv6.mapped? at h
  split at h
  · next high low hgroups =>
    rw [← Option.some.inj h, hgroups, Ipv4.groups, hword, hword]
    rfl
  · exact absurd h (by simp)

/-- An embedded IPv4 address ends the groups. -/
theorem groups_mapped (ipv4 : Ipv4) {rest : List Char} (h : Stops 16 rest) :
    groups 0 7 ("ffff:".toList ++ (ipv4.text.toList ++ rest)) =
      (0xffff :: ipv4.groups, true, rest) := by
  have htext : "ffff:".toList = Nat.toDigits 16 (0xffff : UInt16).toNat ++ [':'] := by decide
  have hdigits : "ffff:".toList ++ (ipv4.text.toList ++ rest) =
      Nat.toDigits 16 (0xffff : UInt16).toNat ++ ':' :: (ipv4.text.toList ++ rest) := by
    rw [htext, List.append_assoc, List.singleton_append]
  have hcolon (s : List Char) : Stops 16 (':' :: s) := stops_cons s (by decide)
  have hnext : groupStart? 1 (':' :: (ipv4.text.toList ++ rest)) =
      some (ipv4.text.toList ++ rest) := by
    simp [groupStart?, after?]
  rw [hdigits, groups_of_group rfl (ipv4?_toDigits _ (hcolon _) (by simp))
    (group?_toDigits _ (hcolon _)), groups_of_ipv4 hnext (by decide) (ipv4?_text ipv4 h.ten)]

theorem ipv6?_mapped (ipv4 : Ipv4) {rest : List Char} (h : Closes rest) :
    ipv6? ("::ffff:".toList ++ (ipv4.text.toList ++ rest)) =
      some (⟨[0, 0, 0, 0, 0, 0xffff] ++ ipv4.groups⟩, rest) := by
  have hlength : ([] : List UInt16).length < 8 := by decide
  have hread := ipv6?_of_gap hlength (groups_mapped ipv4 (h.ends 0).stops)
  have hzeros : List.replicate (8 - ([] : List UInt16).length - (0xffff :: ipv4.groups).length)
      (0 : UInt16) = [0, 0, 0, 0, 0] := rfl
  rw [hzeros] at hread
  exact hread

/-- The groups on both sides of a run of zeros are read back with the run between them. -/
theorem ipv6?_front_back {front back : List UInt16} {n : Nat}
    (hlength : front.length + n + back.length = 8) (hn : 1 < n) {rest : List Char}
    (h : Closes rest) :
    ipv6? (written 0 front ++ ':' :: ':' :: (written 0 back ++ rest)) =
      some (⟨front ++ List.replicate n 0 ++ back⟩, rest) := by
  have hback : groups 0 (7 - front.length) (written 0 back ++ rest) = (back, false, rest) :=
    groups_written back (by omega) (h.ends _)
  have hzeros : 8 - front.length - back.length = n := by omega
  rw [ipv6?_of_gap (by omega) hback, hzeros]

theorem ipv6?_text {ip : Ipv6} (hlength : ip.groups.length = 8) {rest : List Char}
    (h : Closes rest) : ipv6? (ip.text.toList ++ rest) = some (ip, rest) := by
  unfold Ipv6.text
  split
  · next ipv4 hmapped =>
    rw [String.toList_append, List.append_assoc, ipv6?_mapped ipv4 h, ← groups_of_mapped? hmapped]
  · dsimp only
    obtain ⟨front, back, hgroups, hplace⟩ := longestZeroRun_spec ip.groups 0
    generalize longestZeroRun 0 ip.groups = run at hgroups hplace ⊢
    obtain ⟨place, n⟩ := run
    dsimp only at hgroups hplace ⊢
    rw [Nat.zero_add] at hplace
    subst hplace
    split
    · next hn =>
      have hsum := congrArg List.length hgroups
      rw [hlength, List.length_append, List.length_append, List.length_replicate] at hsum
      have hfront : ip.groups.take front.length = front := by
        rw [hgroups, List.append_assoc, List.take_left]
      have hback : ip.groups.drop (front.length + n) = back := by
        rw [hgroups]
        exact List.drop_left' (by simp)
      have hread := ipv6?_front_back hsum.symm hn h
      rw [← hgroups] at hread
      rw [hfront, hback, String.toList_append, String.toList_append, toList_groupsText,
        toList_groupsText, List.append_assoc, List.append_assoc]
      exact hread
    · rw [toList_groupsText]
      exact ipv6?_of_groups hlength h

/-! ## Socket addresses -/

/-- The text of a scope, which is nothing for the scope zero. -/
theorem scope?_zone (scope : UInt32) (s : List Char) :
    scope? ((if scope = 0 then "" else "%" ++ toString scope.toNat).toList ++ ']' :: s) =
      (scope, ']' :: s) := by
  by_cases hscope : scope = 0
  · rw [if_pos hscope, hscope]
    rfl
  · have hread : number? 10 4294967295 (Nat.toDigits 10 scope.toNat ++ ']' :: s) =
        some (scope.toNat, ']' :: s) :=
      number?_toDigits (by decide) (by decide) (Nat.le_of_lt_succ scope.toNat_lt)
        (stops_cons s (by decide))
    have htext : ("%" ++ toString scope.toNat).toList ++ ']' :: s =
        '%' :: (Nat.toDigits 10 scope.toNat ++ ']' :: s) := by
      simp
    rw [if_neg hscope, htext]
    simp [scope?, after?, hread]

theorem closes_zone (scope : UInt32) (s : List Char) :
    Closes ((if scope = 0 then "" else "%" ++ toString scope.toNat).toList ++ ']' :: s) := by
  by_cases hscope : scope = 0
  · rw [if_pos hscope]
    exact ⟨s, .inl rfl⟩
  · rw [if_neg hscope]
    exact ⟨(toString scope.toNat).toList ++ ']' :: s, .inr (by simp)⟩

theorem socketV4?_text (ip : Ipv4) (port : UInt16) :
    socketV4? (SocketAddress.v4 ip port).text.toList = some (.v4 ip port) := by
  have htext : (SocketAddress.v4 ip port).text.toList =
      ip.text.toList ++ ':' :: Nat.toDigits 10 port.toNat := by
    simp [SocketAddress.text]
  unfold socketV4?
  rw [htext, ipv4?_text ip (stops_cons _ (by decide))]
  simp [port?_toDigits]

theorem socketV6?_text {ip : Ipv6} (hlength : ip.groups.length = 8) (scope : UInt32)
    (port : UInt16) :
    socketV6? (SocketAddress.v6 ip scope port).text.toList = some (.v6 ip scope port) := by
  have htext : (SocketAddress.v6 ip scope port).text.toList =
      '[' :: (ip.text.toList ++
        ((if scope = 0 then "" else "%" ++ toString scope.toNat).toList ++
          ']' :: ':' :: Nat.toDigits 10 port.toNat)) := by
    simp [SocketAddress.text]
  unfold socketV6?
  rw [htext, after?, if_pos rfl]
  simp only [Option.bind_eq_bind, Option.bind_some, ipv6?_text hlength (closes_zone scope _),
    scope?_zone]
  simp [after?, port?_toDigits]

/-- An address that has eight groups if it is one of groups. -/
def SocketAddress.IsComplete : SocketAddress → Prop
  | .v4 .. => True
  | .v6 ip .. => ip.groups.length = 8

theorem parse?_text {a : SocketAddress} (h : a.IsComplete) :
    SocketAddress.parse? a.text = some a := by
  cases a with
  | v4 ip port => rw [SocketAddress.parse?, socketV4?_text]
  | v6 ip scope port =>
      have hv4 : socketV4? (SocketAddress.v6 ip scope port).text.toList = none := by
        have hbracket : ∃ s, (SocketAddress.v6 ip scope port).text.toList = '[' :: s := by
          simp [SocketAddress.text]
        obtain ⟨s, hs⟩ := hbracket
        unfold socketV4?
        rw [hs, ipv4?_eq_none (stops_cons s (by decide))]
        rfl
      rw [SocketAddress.parse?, hv4, socketV6?_text h]

/-! ## What was read -/

theorem length_groups_le (count room : Nat) (s : List Char) :
    (groups count room s).1.length ≤ room := by
  induction room generalizing count s with
  | zero => exact Nat.le_refl 0
  | succ room ih =>
      rw [groups]
      dsimp only
      split
      · next ip rest hip =>
        split at hip
        · exact absurd hip (by simp)
        · simp only [Ipv4.groups, List.length_cons, List.length_nil]
          omega
      · split
        · exact Nat.zero_le _
        · exact Nat.succ_le_succ (ih _ _)

theorem length_of_ipv6? {s rest : List Char} {ip : Ipv6} (h : ipv6? s = some (ip, rest)) :
    ip.groups.length = 8 := by
  have hle := length_groups_le 0 8 s
  unfold ipv6? at h
  generalize groups 0 8 s = read at h hle
  obtain ⟨head, ended, s'⟩ := read
  dsimp only at h hle
  split at h
  · next hlength =>
    rw [← (Prod.mk.inj (Option.some.inj h)).1]
    exact hlength
  · split at h
    · exact absurd h (by simp)
    · simp only [Option.bind_eq_bind, Option.bind_eq_some_iff] at h
      obtain ⟨_, _, t, _, hread⟩ := h
      have htail := length_groups_le 0 (7 - head.length) t
      rw [← (Prod.mk.inj (Option.some.inj hread)).1]
      simp only [List.length_append, List.length_replicate]
      omega

theorem isComplete_of_parse? {s : String} {a : SocketAddress}
    (h : SocketAddress.parse? s = some a) : a.IsComplete := by
  rw [SocketAddress.parse?] at h
  split at h
  · next hv4 =>
    unfold socketV4? at hv4
    simp only [Option.bind_eq_bind, Option.bind_eq_some_iff] at hv4
    obtain ⟨_, _, _, _, hread⟩ := hv4
    split at hread
    · rw [← Option.some.inj h, ← Option.some.inj hread]
      trivial
    · exact absurd hread (by simp)
  · unfold socketV6? at h
    simp only [Option.bind_eq_bind, Option.bind_eq_some_iff] at h
    obtain ⟨_, _, ⟨ip, _⟩, hip, _, _, _, _, hread⟩ := h
    split at hread
    · rw [← Option.some.inj hread]
      exact length_of_ipv6? hip
    · exact absurd hread (by simp)

end PacketMeter.Net
