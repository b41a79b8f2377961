import Mathlib.Algebra.Order.BigOperators.Group.List
import Mathlib.Algebra.Order.Field.Rat
import Mathlib.Data.List.DropRight
import Mathlib.Tactic.NormNum
import Mathlib.Tactic.Positivity
import Mathlib.Tactic.Ring
import PacketMeter.Stats.Rates

/-!
# What the rates remember

Rates are taken by samples, and forgotten in part by a restart and altogether by a clear.  A
sample gives a new rate when the call before it was a sample at an earlier moment.  `newRates`
lists these rates of a list of calls, whatever arithmetic they are computed with.

`Remembers` says what is left of the calls: the history holds the last of the new rates since the
last clear, the greatest rate is taken of all of these, and the current rate is the last one since
the last clear or restart.

Two arithmetics are used beside the one that runs.  In the rational numbers the average and the
current rate lie between zero and the greatest rate.  In the rational numbers with a division
that has no result for the divisor zero, every result is there, and is the same one: nothing is
ever divided by zero.
-/

namespace PacketMeter.Stats

/-! ## Calls -/

/-- A moment that a clock can show, as the time since the first such moment: its seconds fit into
a word. -/
structure ClockMoment where
  time : Duration
  seconds_lt : time.seconds < 2 ^ 64

namespace Rates

/-- A call that changes what is remembered. -/
inductive Call where
  | sample (now : ClockMoment) (total : UInt64)
  | restart
  | clear

def Call.isSample : Call → Bool
  | sample .. => true
  | restart | clear => false

def Call.isClear : Call → Bool
  | clear => true
  | sample .. | restart => false

/-- The calls since the last clear. -/
def sinceClear (calls : List Call) : List Call := calls.rtakeWhile fun c => !c.isClear

/-- The calls since the last clear or restart, which are samples. -/
def sinceRestart (calls : List Call) : List Call := calls.rtakeWhile Call.isSample

section Arithmetic

variable {α : Type} [RateScalar α]

/-- The rates after a call. -/
def act (r : Rates α) : Call → Rates α
  | .sample now total => r.sample now.time total
  | .restart => r.restart
  | .clear => r.clear

/-- The rates after some calls on new ones that have room for a history of `length`. -/
def after (length : Nat) (calls : List Call) : Rates α := calls.foldl act (make length)

theorem after_concat (length : Nat) (calls : List Call) (c : Call) :
    (after length (calls ++ [c]) : Rates α) = (after length calls).act c := by
  rw [after, List.foldl_append]
  rfl

/-- The rate that a call gives after the one before it: the new packets over the seconds between
two samples, if the second is at a later moment. -/
def newRate? : Call → Call → Option α
  | .sample before count, .sample now total =>
    if before.time.nanoseconds < now.time.nanoseconds then
      some (RateScalar.div (RateScalar.ofWord (UInt64.ofNat (total.toNat - count.toNat)))
        (seconds (now.time.since before.time)))
    else none
  | _, _ => none

/-- The new rates of a list of calls, the oldest first. -/
def newRates : List Call → List α
  | c :: d :: calls => (newRate? c d).toList ++ newRates (d :: calls)
  | _ => []

/-- What is left of some calls on rates with room for a history of `length`. -/
structure Remembers (length : Nat) (calls : List Call) (r : Rates α) : Prop where
  history_eq : r.history = (newRates (sinceClear calls)).rtake (max length 1)
  greatest_eq : r.greatest =
    (newRates (sinceClear calls)).foldl RateScalar.larger RateScalar.zero
  current_eq : r.current = (newRates (sinceRestart calls)).getLastD RateScalar.zero

/-! ## One more call -/

theorem newRates_concat (calls : List Call) (c : Call) :
    (newRates (calls ++ [c]) : List α) =
      newRates calls ++ (calls.getLast?.bind fun d => newRate? d c).toList := by
  induction calls with
  | nil => rfl
  | cons d calls ih =>
      cases calls with
      | nil => simp [newRates]
      | cons e calls =>
          rw [List.cons_append, List.cons_append, newRates, ← List.cons_append, ih, newRates,
            List.append_assoc, List.getLast?_cons_cons]

theorem getLast?_rtakeWhile (p : Call → Bool) (calls : List Call) :
    (calls.rtakeWhile p).getLast? = calls.getLast?.filter p := by
  rcases List.eq_nil_or_concat calls with rfl | ⟨calls, c, rfl⟩
  · rfl
  · rw [List.concat_eq_append, List.rtakeWhile_concat, List.getLast?_append]
    by_cases h : p c = true <;> simp [Option.filter_some, h]

/-- Only a sample gives a new rate to the call after it. -/
theorem newRate?_eq_none_of_not_isSample {c : Call} (h : c.isSample = false) (d : Call) :
    (newRate? c d : Option α) = none := by
  cases c with
  | sample now total => exact absurd h (by simp [Call.isSample])
  | restart => rfl
  | clear => rfl

/-- The new rate of a further sample is the same in any last part of the calls that reaches back
over samples. -/
theorem newRates_rtakeWhile_concat {p : Call → Bool} (hp : ∀ c, c.isSample = true → p c = true)
    (calls : List Call) {c : Call} (hc : p c = true) :
    (newRates ((calls ++ [c]).rtakeWhile p) : List α) =
      newRates (calls.rtakeWhile p) ++ (calls.getLast?.bind fun d => newRate? d c).toList := by
  have hlast : ((calls.getLast?.filter p).bind fun d => (newRate? d c : Option α)) =
      calls.getLast?.bind fun d => newRate? d c := by
    cases calls.getLast? with
    | none => rfl
    | some d =>
        by_cases hd : p d = true
        · rw [Option.filter_some, if_pos hd]
        · have hsample : d.isSample = false := by
            rw [← Bool.not_eq_true]
            exact fun h => hd (hp d h)
          rw [Option.filter_some, if_neg hd, Option.bind_some,
            newRate?_eq_none_of_not_isSample hsample, Option.bind_none]
  rw [List.rtakeWhile_concat_pos _ _ _ hc, newRates_concat, getLast?_rtakeWhile, hlast]

theorem newRates_sinceClear_concat (calls : List Call) {c : Call} (hc : c.isClear = false) :
    (newRates (sinceClear (calls ++ [c])) : List α) =
      newRates (sinceClear calls) ++ (calls.getLast?.bind fun d => newRate? d c).toList := by
  refine newRates_rtakeWhile_concat (fun d hd => ?_) calls (by simp [hc])
  cases d with
  | sample now total => rfl
  | restart => exact absurd hd (by simp [Call.isSample])
  | clear => exact absurd hd (by simp [Call.isSample])

theorem newRates_sinceRestart_concat (calls : List Call) (now : ClockMoment) (total : UInt64) :
    (newRates (sinceRestart (calls ++ [.sample now total])) : List α) =
      newRates (sinceRestart calls) ++
        (calls.getLast?.bind fun d => newRate? d (.sample now total)).toList :=
  newRates_rtakeWhile_concat (fun _ h => h) calls rfl

omit [RateScalar α] in
/-- A full history gives up its oldest rate for a new one. -/
theorem remember_rtake (limit : Nat) (hl : 0 < limit) (xs : List α) (x : α) :
    remember limit (xs.rtake limit) x = (xs ++ [x]).rtake limit := by
  obtain ⟨n, rfl⟩ := Nat.exists_eq_succ_of_ne_zero hl.ne'
  rw [Nat.succ_eq_add_one, List.rtake_concat_succ, remember]
  congr 1
  simp only [List.rtake, List.length_drop, List.drop_drop]
  split <;> congr 1 <;> omega

/-! ## What is left of a run -/

/-- The baseline that a call leaves. -/
def baseline? : Call → Option (Duration × UInt64)
  | .sample now total => some (now.time, total)
  | .restart | .clear => none

/-- Rates after some calls, with the baseline that they leave to the next one. -/
structure Follows (length : Nat) (calls : List Call) (r : Rates α) : Prop extends
    Remembers length calls r where
  limit_eq : r.limit = max length 1
  last?_eq : r.last? = calls.getLast?.bind baseline?

theorem increase_eq (before after : UInt64) :
    increase before after = UInt64.ofNat (after.toNat - before.toNat) := by
  rw [increase]
  split
  · next h =>
    rw [← UInt64.toNat_inj, UInt64.toNat_sub_of_le _ _ h, UInt64.toNat_ofNat',
      Nat.mod_eq_of_lt (Nat.lt_of_le_of_lt (Nat.sub_le _ _) (UInt64.toNat_lt _))]
  · next h =>
    rw [UInt64.le_iff_toNat_le, Nat.not_le] at h
    rw [Nat.sub_eq_zero_of_le h.le]
    rfl

/-- A sample remembers the rate that it gives, if it gives one, and is the next baseline. -/
theorem sample_eq {calls : List Call} {r : Rates α} (h : r.last? = calls.getLast?.bind baseline?)
    (now : ClockMoment) (total : UInt64) :
    r.sample now.time total =
      { (calls.getLast?.bind fun d => newRate? d (.sample now total)).elim r r.push with
        last? := some (now.time, total) } := by
  unfold sample
  rw [h]
  cases calls.getLast? with
  | none => rfl
  | some d =>
      cases d with
      | restart => rfl
      | clear => rfl
      | sample before count =>
          simp only [Option.bind_some, baseline?, newRate?, increase_eq]
          split
          · rfl
          · rfl

theorem follows_sample {length : Nat} {calls : List Call} {r : Rates α}
    (h : Follows length calls r) (now : ClockMoment) (total : UInt64) :
    Follows length (calls ++ [.sample now total]) (r.sample now.time total) := by
  have hlast : (calls ++ [Call.sample now total]).getLast?.bind baseline? =
      some (now.time, total) := by
    rw [List.getLast?_concat]
    rfl
  have hclear := newRates_sinceClear_concat (α := α) calls (c := .sample now total) rfl
  have hrestart := newRates_sinceRestart_concat (α := α) calls now total
  rw [sample_eq h.last?_eq]
  cases hnew : calls.getLast?.bind fun d => (newRate? d (.sample now total) : Option α) with
  | none =>
      rw [hnew, Option.toList_none, List.append_nil] at hclear hrestart
      exact
        { history_eq := by rw [hclear]; exact h.history_eq
          greatest_eq := by rw [hclear]; exact h.greatest_eq
          current_eq := by rw [hrestart]; exact h.current_eq
          limit_eq := h.limit_eq
          last?_eq := hlast.symm }
  | some x =>
      rw [hnew, Option.toList_some] at hclear hrestart
      exact
        { history_eq := by
            rw [hclear, ← remember_rtake _ (by omega), ← h.history_eq, ← h.limit_eq]
            rfl
          greatest_eq := by
            rw [hclear, List.foldl_append, ← h.greatest_eq]
            rfl
          current_eq := by
            rw [hrestart, List.getLastD_concat]
            rfl
          limit_eq := h.limit_eq
          last?_eq := hlast.symm }

theorem follows_restart {length : Nat} {calls : List Call} {r : Rates α}
    (h : Follows length calls r) : Follows length (calls ++ [.restart]) r.restart := by
  have hclear := newRates_sinceClear_concat (α := α) calls (c := .restart) rfl
  have hnone : (calls.getLast?.bind fun d => (newRate? d .restart : Option α)) = none := by
    cases calls.getLast? with
    | none => rfl
    | some d => cases d <;> rfl
  rw [hnone, Option.toList_none, List.append_nil] at hclear
  exact
    { history_eq := by rw [hclear]; exact h.history_eq
      greatest_eq := by rw [hclear]; exact h.greatest_eq
      current_eq := by
        rw [sinceRestart, List.rtakeWhile_concat_neg _ _ _ (by simp [Call.isSample])]
        rfl
      limit_eq := h.limit_eq
      last?_eq := by rw [List.getLast?_concat]; rfl }

theorem follows_clear {length : Nat} {calls : List Call} {r : Rates α}
    (h : Follows length calls r) : Follows length (calls ++ [.clear]) r.clear := by
  have hclear : sinceClear (calls ++ [.clear]) = [] :=
    List.rtakeWhile_concat_neg _ _ _ (by simp [Call.isClear])
  exact
    { history_eq := by rw [hclear]; simp [newRates, clear_eq]
      greatest_eq := by rw [hclear]; rfl
      current_eq := by
        rw [sinceRestart, List.rtakeWhile_concat_neg _ _ _ (by simp [Call.isSample])]
        rfl
      limit_eq := h.limit_eq
      last?_eq := by rw [List.getLast?_concat]; rfl }

theorem follows_after (length : Nat) (calls : List Call) :
    Follows length calls (after length calls : Rates α) := by
  induction calls using List.reverseRecOn with
  | nil => exact { history_eq := by simp [after, make, newRates, sinceClear], greatest_eq := rfl,
                   current_eq := rfl, limit_eq := rfl, last?_eq := rfl }
  | append_singleton calls c ih =>
      rw [after_concat]
      cases c with
      | sample now total => exact follows_sample ih now total
      | restart => exact follows_restart ih
      | clear => exact follows_clear ih

end Arithmetic

theorem length_history_le {α : Type} [RateScalar α] (length : Nat) (calls : List Call) :
    (after length calls : Rates α).history.length ≤ max length 1 := by
  rw [(follows_after length calls).history_eq, List.rtake, List.length_drop]
  omega

/-! ## Exact rates -/

/-- The arithmetic of the rational numbers. -/
instance : RateScalar ℚ where
  zero := 0
  ofWord w := w.toNat
  add := (· + ·)
  div := (· / ·)
  larger := max

theorem ofWord_ofNat {n : Nat} (h : n < 2 ^ 64) :
    (RateScalar.ofWord (UInt64.ofNat n) : ℚ) = n := by
  change (((UInt64.ofNat n).toNat : ℕ) : ℚ) = n
  rw [UInt64.toNat_ofNat', Nat.mod_eq_of_lt h]

/-- Exact rates of some calls, with the bounds that hold of them. -/
structure Bounded (calls : List Call) (r : Rates ℚ) : Prop where
  average_eq : r.rate.average =
    if r.history = [] then 0 else r.history.sum / r.history.length
  average_mem : 0 ≤ r.rate.average ∧ r.rate.average ≤ r.rate.greatest
  current_mem : 0 ≤ r.rate.current ∧ r.rate.current ≤ r.rate.greatest
  greatest_mem : r.rate.greatest = 0 ∨ r.rate.greatest ∈ newRates (sinceClear calls)
  le_greatest : ∀ x ∈ (newRates (sinceClear calls) : List ℚ), x ≤ r.rate.greatest

theorem seconds_eq (d : Duration) (h : d.seconds < 2 ^ 64) :
    (seconds d : ℚ) = (d.nanoseconds : ℚ) / 10 ^ 9 := by
  have hsub : d.subNanos < 2 ^ 64 :=
    Nat.lt_trans (Nat.mod_lt _ (by norm_num)) (by norm_num)
  have hparts : (d.nanoseconds : ℚ) = 10 ^ 9 * d.seconds + d.subNanos := by
    have hnat : d.nanoseconds = 10 ^ 9 * d.seconds + d.subNanos :=
      (Nat.div_add_mod d.nanoseconds 1000000000).symm
    exact_mod_cast hnat
  change (RateScalar.ofWord (UInt64.ofNat d.seconds) : ℚ) +
    RateScalar.ofWord (UInt64.ofNat d.subNanos) /
      RateScalar.ofWord (UInt64.ofNat 1000000000) = _
  rw [ofWord_ofNat h, ofWord_ofNat hsub, ofWord_ofNat (by norm_num), hparts]
  norm_num
  ring

/-- The time since an earlier moment fits into a word as well. -/
theorem seconds_since_lt (now : ClockMoment) (before : Duration) :
    (now.time.since before).seconds < 2 ^ 64 :=
  Nat.lt_of_le_of_lt (Nat.div_le_div_right (Nat.sub_le _ _)) now.seconds_lt

theorem newRate?_sample (before now : ClockMoment) (count total : UInt64) :
    (newRate? (.sample before count) (.sample now total) : Option ℚ) =
      if before.time.nanoseconds < now.time.nanoseconds then
        some (((total.toNat - count.toNat : ℕ) : ℚ) /
          (((now.time.nanoseconds - before.time.nanoseconds : ℕ) : ℚ) / 10 ^ 9))
      else none := by
  rw [newRate?, seconds_eq _ (seconds_since_lt now before.time)]
  rw [ofWord_ofNat (Nat.lt_of_le_of_lt (Nat.sub_le _ _) (UInt64.toNat_lt total))]
  rfl

theorem newRate?_nonneg {c d : Call} {x : ℚ} (h : newRate? c d = some x) : 0 ≤ x := by
  cases c with
  | restart => exact absurd h (by simp [newRate?])
  | clear => exact absurd h (by simp [newRate?])
  | sample before count =>
      cases d with
      | restart => exact absurd h (by simp [newRate?])
      | clear => exact absurd h (by simp [newRate?])
      | sample now total =>
          rw [newRate?_sample] at h
          split at h
          · rw [← Option.some.inj h]
            positivity
          · exact absurd h (by simp)

theorem newRates_nonneg (calls : List Call) : ∀ x ∈ (newRates calls : List ℚ), 0 ≤ x := by
  intro x hx
  fun_induction newRates (α := ℚ) calls with
  | case1 c d calls ih =>
      rcases List.mem_append.1 hx with hnew | hold
      · exact newRate?_nonneg (Option.mem_toList.1 hnew)
      · exact ih hold
  | case2 calls => exact absurd hx (by simp)

/-- The greatest of some rates and zero. -/
theorem foldl_larger (xs : List ℚ) (a : ℚ) :
    (xs.foldl RateScalar.larger a = a ∨ xs.foldl RateScalar.larger a ∈ xs) ∧
      a ≤ xs.foldl RateScalar.larger a ∧ ∀ x ∈ xs, x ≤ xs.foldl RateScalar.larger a := by
  induction xs generalizing a with
  | nil => simp
  | cons y xs ih =>
      obtain ⟨hmem, hle, hall⟩ := ih (max a y)
      have hfold : (y :: xs).foldl RateScalar.larger a =
          xs.foldl RateScalar.larger (max a y) := rfl
      rw [hfold]
      refine ⟨?_, (le_max_left a y).trans hle, ?_⟩
      · rcases hmem with heq | hin
        · rcases max_choice a y with ha | hy
          · exact .inl (heq.trans ha)
          · exact .inr (by rw [heq, hy]; exact List.mem_cons_self)
        · exact .inr (List.mem_cons_of_mem _ hin)
      · intro x hx
        rcases List.mem_cons.1 hx with rfl | hx
        · exact (le_max_right a x).trans hle
        · exact hall x hx

theorem average_eq (history : List ℚ) (h : history.length < 2 ^ 64) :
    average history = if history = [] then 0 else history.sum / history.length := by
  rw [average]
  by_cases hnil : history = []
  · rw [if_pos hnil, if_pos (by simp [hnil])]
    rfl
  · rw [if_neg hnil, if_neg (by simp [hnil])]
    have hsum : sum history = history.sum := List.sum_eq_foldl.symm
    rw [hsum, ofWord_ofNat h]
    rfl

theorem average_bounds {history : List ℚ} (hl : history.length < 2 ^ 64) {m : ℚ} (hm : 0 ≤ m)
    (h : ∀ x ∈ history, 0 ≤ x ∧ x ≤ m) : 0 ≤ average history ∧ average history ≤ m := by
  rw [average_eq history hl]
  split
  · exact ⟨le_rfl, hm⟩
  · next hne =>
    have hpos : (0 : ℚ) < history.length := by exact_mod_cast List.length_pos_iff.2 hne
    have hsum : history.sum ≤ history.length * m := by
      have := List.sum_le_card_nsmul history m fun x hx => (h x hx).2
      rwa [nsmul_eq_mul] at this
    exact ⟨div_nonneg (List.sum_nonneg fun x hx => (h x hx).1) hpos.le,
      (div_le_iff₀' hpos).2 hsum⟩

/-- What is new since the last restart is new since the last clear. -/
theorem newRates_sinceRestart_suffix {α : Type} [RateScalar α] (calls : List Call) :
    (newRates (sinceRestart calls) : List α) <:+ newRates (sinceClear calls) := by
  induction calls using List.reverseRecOn with
  | nil => exact List.suffix_rfl
  | append_singleton calls c ih =>
      have hrest {d : Call} (hd : d.isSample = false) : sinceRestart (calls ++ [d]) = [] :=
        List.rtakeWhile_concat_neg _ _ _ (by simp [hd])
      cases c with
      | sample now total =>
          obtain ⟨old, hold⟩ := ih
          rw [newRates_sinceRestart_concat, newRates_sinceClear_concat _ rfl, ← hold,
            List.append_assoc]
          exact List.suffix_append _ _
      | restart => rw [hrest rfl]; exact List.nil_suffix
      | clear => rw [hrest rfl]; exact List.nil_suffix

theorem bounded_after (length : Nat) (hl : length < 2 ^ 64) (calls : List Call) :
    Bounded calls (after length calls) := by
  have h : Remembers length calls (after length calls : Rates ℚ) :=
    (follows_after length calls).toRemembers
  obtain ⟨hmem, hzero, hall⟩ := foldl_larger (newRates (sinceClear calls)) 0
  have hgreatest : (after length calls : Rates ℚ).greatest =
      (newRates (sinceClear calls)).foldl RateScalar.larger 0 := h.greatest_eq
  rw [← hgreatest] at hmem hzero hall
  have hnonneg := newRates_nonneg (sinceClear calls)
  have hlength : (after length calls : Rates ℚ).history.length < 2 ^ 64 :=
    Nat.lt_of_le_of_lt (length_history_le length calls) (by omega)
  refine ⟨average_eq _ hlength, average_bounds hlength hzero fun x hx => ?_, ?_, hmem, hall⟩
  · rw [h.history_eq] at hx
    have hx := List.mem_of_mem_drop hx
    exact ⟨hnonneg x hx, hall x hx⟩
  · change 0 ≤ (after length calls : Rates ℚ).current ∧
      (after length calls : Rates ℚ).current ≤ (after length calls : Rates ℚ).greatest
    rw [h.current_eq]
    cases hlast : (newRates (sinceRestart calls) : List ℚ).getLast? with
    | none =>
        rw [List.getLastD_eq_getLast?, hlast]
        exact ⟨le_rfl, hzero⟩
    | some x =>
        have hx := (newRates_sinceRestart_suffix calls).mem (List.mem_of_getLast? hlast)
        rw [List.getLastD_eq_getLast?, hlast]
        exact ⟨hnonneg x hx, hall x hx⟩

/-! ## Divisions -/

/-- The arithmetic of the rational numbers in which nothing can be divided by zero. -/
instance : RateScalar (Option ℚ) where
  zero := some 0
  ofWord w := some w.toNat
  add := Option.map₂ (· + ·)
  div x y := (y.filter (· ≠ 0)).bind fun b => x.map (· / b)
  larger := Option.map₂ max

theorem div_checked (a : ℚ) {b : ℚ} (hb : b ≠ 0) :
    RateScalar.div (some a) (some b) = some (RateScalar.div a b) := by
  change ((some b).filter (· ≠ 0)).bind (fun b => (some a).map (· / b)) = _
  rw [Option.filter_some, if_pos (by simpa using hb)]
  rfl

theorem seconds_checked (d : Duration) : (seconds d : Option ℚ) = some (seconds d) := by
  have hdiv := div_checked ((UInt64.ofNat d.subNanos).toNat : ℚ)
    (b := ((1000000000 : UInt64).toNat : ℚ)) (by decide)
  change RateScalar.add _ (RateScalar.div (some _) (some _)) = _
  rw [hdiv]
  rfl

/-- A time that is not empty has seconds to divide by. -/
theorem seconds_since_ne_zero {now before : ClockMoment}
    (h : before.time.nanoseconds < now.time.nanoseconds) :
    (seconds (now.time.since before.time) : ℚ) ≠ 0 := by
  rw [seconds_eq _ (seconds_since_lt now before.time)]
  have hpos : 0 < (now.time.since before.time).nanoseconds := Nat.sub_pos_of_lt h
  positivity

theorem newRate?_checked (c d : Call) :
    (newRate? c d : Option (Option ℚ)) = (newRate? c d : Option ℚ).map some := by
  cases c with
  | restart => rfl
  | clear => rfl
  | sample before count =>
      cases d with
      | restart => rfl
      | clear => rfl
      | sample now total =>
          rw [newRate?, newRate?]
          split
          · next h =>
            rw [seconds_checked]
            exact congrArg some (div_checked _ (seconds_since_ne_zero h))
          · rfl

theorem newRates_checked (calls : List Call) :
    (newRates calls : List (Option ℚ)) = (newRates calls : List ℚ).map some := by
  fun_induction newRates (α := ℚ) calls with
  | case1 c d calls ih =>
      rw [newRates, ih, newRate?_checked, List.map_append]
      cases (newRate? c d : Option ℚ) <;> rfl
  | case2 calls h =>
      cases calls with
      | nil => rfl
      | cons c calls =>
          cases calls with
          | nil => rfl
          | cons d calls => exact absurd rfl (h c d calls)

theorem foldl_checked (op : Option ℚ → Option ℚ → Option ℚ) (op' : ℚ → ℚ → ℚ)
    (hop : ∀ a b, op (some a) (some b) = some (op' a b)) (xs : List ℚ) (a : ℚ) :
    (xs.map some).foldl op (some a) = some (xs.foldl op' a) := by
  induction xs generalizing a with
  | nil => rfl
  | cons x xs ih => rw [List.map_cons, List.foldl_cons, hop, ih, List.foldl_cons]

theorem average_checked (history : List ℚ) (h : history.length < 2 ^ 64) :
    average (history.map some) = some (average history) := by
  rw [average, average]
  cases history with
  | nil => rfl
  | cons x history =>
      have hsum : sum ((x :: history).map some) = some (sum (x :: history)) :=
        foldl_checked RateScalar.add RateScalar.add (fun _ _ => rfl) _ _
      rw [hsum, List.length_map]
      have hne : (RateScalar.ofWord (UInt64.ofNat (x :: history).length) : ℚ) ≠ 0 := by
        rw [ofWord_ofNat h]
        exact_mod_cast Nat.succ_ne_zero history.length
      exact div_checked _ hne

/-- With a division that has no result for the divisor zero the rates are the same. -/
theorem rate_checked (length : Nat) (hl : length < 2 ^ 64) (calls : List Call) :
    (after length calls : Rates (Option ℚ)).history =
        (after length calls : Rates ℚ).history.map some ∧
      (after length calls : Rates (Option ℚ)).rate =
        ⟨some (after length calls : Rates ℚ).rate.current,
          some (after length calls : Rates ℚ).rate.average,
          some (after length calls : Rates ℚ).rate.greatest⟩ := by
  have hexact : Remembers length calls (after length calls : Rates ℚ) :=
    (follows_after length calls).toRemembers
  have hchecked : Remembers length calls (after length calls : Rates (Option ℚ)) :=
    (follows_after length calls).toRemembers
  have hlength : (after length calls : Rates ℚ).history.length < 2 ^ 64 :=
    Nat.lt_of_le_of_lt (length_history_le length calls) (by omega)
  have hhistory : (after length calls : Rates (Option ℚ)).history =
      (after length calls : Rates ℚ).history.map some := by
    rw [hchecked.history_eq, hexact.history_eq, newRates_checked, List.rtake, List.rtake,
      List.length_map, List.map_drop]
  have hgreatest : (after length calls : Rates (Option ℚ)).greatest =
      some (after length calls : Rates ℚ).greatest := by
    rw [hchecked.greatest_eq, hexact.greatest_eq, newRates_checked]
    exact foldl_checked RateScalar.larger RateScalar.larger (fun _ _ => rfl) _ _
  have hcurrent : (after length calls : Rates (Option ℚ)).current =
      some (after length calls : Rates ℚ).current := by
    rw [hchecked.current_eq, hexact.current_eq, newRates_checked, List.getLastD_eq_getLast?,
      List.getLastD_eq_getLast?, List.getLast?_map]
    cases (newRates (sinceRestart calls) : List ℚ).getLast? <;> rfl
  refine ⟨hhistory, ?_⟩
  rw [rate, hhistory, hcurrent, hgreatest, average_checked _ hlength]
  rfl

end Rates

/-- What rates remember of their calls, in every arithmetic; that exact rates are the new packets
over the seconds, with an average and a current rate between zero and the greatest; and that
nothing is divided by zero. -/
theorem rates_remember (length : UInt64) (calls : List Rates.Call) :
    (∀ (α : Type) [RateScalar α],
        Rates.Remembers length.toNat calls (Rates.after length.toNat calls : Rates α)) ∧
      (∀ before now count total,
        (Rates.newRate? (.sample before count) (.sample now total) : Option ℚ) =
          if before.time.nanoseconds < now.time.nanoseconds then
            some (((total.toNat - count.toNat : ℕ) : ℚ) /
              (((now.time.nanoseconds - before.time.nanoseconds : ℕ) : ℚ) / 10 ^ 9))
          else none) ∧
      Rates.Bounded calls (Rates.after length.toNat calls) ∧
      (Rates.after length.toNat calls : Rates (Option ℚ)).history =
        (Rates.after length.toNat calls : Rates ℚ).history.map some ∧
      (Rates.after length.toNat calls : Rates (Option ℚ)).rate =
        ⟨some (Rates.after length.toNat calls : Rates ℚ).rate.current,
          some (Rates.after length.toNat calls : Rates ℚ).rate.average,
          some (Rates.after length.toNat calls : Rates ℚ).rate.greatest⟩ :=
  ⟨fun _ _ => (Rates.follows_after _ calls).toRemembers, Rates.newRate?_sample,
    Rates.bounded_after _ length.toNat_lt calls, Rates.rate_checked _ length.toNat_lt calls⟩

/-- The greatest rate has left the history, in which a fall of the total counts as nothing. -/
example :
    (Rates.after 2 [.sample ⟨.ofSeconds 0, by decide⟩ 0, .sample ⟨.ofSeconds 1, by decide⟩ 10,
      .sample ⟨.ofSeconds 1, by decide⟩ 12, .sample ⟨.ofSeconds 2, by decide⟩ 5,
      .sample ⟨.ofSeconds 4, by decide⟩ 9]).rate = (⟨2, 1, 10⟩ : Rate ℚ) := by
  decide +kernel

end PacketMeter.Stats
