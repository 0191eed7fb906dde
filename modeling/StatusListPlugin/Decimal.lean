import StatusListPlugin.Python
import Mathlib.Data.String.Basic
import Mathlib.Data.Nat.Digits
import Mathlib.Tactic.IntervalCases

/-!
# Decimal strings and the text after the last dash

Record tags and entry identifiers are built with `str(n)` and `f"{status_list.id}-{i}"`, and
`StatusListEntry.index` reads an entry's slot back as the text after the identifier's last
`-`. This module proves what those strings give back: `str` is injective on integers, a
decimal string of a natural number has no `-`, and the text after the last `-` of
`f"{s}-{i}"` is `str(abs(i))` whatever the string `s` is. It also compares decimal strings as
`sorted` compares strings, code point by code point: `str(n)` has `⌊log₁₀ n⌋ + 1` characters,
and strings of one length are in string order exactly as their numbers are.
-/

namespace StatusListPlugin

/-- The text after the last `-` of `s`, the slice `s[s.rindex("-") + 1 :]`; `rindex` raises
`ValueError` when `s` has no `-`. -/
def afterLastDash (s : String) : Except PyError String :=
  if '-' ∈ s.data then pure ⟨(s.data.reverse.takeWhile (· != '-')).reverse⟩
  else throw (.valueError "substring not found")

/-! ## Decimal digits -/

/-- The number a list of decimal digit characters spells, most significant first. -/
def digitsValue (digits : List Char) (acc : Nat) : Nat :=
  digits.foldl (fun value digit => 10 * value + (digit.toNat - 48)) acc

theorem digitChar_ne_dash {k : Nat} (digit : k < 10) : Nat.digitChar k ≠ '-' := by
  interval_cases k <;> decide

theorem digitChar_toNat {k : Nat} (digit : k < 10) : (Nat.digitChar k).toNat - 48 = k := by
  interval_cases k <;> rfl

theorem not_dash_mem_toDigitsCore {fuel n : Nat} {ds : List Char} (noDash : '-' ∉ ds) :
    '-' ∉ Nat.toDigitsCore 10 fuel n ds := by
  induction fuel generalizing n ds with
  | zero => exact noDash
  | succ fuel inductionHypothesis =>
      have head : '-' ∉ Nat.digitChar (n % 10) :: ds := by
        simp only [List.mem_cons, not_or]
        exact ⟨(digitChar_ne_dash (Nat.mod_lt n (by omega))).symm, noDash⟩
      simp only [Nat.toDigitsCore]
      split
      · exact head
      · exact inductionHypothesis head

theorem digitsValue_toDigitsCore {fuel n : Nat} (ds : List Char) (enoughFuel : n < fuel) :
    digitsValue (Nat.toDigitsCore 10 fuel n ds) 0 = digitsValue ds n := by
  induction fuel generalizing n ds with
  | zero => omega
  | succ fuel inductionHypothesis =>
      simp only [Nat.toDigitsCore]
      split
      · rename_i lastDigit
        simp only [digitsValue, List.foldl_cons]
        rw [digitChar_toNat (Nat.mod_lt n (by omega))]
        congr 1
        omega
      · rename_i moreDigits
        rw [inductionHypothesis _ (by omega)]
        simp only [digitsValue, List.foldl_cons]
        rw [digitChar_toNat (Nat.mod_lt n (by omega))]
        congr 1
        omega

theorem digitsValue_toString (n : Nat) : digitsValue (toString n).data 0 = n :=
  digitsValue_toDigitsCore [] (Nat.lt_succ_self n)

theorem not_dash_mem_toString (n : Nat) : '-' ∉ (toString n).data :=
  not_dash_mem_toDigitsCore (List.not_mem_nil _)

/-- `str` is injective on natural numbers. -/
theorem toString_nat_injective : Function.Injective (toString : Nat → String) := by
  intro m n equal
  rw [← digitsValue_toString m, ← digitsValue_toString n, equal]

@[simp] theorem toString_nat_inj {m n : Nat} : toString m = toString n ↔ m = n :=
  toString_nat_injective.eq_iff

theorem toString_negSucc (m : Nat) : toString (Int.negSucc m) = "-" ++ toString (m + 1) := rfl

/-- `str` is injective on integers. -/
theorem toString_int_injective : Function.Injective (toString : Int → String) := by
  have nonnegative_ne_negative (m k : Nat) : toString m ≠ "-" ++ toString (k + 1) := by
    intro equal
    apply not_dash_mem_toString m
    rw [equal]
    simp
  intro i j equal
  cases i with
  | ofNat m =>
      cases j with
      | ofNat n => exact congrArg Int.ofNat (toString_nat_injective equal)
      | negSucc n => exact absurd equal (nonnegative_ne_negative m n)
  | negSucc m =>
      cases j with
      | ofNat n => exact absurd equal.symm (nonnegative_ne_negative n m)
      | negSucc n =>
          simp only [toString_negSucc, String.ext_iff, String.data_append,
            List.append_cancel_left_eq] at equal
          have := toString_nat_injective (String.ext equal)
          simp only [Nat.add_right_cancel_iff] at this
          rw [this]

@[simp] theorem toString_int_inj {i j : Int} : toString i = toString j ↔ i = j :=
  toString_int_injective.eq_iff

theorem toString_natCast (n : Nat) : toString (n : Int) = toString n := rfl

/-! ## The text after the last dash -/

theorem afterLastDash_append {s t : String} (noDash : '-' ∉ t.data) :
    afterLastDash (s ++ "-" ++ t) = .ok t := by
  have allKept : ∀ c ∈ t.data.reverse, (c != '-') = true := by
    intro c member
    have notDash : c ≠ '-' := fun isDash => noDash (isDash ▸ List.mem_reverse.mp member)
    simpa using notDash
  have present : '-' ∈ (s ++ "-" ++ t).data := by simp
  have reversed : (s ++ "-" ++ t).data.reverse = t.data.reverse ++ '-' :: s.data.reverse := by
    simp
  unfold afterLastDash
  rw [if_pos present, reversed, List.takeWhile_append_of_pos allKept,
    List.takeWhile_cons_of_neg (p := fun c => c != '-') (by decide)]
  simp

/-- The text after the last dash of `f"{s}-{i}"` is `str(abs(i))`: a negative slot loses its
sign. -/
theorem afterLastDash_entryText (s : String) (i : Int) :
    afterLastDash (s ++ "-" ++ toString i) = .ok (toString i.natAbs) := by
  cases i with
  | ofNat m => exact afterLastDash_append (not_dash_mem_toString m)
  | negSucc m =>
      rw [toString_negSucc, ← String.append_assoc]
      exact afterLastDash_append (not_dash_mem_toString (m + 1))

/-! ## The string order of decimal strings -/

theorem toString_data (n : Nat) : (toString n).data = Nat.toDigitsCore 10 (n + 1) n [] := rfl

/-- With enough fuel `Nat.toDigitsCore` puts the digits of `n` before the characters it is
given. -/
theorem toDigitsCore_eq_append {fuel n : Nat} (ds : List Char) (enough : n < fuel) :
    Nat.toDigitsCore 10 fuel n ds = (toString n).data ++ ds := by
  induction n using Nat.strong_induction_on generalizing fuel ds with
  | _ n inductionHypothesis =>
      obtain ⟨fuel, rfl⟩ : ∃ previous, fuel = previous + 1 := ⟨fuel - 1, by omega⟩
      rw [toString_data]
      by_cases lastDigit : n / 10 = 0
      · simp only [Nat.toDigitsCore, lastDigit, ↓reduceIte]
        rfl
      · have shorter : n / 10 < n := Nat.div_lt_self (by omega) (by norm_num)
        simp only [Nat.toDigitsCore, lastDigit, ↓reduceIte]
        rw [inductionHypothesis _ shorter _ (by omega), inductionHypothesis _ shorter _ (by omega)]
        simp

theorem toString_data_of_lt {n : Nat} (small : n < 10) : (toString n).data = [Nat.digitChar n] := by
  simp [toString_data, Nat.toDigitsCore, Nat.div_eq_of_lt small, Nat.mod_eq_of_lt small]

/-- `str(n)` for `n ≥ 10` is `str(n // 10)` followed by the last digit. -/
theorem toString_data_of_le {n : Nat} (ten : 10 ≤ n) :
    (toString n).data = (toString (n / 10)).data ++ [Nat.digitChar (n % 10)] := by
  rw [toString_data]
  have shorter : n / 10 < n := Nat.div_lt_self (by omega) (by norm_num)
  simp only [Nat.toDigitsCore]
  rw [if_neg (by omega)]
  exact toDigitsCore_eq_append _ shorter

/-- `str(n)` has `⌊log₁₀ n⌋ + 1` characters. -/
theorem length_toString (n : Nat) : (toString n).length = Nat.log 10 n + 1 := by
  induction n using Nat.strong_induction_on with
  | _ n inductionHypothesis =>
      show (toString n).data.length = _
      rcases Nat.lt_or_ge n 10 with small | ten
      · rw [toString_data_of_lt small, Nat.log_of_lt small]
        rfl
      · have shorter := inductionHypothesis (n / 10) (Nat.div_lt_self (by omega) (by norm_num))
        have positive : 0 < Nat.log 10 n := Nat.log_pos (by norm_num) ten
        rw [toString_data_of_le ten, List.length_append, List.length_singleton]
        change (toString (n / 10)).length + 1 = _
        rw [shorter, Nat.log_div_base]
        omega

theorem log_ten_eq_zero_iff (n : Nat) : Nat.log 10 n = 0 ↔ n < 10 := by
  rw [Nat.log_eq_zero_iff]
  omega

theorem digitChar_lt_digitChar {a b : Nat} (ha : a < 10) (hb : b < 10) :
    Nat.digitChar a < Nat.digitChar b ↔ a < b := by
  interval_cases a <;> interval_cases b <;> decide

/-- Of two lists of one length, the one first in string order stays first whatever follows
each. -/
theorem lex_append_of_length_eq {a b : List Char} (less : List.Lex (· < ·) a b)
    (sameLength : a.length = b.length) (s t : List Char) :
    List.Lex (· < ·) (a ++ s) (b ++ t) := by
  induction less with
  | nil => simp at sameLength
  | cons _ inductionHypothesis => exact .cons (inductionHypothesis (by simpa using sameLength))
  | rel below => exact .rel below

theorem lex_append_singleton_same (a : List Char) (c e : Char) :
    List.Lex (· < ·) (a ++ [c]) (a ++ [e]) ↔ c < e := by
  induction a with
  | nil => exact List.Lex.singleton_iff c e
  | cons x a inductionHypothesis => rw [List.cons_append, List.cons_append, List.Lex.cons_iff,
      inductionHypothesis]

/-- Two strings of one length, each followed by one character, compare by the strings and then
by the characters. -/
theorem lex_append_singleton_iff {a b : List Char} (sameLength : a.length = b.length)
    (c e : Char) :
    List.Lex (· < ·) (a ++ [c]) (b ++ [e]) ↔ List.Lex (· < ·) a b ∨ a = b ∧ c < e := by
  constructor
  · intro less
    rcases lt_trichotomy a b with before | same | after
    · exact .inl before
    · subst same
      exact .inr ⟨rfl, (lex_append_singleton_same a c e).mp less⟩
    · exact absurd less (lt_asymm (show b ++ [e] < a ++ [c] from
        lex_append_of_length_eq after sameLength.symm [e] [c]))
  · rintro (before | ⟨rfl, below⟩)
    · exact lex_append_of_length_eq before sameLength [c] [e]
    · exact (lex_append_singleton_same a c e).mpr below

theorem toString_data_inj {m n : Nat} : (toString m).data = (toString n).data ↔ m = n := by
  rw [← String.ext_iff, toString_nat_inj]

/-- Decimal strings of one length are in string order exactly as their numbers are. -/
theorem lex_toString_iff {m n : Nat} (sameLength : (toString m).length = (toString n).length) :
    List.Lex (· < ·) (toString m).data (toString n).data ↔ m < n := by
  induction m using Nat.strong_induction_on generalizing n with
  | _ m inductionHypothesis =>
      rw [length_toString, length_toString] at sameLength
      have oneDigit := log_ten_eq_zero_iff m
      have otherOneDigit := log_ten_eq_zero_iff n
      rcases Nat.lt_or_ge m 10 with small | ten
      · have nSmall : n < 10 := by omega
        rw [toString_data_of_lt small, toString_data_of_lt nSmall, List.Lex.singleton_iff,
          digitChar_lt_digitChar small nSmall]
      · have nTen : 10 ≤ n := by omega
        have prefixLength : (toString (m / 10)).data.length = (toString (n / 10)).data.length := by
          show (toString (m / 10)).length = (toString (n / 10)).length
          rw [length_toString, length_toString, Nat.log_div_base, Nat.log_div_base]
          omega
        rw [toString_data_of_le ten, toString_data_of_le nTen, lex_append_singleton_iff prefixLength,
          inductionHypothesis _ (Nat.div_lt_self (by omega) (by norm_num)) prefixLength,
          toString_data_inj, digitChar_lt_digitChar (Nat.mod_lt _ (by norm_num))
            (Nat.mod_lt _ (by norm_num))]
        omega

/-- `str(0)` comes before the string of every positive number. -/
theorem lex_toString_zero {n : Nat} (positive : 0 < n) :
    List.Lex (· < ·) (toString 0).data (toString n).data := by
  induction n using Nat.strong_induction_on with
  | _ n inductionHypothesis =>
      rcases Nat.lt_or_ge n 10 with small | ten
      · exact (lex_toString_iff (by rw [length_toString, length_toString, Nat.log_of_lt small,
          Nat.log_zero_right])).mpr positive
      · rw [toString_data_of_le ten]
        exact List.Lex.append_right _ _
          (inductionHypothesis _ (Nat.div_lt_self (by omega) (by norm_num)) (by omega))

/-- A decimal string one character longer than another, whose number without its last digit
is smaller, comes first in string order. -/
theorem lex_toString_of_length_succ {m n : Nat}
    (longer : (toString n).length = (toString m).length + 1) (smaller : n / 10 < m) :
    List.Lex (· < ·) (toString n).data (toString m).data := by
  rw [length_toString, length_toString] at longer
  have ten : 10 ≤ n := by
    have oneDigit := log_ten_eq_zero_iff n
    omega
  have prefixLength : (toString (n / 10)).data.length = (toString m).data.length := by
    show (toString (n / 10)).length = (toString m).length
    rw [length_toString, length_toString, Nat.log_div_base]
    omega
  rw [toString_data_of_le ten, ← List.append_nil (toString m).data]
  exact lex_append_of_length_eq ((lex_toString_iff prefixLength).mpr smaller) prefixLength _ _

/-- The decimal strings of `x ≤ y` are in string order when `x` is `0` or has as many digits
as `y`. -/
theorem toString_data_le {x y : Nat} (le : x ≤ y)
    (digits : x = 0 ∨ (toString x).length = (toString y).length) :
    (toString x).data ≤ (toString y).data := by
  rcases Nat.eq_or_lt_of_le le with rfl | less
  · exact le_refl _
  · rcases digits with rfl | sameLength
    · exact .inr (lex_toString_zero less)
    · exact .inr ((lex_toString_iff sameLength).mpr less)

/-- A number `y` below ten times `x` whose decimal string follows that of `x` in string order has
as many digits as `x`: one more digit would put it before `x`. -/
theorem length_toString_of_le {x y : Nat} (le : x ≤ y) (small : y < 10 * x)
    (ordered : (toString x).data ≤ (toString y).data) :
    (toString y).length = (toString x).length := by
  have logMono : Nat.log 10 x ≤ Nat.log 10 y := Nat.log_mono_right le
  have logBound : Nat.log 10 y < Nat.log 10 x + 2 := by
    refine Nat.log_lt_of_lt_pow (by omega) ?_
    have below := Nat.lt_pow_succ_log_self (by norm_num : 1 < 10) x
    calc y < 10 * x := small
      _ < 10 * 10 ^ (Nat.log 10 x + 1) := by omega
      _ = 10 ^ (Nat.log 10 x + 2) := by ring
  by_contra longer
  rw [length_toString, length_toString] at longer
  have before := lex_toString_of_length_succ (m := x) (n := y)
    (by rw [length_toString, length_toString]; omega) (by omega)
  rcases (show _ = _ ∨ List.Lex (· < ·) _ _ from ordered) with same | after
  · exact longer (by rw [toString_data_inj.mp same])
  · exact lt_asymm (show (toString x).data < (toString y).data from after) before

end StatusListPlugin
