/-
Reading whole numbers.

Digits are read from the left as long as their value fits 64 bits, so the digits of a whole number within these bounds
are read to their end, and the document is that number (`read_toString`).
-/
import Mathlib.Tactic
import Mathlib.Data.List.TakeWhile
import SqlSession.Json.Reader
import SqlSession.Datum

namespace SqlSession.Json

/-! ## Digits -/

/-- what is read so far is no more than what is read in the end -/
theorem le_ofDigitChars (cs : List Char) (n : Nat) : n ≤ Nat.ofDigitChars 10 cs n := by
  induction cs generalizing n with
  | nil => exact le_rfl
  | cons c cs ih =>
    have hstep : n ≤ 10 * n + (c.toNat - '0'.toNat) := by omega
    exact hstep.trans (ih _)

theorem significand_eq (cs : List Char) {n : Nat} (h : Nat.ofDigitChars 10 cs n ≤ wholeMax) :
    significand n cs = (Nat.ofDigitChars 10 cs n, []) := by
  induction cs generalizing n with
  | nil => rfl
  | cons c cs ih =>
    have hnext : n * 10 + Text.digitValue c = 10 * n + (c.toNat - '0'.toNat) := by
      rw [Nat.mul_comm, Text.digitValue]
    have hle : n * 10 + Text.digitValue c ≤ wholeMax := by
      rw [hnext]
      exact (le_ofDigitChars cs _).trans h
    rw [significand]
    simp only [hle, if_true]
    rw [hnext]
    exact ih h

/-- no number but zero begins with a zero -/
theorem head_toDigits {n : Nat} (hn : 0 < n) : (Nat.toDigits 10 n).head? ≠ some '0' := by
  induction n using Nat.strongRecOn with
  | ind n ih =>
    by_cases hsmall : n < 10
    · rw [Nat.toDigits_of_lt_base hsmall]
      intro h
      have hzero : n.digitChar = '0' := by simpa using h
      interval_cases n <;> revert hzero <;> decide
    · rw [Nat.toDigits_of_base_le (by decide) (by omega), List.head?_append_of_ne_nil _ Nat.toDigits_ne_nil]
      exact ih (n / 10) (by omega) (by omega)

/-- digits alone are a whole number -/
theorem number_toDigits {n : Nat} (hn : n ≤ wholeMax) (negative : Bool) :
    number negative (Nat.toDigits 10 n) =
      if !negative then .ok (.whole n, [])
      else if n = 0 ∨ negativeMax < n then .ok (.real (-n.toUInt64.toFloat), [])
      else .ok (.whole (-n), []) := by
  have hdigits : (Nat.toDigits 10 n).takeWhile Char.isDigit = Nat.toDigits 10 n :=
    List.takeWhile_eq_self_iff.2 fun c hc => Nat.isDigit_of_mem_toDigits (by decide) (by decide) hc
  have hvalue : significand 0 (Nat.toDigits 10 n) = (n, []) := by
    rw [significand_eq] <;> rw [Nat.ofDigitChars_toDigits (by decide) (by decide)]
    exact hn
  unfold number
  simp only [hdigits, List.drop_length]
  split
  · next hnil => exact absurd hnil Nat.toDigits_ne_nil
  · next c cs hcs =>
    -- a zero in front of another digit
    have hpos : 0 < n := by
      rcases Nat.eq_zero_or_pos n with rfl | hpos
      · cases hcs
      · exact hpos
    exact absurd (congrArg List.head? hcs) (head_toDigits hpos)
  · rw [hvalue]
    rfl

/-! ## Documents -/

/-- a digit begins a number -/
theorem value_digit {c : Char} (hc : c.isDigit = true) (depth : Nat) (cs : List Char) :
    value depth (c :: cs) = (number false (c :: cs)).map fun
      | (.whole n, cs) => (.whole n, cs)
      | (.real x, cs) => (.real x, cs) := by
  have hne : ∀ d : Char, d.isDigit = false → c ≠ d := by
    rintro d hd rfl
    exact absurd (hc.symm.trans hd) (by decide)
  have hspace : skipSpaces (c :: cs) = c :: cs := by
    have hblank : isSpace c = false := by
      simp [isSpace, hne ' ' (by decide), hne '\n' (by decide), hne '\t' (by decide), hne '\r' (by decide)]
    exact List.dropWhile_cons_of_neg (by simp [hblank])
  unfold value
  rw [hspace]
  split
  case h_8 h =>
    cases h
    exact (if_neg (hne '-' (by decide))).trans (if_pos hc)
  all_goals next h =>
    -- letters, quotes and brackets are no digits
    cases h <;> exact absurd hc (by decide)

theorem value_minus (depth : Nat) (cs : List Char) :
    value depth ('-' :: cs) = (number true cs).map fun
      | (.whole n, cs) => (.whole n, cs)
      | (.real x, cs) => (.real x, cs) := by
  rw [value.eq_def]
  rfl

/-- **Whole numbers are read exactly**, as far as 64 bits hold them with or without a sign. -/
theorem read_toString {n : Int} (hlow : int64Min ≤ n) (hhigh : n ≤ wholeMax) : read (toString n) = .ok (.whole n) := by
  cases n with
  | ofNat n =>
    have hchars : (toString (Int.ofNat n)).toList = Nat.toDigits 10 n := Nat.toList_repr
    have hnumber := number_toDigits (Int.ofNat_le.1 hhigh) false
    obtain ⟨c, cs, hcs⟩ := List.exists_cons_of_ne_nil (Nat.toDigits_ne_nil (n := n) (b := 10))
    have hdigit : c.isDigit = true := Nat.isDigit_of_mem_toDigits (by decide) (by decide) (hcs ▸ List.mem_cons_self)
    rw [hcs] at hchars hnumber
    rw [read, hchars, value_digit hdigit, hnumber]
    rfl
  | negSucc n =>
    have hchars : (toString (Int.negSucc n)).toList = '-' :: Nat.toDigits 10 (n + 1) := by
      show ("-" ++ toString (n + 1)).toList = _
      rw [String.toList_append]
      exact congrArg _ Nat.toList_repr
    have hmax : n + 1 ≤ negativeMax := by
      unfold int64Min at hlow
      unfold negativeMax
      omega
    have hnumber := number_toDigits (hmax.trans (by decide)) true
    rw [if_neg (by decide), if_neg (by omega)] at hnumber
    rw [read, hchars, value_minus, hnumber]
    rfl

end SqlSession.Json
