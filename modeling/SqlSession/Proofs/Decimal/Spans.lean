/-
Spans of numbers of seconds.

- `Duration.Nearest`: a span is the one nearest to a number of seconds, of two such the even one;
- `nearest_roundHalfEven`: rounding finds it;
- `ofSeconds?_of_short`, `ofSeconds?_of_long`: a positive number of seconds has a span exactly below `2 ^ 64`;
- `spans_span`: what settings make of seconds, which are given or not, of any sign and finite or not.
-/
import Mathlib.Tactic.Ring
import SqlSession.Config
import SqlSession.Proofs.Decimal.Values

namespace SqlSession

open Decimal

namespace Duration

/-- no span in whole nanoseconds is nearer to so many seconds, and of two that are as near it is the even one -/
structure Nearest (d : Duration) (seconds : ℚ) : Prop where
  near : |(d.nanos : ℚ) - seconds * 10 ^ 9| ≤ 1 / 2
  even : |(d.nanos : ℚ) - seconds * 10 ^ 9| = 1 / 2 → d.nanos % 2 = 0

/-! ## Rounding -/

theorem roundHalfEven_cases (num den : Nat) :
    roundHalfEven num den = num / den ∧ 2 * (num % den) ≤ den ∧ (2 * (num % den) = den → num / den % 2 = 0) ∨
      roundHalfEven num den = num / den + 1 ∧ den ≤ 2 * (num % den) ∧
        (2 * (num % den) = den → (num / den + 1) % 2 = 0) := by
  unfold roundHalfEven
  dsimp only
  split_ifs with hlow hhigh heven
  · exact .inl ⟨rfl, by omega, by omega⟩
  · exact .inr ⟨rfl, by omega, by omega⟩
  · exact .inl ⟨rfl, by omega, fun _ => heven⟩
  · exact .inr ⟨rfl, by omega, by omega⟩

/-- rounding goes to the nearest whole number -/
theorem nearest_roundHalfEven {num den : Nat} {v : ℚ} (hden : 0 < den) (hv : v * 10 ^ 9 = num / den) :
    Nearest ⟨roundHalfEven num den⟩ v := by
  have hden' : (0 : ℚ) < den := Nat.cast_pos.2 hden
  have hnum : (num : ℚ) = (num / den : ℕ) * den + (num % den : ℕ) := by exact_mod_cast (Nat.div_add_mod' num den).symm
  -- what is left over is part of a whole, and it is a half where twice the rest is the denominator
  generalize ht : ((num % den : ℕ) : ℚ) / den = t
  have hrest : ((num % den : ℕ) : ℚ) = t * den := (div_eq_iff hden'.ne').1 ht
  have hsplit : v * 10 ^ 9 = (num / den : ℕ) + t := by
    rw [hv, div_eq_iff hden'.ne', add_mul, ← hrest, ← hnum]
  have hlow : 2 * (num % den) ≤ den → t ≤ 1 / 2 := by
    intro h
    have h' : 2 * ((num % den : ℕ) : ℚ) ≤ den := by exact_mod_cast h
    rw [← ht, div_le_iff₀ hden']
    linarith
  have hhigh : den ≤ 2 * (num % den) → 1 / 2 ≤ t := by
    intro h
    have h' : (den : ℚ) ≤ 2 * ((num % den : ℕ) : ℚ) := by exact_mod_cast h
    rw [← ht, le_div_iff₀ hden']
    linarith
  have hhalf : t = 1 / 2 → 2 * (num % den) = den := by
    intro h
    have h' : 2 * ((num % den : ℕ) : ℚ) = den := by rw [hrest, h]; ring
    exact_mod_cast h'
  have hpos : 0 ≤ t := ht ▸ div_nonneg (Nat.cast_nonneg _) hden'.le
  have hone : t ≤ 1 := by
    rw [← ht, div_le_iff₀ hden', one_mul]
    exact_mod_cast (Nat.mod_lt num hden).le
  obtain ⟨hr, hside, heven⟩ | ⟨hr, hside, heven⟩ := roundHalfEven_cases num den
  · have herror : |((num / den : ℕ) : ℚ) - v * 10 ^ 9| = t := by
      rw [hsplit, sub_add_cancel_left, abs_neg, abs_of_nonneg hpos]
    rw [hr]
    exact ⟨herror ▸ hlow hside, fun h => heven (hhalf (herror.symm.trans h))⟩
  · have herror : |((num / den + 1 : ℕ) : ℚ) - v * 10 ^ 9| = 1 - t := by
      rw [hsplit, Nat.cast_succ, add_sub_add_left_eq_sub, abs_of_nonneg (sub_nonneg.2 hone)]
    have hhigh := hhigh hside
    rw [hr]
    refine ⟨herror ▸ by linarith, fun h => heven (hhalf ?_)⟩
    have := herror.symm.trans h
    linarith

/-! ## Seconds -/

section

variable {x : Float} {p : Parts}

theorem ofSeconds?_of_parts (h : parts? x = some p) :
    ofSeconds? x =
      let d := roundHalfEven (p.mantissa * 2 ^ p.exponent.toNat * 10 ^ 9) (2 ^ (-p.exponent).toNat)
      if d / 10 ^ 9 < 2 ^ 64 then some ⟨d⟩ else none := by
  unfold ofSeconds?
  rw [h]
  rfl

/-- the nanoseconds as a quotient -/
theorem value_mul (h : p.negative = false) :
    p.value * 10 ^ 9 = (p.mantissa * 2 ^ p.exponent.toNat * 10 ^ 9 : ℕ) / (2 ^ (-p.exponent).toNat : ℕ) := by
  rw [Parts.value_eq h, div_mul_eq_mul_div]
  push_cast
  rfl

theorem value_lt (h : p.negative = false) :
    p.value < 2 ^ 64 ↔ p.mantissa * 2 ^ p.exponent.toNat < 2 ^ 64 * 2 ^ (-p.exponent).toNat := by
  have hden : (0 : ℚ) < (2 ^ (-p.exponent).toNat : ℕ) := Nat.cast_pos.2 (Nat.two_pow_pos _)
  rw [Parts.value_eq h, div_lt_iff₀ hden]
  exact_mod_cast Iff.rfl

theorem le_roundHalfEven (num den : Nat) : num / den ≤ roundHalfEven num den := by
  obtain ⟨hr, -⟩ | ⟨hr, -⟩ := roundHalfEven_cases num den <;> omega

/-- the digits of a number are too few for one below `2 ^ 64` to be rounded up to that -/
theorem roundHalfEven_lt (h : parts? x = some p)
    (hlt : p.mantissa * 2 ^ p.exponent.toNat < 2 ^ 64 * 2 ^ (-p.exponent).toNat) :
    roundHalfEven (p.mantissa * 2 ^ p.exponent.toNat * 10 ^ 9) (2 ^ (-p.exponent).toNat) / 10 ^ 9 < 2 ^ 64 := by
  have hm := mantissa_lt h
  obtain he | he := Int.le_total 0 p.exponent
  · have hden : (-p.exponent).toNat = 0 := by omega
    rw [hden] at hlt ⊢
    have hexact : roundHalfEven (p.mantissa * 2 ^ p.exponent.toNat * 10 ^ 9) (2 ^ 0) =
        p.mantissa * 2 ^ p.exponent.toNat * 10 ^ 9 := by
      simp [roundHalfEven, Nat.mod_one]
    rw [hexact, Nat.mul_div_cancel _ (by decide)]
    omega
  · have hnum : p.exponent.toNat = 0 := by omega
    rw [hnum, pow_zero, Nat.mul_one]
    have hle : roundHalfEven (p.mantissa * 10 ^ 9) (2 ^ (-p.exponent).toNat) ≤ p.mantissa * 10 ^ 9 + 1 := by
      have hdiv := Nat.div_le_self (p.mantissa * 10 ^ 9) (2 ^ (-p.exponent).toNat)
      obtain ⟨hr, -⟩ | ⟨hr, -⟩ := roundHalfEven_cases (p.mantissa * 10 ^ 9) (2 ^ (-p.exponent).toNat) <;> omega
    omega

/-- below `2 ^ 64` seconds there is a span, the nearest one -/
theorem ofSeconds?_of_short (h : parts? x = some p) (hsign : p.negative = false) (hshort : p.value < 2 ^ 64) :
    ∃ d, ofSeconds? x = some d ∧ d.Nearest p.value := by
  rw [ofSeconds?_of_parts h]
  dsimp only
  rw [if_pos (roundHalfEven_lt h ((value_lt hsign).1 hshort))]
  exact ⟨_, rfl, nearest_roundHalfEven (Nat.two_pow_pos _) (value_mul hsign)⟩

theorem ofSeconds?_of_long (h : parts? x = some p) (hsign : p.negative = false) (hlong : 2 ^ 64 ≤ p.value) :
    ofSeconds? x = none := by
  have hnum := mt (value_lt hsign).2 (not_lt.2 hlong)
  have hden : 0 < 2 ^ (-p.exponent).toNat := Nat.two_pow_pos _
  rw [ofSeconds?_of_parts h]
  dsimp only
  refine if_neg (Nat.not_lt.2 ?_)
  refine le_trans ?_ (Nat.div_le_div_right (le_roundHalfEven _ _))
  rw [Nat.le_div_iff_mul_le (by decide), Nat.le_div_iff_mul_le hden]
  calc 2 ^ 64 * 10 ^ 9 * 2 ^ (-p.exponent).toNat = 2 ^ 64 * 2 ^ (-p.exponent).toNat * 10 ^ 9 := by ring
    _ ≤ p.mantissa * 2 ^ p.exponent.toNat * 10 ^ 9 := Nat.mul_le_mul_right _ (Nat.le_of_not_lt hnum)

end

end Duration

/-! ## Settings -/

namespace Config

/-- so many seconds that no span holds them -/
def Overlong (seconds : Option Float) : Prop := ∃ x ∈ seconds, ∃ v, value? x = some v ∧ 2 ^ 64 ≤ v

/-- what becomes of seconds: no limit if there are none or no finite or positive number of them, the nearest span if
there are less than `2 ^ 64`, and an error of its own otherwise -/
inductive Spans (seconds : Option Float) : Except Error (Option Duration) → Prop
  | unlimited (without : ∀ x ∈ seconds, ∀ v, value? x = some v → v ≤ 0) : Spans seconds (.ok none)
  | limited {x : Float} {v : ℚ} {d : Duration} (given : x ∈ seconds) (worth : value? x = some v) (positive : 0 < v)
      (short : v < 2 ^ 64) (nearest : d.Nearest v) : Spans seconds (.ok (some d))
  | overlong (long : Overlong seconds) : Spans seconds (.error .secondsOverflow)

theorem spans_span (seconds : Option Float) : Spans seconds (span seconds) := by
  cases seconds with
  | none =>
    refine .unlimited fun x hx => ?_
    cases hx
  | some x =>
    by_cases hpositive : (x.isFinite && 0 < x) = true
    · obtain ⟨v, hv, hpos⟩ := (positive_iff x).1 hpositive
      obtain ⟨p, hp, rfl⟩ := Option.map_eq_some_iff.1 hv
      have hsign := (Parts.value_pos.1 hpos).1
      have hkept : (some x).filter (fun s => s.isFinite && 0 < s) = some x := by
        rw [Option.filter_some, if_pos hpositive]
      obtain hshort | hlong := lt_or_ge p.value (2 ^ 64)
      · obtain ⟨d, hd, hnearest⟩ := Duration.ofSeconds?_of_short hp hsign hshort
        have hspan : span (some x) = .ok (some d) := by simp only [span, hkept, hd]
        rw [hspan]
        exact .limited rfl hv hpos hshort hnearest
      · have hnone := Duration.ofSeconds?_of_long hp hsign hlong
        have hspan : span (some x) = .error .secondsOverflow := by simp only [span, hkept, hnone]
        rw [hspan]
        exact .overlong ⟨x, rfl, p.value, hv, hlong⟩
    · have hspan : span (some x) = .ok none := by
        rw [span, Option.filter_some, if_neg hpositive]
      rw [hspan]
      refine .unlimited fun y hy v hv => ?_
      obtain rfl := Option.some.inj hy
      exact not_lt.1 fun hpos => hpositive ((positive_iff x).2 ⟨v, hv, hpos⟩)

/-- nothing else is an error -/
theorem span_eq_error_iff {seconds : Option Float} {e : Error} :
    span seconds = .error e ↔ e = .secondsOverflow ∧ Overlong seconds := by
  have h := spans_span seconds
  constructor
  · intro he
    rw [he] at h
    cases h with
    | overlong long => exact ⟨rfl, long⟩
  · rintro ⟨rfl, x, hx, v, hv, hlong⟩
    generalize span seconds = r at h
    cases h with
    | unlimited without =>
      have hv' := without x hx v hv
      linarith
    | limited given worth positive short _ =>
      obtain rfl := Option.some.inj (Option.mem_def.1 given ▸ hx)
      obtain rfl := Option.some.inj (worth.symm.trans hv)
      exact absurd hlong (not_le.2 short)
    | overlong => rfl

end Config

end SqlSession
