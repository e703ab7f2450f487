/-
Whole numbers as binary64 numbers.

A whole number between `2 ^ 63` and `2 ^ 64` has eleven binary digits more than a binary64 number keeps: they are
shifted out, what is left is rounded by them, and a carry takes one digit more. `parts?_nearest` gives the parts of the
number that comes out, which is half a unit of its last place away at most.
-/
import Mathlib.Tactic.Ring
import SqlSession.Decimal.Shortest
import SqlSession.Decimal.Nearest

namespace SqlSession.Decimal

open Float.Model Float.Model.UnpackedFloat

/-! ## Digits shifted out -/

/-- what is left of a whole number, the digit shifted out last, and whether another one in it was not zero -/
theorem shiftRight_exact (n k : Nat) : ExtendedMantissa.ofMantissaAndAccuracy n .exact >>> k =
    ⟨n / 2 ^ k, decide (2 ^ k ≤ 2 * (n % 2 ^ k)), decide (2 * n % 2 ^ k ≠ 0)⟩ := by
  induction k with
  | zero => simp [HShiftRight.hShiftRight, Nat.repeat, ExtendedMantissa.ofMantissaAndAccuracy, Nat.mod_one]
  | succ k ih =>
    have hstep : ExtendedMantissa.ofMantissaAndAccuracy n .exact >>> (k + 1) =
        (ExtendedMantissa.ofMantissaAndAccuracy n .exact >>> k).shiftRightOne := rfl
    have hmod : n % 2 ^ (k + 1) = n % 2 ^ k + 2 ^ k * (n / 2 ^ k % 2) := Nat.mod_pow_succ
    have hdouble : 2 * n % 2 ^ (k + 1) = 2 * (n % 2 ^ k) := by
      rw [Nat.pow_succ, Nat.mul_comm (2 ^ k), Nat.mul_mod_mul_left]
    have hrest : 2 * n % 2 ^ k = 2 * (n % 2 ^ k) % 2 ^ k := by rw [Nat.mul_mod_mod]
    have hlt : n % 2 ^ k < 2 ^ k := Nat.mod_lt n (Nat.two_pow_pos k)
    rw [hstep, ih, ExtendedMantissa.shiftRightOne, ExtendedMantissa.mk.injEq]
    refine ⟨?_, ?_, ?_⟩
    · rw [Nat.div_div_eq_div_mul, Nat.pow_succ]
    · show (n / 2 ^ k % 2 != 0) = _
      rw [hmod, Nat.pow_succ]
      obtain hd | hd := Nat.mod_two_eq_zero_or_one (n / 2 ^ k)
      · simp [hd]; omega
      · simp [hd]; omega
    · rw [hdouble, ← Bool.decide_or, hrest]
      refine decide_eq_decide.2 ⟨?_, fun h => ?_⟩
      · rintro (h | h)
        · have := Nat.two_pow_pos k
          omega
        · intro hzero
          rw [hzero, Nat.zero_mod] at h
          exact h rfl
      · by_cases hhalf : 2 ^ k ≤ 2 * (n % 2 ^ k)
        · exact .inl hhalf
        · right
          rwa [Nat.mod_eq_of_lt (by omega)]

/-- rounding errs by half of what a digit that stays is worth at most -/
theorem roundedMantissa_near (n k : Nat) :
    let q := (ExtendedMantissa.ofMantissaAndAccuracy n .exact >>> k).roundedMantissa
    2 * (q * 2 ^ k) ≤ 2 * n + 2 ^ k ∧ 2 * n ≤ 2 * (q * 2 ^ k) + 2 ^ k := by
  have hn : n = n / 2 ^ k * 2 ^ k + n % 2 ^ k := (Nat.div_add_mod' n (2 ^ k)).symm
  have hlt : n % 2 ^ k < 2 ^ k := Nat.mod_lt n (Nat.two_pow_pos k)
  have htie : 2 * n % 2 ^ k = 2 * (n % 2 ^ k) % 2 ^ k := by rw [Nat.mul_mod_mod]
  rw [shiftRight_exact, htie]
  generalize n / 2 ^ k = m at hn
  generalize n % 2 ^ k = rest at hn hlt
  generalize 2 ^ k = unit at hn hlt
  have hup : (m + 1) * unit = m * unit + unit := Nat.succ_mul m unit
  unfold ExtendedMantissa.roundedMantissa ExtendedMantissa.accuracy
  by_cases hhalf : unit ≤ 2 * rest
  · by_cases hsticky : 2 * rest % unit = 0
    · -- the tie: exactly half a unit is left over, whichever neighbour is even
      have hexact : 2 * rest = unit := by
        rw [Nat.mod_eq_sub_mod hhalf, Nat.mod_eq_of_lt (by omega)] at hsticky
        omega
      have heven : (m + m % 2) * unit = m * unit ∨ (m + m % 2) * unit = (m + 1) * unit := by
        obtain hm | hm := Nat.mod_two_eq_zero_or_one m <;> simp [hm]
      simp [hhalf, hsticky, Accuracy.roundToNearestEven]
      omega
    · simp [hhalf, hsticky, Accuracy.roundToNearestEven]; omega
  · by_cases hsticky : 2 * rest % unit = 0
    · simp [hhalf, hsticky, Accuracy.roundToNearestEven]; omega
    · simp [hhalf, hsticky, Accuracy.roundToNearestEven]; omega

/-! ## Numbers of sixty-four binary digits -/

theorem log2_eq {n k : Nat} (hlow : 2 ^ k ≤ n) (hhigh : n < 2 ^ (k + 1)) : n.log2 = k := by
  have hpos : n ≠ 0 := by
    have := Nat.two_pow_pos k
    omega
  exact (Nat.log2_eq_iff hpos).2 ⟨hlow, hhigh⟩

/-- fifty-three binary digits stay -/
theorem shiftToTargetExponent_exact {n k : Nat} (hlow : 2 ^ (k + 52) ≤ n) (hhigh : n < 2 ^ (k + 53)) {e : Int}
    (he : 0 ≤ e) :
    shiftToTargetExponent .binary64 n e .exact =
      (ExtendedMantissa.ofMantissaAndAccuracy n .exact >>> k, e + k) := by
  have hbits : Format.binary64.mantissaBits = 53 := rfl
  have htarget : Format.binary64.targetExponent (totalExponent n e) = e + k := by
    rw [totalExponent, log2_eq hlow hhigh, Format.targetExponent, Format.minExponent, hbits]
    norm_num
    omega
  have hshift : (e + k - e).toNat = k := by omega
  rw [shiftToTargetExponent, htarget, shiftToExponent, hshift]

/-- fifty-three binary digits `m` and the places `k` behind them that a whole number of sixty-four is rounded to: half a
unit of the last place away at most, and with a twelfth place for one number only -/
structure Rounded (n m k : Nat) : Prop where
  low : 2 ^ 52 ≤ m
  high : m < 2 ^ 53
  places : k = 11 ∨ k = 12 ∧ m = 2 ^ 52
  below : 2 * (m * 2 ^ k) ≤ 2 * n + 2 ^ 11
  above : 2 * n ≤ 2 * (m * 2 ^ k) + 2 ^ 11

/-- eleven digits go, and a twelfth where the carry of the rounding makes one more -/
theorem roundWithAccuracy_exact {n : Nat} (hlow : 2 ^ 63 ≤ n) (hhigh : n < 2 ^ 64) :
    ∃ (m k : Nat) (hm : 0 < m), roundWithAccuracy .binary64 .positive n 0 .exact = .finite .positive m k hm ∧
      Rounded n m k := by
  obtain ⟨hq, hq'⟩ := roundedMantissa_near n 11
  rw [roundWithAccuracy, shiftToTargetExponent_exact (k := 11) hlow hhigh le_rfl]
  dsimp only
  generalize (ExtendedMantissa.ofMantissaAndAccuracy n .exact >>> 11).roundedMantissa = q at hq hq'
  by_cases hcarry : q < 2 ^ 53
  · have hfirst : 2 ^ (0 + 52) ≤ q := by omega
    rw [shiftToTargetExponent_exact hfirst hcarry (by decide), shiftRight_exact]
    have hkept : q / 2 ^ 0 = q := Nat.div_one q
    have hpos : 0 < q / 2 ^ 0 := by omega
    refine ⟨q / 2 ^ 0, 11, hpos, dif_neg hpos.ne', ?_⟩
    rw [hkept]
    exact ⟨hfirst, hcarry, .inl rfl, hq, hq'⟩
  · have htop : q = 2 ^ 53 := by omega
    subst htop
    rw [shiftToTargetExponent_exact (k := 1) (by decide) (by decide) (by decide), shiftRight_exact]
    exact ⟨2 ^ 52, 12, by decide, rfl, ⟨by decide, by decide, .inr ⟨rfl, rfl⟩, by omega, by omega⟩⟩

/-- the number nearest to a whole number of sixty-four binary digits -/
theorem toFloat_finite {n : Nat} (hlow : 2 ^ 63 ≤ n) (hhigh : n < 2 ^ 64) :
    ∃ (m k : Nat) (hm : 0 < m), n.toUInt64.toFloat = ⟨Float.Model.pack (.finite .positive m k hm)⟩ ∧
      Rounded n m k := by
  obtain ⟨m, k, hm, hround, hrounded⟩ := roundWithAccuracy_exact hlow hhigh
  refine ⟨m, k, hm, ?_, hrounded⟩
  have hnat : n.toUInt64.toNat = n := Nat.mod_eq_of_lt hhigh
  have hcompare : compare (n : Int) 0 = .gt := by
    rw [compare_gt_iff_gt]
    omega
  have htarget : Format.binary64.targetExponent (totalExponent n 0) = 11 := by
    rw [totalExponent, log2_eq hlow hhigh]
    rfl
  rw [UInt64.toFloat, Float.Model.ofUInt64, UnpackedFloat.ofUInt64, hnat, UnpackedFloat.ofNat, UnpackedFloat.ofInt,
    UnpackedFloat.normalize, hcompare]
  dsimp only
  rw [UnpackedFloat.round, Int.toNat_natCast, htarget]
  exact congrArg (fun x => (⟨Float.Model.pack x⟩ : Float)) hround

/-! ## The bits -/

/-- exponent and digits stand side by side -/
theorem toNat_pack {m k : Nat} (hm : 0 < m) (hlow : 2 ^ 52 ≤ m) (hhigh : m < 2 ^ 53) (hk : k ≤ 971) :
    (UnpackedFloat.pack .binary64 (.finite .positive m k hm)).toNat = (k + 1075) * 2 ^ 52 + (m - 2 ^ 52) := by
  have hscale : ((k : Int) + Format.binary64.exponentBias + Format.binary64.mantissaBitsWithoutImplicit).toNat =
      k + 1075 := by
    show ((k : Int) + 1023 + 52).toNat = k + 1075
    omega
  have hdigits : m.log2 + 1 = Format.binary64.mantissaBits := by rw [log2_eq hlow hhigh]; rfl
  have hfinite : ¬2 ^ Format.binary64.exponentBits ≤ k + 1075 + 1 := by
    show ¬2 ^ 11 ≤ k + 1075 + 1
    omega
  unfold UnpackedFloat.pack
  dsimp only
  rw [hscale, if_neg hfinite, if_pos hdigits, packComponents, BitVec.toNat_append, BitVec.toNat_append,
    ← Nat.shiftLeft_add_eq_or_of_lt (BitVec.isLt _), ← Nat.shiftLeft_add_eq_or_of_lt (BitVec.isLt _)]
  have hsign : Sign.positive.toBitVec.toNat = 0 := rfl
  have hexponent : (BitVec.ofNat Format.binary64.exponentBits (k + 1075)).toNat = k + 1075 :=
    Nat.mod_eq_of_lt (by show k + 1075 < 2 ^ 11; omega)
  have hfraction : (BitVec.ofNat Format.binary64.mantissaBitsWithoutImplicit m).toNat = m - 2 ^ 52 := by
    show m % 2 ^ 52 = m - 2 ^ 52
    omega
  rw [hsign, hexponent, hfraction, Nat.zero_shiftLeft, Nat.zero_add, Nat.shiftLeft_eq]

theorem parts?_of_bits {x : Float} {scale fraction : Nat} (hbits : x.toBits.toNat = scale * 2 ^ 52 + fraction)
    (hscale : 1 < scale ∧ scale < 2047) (hfraction : fraction < 2 ^ 52) :
    parts? x = some ⟨false, 2 ^ 52 + fraction, (scale : Int) - 1075, fraction == 0⟩ := by
  have hlow : x.toBits.toNat % Nat.pow 2 52 = fraction := by rw [hbits, Nat.pow_eq]; omega
  have hmiddle : x.toBits.toNat / Nat.pow 2 52 % Nat.pow 2 11 = scale := by rw [hbits, Nat.pow_eq, Nat.pow_eq]; omega
  have hsign : x.toBits.toNat / Nat.pow 2 63 = 0 := by rw [hbits, Nat.pow_eq]; omega
  have hne : (scale != 1) = true := by simp; omega
  simp only [parts?, hlow, hmiddle, hsign]
  rw [if_neg (by omega), if_neg (by omega), hne, Bool.and_true]
  rfl

theorem toNat_toBits (x : UnpackedFloat) :
    (Float.ofModel (Float.Model.pack x)).toBits.toNat = (UnpackedFloat.pack .binary64 x).toNat := rfl

theorem parts?_pack {m k : Nat} (hm : 0 < m) (hlow : 2 ^ 52 ≤ m) (hhigh : m < 2 ^ 53) (hk : k ≤ 971) :
    parts? (.ofModel (Float.Model.pack (.finite .positive m k hm))) = some ⟨false, m, k, m - 2 ^ 52 == 0⟩ := by
  have hbits := (toNat_toBits (.finite .positive m k hm)).trans (toNat_pack hm hlow hhigh hk)
  have hexponent : ((k + 1075 : Nat) : Int) - 1075 = k := by omega
  rw [parts?_of_bits hbits (by omega) (by omega), Nat.add_sub_cancel' hlow, hexponent]

/-- the parts of the number nearest to a whole number of sixty-four binary digits -/
theorem parts?_nearest {n : Nat} (hlow : 2 ^ 63 ≤ n) (hhigh : n < 2 ^ 64) :
    ∃ m k : Nat, parts? (nearest n) = some ⟨false, m, k, m - 2 ^ 52 == 0⟩ ∧ Rounded n m k := by
  obtain ⟨m, k, hm, hfinite, hrounded⟩ := toFloat_finite hlow hhigh
  have hplaces : k ≤ 971 := by
    have := hrounded.places
    omega
  refine ⟨m, k, ?_, hrounded⟩
  rw [nearest, if_pos (by omega), Int.toNat_natCast, hfinite]
  exact parts?_pack hm hrounded.low hrounded.high hplaces

end SqlSession.Decimal
