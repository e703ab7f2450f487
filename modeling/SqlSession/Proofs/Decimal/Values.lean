/-
What binary64 numbers are worth.

A number that is finite stands for a rational number, its value. The arithmetic has a model of its own, which takes
numbers apart as `parts?` does (`takes_parts?`), so its tests are tests of values (`positive_iff`).
-/
import Mathlib.Data.Rat.Cast.Order
import Mathlib.Tactic.Linarith
import SqlSession.Decimal.Shortest

namespace SqlSession.Decimal

open Float.Model Float.Model.UnpackedFloat

/-- the number itself -/
def Parts.value (p : Parts) : ℚ :=
  (if p.negative then -1 else 1) * p.mantissa * (2 : ℚ) ^ p.exponent

/-- the rational number that a finite number stands for -/
def value? (x : Float) : Option ℚ := (parts? x).map Parts.value

/-! ## Fields -/

theorem toNat_unpackMantissa (b : BitVec Format.binary64.numBits) :
    (unpackMantissa b).toNat = b.toNat % 2 ^ 52 := by
  simp [unpackMantissa]

theorem toNat_unpackExponent (b : BitVec Format.binary64.numBits) :
    (unpackExponent b).toNat = b.toNat / 2 ^ 52 % 2 ^ 11 := by
  simp [unpackExponent, Nat.shiftRight_eq_div_pow]

theorem toNat_unpackSign (b : BitVec Format.binary64.numBits) : (unpackSign b).toNat = b.toNat / 2 ^ 63 % 2 := by
  have hsign : unpackSign b = b.extractLsb 63 63 := rfl
  rw [hsign, BitVec.extractLsb_toNat, Nat.shiftRight_eq_div_pow]

def sign (negative : Bool) : Sign := if negative then .negative else .positive

theorem ofBitVec_unpackSign (b : BitVec Format.binary64.numBits) :
    Sign.ofBitVec (unpackSign b) = sign (b.toNat / 2 ^ 63 == 1) := by
  have hlt : b.toNat / 2 ^ 63 < 2 := Nat.div_lt_of_lt_mul (by have := b.isLt; exact this)
  have hzero : unpackSign b = 0#1 ↔ b.toNat / 2 ^ 63 = 0 := by
    rw [← BitVec.toNat_inj, toNat_unpackSign, Nat.mod_eq_of_lt hlt]
    rfl
  rw [Sign.ofBitVec, sign]
  by_cases h : b.toNat / 2 ^ 63 = 0
  · rw [if_pos (hzero.2 h), h]
    rfl
  · have hone : b.toNat / 2 ^ 63 = 1 := by omega
    rw [if_neg (mt hzero.1 h), hone]
    rfl

/-! ## Parts -/

/-- a number of the model has these parts, or none -/
inductive Takes : UnpackedFloat → Option Parts → Prop
  | infinity (s : Sign) : Takes (.infinity s) none
  | notANumber : Takes .notANumber none
  | zero (negative : Bool) (exponent : Int) (narrow : Bool) :
      Takes (.zero (sign negative)) (some ⟨negative, 0, exponent, narrow⟩)
  | finite (negative : Bool) {mantissa : Nat} (exponent : Int) (narrow : Bool) (hm : 0 < mantissa) :
      Takes (.finite (sign negative) mantissa exponent hm) (some ⟨negative, mantissa, exponent, narrow⟩)

theorem Takes.of_eq {negative : Bool} {m m' : Nat} {e e' : Int} (narrow : Bool) (hm : 0 < m) (hmantissa : m = m')
    (hexponent : e = e') : Takes (.finite (sign negative) m e hm) (some ⟨negative, m', e', narrow⟩) := by
  subst hmantissa hexponent
  exact .finite negative e narrow hm

theorem takes_unpack {x : Float} {b : BitVec Format.binary64.numBits} (hbits : x.toBits.toNat = b.toNat) :
    Takes (UnpackedFloat.unpack .binary64 b) (parts? x) := by
  have hmax : unpackExponent b = -(BitVec.ofNat _ 1) ↔ b.toNat / 2 ^ 52 % 2 ^ 11 = 2047 := by
    rw [← BitVec.toNat_inj, toNat_unpackExponent]
    rfl
  have hmin : unpackExponent b = BitVec.ofNat _ 0 ↔ b.toNat / 2 ^ 52 % 2 ^ 11 = 0 := by
    rw [← BitVec.toNat_inj, toNat_unpackExponent]
    rfl
  have hnone : unpackMantissa b = BitVec.ofNat _ 0 ↔ b.toNat % 2 ^ 52 = 0 := by
    rw [← BitVec.toNat_inj, toNat_unpackMantissa]
    rfl
  have hfull : (1#1 ++ unpackMantissa b).toNat = 2 ^ 52 + b.toNat % 2 ^ 52 := by
    rw [BitVec.toNat_append, ← Nat.shiftLeft_add_eq_or_of_lt (BitVec.isLt _), toNat_unpackMantissa]
    rfl
  -- what the model makes of the bits is left alone while the powers of two are put into one form
  generalize hunpacked : UnpackedFloat.unpack .binary64 b = u
  simp only [parts?, hbits, Nat.pow_eq]
  rw [← hunpacked]
  unfold UnpackedFloat.unpack
  dsimp only
  rw [ofBitVec_unpackSign]
  by_cases hscale : b.toNat / 2 ^ 52 % 2 ^ 11 = 2047
  · rw [if_pos (hmax.2 hscale), if_pos hscale]
    split
    · exact .infinity _
    · exact .notANumber
  · rw [if_neg (mt hmax.1 hscale), if_neg hscale]
    by_cases hsmall : b.toNat / 2 ^ 52 % 2 ^ 11 = 0
    · rw [if_pos (hmin.2 hsmall), if_pos hsmall]
      by_cases hzero : b.toNat % 2 ^ 52 = 0
      · rw [dif_pos (hnone.2 hzero), hzero]
        exact .zero _ _ _
      · rw [dif_neg (mt hnone.1 hzero)]
        refine .of_eq _ _ (toNat_unpackMantissa b) ?_
        rw [toNat_unpackExponent, hsmall]
        rfl
    · rw [if_neg (mt hmin.1 hsmall), if_neg hsmall]
      refine .of_eq _ _ hfull ?_
      rw [toNat_unpackExponent]
      rfl

theorem takes_parts? (x : Float) : Takes x.toModel.unpack (parts? x) := takes_unpack rfl

theorem unpack_zero : (Float.toModel 0).unpack = .zero .positive := rfl

/-- a number is less than another one if the model says so -/
theorem zero_lt_iff (x : Float) : 0 < x ↔ UnpackedFloat.compare (.zero .positive) x.toModel.unpack = some .lt := by
  show Float.lt 0 x = true ↔ _
  rw [Float.lt, decide_eq_true_iff]
  show Float.Model.lt (Float.toModel 0) x.toModel = true ↔ _
  rw [Float.Model.lt, unpack_zero, UnpackedFloat.lt, beq_iff_eq]

theorem Parts.value_pos {p : Parts} : 0 < p.value ↔ p.negative = false ∧ 0 < p.mantissa := by
  rw [Parts.value, mul_pos_iff_of_pos_right (zpow_pos two_pos _)]
  cases p.negative with
  | true => simp
  | false => simp

/-- the tests of the arithmetic whether a number is finite and positive -/
theorem positive_iff (x : Float) : (x.isFinite && 0 < x) = true ↔ ∃ v, value? x = some v ∧ 0 < v := by
  have h := takes_parts? x
  rw [Bool.and_eq_true, decide_eq_true_iff, zero_lt_iff, value?, Float.isFinite, Float.Model.isFinite]
  generalize x.toModel.unpack = u at h
  generalize parts? x = p at h
  cases h with
  | infinity s => exact ⟨fun h => (nomatch h.1), fun ⟨_, h, _⟩ => (nomatch h)⟩
  | notANumber => exact ⟨fun h => (nomatch h.1), fun ⟨_, h, _⟩ => (nomatch h)⟩
  | zero negative exponent narrow =>
    have hcompare : UnpackedFloat.compare (.zero .positive) (.zero (sign negative)) = some .eq := by
      cases negative <;> rfl
    rw [hcompare]
    simp [Parts.value_pos]
  | finite negative exponent narrow hm =>
    have hfinite : (UnpackedFloat.finite (sign negative) _ exponent hm).isFinite = true := rfl
    have hcompare : UnpackedFloat.compare (.zero .positive) (.finite (sign negative) _ exponent hm) = some .lt ↔
        negative = false := by
      cases negative
      · exact ⟨fun _ => rfl, fun _ => rfl⟩
      · exact ⟨nofun, nofun⟩
    rw [and_iff_right hfinite, hcompare]
    simp [Parts.value_pos, hm]

/-! ## Sizes -/

theorem mantissa_lt {x : Float} {p : Parts} (h : parts? x = some p) : p.mantissa < 2 ^ 53 := by
  have hfraction : x.toBits.toNat % Nat.pow 2 52 < 2 ^ 52 := Nat.mod_lt _ (Nat.two_pow_pos 52)
  unfold parts? at h
  dsimp only at h
  split_ifs at h
  · obtain rfl := Option.some.inj h
    show x.toBits.toNat % Nat.pow 2 52 < 2 ^ 53
    omega
  · obtain rfl := Option.some.inj h
    show 2 ^ 52 + x.toBits.toNat % Nat.pow 2 52 < 2 ^ 53
    omega

/-- the value as a quotient of whole numbers, one of which is a power of two -/
theorem Parts.value_eq {p : Parts} (h : p.negative = false) :
    p.value = (p.mantissa * 2 ^ p.exponent.toNat : ℕ) / (2 ^ (-p.exponent).toNat : ℕ) := by
  rw [Parts.value, h]
  obtain he | he := Int.le_total 0 p.exponent
  · obtain ⟨n, hn⟩ := Int.eq_ofNat_of_zero_le he
    rw [hn]
    simp
  · obtain ⟨n, hn⟩ := Int.eq_ofNat_of_zero_le (Int.neg_nonneg_of_nonpos he)
    have hexponent : p.exponent = -n := by omega
    rw [hexponent]
    simp [div_eq_mul_inv]

end SqlSession.Decimal
