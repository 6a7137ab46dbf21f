/-
# The value of a decimal

A decimal stands for the rational number `signed / 10^scale` (`Decimal.toRat`). An exact result
`±m / 10^s` that already fits, with a mantissa below 2^96 and a scale of at most 28, is kept as
it is by `Decimal.fit` (`fit_of_fits`); at scale 0 there is no fraction digit to drop, so `fit`
fails exactly when the mantissa reaches 2^96 (`fit_scale_zero_of_le`).

So a sum is exact whenever it fits at the larger scale of its operands (`add?_exact`); at scale 0
it fails exactly when its magnitude reaches 2^96 (`add?_eq_none_of_scale_zero`). A difference is
a sum with the second operand negated (`sub?_eq_add?_negate`), up to the sign of a zero result,
so the same holds of differences (`sub?_exact`, `sub?_eq_none_of_scale_zero`).

Key definitions: `Decimal.toRat`.
Key theorems: `Decimal.fit_of_fits`, `Decimal.add?_exact`, `Decimal.add?_eq_none_of_scale_zero`,
`Decimal.sub?_exact`, `Decimal.sub?_eq_none_of_scale_zero`.
-/
import Mathlib.Data.Rat.Cast.Order
import Mathlib.Tactic.FieldSimp
import Mathlib.Tactic.Positivity
import Mathlib.Tactic.Linarith
import ColumnExpr.Decimal.Arith
namespace ColumnExpr
namespace Decimal

/-- The rational number a decimal stands for, `signed / 10^scale`. -/
def toRat (d : Decimal) : ℚ := d.signed / 10 ^ d.scale

theorem mantissaLimit_eq : mantissaLimit = 2 ^ 96 := rfl

theorem toRat_of_mantissa_eq_zero {d : Decimal} (h : d.mantissa = 0) : d.toRat = 0 := by
  simp [toRat, signed, h]

theorem toRat_zero : zero.toRat = 0 := toRat_of_mantissa_eq_zero rfl

theorem abs_signed (d : Decimal) : |(d.signed : ℚ)| = d.mantissa := by
  unfold signed
  split <;> simp

/-- A decimal's magnitude, written at its own scale, is its mantissa, below 2^96. -/
theorem abs_toRat_mul (d : Decimal) : |d.toRat| * 10 ^ d.scale = d.mantissa := by
  rw [toRat, abs_div, abs_signed, abs_of_pos (by positivity)]
  field_simp

theorem abs_toRat_mul_lt (d : Decimal) : |d.toRat| * 10 ^ d.scale < 2 ^ 96 := by
  rw [abs_toRat_mul]
  exact_mod_cast d.mantissa_lt

/-- A decimal of scale 0 is an integer of magnitude below 2^96. -/
theorem abs_toRat_lt_of_scale_zero {d : Decimal} (h : d.scale = 0) : |d.toRat| < 2 ^ 96 := by
  have hfits := abs_toRat_mul_lt d
  rwa [h, pow_zero, mul_one] at hfits

@[simp] theorem negate_scale (d : Decimal) : d.negate.scale = d.scale := rfl

@[simp] theorem negate_mantissa (d : Decimal) : d.negate.mantissa = d.mantissa := rfl

theorem toRat_negate (d : Decimal) : d.negate.toRat = -d.toRat := by
  unfold toRat signed negate
  cases d.negative <;> simp [neg_div]

/-- Written at any scale `t` from its own up, a decimal has the integer mantissa
`signed * 10^(t - scale)`. -/
theorem toRat_eq_aligned (d : Decimal) {t : Nat} (h : d.scale ≤ t) :
    d.toRat = ((d.signed * 10 ^ (t - d.scale) : ℤ) : ℚ) / 10 ^ t := by
  have h10 : (10 : ℚ) ^ t = 10 ^ (t - d.scale) * 10 ^ d.scale := by
    rw [← pow_add, Nat.sub_add_cancel h]
  rw [toRat, h10]
  push_cast
  field_simp

/-- The decimal with the sign and magnitude of an integer has that integer as its signed
mantissa. -/
theorem signed_of_int (x : ℤ) (s : Nat) (h1 : x.natAbs < mantissaLimit) (h2 : s ≤ maxScale) :
    (⟨decide (x < 0), x.natAbs, s, h1, h2⟩ : Decimal).signed = x := by
  unfold signed
  by_cases hx : x < 0
  · simp only [hx, decide_true, if_true]
    omega
  · simp only [hx, decide_false, Bool.false_eq_true, if_false]
    omega

/-! ### Fitting a result that fits -/

theorem roundDivEven_pow_zero (m : Nat) : roundDivEven m (Nat.pow 10 0) = m := by
  show roundDivEven m 1 = m
  unfold roundDivEven
  simp only [Nat.mod_one, Nat.div_one]
  simp

theorem int_pow_ten (n : Nat) : Int.pow 10 n = 10 ^ n := rfl

/-- **A result that fits is kept as it is.** -/
theorem fit_of_fits {negative : Bool} {m s : Nat} (hm : m < mantissaLimit) (hs : s ≤ maxScale) :
    fit negative m s = some ⟨negative, m, s, hm, hs⟩ := by
  have hk : s - maxScale = 0 := by
    unfold maxScale at hs ⊢
    omega
  unfold fit
  rw [hk, Nat.sub_zero]
  simp only [fit.go, roundDivEven_pow_zero, Nat.sub_zero]
  rw [dif_pos ⟨hm, hs⟩]

/-- At scale 0 there is nothing to drop: a mantissa of 2^96 or more does not fit. -/
theorem fit_scale_zero_of_le {negative : Bool} {m : Nat} (hm : mantissaLimit ≤ m) :
    fit negative m 0 = none := by
  unfold fit
  simp only [Nat.zero_sub, Nat.sub_zero, fit.go, roundDivEven_pow_zero]
  rw [dif_neg (by omega)]

/-! ### Sums and differences -/

/-- The two operands of a sum, written at their larger scale, add up to the sum's value. -/
theorem add_aligned (a b : Decimal) :
    ((a.signed * Int.pow 10 (Nat.max a.scale b.scale - a.scale) +
        b.signed * Int.pow 10 (Nat.max a.scale b.scale - b.scale) : ℤ) : ℚ) =
      (a.toRat + b.toRat) * 10 ^ Nat.max a.scale b.scale := by
  have ha := toRat_eq_aligned a (le_max_left a.scale b.scale)
  have hb := toRat_eq_aligned b (le_max_right a.scale b.scale)
  rw [ha, hb]
  have : (10 : ℚ) ^ Nat.max a.scale b.scale ≠ 0 := by positivity
  field_simp
  push_cast [int_pow_ten]
  rfl

theorem add?_of_left_zero {a b : Decimal} (h : a.mantissa = 0) : a.add? b = some b := by
  simp [add?, h]

theorem add?_of_right_zero {a b : Decimal} (ha : a.mantissa ≠ 0) (hb : b.mantissa = 0) :
    a.add? b = some a := by
  simp [add?, ha, hb]

/-- Of two non-zero operands, the sum is the aligned exact sum, fitted at the larger scale. -/
theorem add?_of_ne_zero {a b : Decimal} (ha : a.mantissa ≠ 0) (hb : b.mantissa ≠ 0) :
    ∃ x : ℤ, (x : ℚ) = (a.toRat + b.toRat) * 10 ^ Nat.max a.scale b.scale ∧
      a.add? b = fit (decide (x < 0)) x.natAbs (Nat.max a.scale b.scale) := by
  refine ⟨_, add_aligned a b, ?_⟩
  unfold add?
  rw [if_neg ha, if_neg hb]

/-- **A sum that fits is exact.** When both operands have scales up to `s` and the sum, written
at scale `s`, has a magnitude below 2^96, `add?` gives the sum exactly, at a scale up to `s`. -/
theorem add?_exact {a b : Decimal} {s : Nat} (ha : a.scale ≤ s) (hb : b.scale ≤ s)
    (h : |a.toRat + b.toRat| * 10 ^ s < 2 ^ 96) :
    ∃ r, a.add? b = some r ∧ r.toRat = a.toRat + b.toRat ∧ r.scale ≤ s := by
  by_cases h0a : a.mantissa = 0
  · exact ⟨b, add?_of_left_zero h0a, by rw [toRat_of_mantissa_eq_zero h0a, zero_add], hb⟩
  by_cases h0b : b.mantissa = 0
  · exact ⟨a, add?_of_right_zero h0a h0b, by rw [toRat_of_mantissa_eq_zero h0b, add_zero], ha⟩
  · -- both operands are non-zero: the aligned sum fits and is kept as it is
    obtain ⟨x, hval, hadd⟩ := add?_of_ne_zero h0a h0b
    set t := Nat.max a.scale b.scale
    have hts : t ≤ s := Nat.max_le.mpr ⟨ha, hb⟩
    have htmax : t ≤ maxScale := Nat.max_le.mpr ⟨a.scale_le, b.scale_le⟩
    have habs : (x.natAbs : ℚ) < 2 ^ 96 := by
      calc (x.natAbs : ℚ) = |(x : ℚ)| := by rw [Nat.cast_natAbs, Int.cast_abs]
        _ = |a.toRat + b.toRat| * 10 ^ t := by
          rw [hval, abs_mul, abs_of_pos (by positivity : (0 : ℚ) < 10 ^ t)]
        _ ≤ |a.toRat + b.toRat| * 10 ^ s := by
          gcongr
          · norm_num
        _ < 2 ^ 96 := h
    have hlt : x.natAbs < mantissaLimit := by
      rw [mantissaLimit_eq]
      exact_mod_cast habs
    refine ⟨_, hadd.trans (fit_of_fits hlt htmax), ?_, hts⟩
    rw [toRat, signed_of_int x t hlt htmax, hval]
    field_simp

/-- **At scale 0, a sum whose magnitude reaches 2^96 does not fit.** -/
theorem add?_eq_none_of_scale_zero {a b : Decimal} (ha : a.scale = 0) (hb : b.scale = 0)
    (h : 2 ^ 96 ≤ |a.toRat + b.toRat|) : a.add? b = none := by
  have hfitsA := abs_toRat_lt_of_scale_zero ha
  have hfitsB := abs_toRat_lt_of_scale_zero hb
  by_cases h0a : a.mantissa = 0
  · -- the sum is `b` alone, which fits
    rw [toRat_of_mantissa_eq_zero h0a, zero_add] at h
    linarith
  by_cases h0b : b.mantissa = 0
  · rw [toRat_of_mantissa_eq_zero h0b, add_zero] at h
    linarith
  · -- both operands are non-zero: their aligned sum is the exact sum, too large for scale 0
    obtain ⟨x, hval, hadd⟩ := add?_of_ne_zero h0a h0b
    have hscale : Nat.max a.scale b.scale = 0 := by
      rw [ha, hb]
      rfl
    rw [hscale, pow_zero, mul_one] at hval
    rw [hadd, hscale]
    apply fit_scale_zero_of_le
    rw [mantissaLimit_eq]
    have hle : (2 : ℚ) ^ 96 ≤ (x.natAbs : ℚ) := by
      rw [Nat.cast_natAbs, Int.cast_abs, hval]
      exact h
    exact_mod_cast hle

/-- **A difference is the sum with the second operand negated**, up to the sign of a zero. -/
theorem sub?_eq_add?_negate (a b : Decimal) :
    (a.sub? b = none ↔ a.add? b.negate = none) ∧
      ∀ r, a.sub? b = some r → ∃ r', a.add? b.negate = some r' ∧ r.toRat = r'.toRat ∧
        r.scale = r'.scale := by
  unfold sub?
  by_cases h0a : a.mantissa = 0
  · -- `0 - b` is `b` turned, or `b` itself when it is zero too: either way `0 + (-b)`
    have hadd : a.add? b.negate = some b.negate := add?_of_left_zero h0a
    have hval : (if b.mantissa = 0 then b else b.negate).toRat = b.negate.toRat := by
      split_ifs with h0b
      · rw [toRat_negate, toRat_of_mantissa_eq_zero h0b, neg_zero]
      · rfl
    have hscale : (if b.mantissa = 0 then b else b.negate).scale = b.negate.scale := by
      split_ifs <;> rfl
    rw [if_pos h0a, hadd]
    refine ⟨by simp, fun r hr => ⟨b.negate, rfl, ?_⟩⟩
    cases hr
    exact ⟨hval, hscale⟩
  · by_cases h0b : b.mantissa = 0
    · have hadd : a.add? b.negate = some a := add?_of_right_zero h0a h0b
      rw [if_neg h0a, if_pos h0b, hadd]
      refine ⟨by simp, fun r hr => ⟨a, rfl, ?_⟩⟩
      cases hr
      exact ⟨rfl, rfl⟩
    · rw [if_neg h0a, if_neg h0b]
      exact ⟨Iff.rfl, fun r hr => ⟨r, hr, rfl, rfl⟩⟩

/-- **A difference that fits is exact**, at a scale up to that of its operands. -/
theorem sub?_exact {a b : Decimal} {s : Nat} (ha : a.scale ≤ s) (hb : b.scale ≤ s)
    (h : |a.toRat - b.toRat| * 10 ^ s < 2 ^ 96) :
    ∃ r, a.sub? b = some r ∧ r.toRat = a.toRat - b.toRat ∧ r.scale ≤ s := by
  rw [sub_eq_add_neg, ← toRat_negate] at h ⊢
  obtain ⟨r', hadd, hval, hscale⟩ := add?_exact ha (show b.negate.scale ≤ s from hb) h
  obtain ⟨hnone, hsome⟩ := sub?_eq_add?_negate a b
  cases hsub : a.sub? b with
  | none => simp [hnone.mp hsub] at hadd
  | some r =>
    obtain ⟨r'', hadd', hval', hscale'⟩ := hsome r hsub
    rw [hadd, Option.some_inj] at hadd'
    subst hadd'
    exact ⟨r, rfl, hval'.trans hval, hscale' ▸ hscale⟩

/-- **At scale 0, a difference whose magnitude reaches 2^96 does not fit.** -/
theorem sub?_eq_none_of_scale_zero {a b : Decimal} (ha : a.scale = 0) (hb : b.scale = 0)
    (h : 2 ^ 96 ≤ |a.toRat - b.toRat|) : a.sub? b = none := by
  rw [sub_eq_add_neg, ← toRat_negate] at h
  exact (sub?_eq_add?_negate a b).1.mpr (add?_eq_none_of_scale_zero ha hb h)

end Decimal
end ColumnExpr
