import SchemaTypings.Number.Spelling
import SchemaTypings.Proofs.Number.Intervals

/-!
# Rounded numbers are doubles of the format

A ratio is scaled so that it lies between two powers of two, by what the lengths of its parts say
(`Binary64.exponentOf_bounds`), and rounded to a significand between them. So what operations round to is
canonical (`Binary64.canonical_of_ofRatio?`), and so is what a spelled number denotes
(`NumberSpelling.canonical_of_value?`).
-/

namespace SchemaTypings

namespace Binary64

variable {x y : Binary64} {num den : ℕ}

/-! ## Powers and ratios -/

theorem two_zpow_pos (k : ℤ) : (0 : ℚ) < 2 ^ k :=
  zpow_pos (by norm_num) k

/-- A power with an integer exponent is a ratio of powers with natural exponents, one of them zero. -/
theorem pow_toNat_eq {b : ℚ} (hb : b ≠ 0) (k : ℤ) : b ^ k.toNat = b ^ k * b ^ (-k).toNat := by
  rw [← zpow_natCast, ← zpow_natCast, ← zpow_add₀ hb]
  congr 1
  omega

/-- The lengths of the two parts of a ratio in bits say between which powers of two it lies. -/
theorem two_zpow_le_div (hnum : 0 < num) (hden : 0 < den) :
    (2 : ℚ) ^ ((Nat.log2 num : ℤ) - Nat.log2 den - 1) ≤ num / den ∧
      (num / den : ℚ) < 2 ^ ((Nat.log2 num : ℤ) - Nat.log2 den + 1) := by
  have hnumLow : (2 : ℚ) ^ Nat.log2 num ≤ num := by exact_mod_cast Nat.log2_self_le hnum.ne'
  have hdenLow : (2 : ℚ) ^ Nat.log2 den ≤ den := by exact_mod_cast Nat.log2_self_le hden.ne'
  have hnumHigh : (num : ℚ) < 2 ^ (Nat.log2 num + 1) := by exact_mod_cast Nat.lt_log2_self
  have hdenHigh : (den : ℚ) < 2 ^ (Nat.log2 den + 1) := by exact_mod_cast Nat.lt_log2_self
  have hdenPos : (0 : ℚ) < den := by exact_mod_cast hden
  constructor
  · rw [le_div_iff₀ hdenPos]
    calc (2 : ℚ) ^ ((Nat.log2 num : ℤ) - Nat.log2 den - 1) * den
        ≤ 2 ^ ((Nat.log2 num : ℤ) - Nat.log2 den - 1) * 2 ^ (Nat.log2 den + 1) :=
          mul_le_mul_of_nonneg_left hdenHigh.le (two_zpow_pos _).le
      _ = 2 ^ Nat.log2 num := by
          rw [← zpow_natCast, ← zpow_natCast, ← zpow_add₀ (by norm_num)]
          congr 1
          push_cast
          ring
      _ ≤ num := hnumLow
  · rw [div_lt_iff₀ hdenPos]
    calc (num : ℚ) < 2 ^ (Nat.log2 num + 1) := hnumHigh
      _ = 2 ^ ((Nat.log2 num : ℤ) - Nat.log2 den + 1) * 2 ^ Nat.log2 den := by
          rw [← zpow_natCast, ← zpow_natCast, ← zpow_add₀ (by norm_num)]
          congr 1
          push_cast
          ring
      _ ≤ 2 ^ ((Nat.log2 num : ℤ) - Nat.log2 den + 1) * den :=
          mul_le_mul_of_nonneg_left hdenLow (two_zpow_pos _).le

theorem scaleRatio_eq (num : ℕ) (hden : 0 < den) (exponent : ℤ) : 0 < (scaleRatio num den exponent).2 ∧
    ((scaleRatio num den exponent).1 : ℚ) / (scaleRatio num den exponent).2 = num / den / 2 ^ exponent := by
  have hpow := pow_toNat_eq (b := 2) (by norm_num) exponent
  unfold scaleRatio
  split
  · rename_i hexponent
    rw [show (-exponent).toNat = 0 by omega, pow_zero, mul_one] at hpow
    simp only [Nat.shiftLeft_eq]
    refine ⟨by positivity, ?_⟩
    push_cast
    rw [hpow, div_div]
  · rename_i hexponent
    rw [show exponent.toNat = 0 by omega, pow_zero] at hpow
    simp only [Nat.shiftLeft_eq]
    refine ⟨hden, ?_⟩
    push_cast
    rw [eq_div_iff (two_zpow_pos _).ne', div_mul_eq_mul_div, mul_assoc,
      mul_comm (2 ^ (-exponent).toNat : ℚ), ← hpow, mul_one]

/-- A scaled ratio is below a power of two if the ratio is below the scaled one. -/
theorem scaleRatio_lt_iff (num : ℕ) (hden : 0 < den) (exponent : ℤ) (k : ℕ) :
    (scaleRatio num den exponent).1 < (scaleRatio num den exponent).2 * 2 ^ k ↔
      (num / den : ℚ) < 2 ^ (exponent + k) := by
  obtain ⟨hpos, heq⟩ := scaleRatio_eq num hden exponent
  have hpos : (0 : ℚ) < (scaleRatio num den exponent).2 := by exact_mod_cast hpos
  rw [← Nat.cast_lt (α := ℚ), zpow_add₀ (by norm_num), zpow_natCast,
    ← div_lt_iff₀' (two_zpow_pos exponent), ← heq, div_lt_iff₀' hpos]
  push_cast
  rfl

/-- Scaled by its exponent, a ratio lies below `2 ^ 53`, and is at least `2 ^ 52` unless the exponent is the
least. -/
theorem exponentOf_bounds (hnum : 0 < num) (hden : 0 < den) :
    (scaleRatio num den (exponentOf num den)).1 < (scaleRatio num den (exponentOf num den)).2 * 2 ^ 53 ∧
      (exponentOf num den = -1074 ∨
        (scaleRatio num den (exponentOf num den)).2 * 2 ^ 52 ≤ (scaleRatio num den (exponentOf num den)).1) := by
  obtain ⟨hlow, hhigh⟩ := two_zpow_le_div hnum hden
  have hfree : ∃ free : ℤ, exponentOf num den = max (-1074) free ∧
      (2 : ℚ) ^ (free + 52) ≤ num / den ∧ (num / den : ℚ) < 2 ^ (free + 53) := by
    have hguess := scaleRatio_lt_iff num hden ((Nat.log2 num : ℤ) - Nat.log2 den - 52) 52
    rw [← Nat.shiftLeft_eq, Nat.cast_ofNat, sub_add_cancel] at hguess
    refine ⟨_, rfl, ?_⟩
    split
    · rename_i hbelow
      refine ⟨?_, ?_⟩
      · rwa [show (Nat.log2 num : ℤ) - Nat.log2 den - 52 - 1 + 52 =
          (Nat.log2 num : ℤ) - Nat.log2 den - 1 by ring]
      · rw [show (Nat.log2 num : ℤ) - Nat.log2 den - 52 - 1 + 53 = (Nat.log2 num : ℤ) - Nat.log2 den by ring]
        exact hguess.mp hbelow
    · rename_i habove
      refine ⟨?_, ?_⟩
      · rw [sub_add_cancel]
        exact not_lt.mp (mt hguess.mpr habove)
      · rwa [show (Nat.log2 num : ℤ) - Nat.log2 den - 52 + 53 = (Nat.log2 num : ℤ) - Nat.log2 den + 1 by ring]
  obtain ⟨free, hexponent, hle, hlt⟩ := hfree
  rw [hexponent]
  constructor
  · rw [scaleRatio_lt_iff num hden]
    exact hlt.trans_le (zpow_le_zpow_right₀ (by norm_num) (by push_cast; omega))
  · rcases le_total free (-1074) with hleast | hleast
    · exact Or.inl (max_eq_left hleast)
    · right
      rw [max_eq_right hleast, ← not_lt, scaleRatio_lt_iff num hden, not_lt]
      exact hle

theorem roundDiv_le {n d bound : ℕ} (h : n < d * bound) : roundDiv n d ≤ bound := by
  have hquotient : n / d < bound := Nat.div_lt_of_lt_mul h
  unfold roundDiv
  simp only
  split <;> omega

theorem le_roundDiv {n d bound : ℕ} (hd : 0 < d) (h : d * bound ≤ n) : bound ≤ roundDiv n d := by
  have hquotient : bound ≤ n / d := (Nat.le_div_iff_mul_le hd).mpr (by rwa [mul_comm])
  unfold roundDiv
  simp only
  split <;> omega

/-! ## Operations -/

theorem canonical_zero (negative : Bool) : (zero negative).Canonical :=
  ⟨by simp [zero], by simp [zero], by simp [zero], by simp [zero]⟩

/-- What a ratio is rounded to is canonical. -/
theorem canonical_of_ofRatio? {negative : Bool} (h : ofRatio? negative num den = some x) : x.Canonical := by
  unfold ofRatio? at h
  split at h
  · cases h
    exact canonical_zero negative
  · rename_i hzero
    simp only [Bool.or_eq_true, beq_iff_eq, not_or] at hzero
    have hnum : 0 < num := Nat.pos_of_ne_zero hzero.1
    have hden : 0 < den := Nat.pos_of_ne_zero hzero.2
    obtain ⟨hbelow, hnormal⟩ := exponentOf_bounds hnum hden
    obtain ⟨hpos, -⟩ := scaleRatio_eq num hden (exponentOf num den)
    have hrounded := roundDiv_le hbelow
    have hnormal := hnormal.imp_right (le_roundDiv hpos)
    have hleast : -1074 ≤ exponentOf num den := le_max_left _ _
    simp only [Nat.shiftLeft_eq, one_mul] at h
    -- from here on, all that counts is what is known of the exponent and of the rounded significand
    generalize exponentOf num den = exponent at h hrounded hnormal hleast
    generalize roundDiv (scaleRatio num den exponent).1 (scaleRatio num den exponent).2 = rounded
      at h hrounded hnormal
    by_cases hfull : rounded = 2 ^ 53
    · simp only [hfull, beq_self_eq_true, if_true] at h
      split at h
      · cases h
      · cases h
        exact ⟨by simp only; omega, by simp only; omega, by norm_num, Or.inr le_rfl⟩
    · simp only [beq_iff_eq, hfull, if_false] at h
      split at h
      · cases h
      · cases h
        exact ⟨hleast, by simp only; omega, lt_of_le_of_ne hrounded hfull, hnormal⟩

theorem canonical_of_mul? {product : Binary64} (h : x.mul? y = some product) : product.Canonical := by
  rw [mul?] at h
  generalize x.ratio = first at h
  generalize y.ratio = second at h
  exact canonical_of_ofRatio? h

theorem canonical_of_div? {quotient : Binary64} (h : x.div? y = some quotient) : quotient.Canonical := by
  rw [div?] at h
  generalize x.ratio = first at h
  generalize y.ratio = second at h
  exact canonical_of_ofRatio? h

theorem canonical_neg (h : x.Canonical) : x.neg.Canonical :=
  ⟨h.least, h.greatest, h.below, h.normal⟩

theorem canonical_ofNat (n : ℕ) : (ofNat n).Canonical := by
  unfold ofNat
  cases hrounded : ofRatio? false n 1 with
  | none => exact canonical_zero false
  | some rounded => exact canonical_of_ofRatio? hrounded

theorem canonical_ofInt (n : ℤ) : (ofInt n).Canonical := by
  unfold ofInt
  simp only
  split
  · exact canonical_neg (canonical_ofNat _)
  · exact canonical_ofNat _

end Binary64

/-! ## Spelled numbers -/

namespace NumberSpelling

open Binary64

theorem canonical_of_scale {steps : ℕ} {x scaled : Binary64} {exponent : ℤ} (hx : x.Canonical)
    (h : scale x steps exponent = some scaled) : scaled.Canonical := by
  induction steps generalizing x exponent with
  | zero =>
    unfold scale at h
    simp only at h
    split at h
    · split at h
      · exact canonical_of_mul? h
      · exact canonical_of_div? h
    · split at h
      · cases h
        exact hx
      · split at h
        · cases h
        · cases h
          exact canonical_zero _
  | succ steps ih =>
    unfold scale at h
    simp only at h
    split at h
    · split at h
      · exact canonical_of_mul? h
      · exact canonical_of_div? h
    · split at h
      · cases h
        exact hx
      · split at h
        · cases h
        · obtain ⟨smaller, hsmaller, h⟩ := Option.bind_eq_some_iff.mp h
          exact ih (canonical_of_div? hsmaller) h

/-- The double that a spelled number denotes is canonical. -/
theorem canonical_of_value? {spelling : NumberSpelling} {x : Binary64}
    (h : spelling.value? = some (.double x)) : x.Canonical := by
  unfold value? at h
  simp only at h
  split at h
  · unfold signedWord at h
    split at h
    · cases h
    · split at h
      · cases h
        exact canonical_neg (canonical_ofNat _)
      · cases h
  · obtain ⟨scaled, hscaled, h⟩ := Option.map_eq_some_iff.mp h
    have hcanonical := canonical_of_scale (canonical_ofNat _) hscaled
    cases h
    split
    · exact canonical_neg hcanonical
    · exact hcanonical

end NumberSpelling

end SchemaTypings
