import Mathlib.Algebra.Order.Field.Power
import Mathlib.Algebra.Order.Field.Rat
import Mathlib.Tactic.Linarith
import Mathlib.Tactic.NormNum
import Mathlib.Tactic.Ring
import SchemaTypings.Number.Binary64

/-!
# Numbers that read back as a double

The numbers nearest to a double, ties included if its significand is even, are those that are read as the double
(`Binary64.Reads`). Between a double and the next one the two intervals meet in one number, and one of the two
significands is odd, so that no number is read as two doubles (`Binary64.Reads.unique`). Signs are left out.
-/

namespace SchemaTypings.Binary64

/-- The exponent and the significand are the ones of the format. -/
structure Canonical (x : Binary64) : Prop where
  least : -1074 ≤ x.exponent
  greatest : x.exponent ≤ 971
  below : x.significand < 2 ^ 53
  normal : x.exponent = -1074 ∨ 2 ^ 52 ≤ x.significand

/-- A quarter of a unit of the significand. -/
def quarterUnit (x : Binary64) : ℚ :=
  2 ^ (x.exponent - 2)

theorem quarterUnit_pos (x : Binary64) : 0 < x.quarterUnit :=
  zpow_pos (by norm_num) _

/-- How far down the numbers that round to the double reach, in quarters: below a power of two, the doubles are
twice as dense. -/
def reachDown (x : Binary64) : ℕ :=
  if x.significand = 2 ^ 52 ∧ -1074 < x.exponent then 1 else 2

theorem one_le_reachDown (x : Binary64) : 1 ≤ x.reachDown := by
  unfold reachDown
  split <;> decide

/-- The least number that may be read as the double. -/
def lowerEnd (x : Binary64) : ℚ :=
  (4 * x.significand - x.reachDown) * x.quarterUnit

/-- The greatest number that may be read as the double. -/
def upperEnd (x : Binary64) : ℚ :=
  (4 * x.significand + 2) * x.quarterUnit

/-- The number is read as the magnitude of the double. -/
structure Reads (v : ℚ) (x : Binary64) : Prop where
  lower : x.lowerEnd ≤ v
  upper : v ≤ x.upperEnd
  ends : v = x.lowerEnd ∨ v = x.upperEnd → x.significand % 2 = 0

variable {x y : Binary64} {v : ℚ}

theorem two_mul_quarterUnit_le (h : x.exponent < y.exponent) : 2 * x.quarterUnit ≤ y.quarterUnit := by
  have hstep : 2 * x.quarterUnit = (2 : ℚ) ^ (x.exponent - 2 + 1) := by
    rw [zpow_add_one₀ (by norm_num), quarterUnit, mul_comm]
  rw [hstep, quarterUnit]
  exact zpow_le_zpow_right₀ (by norm_num) (by omega)

/-- Under one exponent, the interval of the next significand begins where that of the first one ends. -/
theorem upperEnd_le_lowerEnd_of_exponent_eq (hx : x.Canonical) (hexponent : x.exponent = y.exponent)
    (h : x.significand < y.significand) :
    x.upperEnd ≤ y.lowerEnd ∧ (x.upperEnd = y.lowerEnd → y.significand = x.significand + 1) := by
  have hreach : y.reachDown = 2 := by
    refine if_neg fun ⟨hpower, hleast⟩ => ?_
    have := hx.normal
    omega
  have hunit : x.quarterUnit = y.quarterUnit := by rw [quarterUnit, hexponent, quarterUnit]
  have hpos := y.quarterUnit_pos
  have hle : (x.significand : ℚ) + 1 ≤ y.significand := by exact_mod_cast h
  rw [upperEnd, lowerEnd, hreach, hunit]
  refine ⟨mul_le_mul_of_nonneg_right (by push_cast; linarith) hpos.le, fun heq => ?_⟩
  have hsame := mul_right_cancel₀ hpos.ne' heq
  have hnext : (y.significand : ℚ) = x.significand + 1 := by
    push_cast at hsame
    linarith
  exact_mod_cast hnext

/-- Under a greater exponent, the first interval begins where that of the greatest significand before ends. -/
theorem upperEnd_le_lowerEnd_of_exponent_lt (hx : x.Canonical) (hy : y.Canonical)
    (h : x.exponent < y.exponent) :
    x.upperEnd ≤ y.lowerEnd ∧ (x.upperEnd = y.lowerEnd → x.significand = 2 ^ 53 - 1) := by
  have hleast : -1074 < y.exponent := lt_of_le_of_lt hx.least h
  have hnormal : 2 ^ 52 ≤ y.significand := hy.normal.resolve_left hleast.ne'
  have hdouble := two_mul_quarterUnit_le h
  have hpos := x.quarterUnit_pos
  have hlower : (2 ^ 54 - 1 : ℚ) * y.quarterUnit ≤ y.lowerEnd := by
    refine mul_le_mul_of_nonneg_right ?_ y.quarterUnit_pos.le
    have hsignificand : (2 ^ 52 : ℚ) ≤ y.significand := by exact_mod_cast hnormal
    unfold reachDown
    split
    · push_cast
      linarith
    · rename_i hother
      have hgreater : 2 ^ 52 + 1 ≤ y.significand := by omega
      have hgreater : (2 ^ 52 + 1 : ℚ) ≤ y.significand := by exact_mod_cast hgreater
      push_cast
      linarith
  have hbelow : (x.significand : ℚ) ≤ 2 ^ 53 - 1 := by
    have := hx.below
    have hle : x.significand + 1 ≤ 2 ^ 53 := by omega
    have hle : (x.significand + 1 : ℚ) ≤ 2 ^ 53 := by exact_mod_cast hle
    linarith
  have hmiddle : (2 ^ 55 - 2 : ℚ) * x.quarterUnit ≤ y.lowerEnd := by
    refine le_trans ?_ hlower
    calc (2 ^ 55 - 2 : ℚ) * x.quarterUnit = (2 ^ 54 - 1) * (2 * x.quarterUnit) := by ring
      _ ≤ (2 ^ 54 - 1) * y.quarterUnit := mul_le_mul_of_nonneg_left hdouble (by norm_num)
  have hupper : x.upperEnd ≤ (2 ^ 55 - 2 : ℚ) * x.quarterUnit :=
    mul_le_mul_of_nonneg_right (by linarith) hpos.le
  refine ⟨hupper.trans hmiddle, fun heq => ?_⟩
  have hsame : x.upperEnd = (2 ^ 55 - 2 : ℚ) * x.quarterUnit := le_antisymm hupper (heq ▸ hmiddle)
  have hlast : (x.significand : ℚ) = 2 ^ 53 - 1 := by
    have := mul_right_cancel₀ hpos.ne' hsame
    linarith
  have hlast : (x.significand : ℚ) + 1 = 2 ^ 53 := by linarith
  have hlast : x.significand + 1 = 2 ^ 53 := by exact_mod_cast hlast
  omega

/-- No number is read as a double and as a greater one. -/
theorem Reads.not_lt (hx : x.Canonical) (hy : y.Canonical) (hvx : Reads v x) (hvy : Reads v y) :
    ¬(x.exponent < y.exponent ∨ x.exponent = y.exponent ∧ x.significand < y.significand) := by
  intro h
  have hmeet : x.upperEnd ≤ y.lowerEnd → v = x.upperEnd ∧ v = y.lowerEnd := fun hle =>
    ⟨le_antisymm hvx.upper (hle.trans hvy.lower), le_antisymm (hvx.upper.trans hle) hvy.lower⟩
  rcases h with hlt | ⟨heq, hlt⟩
  · obtain ⟨hle, hlast⟩ := upperEnd_le_lowerEnd_of_exponent_lt hx hy hlt
    obtain ⟨hupper, hlower⟩ := hmeet hle
    have hodd := hlast (hupper.symm.trans hlower)
    have heven := hvx.ends (Or.inr hupper)
    omega
  · obtain ⟨hle, hnext⟩ := upperEnd_le_lowerEnd_of_exponent_eq hx heq hlt
    obtain ⟨hupper, hlower⟩ := hmeet hle
    have hodd := hnext (hupper.symm.trans hlower)
    have hevenX := hvx.ends (Or.inr hupper)
    have hevenY := hvy.ends (Or.inl hlower)
    omega

/-- A number is read as one double only, but for the sign. -/
theorem Reads.unique (hx : x.Canonical) (hy : y.Canonical) (hvx : Reads v x) (hvy : Reads v y) :
    x.significand = y.significand ∧ x.exponent = y.exponent := by
  have hxy := Reads.not_lt hx hy hvx hvy
  have hyx := Reads.not_lt hy hx hvy hvx
  omega

end SchemaTypings.Binary64
