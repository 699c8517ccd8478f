import Mathlib.Tactic.FieldSimp
import Mathlib.Tactic.Positivity
import SchemaTypings.Number.Decimal
import SchemaTypings.Proofs.Number.Rounding

/-!
# Shortest decimals read back

The decimal that is found for a double is read as the double (`Binary64.reads_shortest`). A neighbour on a grid
is taken only if it lies in the interval of the double, and on the grid of seventeen digits there is one: the
steps of that grid are shorter than the interval, since the decimal begins at the first digit of the double.
So two doubles with one decimal are the same, but for their signs (`Binary64.eq_of_shortest_eq`).
-/

namespace SchemaTypings

/-- The number that a decimal denotes. -/
def Decimal.value (decimal : Decimal) : ℚ :=
  decimal.digits * 10 ^ decimal.exponent

namespace Binary64

variable {x y : Binary64} {tie : Tie} {grid : ℤ}

/-! ## Neighbours on a grid -/

theorem ten_zpow_pos (k : ℤ) : (0 : ℚ) < 10 ^ k :=
  zpow_pos (by norm_num) k

theorem binaryOverDecimal_mul (b d : ℤ) : ((binaryOverDecimal b d).1 : ℚ) * 10 ^ d =
    (binaryOverDecimal b d).2 * 2 ^ b := by
  simp only [binaryOverDecimal, Nat.shiftLeft_eq, Nat.pow_eq]
  push_cast
  have htwo : (2 : ℚ) ^ b.toNat = 2 ^ b * 2 ^ (-b).toNat := pow_toNat_eq (by norm_num) b
  have hten : (10 : ℚ) ^ d.toNat = 10 ^ d * 10 ^ (-d).toNat := pow_toNat_eq (by norm_num) d
  rw [htwo, hten]
  ring

theorem binaryOverDecimal_pos (b d : ℤ) : 0 < (binaryOverDecimal b d).1 ∧ 0 < (binaryOverDecimal b d).2 := by
  simp only [binaryOverDecimal, Nat.shiftLeft_eq, Nat.pow_eq]
  exact ⟨by positivity, by positivity⟩

/-- The ends of the interval, in parts of which a quarter of a unit has `quarter`. -/
theorem ends_eq {quarter : ℕ} {part : ℚ} (hunit : x.quarterUnit = quarter * part) :
    x.lowerEnd = (4 * x.significand * quarter - x.reachDown * quarter) * part ∧
      x.upperEnd = (4 * x.significand * quarter + 2 * quarter) * part := by
  rw [lowerEnd, upperEnd, hunit]
  exact ⟨by ring, by ring⟩

/-- A number a little below the double is read as the double. -/
theorem reads_below {quarter distance : ℕ} {part : ℚ} (hpart : 0 < part)
    (hunit : x.quarterUnit = quarter * part) (hquarter : 0 < quarter)
    (h : distance < x.reachDown * quarter ∨ x.significand % 2 = 0 ∧ distance = x.reachDown * quarter) :
    Reads ((4 * x.significand * quarter - distance) * part) x := by
  have hquarter : (0 : ℚ) < quarter := by exact_mod_cast hquarter
  obtain ⟨hlower, hupper⟩ := ends_eq hunit
  have hle : (distance : ℚ) ≤ x.reachDown * quarter := by
    rcases h with h | ⟨-, h⟩
    · exact_mod_cast h.le
    · exact_mod_cast h.le
  have hnonneg : (0 : ℚ) ≤ distance := Nat.cast_nonneg distance
  refine ⟨?_, ?_, ?_⟩
  · rw [hlower]
    exact mul_le_mul_of_nonneg_right (by linarith) hpart.le
  · rw [hupper]
    exact mul_le_mul_of_nonneg_right (by linarith) hpart.le
  · rw [hlower, hupper]
    rintro (hend | hend)
    · have hsame := mul_right_cancel₀ hpart.ne' hend
      have hdistance : (distance : ℚ) = x.reachDown * quarter := by linarith
      have hdistance : distance = x.reachDown * quarter := by exact_mod_cast hdistance
      exact (h.resolve_left hdistance.not_lt).1
    · have hsame := mul_right_cancel₀ hpart.ne' hend
      linarith

theorem reads_above {quarter distance : ℕ} {part : ℚ} (hpart : 0 < part)
    (hunit : x.quarterUnit = quarter * part) (hquarter : 0 < quarter)
    (h : distance < 2 * quarter ∨ x.significand % 2 = 0 ∧ distance = 2 * quarter) :
    Reads ((4 * x.significand * quarter + distance) * part) x := by
  have hquarter : (0 : ℚ) < quarter := by exact_mod_cast hquarter
  have hreach : (1 : ℚ) ≤ x.reachDown := by exact_mod_cast x.one_le_reachDown
  obtain ⟨hlower, hupper⟩ := ends_eq hunit
  have hdown : 0 < (x.reachDown : ℚ) * quarter := by positivity
  have hle : (distance : ℚ) ≤ 2 * quarter := by
    rcases h with h | ⟨-, h⟩
    · exact_mod_cast h.le
    · exact_mod_cast h.le
  have hnonneg : (0 : ℚ) ≤ distance := Nat.cast_nonneg distance
  refine ⟨?_, ?_, ?_⟩
  · rw [hlower]
    exact mul_le_mul_of_nonneg_right (by linarith) hpart.le
  · rw [hupper]
    exact mul_le_mul_of_nonneg_right (by linarith) hpart.le
  · rw [hlower, hupper]
    rintro (hend | hend)
    · have hsame := mul_right_cancel₀ hpart.ne' hend
      linarith
    · have hsame := mul_right_cancel₀ hpart.ne' hend
      have hdistance : (distance : ℚ) = 2 * quarter := by linarith
      have hdistance : distance = 2 * quarter := by exact_mod_cast hdistance
      exact (h.resolve_left hdistance.not_lt).1

/-- The steps of the grid and the units of the significand are multiples of one part. -/
theorem exists_part (x : Binary64) (grid : ℤ) : ∃ part : ℚ, 0 < part ∧
    (10 : ℚ) ^ grid = (binaryOverDecimal (x.exponent - 2) grid).2 * part ∧
    x.quarterUnit = (binaryOverDecimal (x.exponent - 2) grid).1 * part := by
  obtain ⟨-, hwhole⟩ := binaryOverDecimal_pos (x.exponent - 2) grid
  have hmul := binaryOverDecimal_mul (x.exponent - 2) grid
  generalize binaryOverDecimal (x.exponent - 2) grid = ratio at hwhole hmul ⊢
  have hwhole : (0 : ℚ) < ratio.2 := by exact_mod_cast hwhole
  have hgrid : (10 : ℚ) ^ grid = ratio.2 * (10 ^ grid / ratio.2) := by field_simp
  refine ⟨10 ^ grid / ratio.2, div_pos (ten_zpow_pos grid) hwhole, hgrid, ?_⟩
  apply mul_left_cancel₀ hwhole.ne'
  rw [quarterUnit, ← hmul]
  field_simp

/-- The reach downwards, as it is found in parts. -/
theorem reachDown_parts (x : Binary64) (quarter : ℕ) :
    (if x.significand == 1 <<< 52 && x.exponent > -1074 then quarter else 2 * quarter) =
      x.reachDown * quarter := by
  simp only [reachDown, Bool.and_eq_true, beq_iff_eq, decide_eq_true_eq, Nat.shiftLeft_eq, one_mul]
  split <;> simp

/-- A neighbour that is taken is read as the double. -/
theorem reads_of_neighbour? {digits : ℕ} (h : neighbour? tie x grid = some digits) :
    Reads (digits * 10 ^ grid) x := by
  obtain ⟨hquarter, hwhole⟩ := binaryOverDecimal_pos (x.exponent - 2) grid
  obtain ⟨part, hpos, hgrid, hunit⟩ := exists_part x grid
  unfold neighbour? at h
  generalize binaryOverDecimal (x.exponent - 2) grid = ratio at h hquarter hwhole hgrid hunit
  obtain ⟨quarter, whole⟩ := ratio
  dsimp only at h hquarter hwhole hgrid hunit
  rw [reachDown_parts] at h
  generalize hscaled : 4 * x.significand * quarter = scaled at h
  have hdivision : whole * (scaled / whole) + scaled % whole = scaled := Nat.div_add_mod scaled whole
  have hpast : scaled % whole < whole := Nat.mod_lt _ hwhole
  generalize scaled / whole = below at h hdivision
  generalize scaled % whole = past at h hdivision hpast
  have hscaled : (4 * x.significand * quarter : ℚ) = whole * below + past := by
    rw [← hdivision] at hscaled
    exact_mod_cast hscaled
  have hbelow : (decide (past < x.reachDown * quarter) ||
      x.significand % 2 == 0 && past == x.reachDown * quarter) = true → Reads (below * 10 ^ grid) x := by
    intro hits
    have hvalue : (below : ℚ) * 10 ^ grid = (4 * x.significand * quarter - past) * part := by
      rw [hgrid, hscaled]
      ring
    rw [hvalue]
    exact reads_below hpos hunit hquarter (by simpa using hits)
  have habove : (decide (whole - past < 2 * quarter) ||
      x.significand % 2 == 0 && whole - past == 2 * quarter) = true →
        Reads ((below + 1 : ℕ) * 10 ^ grid) x := by
    intro hits
    have hvalue : ((below + 1 : ℕ) : ℚ) * 10 ^ grid =
        (4 * x.significand * quarter + (whole - past : ℕ)) * part := by
      rw [hgrid, hscaled, Nat.cast_sub hpast.le]
      push_cast
      ring
    rw [hvalue]
    exact reads_above hpos hunit hquarter (by simpa using hits)
  split at h
  · cases h
  · cases h
    exact hbelow ‹_›
  · cases h
    exact habove ‹_›
  · rename_i hlowerHits hupperHits
    split at h
    · cases h
      exact hbelow hlowerHits
    · split at h
      · cases h
        exact habove hupperHits
      · cases tie with
        | even =>
          cases h
          rcases Nat.mod_two_eq_zero_or_one below with hparity | hparity
          · rw [hparity]
            exact hbelow hlowerHits
          · rw [hparity]
            exact habove hupperHits
        | up =>
          cases h
          exact habove hupperHits

/-- On a grid whose steps are shorter than the interval there is a neighbour. -/
theorem neighbour?_isSome (h : (10 : ℚ) ^ grid < (x.reachDown + 2) * x.quarterUnit) :
    (neighbour? tie x grid).isSome = true := by
  obtain ⟨hquarter, hwhole⟩ := binaryOverDecimal_pos (x.exponent - 2) grid
  obtain ⟨part, hpos, hgrid, hunit⟩ := exists_part x grid
  unfold neighbour?
  generalize binaryOverDecimal (x.exponent - 2) grid = ratio at hquarter hwhole hgrid hunit ⊢
  obtain ⟨quarter, whole⟩ := ratio
  dsimp only at hquarter hwhole hgrid hunit ⊢
  rw [reachDown_parts]
  have hshort : whole < (x.reachDown + 2) * quarter := by
    rw [hgrid, hunit, ← mul_assoc] at h
    exact_mod_cast lt_of_mul_lt_mul_right h hpos.le
  generalize hpast : 4 * x.significand * quarter % whole = past
  have hhits : past < x.reachDown * quarter ∨ whole - past < 2 * quarter := by
    rw [add_mul] at hshort
    omega
  split
  · rename_i hlower hupper
    simp only [Bool.or_eq_false_iff, decide_eq_false_iff_not] at hlower hupper
    exact absurd hhits (not_or.mpr ⟨hlower.1, hupper.1⟩)
  · rfl
  · rfl
  · split
    · rfl
    · split
      · rfl
      · cases tie <;> rfl

/-! ## The leading digit -/

theorem ten_pow_le_two_pow {a b : ℕ} (h : 196 * a ≤ 59 * b) : 10 ^ a ≤ 2 ^ b := by
  have hpower : (10 ^ a) ^ 196 ≤ (2 ^ b) ^ 196 := by
    calc (10 ^ a) ^ 196 = 10 ^ (196 * a) := by rw [← pow_mul, mul_comm]
      _ ≤ 10 ^ (59 * b) := Nat.pow_le_pow_right (by norm_num) h
      _ = (10 ^ 59) ^ b := pow_mul 10 59 b
      _ ≤ (2 ^ 196) ^ b := Nat.pow_le_pow_left (by norm_num) b
      _ = (2 ^ b) ^ 196 := by rw [← pow_mul, ← pow_mul, mul_comm]
  exact (Nat.pow_le_pow_iff_left (by norm_num)).mp hpower

theorem two_pow_le_ten_pow {a b : ℕ} (h : 28 * b ≤ 93 * a) : 2 ^ b ≤ 10 ^ a := by
  have hpower : (2 ^ b) ^ 93 ≤ (10 ^ a) ^ 93 := by
    calc (2 ^ b) ^ 93 = (2 ^ 93) ^ b := by rw [← pow_mul, ← pow_mul, mul_comm]
      _ ≤ (10 ^ 28) ^ b := Nat.pow_le_pow_left (by norm_num) b
      _ = 10 ^ (28 * b) := (pow_mul 10 28 b).symm
      _ ≤ 10 ^ (93 * a) := Nat.pow_le_pow_right (by norm_num) h
      _ = (10 ^ a) ^ 93 := by rw [← pow_mul, mul_comm]
  exact (Nat.pow_le_pow_iff_left (by norm_num)).mp hpower

/-- The power of ten at which the search for the leading digit starts is not above the power of two from which it
is guessed, for all powers of two that occur. -/
theorem ten_zpow_guess_le {n : ℤ} (hlow : -1100 ≤ n) (hhigh : n ≤ 1100) :
    (10 : ℚ) ^ (n * 30103 / 100000 - 1) ≤ 2 ^ n := by
  generalize hk : n * 30103 / 100000 - 1 = k
  rcases le_or_gt 0 n with hn | hn
  · obtain ⟨b, rfl⟩ := Int.eq_ofNat_of_zero_le hn
    rcases le_or_gt 0 k with hk0 | hk0
    · obtain ⟨a, rfl⟩ := Int.eq_ofNat_of_zero_le hk0
      rw [zpow_natCast, zpow_natCast]
      exact_mod_cast ten_pow_le_two_pow (a := a) (b := b) (by omega)
    · calc (10 : ℚ) ^ k ≤ 1 := zpow_le_one_of_nonpos₀ (by norm_num) hk0.le
        _ ≤ 2 ^ (b : ℤ) := one_le_zpow₀ (by norm_num) hn
  · obtain ⟨b, hb⟩ := Int.eq_ofNat_of_zero_le (show 0 ≤ -n by omega)
    obtain ⟨a, ha⟩ := Int.eq_ofNat_of_zero_le (show 0 ≤ -k by omega)
    rw [show n = -(b : ℤ) by omega, show k = -(a : ℤ) by omega, zpow_neg, zpow_neg, zpow_natCast,
      zpow_natCast]
    refine inv_anti₀ (by positivity) ?_
    exact_mod_cast two_pow_le_ten_pow (a := a) (b := b) (by omega)

theorem ten_zpow_le_of_reachesPower {num den : ℕ} (hden : 0 < den) {k : ℤ}
    (h : reachesPower num den k = true) : (10 : ℚ) ^ k ≤ num / den := by
  simp only [reachesPower, Nat.pow_eq, decide_eq_true_eq] at h
  have h : (den * 10 ^ k.toNat : ℚ) ≤ num * 10 ^ (-k).toNat := by exact_mod_cast h
  have hten : (10 : ℚ) ^ k.toNat = 10 ^ k * 10 ^ (-k).toNat := pow_toNat_eq (by norm_num) k
  rw [hten, ← mul_assoc] at h
  have hle := le_of_mul_le_mul_right h (by positivity)
  rw [le_div_iff₀ (by exact_mod_cast hden), mul_comm]
  exact hle

theorem ten_zpow_climb_le {num den : ℕ} (hden : 0 < den) (steps : ℕ) {k : ℤ}
    (h : (10 : ℚ) ^ k ≤ num / den) : (10 : ℚ) ^ climb num den steps k ≤ num / den := by
  induction steps generalizing k with
  | zero => exact h
  | succ steps ih =>
    rw [climb]
    split
    · rename_i hreaches
      exact ih (ten_zpow_le_of_reachesPower hden hreaches)
    · exact h

/-- The power of ten of the leading digit is not above the ratio. -/
theorem ten_zpow_leadingPower_le {num den : ℕ} (hnum : 0 < num) (hden : 0 < den)
    (hlow : (2 : ℚ) ^ (-1074 : ℤ) ≤ num / den) (hhigh : (num / den : ℚ) < 2 ^ (1024 : ℤ)) :
    (10 : ℚ) ^ leadingPower num den ≤ num / den := by
  obtain ⟨hle, hlt⟩ := two_zpow_le_div hnum hden
  have hnotHigh : (Nat.log2 num : ℤ) - Nat.log2 den - 1 < 1024 :=
    (zpow_lt_zpow_iff_right₀ (by norm_num)).mp (hle.trans_lt hhigh)
  have hnotLow : -1074 < (Nat.log2 num : ℤ) - Nat.log2 den + 1 :=
    (zpow_lt_zpow_iff_right₀ (by norm_num)).mp (hlow.trans_lt hlt)
  exact ten_zpow_climb_le hden 4 ((ten_zpow_guess_le (by omega) (by omega)).trans hle)

/-! ## The search -/

/-- What is found on a grid is read as the double, also where it is a power of ten. -/
theorem reads_found {leading : ℤ} {count digits : ℕ}
    (h : neighbour? tie x (leading - count + 1) = some digits) :
    Reads (if digits == Nat.pow 10 count then (⟨1, leading + 1⟩ : Decimal)
      else ⟨digits, leading - count + 1⟩).value x := by
  have hreads := reads_of_neighbour? h
  split
  · rename_i hpower
    have hpower : digits = 10 ^ count := beq_iff_eq.mp hpower
    have hvalue : (⟨1, leading + 1⟩ : Decimal).value = digits * 10 ^ (leading - count + 1) := by
      rw [Decimal.value, hpower, Nat.cast_one, one_mul]
      push_cast
      rw [← zpow_natCast, ← zpow_add₀ (by norm_num)]
      congr 1
      ring
    rw [hvalue]
    exact hreads
  · exact hreads

/-- The search finds a decimal that reads back if the last grid that it looks at has a neighbour. -/
theorem reads_searchGrids {leading : ℤ} {steps count : ℕ}
    (h : (neighbour? tie x (leading - (count + steps : ℕ) + 1)).isSome = true) :
    Reads (searchGrids tie x leading (steps + 1) count).value x := by
  induction steps generalizing count with
  | zero =>
    obtain ⟨digits, hdigits⟩ := Option.isSome_iff_exists.mp h
    rw [Nat.add_zero] at hdigits
    simp only [searchGrids, hdigits]
    exact reads_found hdigits
  | succ steps ih =>
    rw [searchGrids]
    cases hfound : neighbour? tie x (leading - count + 1) with
    | some digits => exact reads_found hfound
    | none =>
      refine ih ?_
      rwa [show count + 1 + steps = count + (steps + 1) by omega]

theorem ratio_eq (x : Binary64) : 0 < x.ratio.2 ∧
    (x.ratio.1 / x.ratio.2 : ℚ) = x.significand * 2 ^ x.exponent := by
  obtain ⟨hpos, heq⟩ := scaleRatio_eq x.significand Nat.one_pos (-x.exponent)
  refine ⟨hpos, ?_⟩
  rw [ratio, heq, Nat.cast_one, div_one, zpow_neg, div_inv_eq_mul]

theorem zpow_exponent_eq (x : Binary64) : (2 : ℚ) ^ x.exponent = 4 * x.quarterUnit := by
  rw [quarterUnit, show x.exponent = 2 + (x.exponent - 2) by ring, zpow_add₀ (by norm_num)]
  norm_num

/-- A double that is not zero lies between the least one and the power of two above the greatest one. -/
theorem ratio_bounds (h : x.Canonical) (hpositive : 0 < x.significand) :
    (2 : ℚ) ^ (-1074 : ℤ) ≤ x.ratio.1 / x.ratio.2 ∧ (x.ratio.1 / x.ratio.2 : ℚ) < 2 ^ (1024 : ℤ) := by
  obtain ⟨-, hratio⟩ := x.ratio_eq
  rw [hratio]
  have hone : (1 : ℚ) ≤ x.significand := by exact_mod_cast hpositive
  have hbelow : (x.significand : ℚ) < 2 ^ (53 : ℤ) := by exact_mod_cast h.below
  constructor
  · calc (2 : ℚ) ^ (-1074 : ℤ) ≤ 2 ^ x.exponent := zpow_le_zpow_right₀ (by norm_num) h.least
      _ ≤ x.significand * 2 ^ x.exponent := le_mul_of_one_le_left (two_zpow_pos _).le hone
  · calc x.significand * (2 : ℚ) ^ x.exponent < 2 ^ (53 : ℤ) * 2 ^ x.exponent :=
          mul_lt_mul_of_pos_right hbelow (two_zpow_pos _)
      _ = 2 ^ (53 + x.exponent) := (zpow_add₀ (by norm_num) _ _).symm
      _ ≤ 2 ^ (1024 : ℤ) := zpow_le_zpow_right₀ (by norm_num) (by have := h.greatest; omega)

/-- The steps of the grid of seventeen digits are shorter than the interval. -/
theorem last_grid_lt (h : x.Canonical) {leading : ℤ}
    (hleading : (10 : ℚ) ^ leading ≤ x.significand * 2 ^ x.exponent) :
    (10 : ℚ) ^ (leading - (1 + 16 : ℕ) + 1) < (x.reachDown + 2) * x.quarterUnit := by
  have hsteps : (10 : ℚ) ^ (leading - (1 + 16 : ℕ) + 1) = 10 ^ leading / 10 ^ 16 := by
    rw [show leading - (1 + 16 : ℕ) + 1 = leading - 16 by push_cast; ring, zpow_sub₀ (by norm_num)]
    norm_num
  have hsignificand : 4 * (x.significand : ℚ) / 10 ^ 16 < x.reachDown + 2 := by
    unfold reachDown
    split
    · rename_i hpower
      rw [hpower.1]
      norm_num
    · have hbelow : (x.significand : ℚ) < 2 ^ 53 := by exact_mod_cast h.below
      have hpowers : 4 * (2 : ℚ) ^ 53 < (2 + 2) * 10 ^ 16 := by norm_num
      rw [div_lt_iff₀ (by norm_num)]
      push_cast
      linarith
  rw [hsteps]
  calc (10 : ℚ) ^ leading / 10 ^ 16 ≤ x.significand * 2 ^ x.exponent / 10 ^ 16 :=
        div_le_div_of_nonneg_right hleading (by norm_num)
    _ = 4 * x.significand / 10 ^ 16 * x.quarterUnit := by
        rw [zpow_exponent_eq]
        ring
    _ < (x.reachDown + 2) * x.quarterUnit := mul_lt_mul_of_pos_right hsignificand x.quarterUnit_pos

theorem reads_zero (h : x.significand = 0) : Reads 0 x := by
  have hpos := x.quarterUnit_pos
  have hreach : (1 : ℚ) ≤ x.reachDown := by exact_mod_cast x.one_le_reachDown
  have hlower : x.lowerEnd = -(x.reachDown * x.quarterUnit) := by
    rw [lowerEnd, h]
    push_cast
    ring
  have hupper : x.upperEnd = 2 * x.quarterUnit := by
    rw [upperEnd, h]
    push_cast
    ring
  refine ⟨?_, ?_, fun _ => by rw [h]⟩
  · rw [hlower]
    exact neg_nonpos.mpr (mul_nonneg (by linarith) hpos.le)
  · rw [hupper]
    linarith

/-- The shortest decimal is read as the double. -/
theorem reads_shortest (h : x.Canonical) (tie : Tie) : Reads (x.shortest tie).value x := by
  unfold shortest
  split
  · rename_i hzero
    have hvalue : (⟨0, 0⟩ : Decimal).value = 0 := by simp [Decimal.value]
    rw [hvalue]
    exact reads_zero (beq_iff_eq.mp hzero)
  · rename_i hzero
    have hpositive : 0 < x.significand := Nat.pos_of_ne_zero (mt beq_iff_eq.mpr hzero)
    obtain ⟨hden, hratio⟩ := x.ratio_eq
    obtain ⟨hlow, hhigh⟩ := ratio_bounds h hpositive
    have hnum : 0 < x.ratio.1 := by
      refine Nat.pos_of_ne_zero fun hnum => ?_
      rw [hnum, Nat.cast_zero, zero_div] at hlow
      exact absurd hlow (two_zpow_pos _).not_ge
    have hleading := ten_zpow_leadingPower_le hnum hden hlow hhigh
    rw [hratio] at hleading
    exact reads_searchGrids (neighbour?_isSome (last_grid_lt h hleading))

/-- Doubles with the same shortest decimal are the same, but for their signs. -/
theorem eq_of_shortest_eq {tie' : Tie} (hx : x.Canonical) (hy : y.Canonical)
    (h : (x.shortest tie).value = (y.shortest tie').value) :
    x.significand = y.significand ∧ x.exponent = y.exponent :=
  Reads.unique hx hy (reads_shortest hx tie) (h ▸ reads_shortest hy tie')

end Binary64

end SchemaTypings
