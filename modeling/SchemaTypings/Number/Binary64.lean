/-!
# Finite doubles

The finite values of the 64-bit binary floating point format, as exact numbers: a sign, and a
significand times a power of two. Operations work on exact ratios of natural numbers and round once,
to the nearest value and to an even significand between two nearest ones.
-/

namespace SchemaTypings

/-- The number `significand · 2 ^ exponent`, negated if `negative`. A value is canonical: the
exponent is at least `-1074`, the significand is below `2 ^ 53`, and it is at least `2 ^ 52` unless
the exponent is the least one. Zero keeps its sign. -/
structure Binary64 where
  negative : Bool
  significand : Nat
  exponent : Int
  deriving DecidableEq, Repr, Inhabited

namespace Binary64

/-- Zero with the given sign. -/
def zero (negative : Bool) : Binary64 :=
  ⟨negative, 0, -1074⟩

def isZero (x : Binary64) : Bool :=
  x.significand == 0

def neg (x : Binary64) : Binary64 :=
  { x with negative := !x.negative }

/-- Numeric equality: the two zeros are equal. -/
def numEq (x y : Binary64) : Bool :=
  x == y || (x.isZero && y.isZero)

/-- The whole number nearest to `num / den`; halfway between two, the even one. -/
def roundDiv (num den : Nat) : Nat :=
  let quotient := num / den
  let twice := 2 * (num % den)
  if twice > den || (twice == den && quotient % 2 == 1) then quotient + 1 else quotient

/-- `num / den / 2 ^ exponent` as a ratio. -/
def scaleRatio (num den : Nat) (exponent : Int) : Nat × Nat :=
  if exponent ≥ 0 then (num, den <<< exponent.toNat) else (num <<< (-exponent).toNat, den)

/-- The exponent under which `num / den` has a significand of 53 bits, or the least exponent. -/
def exponentOf (num den : Nat) : Int :=
  let guess : Int := (Nat.log2 num : Int) - Nat.log2 den - 52
  let (n, d) := scaleRatio num den guess
  max (-1074) (if n < d <<< 52 then guess - 1 else guess)

/-- The double nearest to `num / den`, with the given sign; none if that is beyond the largest. -/
def ofRatio? (negative : Bool) (num den : Nat) : Option Binary64 :=
  if num == 0 || den == 0 then some (zero negative)
  else
    let exponent := exponentOf num den
    let (n, d) := scaleRatio num den exponent
    let rounded := roundDiv n d
    let (significand, exponent) :=
      if rounded == 1 <<< 53 then (1 <<< 52, exponent + 1) else (rounded, exponent)
    if exponent > 971 then none else some ⟨negative, significand, exponent⟩

/-- The magnitude as a ratio of natural numbers. -/
def ratio (x : Binary64) : Nat × Nat :=
  scaleRatio x.significand 1 (-x.exponent)

/-- The double nearest to a natural number that does not round beyond the largest one. -/
def ofNat (n : Nat) : Binary64 :=
  (ofRatio? false n 1).getD (zero false)

def ofInt (n : Int) : Binary64 :=
  let magnitude := ofNat n.natAbs
  if n < 0 then magnitude.neg else magnitude

/-- The rounded product of two magnitudes. -/
def mul? (x y : Binary64) : Option Binary64 :=
  let (a, b) := x.ratio
  let (c, d) := y.ratio
  ofRatio? (x.negative != y.negative) (a * c) (b * d)

/-- The rounded quotient of two magnitudes, the second not zero. -/
def div? (x y : Binary64) : Option Binary64 :=
  let (a, b) := x.ratio
  let (c, d) := y.ratio
  ofRatio? (x.negative != y.negative) (a * d) (b * c)

/-- The double nearest to `10 ^ k`, for `k` up to 308. -/
def powerOfTen (k : Nat) : Binary64 :=
  ofNat (Nat.pow 10 k)

end Binary64

end SchemaTypings
