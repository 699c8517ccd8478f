import SchemaTypings.Number.Binary64

/-!
# Shortest decimals

`Binary64.shortest` finds the decimal with the fewest digits that reads back as a given double, and
of those the nearest to it. The decimals of `n` digits form a grid; the first grid on which one of
the two neighbours of the value lies in the interval of numbers that round to it gives the answer.
`DecimalLayout` says how a decimal is spelled, and its two values are the two spellings in use.
-/

namespace SchemaTypings

/-- The number `digits · 10 ^ exponent`. -/
structure Decimal where
  digits : Nat
  exponent : Int
  deriving DecidableEq, Repr

/-- What to take when two decimals are equally near. -/
inductive Tie where
  | even
  | up
  deriving DecidableEq, Repr

namespace Binary64

/-- `2 ^ b / 10 ^ d` as a ratio. -/
def binaryOverDecimal (b d : Int) : Nat × Nat :=
  (Nat.pow 10 (-d).toNat <<< b.toNat, Nat.pow 10 d.toNat <<< (-b).toNat)

/-- Whether `num / den` is at least `10 ^ k`. -/
def reachesPower (num den : Nat) (k : Int) : Bool :=
  den * Nat.pow 10 k.toNat ≤ num * Nat.pow 10 (-k).toNat

/-- The greatest power of ten not above `num / den`, searched in `steps` steps upwards from `k`. -/
def climb (num den : Nat) : Nat → Int → Int
  | 0, k => k
  | steps + 1, k => if reachesPower num den (k + 1) then climb num den steps (k + 1) else k

/-- The exponent of the leading decimal digit of `num / den`. -/
def leadingPower (num den : Nat) : Int :=
  climb num den 4 (((Nat.log2 num : Int) - Nat.log2 den - 1) * 30103 / 100000 - 1)

/-- The neighbour of `x` on the grid of multiples of `10 ^ grid` that reads back as `x`. The numbers
that round to `x` reach half a unit of the significand up and down, a quarter down from a power of
two, and the ends belong to them when the significand is even. -/
def neighbour? (tie : Tie) (x : Binary64) (grid : Int) : Option Nat :=
  let (quarter, whole) := binaryOverDecimal (x.exponent - 2) grid
  let scaled := 4 * x.significand * quarter
  let below := scaled / whole
  let past := scaled % whole
  let reachDown :=
    if x.significand == 1 <<< 52 && x.exponent > -1074 then quarter else 2 * quarter
  let closed := x.significand % 2 == 0
  let lowerHits := past < reachDown || (closed && past == reachDown)
  let upperHits := whole - past < 2 * quarter || (closed && whole - past == 2 * quarter)
  match lowerHits, upperHits with
  | false, false => none
  | true, false => some below
  | false, true => some (below + 1)
  | true, true =>
    if 2 * past < whole then some below
    else if 2 * past > whole then some (below + 1)
    else match tie with
      | .even => some (below + below % 2)
      | .up => some (below + 1)

/-- The first grid, from the one of `count` digits on, with a neighbour that reads back. -/
def searchGrids (tie : Tie) (x : Binary64) (leading : Int) : Nat → Nat → Decimal
  | 0, _ => ⟨x.significand, 0⟩
  | steps + 1, count =>
    let grid := leading - count + 1
    match neighbour? tie x grid with
    | some digits =>
      if digits == Nat.pow 10 count then ⟨1, leading + 1⟩ else ⟨digits, grid⟩
    | none => searchGrids tie x leading steps (count + 1)

/-- The shortest decimal that reads back as `x`, and the nearest of those. Seventeen digits always
suffice. -/
def shortest (tie : Tie) (x : Binary64) : Decimal :=
  if x.isZero then ⟨0, 0⟩
  else
    let (num, den) := x.ratio
    searchGrids tie x (leadingPower num den) 17 1

end Binary64

/-- How doubles are spelled: the range of scientific exponents that are written positionally (no
bound: all of them), whether a whole number keeps `.0`, and which way ties between two shortest
decimals go. -/
structure DecimalLayout where
  leastPositional : Option Int
  greatestPositional : Option Int
  keepPoint : Bool
  tie : Tie

namespace DecimalLayout

/-- Doubles within JSON text: positional from `0.00001` to sixteen digits, always with a point. -/
def jsonText : DecimalLayout := ⟨some (-5), some 15, true, .even⟩

/-- Doubles within documentation and messages: always positional, whole numbers without a point. -/
def plain : DecimalLayout := ⟨none, none, false, .up⟩

/-- Whether a decimal with this scientific exponent is written positionally. -/
def isPositional (layout : DecimalLayout) (scientific : Int) : Bool :=
  layout.leastPositional.all (· ≤ scientific) && layout.greatestPositional.all (scientific ≤ ·)

/-- Digits with the point after the place of `10 ^ 0`, the first digit standing at
`10 ^ scientific`. -/
def positional (layout : DecimalLayout) (digits : List Char) (scientific : Int) : List Char :=
  if scientific < 0 then
    '0' :: '.' :: List.replicate (-scientific - 1).toNat '0' ++ digits
  else
    let whole := scientific.toNat + 1
    let fraction := digits.drop whole
    let padded := digits.take whole ++ List.replicate (whole - digits.length) '0'
    if fraction.isEmpty then padded ++ (if layout.keepPoint then ['.', '0'] else [])
    else padded ++ '.' :: fraction

/-- Digits with the point after the first one, and an exponent with its sign. -/
def scientific (digits : List Char) (exponent : Int) : List Char :=
  let mantissa := match digits with
    | first :: second :: rest => first :: '.' :: second :: rest
    | short => short
  mantissa ++ 'e' :: (if exponent < 0 then '-' else '+') :: (Nat.repr exponent.natAbs).toList

def format (layout : DecimalLayout) (x : Binary64) : String :=
  let decimal := x.shortest layout.tie
  let digits := (Nat.repr decimal.digits).toList
  let exponent := (digits.length : Int) - 1 + decimal.exponent
  let magnitude :=
    if layout.isPositional exponent then layout.positional digits exponent
    else scientific digits exponent
  String.ofList (if x.negative then '-' :: magnitude else magnitude)

end DecimalLayout

end SchemaTypings
