import SchemaTypings.Number.Binary64
import SchemaTypings.Number.Word

/-!
# Numbers as they are spelled

The parts of a decimal number in a text, and the value they denote. Digits are gathered in a word of
64 bits. Once a digit does not fit, the digits left before the point count as powers of ten, and
those left after it are dropped; a number with a fraction, an exponent or such digits is the word,
as a double, scaled by a power of ten with one rounding each.
-/

namespace SchemaTypings

/-- The parts of a decimal number: sign, whole digits, digits after a point, and an exponent with
its sign. -/
structure NumberSpelling where
  negative : Bool
  whole : List Char
  fraction : Option (List Char)
  exponent : Option (Bool × List Char)
  deriving Repr

/-- What a spelled number denotes: a whole number, or a double. -/
inductive SpelledNumber where
  | whole (value : Int)
  | double (value : Binary64)
  deriving DecidableEq, Repr

namespace NumberSpelling

/-- The word that starts with `word` and takes in digits while they fit, and the number of digits
taken in. -/
def gather (word taken : Nat) : List Char → Nat × Nat
  | [] => (word, taken)
  | digit :: rest =>
    match Word64.append? word digit with
    | some longer => gather longer (taken + 1) rest
    | none => (word, taken)

def natOfDigits (digits : List Char) : Nat :=
  digits.foldl (fun n digit => n * 10 + (digit.toNat - '0'.toNat)) 0

/-- `x · 10 ^ exponent`, in steps of at most 308 powers when it is divided; none beyond the largest
double. -/
def scale (x : Binary64) : Nat → Int → Option Binary64
  | steps, exponent =>
    if exponent.natAbs ≤ 308 then
      let power := Binary64.powerOfTen exponent.natAbs
      if exponent ≥ 0 then x.mul? power else x.div? power
    else if x.isZero then some x
    else if exponent ≥ 0 then none
    else match steps with
      | 0 => some (Binary64.zero x.negative)
      | steps + 1 =>
        (x.div? (Binary64.powerOfTen 308)).bind fun smaller => scale smaller steps (exponent + 308)

/-- The exponent as it is written, zero if there is none. -/
def writtenExponent (spelling : NumberSpelling) : Int :=
  match spelling.exponent with
  | none => 0
  | some (negative, digits) =>
    let magnitude : Int := natOfDigits digits
    if negative then -magnitude else magnitude

/-- The value of a whole number without sign `word`, or of its negation. The negation of zero, and
one below `-2 ^ 63`, is a double. -/
def signedWord (negative : Bool) (word : Nat) : SpelledNumber :=
  if !negative then .whole word
  else if word == 0 || word > 1 <<< 63 then .double (Binary64.ofNat word).neg
  else .whole (-(word : Int))

/-- The value of a number; none if it lies beyond the largest double. -/
def value? (spelling : NumberSpelling) : Option SpelledNumber :=
  let (word, taken) := gather 0 0 spelling.whole
  let excess := spelling.whole.length - taken
  if spelling.fraction.isNone && spelling.exponent.isNone && excess == 0 then
    some (signedWord spelling.negative word)
  else
    let (word, places) := gather word 0 (spelling.fraction.getD [])
    let exponent : Int := (excess : Int) - places + spelling.writtenExponent
    (scale (Binary64.ofNat word) 4 exponent).map fun x =>
      .double (if spelling.negative then x.neg else x)

end NumberSpelling

end SchemaTypings
