/-!
# Words of 64 bits read from digits
-/

namespace SchemaTypings.Word64

def bound : Nat := 1 <<< 64

/-- The word with one more decimal digit at its end, if it still fits. -/
def append? (word : Nat) (digit : Char) : Option Nat :=
  let longer := word * 10 + (digit.toNat - '0'.toNat)
  if longer < bound then some longer else none

/-- The word that digits spell after those of `word`; none if there is another character, or if it
does not fit. -/
def readAfter? (word : Nat) : List Char → Option Nat
  | [] => some word
  | c :: rest => if c.isDigit then (append? word c).bind (readAfter? · rest) else none

/-- The word that a text spells: at least one decimal digit, which a plus sign may precede. -/
def read? : List Char → Option Nat
  | [] => none
  | ['+'] => none
  | '+' :: digits => readAfter? 0 digits
  | digits => readAfter? 0 digits

end SchemaTypings.Word64
