import SchemaTypings.Json.Located
import SchemaTypings.Json.Reader
import SchemaTypings.Text.Blank

/-!
# A stand-in for the filter language

A run leaves the selection of values by a filter to another program (`Command.Tools`). What stands in for it
here is a small part of the language: paths to members and items, `[]`, `,`, `|`, groups, lists, objects and
plain values. It has no functions and no operators, and no other way to select: a filter with any of
these is refused, though the language has it.

A selector yields any number of values, or fails when it looks for a part in a value that has no such parts.
Null has every part, and each is null. The text of a selector joins parts by `|`, which binds weakest, and `,`.
A part begins with a point and goes on with keys and brackets, or it is a list, an object, a group in
parentheses, or a value.
-/

namespace SchemaTypings

/-- A way to select values from a value. -/
inductive Selector where
  /-- The value itself. -/
  | self
  /-- No value. -/
  | nothing
  /-- A value that is always the same. -/
  | constant (value : Json)
  /-- The member of an object under a key. -/
  | member (key : String)
  /-- The item of a list at a position; a negative one counts from the end. -/
  | item (position : Int)
  /-- The items of a list, or the values of an object. -/
  | children
  /-- What the first selects, and then what the second does. -/
  | both (first second : Selector)
  /-- What the second selects from each value that the first does. -/
  | andThen (first second : Selector)
  /-- The list of all that is selected. -/
  | collect (inner : Selector)
  /-- The objects with one selected value under each key. -/
  | build (fields : List (String × Selector))

namespace Selector

/-- The member of an object under a key, or null if it has none. -/
def memberOf? (key : String) : Json → Option Json
  | .obj members => some ((members.lookup key).getD .null)
  | .null => some .null
  | _ => none

/-- The item of a list at a position, or null beyond its ends. -/
def itemOf? (position : Int) : Json → Option Json
  | .arr items =>
    let place := if position < 0 then position + items.length else position
    if place < 0 then some .null else some ((items[place.toNat]?).getD .null)
  | .null => some .null
  | _ => none

/-- The items of a list, or the values of an object. -/
def childrenOf? : Json → Option (List Json)
  | .arr items => some items
  | .obj members => some (members.map (·.2))
  | _ => none

/-- The object with the members; a repeated key has its first place and its last value. -/
def objectOf (members : List (String × Json)) : Json :=
  .obj (members.foldl (fun made (key, value) => Json.setMember key value made) [])

mutual

/-- The values that a selector selects. -/
def run? : Selector → Json → Option (List Json)
  | self, value => some [value]
  | nothing, _ => some []
  | constant fixed, _ => some [fixed]
  | member key, value => (memberOf? key value).map ([·])
  | item position, value => (itemOf? position value).map ([·])
  | children, value => childrenOf? value
  | both first second, value => do
    let front ← run? first value
    let back ← run? second value
    return front ++ back
  | andThen first second, value => do
    let found ← run? first value
    let selected ← found.mapM (run? second)
    return selected.flatten
  | collect inner, value => (run? inner value).map ([.arr ·])
  | build fields, value => (choices? fields value).map (·.map objectOf)

/-- The ways to choose one selected value for each field, those for the first field changing last. -/
def choices? : List (String × Selector) → Json → Option (List (List (String × Json)))
  | [], _ => some [[]]
  | (key, field) :: rest, value => do
    let found ← run? field value
    let chosen ← found.mapM fun one => (choices? rest value).map (·.map ((key, one) :: ·))
    return chosen.flatten

end

/-! ## Tokens -/

/-- A token of a selector text. -/
inductive Token where
  | word (name : String)
  | text (value : String)
  | number (value : Nat)
  | sign (c : Char)
  deriving DecidableEq, Repr

namespace Token

/-- Whether a word may begin with the character. -/
def startsWord (c : Char) : Bool :=
  c.isAlpha || c == '_'

/-- Whether a word may go on with the character. -/
def continuesWord (c : Char) : Bool :=
  c.isAlphanum || c == '_'

/-- The number that decimal digits spell. -/
def numberOf (digits : List Char) : Nat :=
  digits.foldl (fun value digit => value * 10 + (digit.toNat - '0'.toNat)) 0

theorem length_lt_of_pieces {cs rest : List Char} {pieces : List JsonText.Piece} {bytes : Nat}
    (h : JsonText.pieces? cs = some (pieces, rest, bytes)) : rest.length < cs.length := by
  fun_induction JsonText.pieces? cs generalizing pieces bytes with
  | case1 => simp at h
  | case2 a b c d after ih =>
    simp only [Option.bind_eq_bind, Option.bind_eq_some_iff] at h
    obtain ⟨_, _, _, _, _, _, _, _, ⟨more, last, count⟩, found, made⟩ := h
    simp only [pure, Option.some.injEq, Prod.mk.injEq] at made
    have := ih (made.2.1 ▸ found)
    simp only [List.length_cons]; omega
  | case3 e after _ ih =>
    simp only [Option.bind_eq_bind, Option.bind_eq_some_iff] at h
    obtain ⟨_, _, ⟨more, last, count⟩, found, made⟩ := h
    simp only [pure, Option.some.injEq, Prod.mk.injEq] at made
    have := ih (made.2.1 ▸ found)
    simp only [List.length_cons]; omega
  | case4 c after _ _ mark =>
    simp only [Option.some.injEq, Prod.mk.injEq] at h
    simp [h.2.1]
  | case5 => simp at h
  | case6 c after _ _ _ _ ih =>
    simp only [Option.bind_eq_bind, Option.bind_eq_some_iff] at h
    obtain ⟨⟨more, last, count⟩, found, made⟩ := h
    simp only [pure, Option.some.injEq, Prod.mk.injEq] at made
    have := ih (made.2.1 ▸ found)
    simp only [List.length_cons]; omega

/-- The tokens of a text, if it is made of tokens. -/
def scan? (cs : List Char) : Option (List Token) :=
  match cs with
  | [] => some []
  | c :: rest =>
    if Text.isBlank c then scan? rest
    else if c == '#' then scan? (rest.dropWhile (· != '\n'))
    else if startsWord c then
      (scan? (rest.dropWhile continuesWord)).map
        (word (String.ofList (c :: rest.takeWhile continuesWord)) :: ·)
    else if c.isDigit then
      (scan? (rest.dropWhile Char.isDigit)).map
        (number (numberOf (c :: rest.takeWhile Char.isDigit)) :: ·)
    else if c == Quoted.mark then
      match _ : JsonText.pieces? rest with
      | some (pieces, after, _) =>
        (JsonText.join? pieces).bind fun value =>
          (scan? after).map (text (String.ofList value) :: ·)
      | none => none
    else (scan? rest).map (sign c :: ·)
termination_by cs.length
decreasing_by
  all_goals simp only [List.length_cons]
  · omega
  · exact Nat.lt_succ_of_le (List.dropWhile_suffix _).length_le
  · exact Nat.lt_succ_of_le (List.dropWhile_suffix _).length_le
  · exact Nat.lt_succ_of_le (List.dropWhile_suffix _).length_le
  · exact Nat.lt_succ_of_lt (length_lt_of_pieces ‹_›)
  · omega

end Token

/-! ## Reading -/

/-- The tokens after some of `tokens` have been read. -/
abbrev Rest (tokens : List Token) : Type := { rest : List Token // rest.length < tokens.length }

/-- The tokens after the first. -/
def Rest.ofTail (token : Token) (rest : List Token) : Rest (token :: rest) :=
  ⟨rest, by simp⟩

/-- The tokens after the first two. -/
def Rest.ofTwo (first second : Token) (rest : List Token) : Rest (first :: second :: rest) :=
  ⟨rest, Nat.lt_succ_of_lt (Nat.lt_succ_self _)⟩

/-- The tokens left of those that were left. -/
def Rest.within {tokens : List Token} (rest : Rest tokens) (more : Rest rest.val) : Rest tokens :=
  ⟨more.val, Nat.lt_trans more.property rest.property⟩

/-- The selectors that are called by a word. -/
def named : List (String × Selector) :=
  [("empty", nothing), ("null", constant .null), ("true", constant (.bool true)),
    ("false", constant (.bool false))]

/-- The number that is always selected, if JSON has it as a whole number. -/
def wholeNumber? (value : Nat) : Option Selector :=
  if value < Word64.bound then some (constant (.int value)) else none

/-- What stands in brackets after a part, and the tokens after the closing bracket. -/
def bracketed? (tokens : List Token) : Option (Selector × Rest tokens) :=
  match tokens with
  | .sign ']' :: rest => some (children, Rest.ofTail _ rest)
  | .number value :: .sign ']' :: rest => some (item value, Rest.ofTwo _ _ rest)
  | .sign '-' :: .number value :: .sign ']' :: rest =>
    some (item (-value), (Rest.ofTail _ _).within (Rest.ofTwo _ _ rest))
  | .text key :: .sign ']' :: rest => some (member key, Rest.ofTwo _ _ rest)
  | _ => none

/-- A step further down from a part, and the tokens after it. -/
def step? (tokens : List Token) : Option (Selector × Rest tokens) :=
  match tokens with
  | .sign '.' :: .word key :: rest => some (member key, Rest.ofTwo _ _ rest)
  | .sign '.' :: .text key :: rest => some (member key, Rest.ofTwo _ _ rest)
  | .sign '.' :: .sign '[' :: rest =>
    (bracketed? rest).map fun (step, more) => (step, (Rest.ofTwo _ _ rest).within more)
  | .sign '[' :: rest =>
    (bracketed? rest).map fun (step, more) => (step, (Rest.ofTail _ rest).within more)
  | _ => none

/-- The part with all steps that follow it, and the tokens after them. -/
def stepsAfter (part : Selector) (tokens : List Token) : Selector × List Token :=
  match step? tokens with
  | some (step, rest) => stepsAfter (andThen part step) rest.val
  | none => (part, tokens)
termination_by tokens.length
decreasing_by exact rest.property

theorem stepsAfter_length (part : Selector) (tokens : List Token) :
    (stepsAfter part tokens).2.length ≤ tokens.length := by
  fun_induction stepsAfter part tokens with
  | case1 part tokens step rest _ ih => exact Nat.le_of_lt (Nat.lt_of_le_of_lt ih rest.property)
  | case2 => exact Nat.le_refl _

/-- The part with all steps that follow it. -/
def withSteps {tokens : List Token} (part : Selector) (rest : Rest tokens) :
    Selector × Rest tokens :=
  ((stepsAfter part rest.val).1, ⟨(stepsAfter part rest.val).2,
    Nat.lt_of_le_of_lt (stepsAfter_length part rest.val) rest.property⟩)

/-- The tokens after a sign. -/
def sign? (c : Char) (tokens : List Token) : Option (Rest tokens) :=
  match tokens with
  | .sign d :: rest => if d == c then some (Rest.ofTail _ rest) else none
  | _ => none

/-- The key at the start of a field, and the tokens after it. -/
def key? (tokens : List Token) : Option (String × Rest tokens) :=
  match tokens with
  | .word key :: rest => some (key, Rest.ofTail _ rest)
  | .text key :: rest => some (key, Rest.ofTail _ rest)
  | _ => none

mutual

/-- Parts joined by `|`, and by `,` where that is allowed. -/
def piped? (commas : Bool) (tokens : List Token) : Option (Selector × Rest tokens) :=
  match joined? commas tokens with
  | none => none
  | some (first, rest) =>
    match sign? '|' rest.val with
    | some after => (piped? commas after.val).map fun (second, more) =>
      (andThen first second, rest.within (after.within more))
    | none => some (first, rest)
termination_by (tokens.length, 2)
decreasing_by
  · decreasing_tactic
  · exact .left _ _ (Nat.lt_trans after.property rest.property)

/-- Parts joined by `,` where that is allowed. -/
def joined? (commas : Bool) (tokens : List Token) : Option (Selector × Rest tokens) :=
  match part? tokens with
  | none => none
  | some (first, rest) =>
    match commas, sign? ',' rest.val with
    | true, some after => (joined? true after.val).map fun (second, more) =>
      (both first second, rest.within (after.within more))
    | _, _ => some (first, rest)
termination_by (tokens.length, 1)
decreasing_by
  · decreasing_tactic
  · exact .left _ _ (Nat.lt_trans after.property rest.property)

/-- A part with its steps. -/
def part? (tokens : List Token) : Option (Selector × Rest tokens) :=
  match tokens with
  | .sign '.' :: rest =>
    match step? (.sign '.' :: rest) with
    | some (step, after) => some (withSteps step after)
    | none => some (withSteps self (Rest.ofTail _ rest))
  | .word name :: rest => (named.lookup name).map fun part => withSteps part (Rest.ofTail _ rest)
  | .text value :: rest => some (withSteps (constant (.str value)) (Rest.ofTail _ rest))
  | .number value :: rest =>
    (wholeNumber? value).map fun part => withSteps part (Rest.ofTail _ rest)
  | .sign '(' :: rest =>
    (piped? true rest).bind fun (inner, after) => (sign? ')' after.val).map fun last =>
      withSteps inner ((Rest.ofTail _ rest).within (after.within last))
  | .sign '[' :: .sign ']' :: rest =>
    some (withSteps (collect nothing) (Rest.ofTwo _ _ rest))
  | .sign '[' :: rest =>
    (piped? true rest).bind fun (inner, after) => (sign? ']' after.val).map fun last =>
      withSteps (collect inner) ((Rest.ofTail _ rest).within (after.within last))
  | .sign '\x7b' :: .sign '\x7d' :: rest => some (withSteps (build []) (Rest.ofTwo _ _ rest))
  | .sign '\x7b' :: rest =>
    (fields? rest).map fun (fields, after) =>
      withSteps (build fields) ((Rest.ofTail _ rest).within after)
  | _ => none
termination_by (tokens.length, 0)

/-- The fields of an object up to its closing brace. A field without value is the member of its own
name. -/
def fields? (tokens : List Token) : Option (List (String × Selector) × Rest tokens) :=
  match key? tokens with
  | none => none
  | some (key, rest) =>
    match sign? ':' rest.val with
    | some after => (piped? false after.val).bind fun (value, more) =>
      fieldsAfter? tokens (key, value) (rest.within (after.within more))
    | none => fieldsAfter? tokens (key, member key) rest
termination_by (tokens.length, 1)
decreasing_by
  · exact .left _ _ (Nat.lt_trans after.property rest.property)
  · decreasing_tactic
  · decreasing_tactic

/-- A field, and the fields after it up to the closing brace. -/
def fieldsAfter? (tokens : List Token) (field : String × Selector) (rest : Rest tokens) :
    Option (List (String × Selector) × Rest tokens) :=
  match sign? '\x7d' rest.val, sign? ',' rest.val with
  | some after, _ => some ([field], rest.within after)
  | none, some after => (fields? after.val).map fun (fields, more) =>
    (field :: fields, rest.within (after.within more))
  | none, none => none
termination_by (tokens.length, 0)
decreasing_by exact .left _ _ (Nat.lt_trans after.property rest.property)

end

/-- The selector that a text spells. -/
def ofText? (text : String) : Option Selector :=
  (Token.scan? text.toList).bind fun tokens =>
    match piped? true tokens with
    | some (selector, ⟨[], _⟩) => some selector
    | _ => none

/-- The values that the selector in a text selects, if each can be written and read again. -/
def select? (text : String) (value : Json) : Option (List Json) := do
  let found ← (← ofText? text).run? value
  found.mapM fun one => one.located.toJson?

end Selector

end SchemaTypings
