import SchemaTypings.Json.Located
import SchemaTypings.Json.Quoted
import SchemaTypings.Number.Spelling

/-!
# Reading JSON texts

`Located.read?` reads the value at the start of a text and leaves what follows it. Every step
consumes text, so a bound on the steps that is taken from the length of the text is never reached.
-/

namespace SchemaTypings

/-- The rest of a text, and its place. -/
structure Cursor where
  rest : List Char
  position : Position

namespace Cursor

def ofText (text : String) : Cursor :=
  ⟨text.toList, ⟨1, 0⟩⟩

/-- The blanks that may stand between the tokens of a JSON text. -/
def isJsonBlank (c : Char) : Bool :=
  c == ' ' || c == '\n' || c == '\t' || c == '\x0d'

/-- The cursor past the blanks before `cs`, which stands at `position`. -/
def pastBlanks (position : Position) : List Char → Cursor
  | [] => ⟨[], position⟩
  | c :: rest => if isJsonBlank c then pastBlanks (position.after c) rest else ⟨c :: rest, position⟩

def skipBlanks (cursor : Cursor) : Cursor :=
  pastBlanks cursor.position cursor.rest

/-- The cursor at `rest`, which stands `bytes` further on the same line. -/
def onLine (cursor : Cursor) (rest : List Char) (bytes : Nat) : Cursor :=
  ⟨rest, { cursor.position with column := cursor.position.column + bytes }⟩

end Cursor

namespace JsonText

/-! ## Strings -/

/-- What a string is made of: characters, and 16-bit units written in hexadecimal. -/
inductive Piece where
  | char (c : Char)
  | unit (value : Nat)

def hexValue? (c : Char) : Option Nat :=
  if c.isDigit then some (c.toNat - '0'.toNat)
  else if 'a' ≤ c && c ≤ 'f' then some (c.toNat - 'a'.toNat + 10)
  else if 'A' ≤ c && c ≤ 'F' then some (c.toNat - 'A'.toNat + 10)
  else none

/-- The character that a letter after a backslash stands for. -/
def unescape? (c : Char) : Option Char :=
  if c == Quoted.mark || c == '\\' || c == '/' then some c
  else match c with
    | 'b' => some '\x08'
    | 'f' => some '\x0c'
    | 'n' => some '\n'
    | 'r' => some '\x0d'
    | 't' => some '\t'
    | _ => none

/-- The pieces of a string up to its closing quote, what follows the quote, and the bytes read. -/
def pieces? : List Char → Option (List Piece × List Char × Nat)
  | [] => none
  | '\\' :: 'u' :: a :: b :: c :: d :: rest => do
    let a ← hexValue? a
    let b ← hexValue? b
    let c ← hexValue? c
    let d ← hexValue? d
    let (pieces, after, bytes) ← pieces? rest
    return (.unit (((a * 16 + b) * 16 + c) * 16 + d) :: pieces, after, bytes + 6)
  | '\\' :: e :: rest => do
    let c ← unescape? e
    let (pieces, after, bytes) ← pieces? rest
    return (.char c :: pieces, after, bytes + 2)
  | c :: rest =>
    if c == Quoted.mark then some ([], rest, 1)
    else if c.toNat < 0x20 then none
    else do
      let (pieces, after, bytes) ← pieces? rest
      return (.char c :: pieces, after, bytes + c.utf8Size)

def isHighHalf (unit : Nat) : Bool :=
  0xD800 ≤ unit && unit ≤ 0xDBFF

def isLowHalf (unit : Nat) : Bool :=
  0xDC00 ≤ unit && unit ≤ 0xDFFF

/-- The characters of the pieces; none if half a surrogate pair stands alone. -/
def join? : List Piece → Option (List Char)
  | [] => some []
  | .char c :: rest => (join? rest).map (c :: ·)
  | .unit high :: .unit low :: rest =>
    if isHighHalf high then
      if isLowHalf low then
        let point := 0x10000 + (high - 0xD800) * 0x400 + (low - 0xDC00)
        (join? rest).map (Char.ofNat point :: ·)
      else none
    else if isLowHalf high then none
    else (join? (.unit low :: rest)).map (Char.ofNat high :: ·)
  | .unit point :: rest =>
    if isHighHalf point || isLowHalf point then none
    else (join? rest).map (Char.ofNat point :: ·)

/-- The string after an opening quote. -/
def string? (cursor : Cursor) : Option (Option String × Cursor) := do
  let (pieces, rest, bytes) ← pieces? cursor.rest
  return ((join? pieces).map String.ofList, cursor.onLine rest bytes)

/-! ## Numbers -/

/-- The digits at the start of a text, and what follows them. -/
def digits (cs : List Char) : List Char × List Char :=
  (cs.takeWhile Char.isDigit, cs.dropWhile Char.isDigit)

/-- The digits at the start of a text, of which there is at least one. -/
def someDigits? (cs : List Char) : Option (List Char × List Char) :=
  match digits cs with
  | ([], _) => none
  | found => some found

/-- The whole part of a number: a zero alone, or digits that begin with another one. -/
def wholePart? (cs : List Char) : Option (List Char × List Char) :=
  match digits cs with
  | ([], _) => none
  | ('0' :: _ :: _, _) => none
  | found => some found

/-- The fraction of a number, if a point follows. -/
def fractionPart? : List Char → Option (Option (List Char) × List Char)
  | '.' :: rest => (someDigits? rest).map fun (found, rest) => (some found, rest)
  | cs => some (none, cs)

/-- The exponent of a number after its letter, what follows it, and the bytes read. -/
def exponentDigits? : List Char → Option ((Bool × List Char) × List Char × Nat)
  | '+' :: rest => (someDigits? rest).map fun (found, rest) =>
      ((false, found), rest, found.length + 1)
  | '-' :: rest => (someDigits? rest).map fun (found, rest) =>
      ((true, found), rest, found.length + 1)
  | cs => (someDigits? cs).map fun (found, rest) => ((false, found), rest, found.length)

/-- The exponent of a number, if its letter follows, with what follows it and the bytes read. -/
def exponentPart? : List Char → Option (Option (Bool × List Char) × List Char × Nat)
  | 'e' :: rest => (exponentDigits? rest).map fun (found, rest, bytes) =>
      (some found, rest, bytes + 1)
  | 'E' :: rest => (exponentDigits? rest).map fun (found, rest, bytes) =>
      (some found, rest, bytes + 1)
  | cs => some (none, cs, 0)

/-- The number at the start of a text, after its sign, with what follows it and the bytes read. -/
def number? (negative : Bool) (cs : List Char) : Option (NumberSpelling × List Char × Nat) := do
  let (whole, cs) ← wholePart? cs
  let (fraction, cs) ← fractionPart? cs
  let (exponent, cs, bytes) ← exponentPart? cs
  let fractionBytes := (fraction.map (·.length + 1)).getD 0
  return (⟨negative, whole, fraction, exponent⟩, cs, whole.length + fractionBytes + bytes)

end JsonText

/-- The JSON number that a spelled number denotes. -/
def SpelledNumber.toJson : SpelledNumber → Json
  | .whole value => .int value
  | .double value => .float value

namespace JsonText

/-! ## Values -/

/-- The scalar that takes `bytes` bytes, before `rest`. -/
def scalarTo (cursor : Cursor) (rest : List Char) (bytes : Nat) (value : Option Json) :
    Located × Cursor :=
  let next := cursor.onLine rest bytes
  (.scalar ⟨cursor.position, next.position⟩ value, next)

/-- The number at the cursor, of which `signBytes` bytes are its sign and `digits` is the rest. -/
def numberAt? (cursor : Cursor) (negative : Bool) (signBytes : Nat) (digits : List Char) :
    Option (Located × Cursor) :=
  (number? negative digits).map fun (spelling, rest, bytes) =>
    scalarTo cursor rest (bytes + signBytes) (spelling.value?.map SpelledNumber.toJson)

/-- The scalar at the cursor, unless it is a string. -/
def scalar? (cursor : Cursor) : Option (Located × Cursor) :=
  match cursor.rest with
  | 'n' :: 'u' :: 'l' :: 'l' :: rest => some (scalarTo cursor rest 4 (some .null))
  | 't' :: 'r' :: 'u' :: 'e' :: rest => some (scalarTo cursor rest 4 (some (.bool true)))
  | 'f' :: 'a' :: 'l' :: 's' :: 'e' :: rest => some (scalarTo cursor rest 5 (some (.bool false)))
  | '-' :: rest => numberAt? cursor true 1 rest
  | rest => numberAt? cursor false 0 rest

mutual

/-- The value at the cursor. -/
def value? : Nat → Cursor → Option (Located × Cursor)
  | 0, _ => none
  | steps + 1, cursor =>
    let cursor := cursor.skipBlanks
    match cursor.rest with
    | [] => none
    | c :: rest =>
      if c == Quoted.mark then do
        let (text, next) ← string? (cursor.onLine rest 1)
        return (.scalar ⟨cursor.position, next.position⟩ (text.map .str), next)
      else if c == '[' then do
        let (items, next) ← items? steps true (cursor.onLine rest 1)
        return (.list ⟨cursor.position, next.position⟩ items, next)
      else if c == '\x7b' then do
        let (entries, next) ← entries? steps true (cursor.onLine rest 1)
        return (.object ⟨cursor.position, next.position⟩ entries, next)
      else scalar? cursor

/-- The items of a list up to its closing bracket, which may stand at once only if no item was
read yet. -/
def items? : Nat → Bool → Cursor → Option (List Located × Cursor)
  | 0, _, _ => none
  | steps + 1, opening, cursor =>
    let cursor := cursor.skipBlanks
    match opening, cursor.rest with
    | _, ']' :: rest => some ([], cursor.onLine rest 1)
    | true, _ => itemThen? steps cursor
    | false, ',' :: rest => itemThen? steps (cursor.onLine rest 1)
    | false, _ => none

/-- An item of a list, and the items after it. -/
def itemThen? : Nat → Cursor → Option (List Located × Cursor)
  | 0, _ => none
  | steps + 1, cursor => do
    let (item, cursor) ← value? steps cursor
    let (items, cursor) ← items? steps false cursor
    return (item :: items, cursor)

/-- The entries of an object up to its closing brace, which may stand at once only if no entry was
read yet. -/
def entries? : Nat → Bool → Cursor → Option (List (Entry Located) × Cursor)
  | 0, _, _ => none
  | steps + 1, opening, cursor =>
    let cursor := cursor.skipBlanks
    match opening, cursor.rest with
    | _, '\x7d' :: rest => some ([], cursor.onLine rest 1)
    | true, _ => entryThen? steps cursor
    | false, ',' :: rest => entryThen? steps (cursor.onLine rest 1)
    | false, _ => none

/-- An entry of an object, and the entries after it. -/
def entryThen? : Nat → Cursor → Option (List (Entry Located) × Cursor)
  | 0, _ => none
  | steps + 1, cursor => do
    let cursor := cursor.skipBlanks
    match cursor.rest with
    | [] => none
    | c :: rest =>
      if c == Quoted.mark then
        let (key, next) ← string? (cursor.onLine rest 1)
        let keyStop := next.position
        let colon := next.skipBlanks
        match colon.rest with
        | ':' :: rest =>
          let (value, next) ← value? steps (colon.onLine rest 1)
          let next := next.skipBlanks
          let (entries, last) ← entries? steps false next
          return (⟨key, keyStop, colon.position, value, next.position⟩ :: entries, last)
        | _ => none
      else none

end

end JsonText

/-- The value at the start of a text; what follows it is left unread. -/
def Located.read? (text : String) : Option Located :=
  let cursor := Cursor.ofText text
  (JsonText.value? (4 * cursor.rest.length + 4) cursor).map (·.1)

/-- The JSON value at the start of a text. -/
def Json.read? (text : String) : Option Json :=
  (Located.read? text).bind Located.toJson?

end SchemaTypings
