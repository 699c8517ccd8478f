import SchemaTypings.Text.CodePointRun

/-!
# Identifiers

An identifier is a letter, underscore or dollar sign, followed by any number of those and of digits,
all of ASCII. `Name.sanitize` makes one of any text; its result never begins with a dollar sign.
-/

namespace SchemaTypings.Name

/-- A character that an identifier may begin with. -/
def startsIdentifier (c : Char) : Bool :=
  c.isAlpha || c == '_' || c == '$'

/-- A character that may stand in an identifier. -/
def continuesIdentifier (c : Char) : Bool :=
  startsIdentifier c || c.isDigit

def isIdentifierChars : List Char → Bool
  | [] => false
  | c :: rest => startsIdentifier c && rest.all continuesIdentifier

/-- Whether the text can be written bare as an identifier or a property key. -/
def isIdentifier (text : String) : Bool :=
  isIdentifierChars text.toList

/-- The character, if an identifier may hold it, else an underscore. -/
def identifierChar (c : Char) : Char :=
  if continuesIdentifier c then c else '_'

/-- An underscore in front of anything that begins with neither a letter nor an underscore. -/
def guardStart : List Char → List Char
  | [] => ['_']
  | c :: rest => if c.isAlpha || c == '_' then c :: rest else '_' :: c :: rest

/-- The identifier made of a text: an underscore stands for each character that may not stand in
one, and in front where the first character may not begin one. -/
def sanitizeChars (cs : List Char) : List Char :=
  guardStart (cs.map identifierChar)

def sanitize (text : String) : String :=
  String.ofList (sanitizeChars text.toList)

theorem startsIdentifier_of_guard {c : Char} (h : (c.isAlpha || c == '_') = true) :
    startsIdentifier c = true := by
  simp only [startsIdentifier, Bool.or_eq_true] at h ⊢
  exact Or.inl h

theorem continuesIdentifier_identifierChar (c : Char) :
    continuesIdentifier (identifierChar c) = true := by
  unfold identifierChar
  split
  · assumption
  · decide

theorem all_continuesIdentifier_map (cs : List Char) :
    (cs.map identifierChar).all continuesIdentifier = true := by
  simp [List.all_eq_true, continuesIdentifier_identifierChar]

theorem isIdentifierChars_guardStart {cs : List Char} (h : cs.all continuesIdentifier = true) :
    isIdentifierChars (guardStart cs) = true := by
  cases cs with
  | nil => decide
  | cons c rest =>
    simp only [List.all_cons, Bool.and_eq_true] at h
    by_cases hc : (c.isAlpha || c == '_') = true
    · rw [guardStart, if_pos hc]
      simp [isIdentifierChars, startsIdentifier_of_guard hc, h.2]
    · rw [guardStart, if_neg hc]
      simp only [isIdentifierChars, List.all_cons, h.1, h.2, Bool.and_true]
      decide

theorem isIdentifierChars_sanitizeChars (cs : List Char) :
    isIdentifierChars (sanitizeChars cs) = true :=
  isIdentifierChars_guardStart (all_continuesIdentifier_map cs)

end SchemaTypings.Name
