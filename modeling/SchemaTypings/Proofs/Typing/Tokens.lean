import SchemaTypings.Typing.Declaration

/-!
# Tokens of declarations

The text of a declaration is read as tokens: words, signs and quoted texts; blanks and comments are none. A
word holds the dots of the accesses in it, so that a member of an object is no word of its own. The holes of
template texts are read as code again.

The functions and arrays generated beside a type refer to one another by names that are made of the name of
the type: `isUser`, `parseUser`, `matchUser`, `UserValues`. Which of these a text calls or reads is seen from
its tokens (`Declaration.companions`).
-/

namespace SchemaTypings.Typing

/-- A token. Nothing is known of a quoted text but that it stands there. -/
inductive Token where
  | word (cs : List Char)
  | sign (c : Char)
  | text
  deriving DecidableEq, Repr

/-- What the next character stands in. -/
inductive Lexer.Mode where
  /-- Between tokens. -/
  | code
  /-- A word with the characters so far. -/
  | word (cs : List Char)
  /-- What follows a slash, which may begin a comment. -/
  | slash
  /-- A text that ends with the mark. -/
  | text (mark : Char)
  /-- What follows a backslash within a text. -/
  | escape (mark : Char)
  /-- What follows a dollar sign within a template. -/
  | dollar
  /-- A comment that ends with a star and a slash. -/
  | comment
  /-- What follows a star within such a comment. -/
  | star
  /-- A comment that ends with the line. -/
  | line
  deriving DecidableEq, Repr

/-- What is known of the characters read so far. For each hole of a template that is open there is a number
of braces that are open within it. -/
structure Lexer where
  mode : Lexer.Mode := .code
  holes : List Nat := []
  deriving DecidableEq, Repr

namespace Lexer

def backtick : Char := '\x60'

def isWordChar (c : Char) : Bool :=
  Name.continuesIdentifier c || c == '.'

def isBlank (c : Char) : Bool :=
  c == ' ' || c == '\n'

def isMark (c : Char) : Bool :=
  c == '\x22' || c == '\x27' || c == backtick

/-- A brace is opened within the innermost hole. -/
def openBrace : List Nat → List Nat
  | [] => []
  | depth :: holes => (depth + 1) :: holes

/-- A brace closes another one, or the innermost hole. -/
def closeBrace : List Nat → Lexer
  | [] => ⟨.code, []⟩
  | 0 :: holes => ⟨.text backtick, holes⟩
  | (depth + 1) :: holes => ⟨.code, depth :: holes⟩

/-- A character between tokens. -/
def readCode (holes : List Nat) (c : Char) : Lexer × List Token :=
  if isWordChar c then (⟨.word [c], holes⟩, [])
  else if isBlank c then (⟨.code, holes⟩, [])
  else if isMark c then (⟨.text c, holes⟩, [.text])
  else if c == '/' then (⟨.slash, holes⟩, [])
  else if c == '\x7b' then (⟨.code, openBrace holes⟩, [.sign c])
  else if c == '\x7d' then (closeBrace holes, [.sign c])
  else (⟨.code, holes⟩, [.sign c])

/-- A character within a text that ends with the mark. -/
def readText (mark : Char) (holes : List Nat) (c : Char) : Lexer :=
  if c == mark then ⟨.code, holes⟩
  else if c == '\\' then ⟨.escape mark, holes⟩
  else if c == '$' && mark == backtick then ⟨.dollar, holes⟩
  else ⟨.text mark, holes⟩

/-- The token is complete before what is read. -/
def after (token : Token) (read : Lexer × List Token) : Lexer × List Token :=
  (read.1, token :: read.2)

/-- A character is read, which completes up to two tokens. -/
def step : Lexer → Char → Lexer × List Token
  | ⟨.code, holes⟩, c => readCode holes c
  | ⟨.word cs, holes⟩, c =>
    if isWordChar c then (⟨.word (cs ++ [c]), holes⟩, []) else after (.word cs) (readCode holes c)
  | ⟨.slash, holes⟩, c =>
    if c == '*' then (⟨.comment, holes⟩, [])
    else if c == '/' then (⟨.line, holes⟩, [])
    else after (.sign '/') (readCode holes c)
  | ⟨.text mark, holes⟩, c => (readText mark holes c, [])
  | ⟨.escape mark, holes⟩, _ => (⟨.text mark, holes⟩, [])
  | ⟨.dollar, holes⟩, c =>
    if c == '\x7b' then (⟨.code, 0 :: holes⟩, []) else (readText backtick holes c, [])
  | ⟨.comment, holes⟩, c => (⟨if c == '*' then .star else .comment, holes⟩, [])
  | ⟨.star, holes⟩, c =>
    (⟨if c == '/' then .code else if c == '*' then .star else .comment, holes⟩, [])
  | ⟨.line, holes⟩, c => (⟨if c == '\n' then .code else .line, holes⟩, [])

/-- The characters are read one after another. -/
def run : Lexer → List Char → Lexer × List Token
  | lexer, [] => (lexer, [])
  | lexer, c :: cs =>
    let (next, first) := lexer.step c
    let (last, rest) := next.run cs
    (last, first ++ rest)

/-- The token that is complete at the end. -/
def pending (lexer : Lexer) : List Token :=
  match lexer.mode with
  | .word cs => [.word cs]
  | .slash => [.sign '/']
  | _ => []

/-- The tokens of a text. -/
def tokens (cs : List Char) : List Token :=
  let (last, read) := run {} cs
  read ++ last.pending

end Lexer

/-! ## Companions -/

/-- The word is a longer one than one of the leads, and begins with it. -/
def isLedBy (leads : List String) (cs : List Char) : Bool :=
  leads.any fun lead => lead.toList.isPrefixOf cs && lead.toList != cs

/-- A word that names a function that tells values of a type apart. -/
def namesGuard (cs : List Char) : Bool :=
  isLedBy ["is", "parse", "match"] cs

/-- A word that names the array of the values of a type. -/
def namesValues (cs : List Char) : Bool :=
  "Values".toList.isSuffixOf cs

/-- The companions that two tokens in a row refer to: a function that is called, an array that is read as a
value (`UserValues as readonly unknown[]`), or one whose type is asked for (`typeof UserValues`). -/
def Token.companions : Token → Token → List (List Char)
  | .word cs, .sign c => if (c == '(' || c == '<') && namesGuard cs then [cs] else []
  | .word cs, .word next =>
    (if next == "as".toList && namesValues cs then [cs] else [])
      ++ (if cs == "typeof".toList && namesValues next then [next] else [])
  | _, _ => []

/-- The companions that tokens refer to. -/
def companionsOf : List Token → List (List Char)
  | first :: second :: rest => first.companions second ++ companionsOf (second :: rest)
  | _ => []

/-- The companions that the text of a declaration calls or reads. -/
def Declaration.companions (declaration : Declaration) : List String :=
  (companionsOf (Lexer.tokens declaration.content.toList)).map String.ofList

example : (Declaration.mk "assertA" .function
    "function assertA(value: unknown): asserts value is A \x7b\n  if (!isA(value)) \x7b /* isB(value) */\n" []).companions =
      ["isA"] := by
  decide +kernel

/-! ## What tokens complete one another -/

namespace Token

/-- The token refers to no companion, whatever follows it. -/
def Plain (token : Token) : Prop :=
  ∀ next, token.companions next = []

theorem plain_sign (c : Char) : Plain (.sign c) :=
  fun _ => rfl

theorem plain_text : Plain .text :=
  fun _ => rfl

theorem plain_word {cs : List Char} (hguard : namesGuard cs = false) (hvalues : namesValues cs = false)
    (htypeof : cs ≠ "typeof".toList) : Plain (.word cs) := by
  intro next
  cases next with
  | word next =>
    have hcs : (cs == "typeof".toList) = false := beq_eq_false_iff_ne.mpr htypeof
    rw [companions, hvalues, hcs]
    simp
  | sign c => simp [companions, hguard]
  | text => rfl

end Token

theorem companionsOf_plain {before : Token} (h : before.Plain) (tokens : List Token) :
    companionsOf (before :: tokens) = companionsOf tokens := by
  cases tokens with
  | nil => rfl
  | cons next rest => rw [companionsOf, h next, List.nil_append]

/-- The companions that two runs of tokens refer to are those of the first one, and those of the second one
after the last token before it. -/
theorem companionsOf_append (before : Token) (first second : List Token) :
    companionsOf (before :: (first ++ second)) =
      companionsOf (before :: first) ++ companionsOf (first.getLastD before :: second) := by
  induction first generalizing before with
  | nil => rfl
  | cons next rest ih => rw [List.cons_append, companionsOf, ih, companionsOf, List.append_assoc,
      List.getLastD_cons]

namespace Lexer

theorem run_cons (lexer : Lexer) (c : Char) (cs : List Char) : lexer.run (c :: cs) =
    (((lexer.step c).1.run cs).1, (lexer.step c).2 ++ ((lexer.step c).1.run cs).2) := rfl

theorem run_append (lexer : Lexer) (first second : List Char) : lexer.run (first ++ second) =
    (((lexer.run first).1.run second).1,
      (lexer.run first).2 ++ ((lexer.run first).1.run second).2) := by
  induction first generalizing lexer with
  | nil => rfl
  | cons c cs ih =>
    rw [List.cons_append, run_cons, run_cons, ih, List.append_assoc]

end Lexer

end SchemaTypings.Typing
