/-!
# Type expressions

A type expression is text. `union` and `intersection` join expressions, and an expression with an
operator outside all brackets and strings is put in parentheses where it would bind wrongly.
-/

namespace SchemaTypings.Typing

/-- The type of every value. -/
def topType : String := "unknown"

/-- The type of no value. -/
def bottomType : String := "never"

/-- Whether an operator stands outside all brackets and strings. `depth` counts the brackets that
are open, `quoted` says whether a string is, and `before` is the character just read; the `>` of an
arrow closes no bracket. -/
def hasOuterOperator (depth : Int) (quoted : Bool) (before : Char) : List Char → Bool
  | [] => false
  | c :: rest =>
    if quoted then
      hasOuterOperator depth (!(c == '\x22' && before != '\\')) c rest
    else if c == '\x22' then hasOuterOperator depth true c rest
    else if c == '\x7b' || c == '(' || c == '[' || c == '<' then
      hasOuterOperator (depth + 1) false c rest
    else if c == '\x7d' || c == ')' || c == ']' || (c == '>' && before != '=') then
      hasOuterOperator (depth - 1) false c rest
    else if (c == '|' || c == '&') && depth == 0 then true
    else hasOuterOperator depth false c rest

/-- Whether the expression must be put in parentheses before it is used as an operand. -/
def needsParens (expr : String) : Bool :=
  hasOuterOperator 0 false '\x00' expr.toList

def parenthesize (expr : String) : String :=
  if needsParens expr then s!"({expr})" else expr

/-- The union of the expressions, each one once, in the order in which they first occur. -/
def union (parts : List String) : String :=
  String.intercalate " | " parts.eraseDups

/-- An expression as a part of an intersection. -/
def intersectionPart (part : String) : String :=
  if part.toList.contains '|' then parenthesize part else part

/-- The intersection of the expressions. -/
def intersection : List String → String
  | [part] => part
  | parts => String.intercalate " & " (parts.map intersectionPart)

end SchemaTypings.Typing
