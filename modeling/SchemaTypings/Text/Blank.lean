import SchemaTypings.Text.CodePointRun
import SchemaTypings.Text.Split

/-!
# Blanks and lines

White space in the sense of the Unicode property `White_Space`, the lines of a text, and lines
without the blanks at their end.
-/

namespace SchemaTypings.Text

/-- White space from U+0080 on. -/
def blankRuns : List CodePointRun := [
  ⟨0x85, 0x85, 1⟩, ⟨0xA0, 0xA0, 1⟩, ⟨0x1680, 0x1680, 1⟩, ⟨0x2000, 0x200A, 1⟩, ⟨0x2028, 0x2029, 1⟩,
  ⟨0x202F, 0x202F, 1⟩, ⟨0x205F, 0x205F, 1⟩, ⟨0x3000, 0x3000, 1⟩]

def isBlank (c : Char) : Bool :=
  if isAscii c then c == ' ' || ('\t' ≤ c && c ≤ '\x0d') else inRuns blankRuns c

/-- The text without the blanks at its end. -/
def trimEnd (cs : List Char) : List Char :=
  cs.reverse.dropWhile isBlank |>.reverse

/-- A line without the carriage return that may stand before its line feed. -/
def dropReturn (line : List Char) : List Char :=
  if line.getLast? == some '\r' then line.dropLast else line

/-- The lines of a text, without their ends. A line ends with a line feed, which a carriage return may
precede; what stands after the last line feed is a line unless it is empty. -/
def lines (cs : List Char) : List (List Char) :=
  let pieces := fields '\n' cs
  pieces.dropLast.map dropReturn ++ (pieces.getLast?.filter (!·.isEmpty)).toList

end SchemaTypings.Text
