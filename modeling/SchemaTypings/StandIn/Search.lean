import SchemaTypings.Files.Access
import SchemaTypings.Files.Path

/-!
# A stand-in for the search for paths

A run leaves the search for the paths that match a pattern to another program (`Command.Tools`). What stands in
for it here goes through the directories that it is given access to.

In a pattern `?` stands for one character, `*` for any number of them, and a set in brackets for one
character of it, or for one outside it if it begins with `!`. The name `**` stands for any number of
directories. Everything else stands for itself, braces too. A search goes part by part: a part without wildcard
is followed directly; for any other part the names in the directory are looked at in ascending order. A part
that stands for any number of directories gives what follows it a chance in a directory before those below it.
-/

namespace SchemaTypings

/-- One element of a set of characters. -/
structure CharRange where
  first : Char
  last : Char
  deriving DecidableEq, Repr

namespace CharRange

def contains (range : CharRange) (c : Char) : Bool :=
  range.first ≤ c && c ≤ range.last

/-- The ranges written in a set: a character alone, or two with a hyphen between them. -/
def ofSet : List Char → List CharRange
  | first :: '-' :: last :: rest => ⟨first, last⟩ :: ofSet rest
  | c :: rest => ⟨c, c⟩ :: ofSet rest
  | [] => []

end CharRange

/-- A part of a pattern. -/
inductive Wildcard where
  | char (c : Char)
  | anyChar
  | anyOf (ranges : List CharRange)
  | noneOf (ranges : List CharRange)
  | anyText
  | anyDirectories
  deriving DecidableEq, Repr

namespace Wildcard

/-- Whether one character fits; what stands for several is no match for one. -/
def fits : Wildcard → Char → Bool
  | char expected, c => expected == c
  | anyChar, _ => true
  | anyOf ranges, c => ranges.any (·.contains c)
  | noneOf ranges, c => !ranges.any (·.contains c)
  | anyText, _ => false
  | anyDirectories, _ => false

/-- Whether any number of characters fits. -/
def isText : Wildcard → Bool
  | anyText => true
  | anyDirectories => true
  | _ => false

/-- The character that stands for itself. -/
def char? : Wildcard → Option Char
  | char c => some c
  | _ => none

end Wildcard

/-- What is wrong with a pattern. -/
inductive PatternFault where
  | manyStars
  | notAlone
  | badSet
  deriving DecidableEq, Repr

/-- What the text of an error says of a fault. -/
def PatternFault.message : PatternFault → String
  | manyStars => "wildcards are either regular \x60*\x60 or recursive \x60**\x60"
  | notAlone => "recursive wildcards must form a single path component"
  | badSet => "invalid range pattern"

/-- A fault of a pattern, and where it is. -/
structure PatternError where
  position : Nat
  fault : PatternFault
  deriving DecidableEq, Repr

def PatternError.message (error : PatternError) : String :=
  s!"Pattern syntax error near position {error.position}: {error.fault.message}"

/-- A pattern of texts. -/
structure Pattern where
  wildcards : List Wildcard
  deriving DecidableEq, Repr

namespace Pattern

/-- The characters up to the closing bracket of a set, and what follows it. The first character
belongs to the set whatever it is. -/
def set? : List Char → Option (List Char × List Char)
  | [] => none
  | first :: rest =>
    match rest.dropWhile (· != ']') with
    | _ :: after => some (first :: rest.takeWhile (· != ']'), after)
    | [] => none

/-- The wildcard of a set in brackets, after the opening bracket, and what follows it. -/
def bracket? : List Char → Option (Wildcard × List Char)
  | '!' :: rest => (set? rest).map fun (set, after) => (.noneOf (CharRange.ofSet set), after)
  | cs => (set? cs).map fun (set, after) => (.anyOf (CharRange.ofSet set), after)

/-- The wildcard of the stars at the start of `cs`, which stand at `position` after the character
`before`, and what follows them. -/
def stars? (position : Nat) (before : Option Char) (cs : List Char) :
    Except PatternError (Wildcard × List Char) :=
  let after := cs.dropWhile (· == '*')
  match (cs.takeWhile (· == '*')).length with
  | 1 => .ok (.anyText, after)
  | 2 =>
    if before.all (· == '/') then
      match after with
      | [] => .ok (.anyDirectories, [])
      | '/' :: rest => .ok (.anyDirectories, rest)
      | _ => .error ⟨position + 2, .notAlone⟩
    else .error ⟨position - 1, .notAlone⟩
  | _ => .error ⟨position + 2, .manyStars⟩

/-- The wildcards of the text `cs`, which stands at `position` after the character `before`, none of
it being left after as many steps as it has characters. -/
def wildcards? : Nat → Nat → Option Char → List Char → Except PatternError (List Wildcard)
  | _, _, _, [] => .ok []
  | 0, _, _, _ => .ok []
  | steps + 1, position, before, c :: rest => do
    let (wildcard, after) ←
      if c == '?' then .ok (.anyChar, rest)
      else if c == '*' then stars? position before (c :: rest)
      else if c == '[' then
        match bracket? rest with
        | some found => .ok found
        | none => .error ⟨position, .badSet⟩
      else .ok (.char c, rest)
    let read := (c :: rest).length - after.length
    let last := ((c :: rest).take read).getLast?
    return wildcard :: (← wildcards? steps (position + read) last after)

def ofText (text : String) : Except PatternError Pattern :=
  (wildcards? text.length 0 none text.toList).map (⟨·⟩)

/-- Whether the wildcards match the text. -/
def matchesFrom : List Wildcard → List Char → Bool
  | [], cs => cs.isEmpty
  | wildcard :: rest, cs =>
    if wildcard.isText then Text.someEnd (matchesFrom rest) cs
    else match cs with
      | [] => false
      | c :: more => wildcard.fits c && matchesFrom rest more

def matchesName (pattern : Pattern) (name : String) : Bool :=
  matchesFrom pattern.wildcards name.toList

/-- Whether the pattern stands for any number of directories. -/
def isDeep (pattern : Pattern) : Bool :=
  pattern.wildcards.contains .anyDirectories

/-- The only text that the pattern matches, if there is no wildcard in it. -/
def literal? (pattern : Pattern) : Option String :=
  (pattern.wildcards.mapM Wildcard.char?).map String.ofList

def startsWithPoint (pattern : Pattern) : Bool :=
  pattern.wildcards.head? == some (.char '.')

end Pattern

/-! ## Searching -/

/-- What a search looks for: patterns for the parts of a path, which may have to end at a directory. -/
structure Search where
  start : String
  parts : List Pattern
  directoriesOnly : Bool

namespace Search

/-- The search for a pattern of paths. -/
def ofPattern (text : String) : Except PatternError Search := do
  let _ ← Pattern.ofText text
  let absolute := text.startsWith "/"
  let names := Path.parts (if absolute then (text.drop 1).toString else text)
  let names := if names.getLast? == some "" then names.dropLast else names
  return {
    start := if absolute then "/" else "."
    parts := ← names.mapM Pattern.ofText
    directoriesOnly := text.endsWith "/" }

/-- The path of a name in a directory; the current directory is left out. -/
def within (path name : String) : String :=
  if Path.isHere path then name else Path.join path name

/-- The greatest number of bytes in a path, and so a bound on the directories on the way. -/
def longestPath : Nat := 4096

/-- The order in which the names in a directory are looked at. -/
def ascending (names : List String) : List String :=
  names.mergeSort fun a b => a ≤ b

variable {m : Type → Type} [Monad m]

/-- The paths to a place that is known to match. -/
def accepted (files : FileAccess m) (directoriesOnly : Bool) (path : String) : m (List String) := do
  if directoriesOnly then return if ← files.isDirectory path then [path] else []
  else return [path]

/-- The entries of a directory that stand for itself and the one above, if a part means them. -/
def pointEntries (pattern : Pattern) : List String :=
  if pattern.startsWithPoint then ["..", "."].filter pattern.matchesName else []

mutual

/-- The matches of the parts in a directory, all steps of the way taken together being less
than `steps`. -/
def inDirectory (files : FileAccess m) (directoriesOnly : Bool) :
    Nat → List Pattern → String → m (Except FileError (List String))
  | 0, _, _ => return .ok []
  | _, [], path => return .ok (← accepted files directoriesOnly path)
  | steps + 1, pattern :: rest, path => do
    match pattern.literal? with
    | some name =>
      let next := within path name
      let follows ←
        if name == "." || name == ".." then files.isDirectory path else files.isPresent next
      if follows then inDirectory files directoriesOnly steps rest next else return .ok []
    | none =>
      if ← files.isDirectory path then
        match ← files.names path with
        | .error error => return .error error
        | .ok names =>
          let special ← (pointEntries pattern).mapM fun name =>
            inDirectory files directoriesOnly steps rest (Path.join path name)
          let found ← (ascending names).mapM fun name =>
            atEntry files directoriesOnly steps pattern rest (within path name) name
          return (special ++ found).mapM id |>.map List.flatten
      else return .ok []

/-- The matches of the parts at an entry of a directory. -/
def atEntry (files : FileAccess m) (directoriesOnly : Bool) :
    Nat → Pattern → List Pattern → String → String → m (Except FileError (List String))
  | 0, _, _, _, _ => return .ok []
  | steps + 1, pattern, rest, path, name => do
    if pattern.isDeep then
      let directory ← files.isDirectory path
      let rest := rest.dropWhile Pattern.isDeep
      let here ← match rest with
        | [] => pure (.ok (if directory then [path] else []))
        | next :: others => named files directoriesOnly steps next others path name
      let below ←
        if directory then inDirectory files directoriesOnly steps (pattern :: rest) path
        else pure (.ok [])
      return do return (← here) ++ (← below)
    else named files directoriesOnly steps pattern rest path name

/-- The matches of the parts at an entry whose name the first part has to match. -/
def named (files : FileAccess m) (directoriesOnly : Bool) :
    Nat → Pattern → List Pattern → String → String → m (Except FileError (List String))
  | 0, _, _, _, _ => return .ok []
  | steps + 1, pattern, rest, path, name =>
    if pattern.matchesName name then inDirectory files directoriesOnly steps rest path
    else return .ok []

end

def run (files : FileAccess m) (search : Search) : m (Except FileError (List String)) :=
  inDirectory files search.directoriesOnly (3 * (search.parts.length + longestPath)) search.parts
    search.start

end Search

end SchemaTypings
