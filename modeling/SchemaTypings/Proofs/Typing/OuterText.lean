import Mathlib.Data.List.Basic
import SchemaTypings.Proofs.Json.Quoted
import SchemaTypings.Typing.Expression

/-!
# What stands outside brackets and quotes

A text of bare characters, quoted texts and bracketed parts reads in one way only: `Outside` says which of
its characters stand outside, and `outerText` finds them. A quoted text is one that `quoted` writes, with the
escapes of JSON.

The search for operators takes a quote for the end of a quoted text unless a backslash stands before it,
which may itself be escaped. So it finds the operators outside if none of the quoted texts ends in a backslash
(`Outside.needsParens_eq`), and reads on as if within quotes after one that does
(`hasOuterOperator_quoted`).
-/

namespace SchemaTypings.Typing

open Quoted (mark escape escape_cases toList_quoted)

/-- The opening brackets, with those that close them. -/
def brackets : List (Char × Char) :=
  [('\x7b', '\x7d'), ('(', ')'), ('[', ']'), ('<', '>')]

/-- A character that is no quote and no bracket. The sign of equality is left out, so that there are no
arrows. -/
def isBare (c : Char) : Bool :=
  c != mark && c != '=' && !brackets.any (·.1 == c) && !brackets.any (·.2 == c)

/-- `Outside quotes text outer`: the text is one of bare characters, quoted texts and bracketed parts, with
`outer` outside of these. `quotes` says what is quoted. -/
inductive Outside (quotes : String → Prop) : List Char → List Char → Prop
  | nil : Outside quotes [] []
  | bare {c : Char} {rest outer : List Char} (hc : isBare c = true) (h : Outside quotes rest outer) :
    Outside quotes (c :: rest) (c :: outer)
  | quoted {text : String} {rest outer : List Char} (htext : quotes text)
    (h : Outside quotes rest outer) : Outside quotes ((quoted text).toList ++ rest) outer
  | bracketed {pair : Char × Char} {inner hidden rest outer : List Char} (hpair : pair ∈ brackets)
    (hinner : Outside quotes inner hidden) (h : Outside quotes rest outer) :
    Outside quotes (pair.1 :: inner ++ pair.2 :: rest) outer

/-! ## One reading -/

/-- Where a character stands: in no quoted text, within one, or after a backslash within one. -/
inductive Place where
  | code
  | quoted
  | escaped
  deriving DecidableEq, Repr

/-- The characters outside, where `depth` brackets are open. -/
def outerChars : Nat → Place → List Char → List Char
  | _, _, [] => []
  | depth, .escaped, _ :: rest => outerChars depth .quoted rest
  | depth, .quoted, c :: rest =>
    outerChars depth (if c == '\\' then .escaped else if c == mark then .code else .quoted) rest
  | depth, .code, c :: rest =>
    if c == mark then outerChars depth .quoted rest
    else if brackets.any (·.1 == c) then outerChars (depth + 1) .code rest
    else if brackets.any (·.2 == c) then outerChars (depth - 1) .code rest
    else if depth == 0 then c :: outerChars depth .code rest
    else outerChars depth .code rest

/-- The characters of the text that stand outside brackets and quotes. -/
def outerText (text : String) : List Char :=
  outerChars 0 .code text.toList

theorem outerChars_plain (depth : Nat) {plain : List Char} (h : ∀ c ∈ plain, c ≠ mark ∧ c ≠ '\\')
    (rest : List Char) : outerChars depth .quoted (plain ++ rest) = outerChars depth .quoted rest := by
  induction plain with
  | nil => rfl
  | cons c others ih =>
    rw [List.forall_mem_cons] at h
    rw [List.cons_append, outerChars, if_neg (by simpa using h.1.2), if_neg (by simpa using h.1.1), ih h.2]

theorem outerChars_escape (depth : Nat) (c : Char) (rest : List Char) :
    outerChars depth .quoted (escape c ++ rest) = outerChars depth .quoted rest := by
  rcases escape_cases c with ⟨hescape, hc⟩ | ⟨second, others, hescape, hothers, -⟩
  · rw [hescape]
    exact outerChars_plain depth (by simpa using hc) rest
  · rw [hescape]
    exact outerChars_plain depth hothers rest

theorem outerChars_quoted (depth : Nat) (text : String) (rest : List Char) :
    outerChars depth .code ((quoted text).toList ++ rest) = outerChars depth .code rest := by
  have hwithin : ∀ cs : List Char, outerChars depth .quoted (cs.flatMap escape ++ (mark :: rest)) =
      outerChars depth .code rest := by
    intro cs
    induction cs with
    | nil => rfl
    | cons c others ih => rw [List.flatMap_cons, List.append_assoc, outerChars_escape, ih]
  rw [toList_quoted, List.cons_append, List.append_assoc, ← hwithin text.toList]
  rfl

theorem eq_bracket {pair : Char × Char} (h : pair ∈ brackets) :
    pair = ('\x7b', '\x7d') ∨ pair = ('(', ')') ∨ pair = ('[', ']') ∨ pair = ('<', '>') := by
  simpa [brackets] using h

theorem isBare_iff {c : Char} : isBare c = true ↔
    c ≠ mark ∧ c ≠ '=' ∧ brackets.any (·.1 == c) = false ∧ brackets.any (·.2 == c) = false := by
  simp only [isBare, Bool.and_eq_true, bne_iff_ne, Bool.not_eq_true', and_assoc]

namespace Outside

variable {quotes : String → Prop} {text outer : List Char}

theorem outerChars_append (h : Outside quotes text outer) (depth : Nat) (rest : List Char) :
    outerChars depth .code (text ++ rest) =
      (if depth = 0 then outer else []) ++ outerChars depth .code rest := by
  induction h generalizing depth rest with
  | nil => simp
  | @bare c _ _ hc _ ih =>
    obtain ⟨hmark, -, hopen, hclose⟩ := isBare_iff.mp hc
    rw [List.cons_append, outerChars, if_neg (by simpa using hmark)]
    simp only [hopen, hclose, Bool.false_eq_true, if_false, ih]
    cases depth <;> simp
  | quoted _ _ ih => rw [List.append_assoc, outerChars_quoted, ih]
  | @bracketed pair inner _ others _ hpair _ _ ihinner ih =>
    have hopen : ∀ cs, outerChars depth .code (pair.1 :: cs) = outerChars (depth + 1) .code cs := by
      rcases eq_bracket hpair with rfl | rfl | rfl | rfl <;> exact fun _ => rfl
    have hclose : ∀ cs, outerChars (depth + 1) .code (pair.2 :: cs) = outerChars depth .code cs := by
      rcases eq_bracket hpair with rfl | rfl | rfl | rfl <;> exact fun _ => rfl
    rw [List.append_assoc, List.cons_append, hopen, ihinner, if_neg (Nat.succ_ne_zero depth),
      List.nil_append, List.cons_append, hclose, ih]

/-- What stands outside stands in the text. -/
theorem mem_text (h : Outside quotes text outer) {c : Char} (hc : c ∈ outer) : c ∈ text := by
  induction h with
  | nil => exact hc
  | bare _ _ ih =>
    rcases List.mem_cons.mp hc with rfl | hc
    · exact List.mem_cons_self
    · exact List.mem_cons_of_mem _ (ih hc)
  | quoted _ _ ih => exact List.mem_append_right _ (ih hc)
  | bracketed _ _ _ _ ih => exact List.mem_append_right _ (List.mem_cons_of_mem _ (ih hc))

/-- There is one reading, and `outerChars` finds it. -/
theorem eq_outerChars (h : Outside quotes text outer) : outer = outerChars 0 .code text := by
  have happend := h.outerChars_append 0 []
  rw [List.append_nil, if_pos rfl] at happend
  exact ((List.append_nil outer).symm.trans happend.symm)

end Outside

/-! ## The search for operators -/

def isOperator (c : Char) : Bool :=
  c == '|' || c == '&'

def endsInBackslash (text : String) : Bool :=
  text.toList.getLast? == some '\\'

theorem hasOuterOperator_plain (depth : Int) (before : Char) {plain : List Char}
    (h : ∀ c ∈ plain, c ≠ mark) (rest : List Char) :
    hasOuterOperator depth true before (plain ++ rest) =
      hasOuterOperator depth true (plain.getLastD before) rest := by
  induction plain generalizing before with
  | nil => rfl
  | cons c others ih =>
    rw [List.forall_mem_cons] at h
    have hc : (c == '\x22') = false := beq_eq_false_iff_ne.mpr h.1
    rw [List.cons_append, hasOuterOperator, if_pos rfl, hc, List.getLastD_cons]
    exact ih c h.2

theorem hasOuterOperator_escape (depth : Int) (before c : Char) (rest : List Char) :
    ∃ last, (last == '\\') = (c == '\\') ∧ hasOuterOperator depth true before (escape c ++ rest) =
      hasOuterOperator depth true last rest := by
  rcases escape_cases c with ⟨hescape, hc⟩ | ⟨second, others, hescape, hothers, hlast⟩
  · refine ⟨c, rfl, ?_⟩
    rw [hescape]
    exact hasOuterOperator_plain depth before (by simpa using hc.1) rest
  · refine ⟨others.getLastD second, hlast, ?_⟩
    have hsecond : (!(second == '\x22' && '\\' != '\\')) = true := by simp
    have hlead : ∀ cs, hasOuterOperator depth true before ('\\' :: second :: cs) =
        hasOuterOperator depth true second cs := by
      intro cs
      have hbackslash : hasOuterOperator depth true before ('\\' :: second :: cs) =
          hasOuterOperator depth true '\\' (second :: cs) := rfl
      rw [hbackslash, hasOuterOperator, if_pos rfl, hsecond]
    rw [hescape, List.cons_append, List.cons_append, hlead]
    exact hasOuterOperator_plain depth second (fun d hd => (hothers d hd).1) rest

/-- A quoted text that ends in a backslash is taken to go on. -/
theorem hasOuterOperator_quoted (depth : Int) (before : Char) (text : String) (rest : List Char) :
    hasOuterOperator depth false before ((quoted text).toList ++ rest) =
      hasOuterOperator depth (endsInBackslash text) mark rest := by
  have hwithin : ∀ (cs : List Char) (before last : Char), (before == '\\') = (last == '\\') →
      hasOuterOperator depth true before (cs.flatMap escape ++ mark :: rest) =
        hasOuterOperator depth (cs.getLastD last == '\\') mark rest := by
    intro cs
    induction cs with
    | nil =>
      intro before last hlast
      rw [List.flatMap_nil, List.nil_append, hasOuterOperator, if_pos rfl, bne, hlast]
      simp [mark]
    | cons c others ih =>
      intro before last _
      obtain ⟨next, hnext, hscan⟩ := hasOuterOperator_escape depth before c (others.flatMap escape ++ mark :: rest)
      rw [List.flatMap_cons, List.append_assoc, hscan, List.getLastD_cons]
      exact ih next c hnext
  have hlast : (text.toList.getLastD mark == '\\') = endsInBackslash text := by
    rw [endsInBackslash, List.getLastD_eq_getLast?]
    cases text.toList.getLast? <;> rfl
  rw [toList_quoted, List.cons_append, List.append_assoc, ← hlast, ← hwithin text.toList mark mark rfl]
  rfl

theorem hasOuterOperator_bare {c : Char} (hc : isBare c = true) (depth : Int) (before : Char)
    (rest : List Char) : hasOuterOperator depth false before (c :: rest) =
      (depth == 0 && isOperator c || hasOuterOperator depth false c rest) := by
  obtain ⟨hmark, -, hopen, hclose⟩ := isBare_iff.mp hc
  have hno : c ≠ '\x7b' ∧ c ≠ '(' ∧ c ≠ '[' ∧ c ≠ '<' ∧ c ≠ '\x7d' ∧ c ≠ ')' ∧ c ≠ ']' ∧ c ≠ '>' := by
    simp only [brackets, List.any_cons, List.any_nil, Bool.or_false, Bool.or_eq_false_iff,
      beq_eq_false_iff_ne, ne_comm (b := c)] at hopen hclose
    exact ⟨hopen.1, hopen.2.1, hopen.2.2.1, hopen.2.2.2, hclose⟩
  have hquote : c ≠ '\x22' := hmark
  have hscan : hasOuterOperator depth false before (c :: rest) =
      if isOperator c && depth == 0 then true else hasOuterOperator depth false c rest := by
    simp [hasOuterOperator, hno, hquote, isOperator]
  rw [hscan, Bool.and_comm]
  cases depth == 0 && isOperator c <;> rfl

theorem hasOuterOperator_open {pair : Char × Char} (hpair : pair ∈ brackets) (depth : Int) (before : Char)
    (rest : List Char) : hasOuterOperator depth false before (pair.1 :: rest) =
      hasOuterOperator (depth + 1) false pair.1 rest := by
  rcases eq_bracket hpair with rfl | rfl | rfl | rfl <;> rfl

theorem hasOuterOperator_close {pair : Char × Char} (hpair : pair ∈ brackets) (depth : Int) {before : Char}
    (hbefore : before ≠ '=') (rest : List Char) : hasOuterOperator depth false before (pair.2 :: rest) =
      hasOuterOperator (depth - 1) false pair.2 rest := by
  have harrow : (before != '=') = true := bne_iff_ne.mpr hbefore
  rcases eq_bracket hpair with rfl | rfl | rfl | rfl
  · rfl
  · rfl
  · rfl
  · rw [hasOuterOperator, harrow]
    rfl

namespace Outside

variable {quotes : String → Prop} {text outer : List Char}

/-- Where no quoted text ends in a backslash, the search finds an operator outside, or goes on. -/
theorem hasOuterOperator_append (h : Outside quotes text outer)
    (hquotes : ∀ text, quotes text → endsInBackslash text = false) {depth : Int} (hdepth : 0 ≤ depth)
    {before : Char} (hbefore : before ≠ '=') (rest : List Char) :
    ∃ last, last ≠ '=' ∧ hasOuterOperator depth false before (text ++ rest) =
      (depth == 0 && outer.any isOperator || hasOuterOperator depth false last rest) := by
  induction h generalizing depth before rest with
  | nil => exact ⟨before, hbefore, by simp⟩
  | @bare c others outer hc _ ih =>
    obtain ⟨-, hequals, -, -⟩ := isBare_iff.mp hc
    obtain ⟨last, hlast, hrest⟩ := ih hdepth hequals rest
    refine ⟨last, hlast, ?_⟩
    rw [List.cons_append, hasOuterOperator_bare hc, hrest, List.any_cons, Bool.and_or_distrib_left,
      Bool.or_assoc]
  | @quoted text others outer htext _ ih =>
    obtain ⟨last, hlast, hrest⟩ := ih hdepth (by decide : mark ≠ '=') rest
    refine ⟨last, hlast, ?_⟩
    rw [List.append_assoc, hasOuterOperator_quoted, hquotes text htext, hrest]
  | @bracketed pair inner hidden others outer hpair _ _ ihinner ih =>
    have hsides : pair.1 ≠ '=' ∧ pair.2 ≠ '=' := by
      rcases eq_bracket hpair with rfl | rfl | rfl | rfl <;> decide
    obtain ⟨within, hwithin, hinner⟩ := ihinner (by omega : 0 ≤ depth + 1) hsides.1 (pair.2 :: (others ++ rest))
    obtain ⟨last, hlast, hrest⟩ := ih hdepth hsides.2 rest
    refine ⟨last, hlast, ?_⟩
    have hdeeper : (depth + 1 == 0) = false := beq_eq_false_iff_ne.mpr (by omega)
    rw [List.append_assoc, List.cons_append, hasOuterOperator_open hpair, List.cons_append, hinner, hdeeper,
      Bool.false_and, Bool.false_or, hasOuterOperator_close hpair _ hwithin, Int.add_sub_cancel, hrest]

/-- An expression has to be put in parentheses exactly if an operator stands outside. -/
theorem needsParens_eq {expr : String} (h : Outside quotes expr.toList outer)
    (hquotes : ∀ text, quotes text → endsInBackslash text = false) :
    needsParens expr = outer.any isOperator := by
  obtain ⟨last, -, hscan⟩ := h.hasOuterOperator_append hquotes (Int.le_refl 0) (by decide : '\x00' ≠ '=') []
  rw [List.append_nil] at hscan
  rw [needsParens, hscan, hasOuterOperator, Bool.or_false]
  rfl

end Outside

end SchemaTypings.Typing
