import SchemaTypings.Lowering.Inline
import SchemaTypings.Proofs.Name.Pascal

/-!
# Type expressions that are identifiers

Hardly any type expression is an identifier: most hold a bracket, a blank or a quote. Those that are can be
told: built-in types, the literals `true`, `false` and `null`, and names that stand for themselves. What
holds of these holds of every expression that is an identifier (`IfIdentifier`).
-/

namespace SchemaTypings

open Lowering

/-- The text has the property if it is an identifier. -/
def Name.IfIdentifier (P : String → Prop) (text : String) : Prop :=
  isIdentifier text = true → P text

namespace Name

variable {P : String → Prop} {text : String}

/-- A text with a character that no identifier holds is none. -/
theorem ifIdentifier_of_mem {c : Char} (hc : continuesIdentifier c = false) (h : c ∈ text.toList) :
    IfIdentifier P text := by
  intro hidentifier
  rw [isIdentifier] at hidentifier
  cases hchars : text.toList with
  | nil => simp [hchars] at h
  | cons first rest =>
    rw [hchars, isIdentifierChars, Bool.and_eq_true] at hidentifier
    rw [hchars] at h
    have hcontinues : continuesIdentifier c = true := by
      rcases List.mem_cons.mp h with rfl | h
      · simp [continuesIdentifier, hidentifier.1]
      · exact List.all_eq_true.mp hidentifier.2 c h
    simp [hc] at hcontinues

/-- A text that begins with a character that begins no identifier is none. -/
theorem ifIdentifier_of_head {c : Char} {rest : List Char} (hc : startsIdentifier c = false)
    (h : text.toList = c :: rest) : IfIdentifier P text := by
  intro hidentifier
  rw [isIdentifier, h, isIdentifierChars, hc] at hidentifier
  cases hidentifier

end Name

namespace Typing

open Name

variable {P : String → Prop} {parts : List String}

theorem mem_intercalate {separator first second : String} {rest : List String} {c : Char}
    (h : c ∈ separator.toList) :
    c ∈ (String.intercalate separator (first :: second :: rest)).toList := by
  rw [String.toList_intercalate]
  simp [List.intercalate, h]

/-- Parts that are joined with a blank between them make no identifier, unless there is only one. -/
theorem ifIdentifier_intercalate {separator : String} (hblank : ' ' ∈ separator.toList)
    (h : ∀ part, parts = [part] → IfIdentifier P part) :
    IfIdentifier P (String.intercalate separator parts) := by
  match parts with
  | [] =>
    intro hidentifier
    cases hidentifier
  | [part] => exact h part rfl
  | first :: second :: rest => exact ifIdentifier_of_mem (by decide) (mem_intercalate hblank)

theorem ifIdentifier_union (h : ∀ part ∈ parts, IfIdentifier P part) :
    IfIdentifier P (union parts) := by
  refine ifIdentifier_intercalate (by decide) ?_
  intro part hpart
  have hmem : part ∈ parts.eraseDups := by simp [hpart]
  exact h part (List.mem_eraseDups.mp hmem)

theorem ifIdentifier_intersection (h : ∀ part ∈ parts, IfIdentifier P part) :
    IfIdentifier P (intersection parts) := by
  unfold intersection
  split
  · exact h _ List.mem_cons_self
  · rename_i hparts
    refine ifIdentifier_intercalate (by decide) ?_
    intro part hpart
    obtain ⟨single, hsingle, -⟩ := List.map_eq_singleton_iff.mp hpart
    exact absurd hsingle (hparts single)

theorem ifIdentifier_makeNullable (options : Options) {base : String} (h : IfIdentifier P base) :
    IfIdentifier P (makeNullable options base) := by
  unfold makeNullable
  dsimp only
  split
  · exact h
  · split
    · exact h
    · refine ifIdentifier_of_mem (c := ' ') (by decide) ?_
      simp [toString]

theorem ifIdentifier_arrayOf (options : Options) (element : String) :
    IfIdentifier P (arrayOf options element) := by
  unfold arrayOf
  split
  · exact ifIdentifier_of_mem (c := '<') (by decide) (by simp [toString])
  · exact ifIdentifier_of_mem (c := '[') (by decide) (by simp [toString])

theorem ifIdentifier_mapOf (options : Options) (value : String) :
    IfIdentifier P (mapOf options value) := by
  unfold mapOf
  split
  · exact ifIdentifier_of_mem (c := '<') (by decide) (by simp [toString])
  · exact ifIdentifier_of_mem (c := ' ') (by decide) (by simp [toString])

end Typing

/-! ## Words and literals -/

namespace Name

/-- The text begins with a small letter. -/
def beginsSmall (text : String) : Bool :=
  text.toList.head?.any (·.isLower)

/-- No type name begins with a small letter. -/
theorem not_beginsSmall_pascal (name : String) : beginsSmall (pascal name) = false := by
  obtain ⟨first, rest, hname, hsmall, -⟩ := head_pascal name
  simp [beginsSmall, hname, hsmall]

theorem startsIdentifier_of_isDigit {c : Char} (h : c.isDigit = true) :
    startsIdentifier c = false := by
  have hascii := Text.isAscii_of_isAlphanum (c := c) (by simp [Char.isAlphanum, h])
  exact Text.forall_ascii (P := fun c => c.isDigit = true → startsIdentifier c = false)
    (by decide +kernel) hascii h

end Name

namespace Typing

open Name

variable {P : String → Prop}

theorem ifIdentifier_repr (n : Int) : IfIdentifier P n.repr := by
  cases n with
  | ofNat n =>
    have hchars : (Int.ofNat n).repr.toList = Nat.toDigits 10 n := Nat.toList_repr
    cases hdigits : Nat.toDigits 10 n with
    | nil => exact absurd hdigits Nat.toDigits_ne_nil
    | cons first rest =>
      have hfirst : first ∈ Nat.toDigits 10 n := by simp [hdigits]
      have hdigit := Nat.isDigit_of_mem_toDigits (by decide) (by decide) hfirst
      exact ifIdentifier_of_head (startsIdentifier_of_isDigit hdigit) (hchars.trans hdigits)
  | negSucc n =>
    refine ifIdentifier_of_mem (c := '-') (by decide) ?_
    simp [Int.repr]

theorem point_mem_positional (digits : List Char) (exponent : Int) :
    '.' ∈ DecimalLayout.jsonText.positional digits exponent := by
  unfold DecimalLayout.positional
  split
  · simp
  · dsimp only
    split
    · simp [DecimalLayout.jsonText]
    · simp

theorem sign_mem_scientific (digits : List Char) (exponent : Int) :
    (if exponent < 0 then '-' else '+') ∈ DecimalLayout.scientific digits exponent := by
  unfold DecimalLayout.scientific
  simp

/-- A double is written with a point, or with a signed exponent. -/
theorem ifIdentifier_format (x : Binary64) : IfIdentifier P (DecimalLayout.jsonText.format x) := by
  have hmagnitude : ∀ digits exponent, ∃ c, continuesIdentifier c = false ∧
      c ∈ (if DecimalLayout.jsonText.isPositional exponent then
        DecimalLayout.jsonText.positional digits exponent
        else DecimalLayout.scientific digits exponent) := by
    intro digits exponent
    split
    · exact ⟨'.', by decide, point_mem_positional digits exponent⟩
    · refine ⟨_, ?_, sign_mem_scientific digits exponent⟩
      split <;> decide
  have htext : ∀ magnitude, (∃ c, continuesIdentifier c = false ∧ c ∈ magnitude) →
      IfIdentifier P (String.ofList (if x.negative then '-' :: magnitude else magnitude)) := by
    rintro magnitude ⟨c, hc, hmem⟩
    refine ifIdentifier_of_mem hc ?_
    rw [String.toList_ofList]
    cases x.negative with
    | true => exact List.mem_cons_of_mem _ hmem
    | false => exact hmem
  exact htext _ (hmagnitude _ _)

/-- The literals that are identifiers are `null`, `true` and `false`. -/
theorem ifIdentifier_literal (hsmall : ∀ word, beginsSmall word = true → P word) (value : Json) :
    IfIdentifier P value.literal := by
  unfold Json.literal
  cases value with
  | null => exact fun _ => hsmall _ (by rw [Json.compact]; decide)
  | bool b => cases b <;> exact fun _ => hsmall _ (by rw [Json.compact]; decide)
  | int n =>
    rw [Json.compact]
    exact ifIdentifier_repr n
  | float x =>
    rw [Json.compact]
    exact ifIdentifier_format x
  | str s =>
    rw [Json.compact]
    refine ifIdentifier_of_mem (c := '\x22') (by decide) ?_
    simp [quoted, Quoted.encode, Quoted.mark]
  | arr items =>
    rw [Json.compact]
    exact ifIdentifier_of_mem (c := '[') (by decide) (by simp)
  | obj members =>
    rw [Json.compact]
    exact ifIdentifier_of_mem (c := '\x7b') (by decide) (by simp)

end Typing

end SchemaTypings
