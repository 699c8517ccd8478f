import SchemaTypings.Proofs.Name.Identifiers
import SchemaTypings.Proofs.Typing.OuterText
import SchemaTypings.Proofs.Typing.Resting

/-!
# Balanced texts

A text is balanced if it reads as bare characters, quoted texts and bracketed parts. Names and numbers are, and
so is what is joined of balanced texts; hence literals and type expressions. What is quoted in a literal are the
strings and the keys of its value (`Json.Quotes`).
-/

namespace SchemaTypings

/-- The text is one of the strings and keys in the value. -/
inductive Json.Quotes (text : String) : Json → Prop
  | string : Quotes text (.str text)
  | item {items : List Json} {item : Json} (hitem : item ∈ items) (h : Quotes text item) :
    Quotes text (.arr items)
  | key {members : List (String × Json)} {member : String × Json} (hmember : member ∈ members)
    (h : member.1 = text) : Quotes text (.obj members)
  | value {members : List (String × Json)} {member : String × Json} (hmember : member ∈ members)
    (h : Quotes text member.2) : Quotes text (.obj members)

namespace Typing

open Quoted (mark)

variable {quotes wider : String → Prop}

namespace Outside

variable {first second outer others : List Char}

theorem append (h : Outside quotes first outer) (h' : Outside quotes second others) :
    Outside quotes (first ++ second) (outer ++ others) := by
  induction h with
  | nil => exact h'
  | bare hc _ ih => exact .bare hc ih
  | quoted htext _ ih =>
    rw [List.append_assoc]
    exact .quoted htext ih
  | bracketed hpair hinner _ _ ih =>
    rw [List.append_assoc, List.cons_append]
    exact .bracketed hpair hinner ih

theorem mono (h : Outside quotes first outer) (hwider : ∀ text, quotes text → wider text) :
    Outside wider first outer := by
  induction h with
  | nil => exact .nil
  | bare hc _ ih => exact .bare hc ih
  | quoted htext _ ih => exact .quoted (hwider _ htext) ih
  | bracketed hpair _ _ ihinner ih => exact .bracketed hpair ihinner ih

theorem of_bare {cs : List Char} (h : cs.all isBare = true) : Outside quotes cs cs := by
  induction cs with
  | nil => exact .nil
  | cons c rest ih =>
    rw [List.all_cons, Bool.and_eq_true] at h
    exact .bare h.1 (ih h.2)

end Outside

/-- A property that no quote, bracket or sign of equality has is one of bare characters. -/
theorem isBare_of {P : Char → Bool} {c : Char} (h : P c = true) (hmark : P mark = false)
    (hequals : P '=' = false) (hbrackets : ∀ pair ∈ brackets, P pair.1 = false ∧ P pair.2 = false) :
    isBare c = true := by
  have hne : ∀ d, P d = false → c ≠ d := by
    rintro d hd rfl
    rw [h] at hd
    cases hd
  refine isBare_iff.mpr ⟨hne _ hmark, hne _ hequals, ?_, ?_⟩
  · refine List.any_eq_false.mpr fun pair hpair hc => ?_
    exact hne _ (hbrackets pair hpair).1 (beq_iff_eq.mp hc).symm
  · refine List.any_eq_false.mpr fun pair hpair hc => ?_
    exact hne _ (hbrackets pair hpair).2 (beq_iff_eq.mp hc).symm

/-- The text reads as bare characters, quoted texts and bracketed parts. -/
def Balanced (quotes : String → Prop) (text : String) : Prop :=
  ∃ outer, Outside quotes text.toList outer

namespace Balanced

variable {text separator : String} {parts : List String}

theorem outside (h : Balanced quotes text) : Outside quotes text.toList (outerText text) := by
  obtain ⟨outer, houter⟩ := h
  have hread : outer = outerText text := houter.eq_outerChars
  exact hread ▸ houter

theorem mono (h : Balanced quotes text) (hwider : ∀ text, quotes text → wider text) : Balanced wider text :=
  h.imp fun _ houter => houter.mono hwider

theorem of_bare (h : text.toList.all isBare = true) : Balanced quotes text :=
  ⟨_, .of_bare h⟩

theorem of_isIdentifier (h : Name.isIdentifier text = true) : Balanced quotes text := by
  refine of_bare (List.all_eq_true.mpr fun c hc => ?_)
  have hcontinues := List.all_eq_true.mp (Name.all_continuesIdentifier h) c hc
  exact isBare_of hcontinues (by decide) (by decide) (by decide)

theorem numeric (h : text.toList.all isNumeric = true) : Balanced quotes text := by
  refine of_bare (List.all_eq_true.mpr fun c hc => ?_)
  exact isBare_of (List.all_eq_true.mp h c hc) (by decide) (by decide) (by decide)

theorem quoted (htext : quotes text) : Balanced quotes (quoted text) := by
  refine ⟨[], ?_⟩
  rw [← List.append_nil (SchemaTypings.quoted text).toList]
  exact .quoted htext .nil

theorem append {other : String} (h : Balanced quotes text) (hother : Balanced quotes other) :
    Balanced quotes (text ++ other) := by
  obtain ⟨outer, houter⟩ := h
  obtain ⟨others, hothers⟩ := hother
  refine ⟨outer ++ others, ?_⟩
  rw [String.toList_append]
  exact houter.append hothers

theorem bracketed (pair : Char × Char) (hpair : pair ∈ brackets) (h : Balanced quotes text) :
    Balanced quotes (String.ofList [pair.1] ++ text ++ String.ofList [pair.2]) := by
  obtain ⟨outer, houter⟩ := h
  refine ⟨[], ?_⟩
  simp only [String.toList_append, String.toList_ofList]
  exact .bracketed hpair houter .nil

theorem intercalate (hseparator : Balanced quotes separator) (h : ∀ part ∈ parts, Balanced quotes part) :
    Balanced quotes (String.intercalate separator parts) := by
  induction parts with
  | nil => exact ⟨[], .nil⟩
  | cons first rest ih =>
    rw [List.forall_mem_cons] at h
    cases rest with
    | nil => exact h.1
    | cons second others =>
      rw [String.intercalate_cons_cons]
      exact (h.1.append hseparator).append (ih h.2)

end Balanced

/-! ## Literals -/

mutual

/-- A literal quotes the strings and the keys of its value. -/
theorem balanced_compact (value : Json) : Balanced (Json.Quotes · value) value.compact := by
  cases value with
  | null =>
    rw [Json.compact]
    exact .of_isIdentifier (by decide)
  | bool value =>
    rw [Json.compact]
    cases value <;> exact .of_isIdentifier (by decide)
  | int n =>
    rw [Json.compact]
    exact .numeric (numeric_repr n)
  | float x =>
    rw [Json.compact]
    exact .numeric (numeric_format _ x)
  | str s =>
    rw [Json.compact]
    exact .quoted .string
  | arr items =>
    have hitems : ∀ text ∈ Json.compactItems items, Balanced (Json.Quotes · (.arr items)) text := by
      intro text htext
      obtain ⟨item, hitem, hbalanced⟩ := balanced_compactItems items text htext
      exact hbalanced.mono fun _ => .item hitem
    rw [Json.compact]
    exact (Balanced.intercalate (.of_bare (by decide)) hitems).bracketed ('[', ']') (by decide)
  | obj members =>
    have hmembers : ∀ text ∈ Json.compactMembers members, Balanced (Json.Quotes · (.obj members)) text := by
      intro text htext
      obtain ⟨member, hmember, value, rfl, hbalanced⟩ := balanced_compactMembers members text htext
      have hkey : Balanced (Json.Quotes · (.obj members)) (quoted member.1) := .quoted (.key hmember rfl)
      have hvalue : Balanced (Json.Quotes · (.obj members)) value :=
        hbalanced.mono fun _ => .value hmember
      exact (hkey.append (.of_bare (by decide))).append hvalue
    rw [Json.compact]
    exact (Balanced.intercalate (.of_bare (by decide)) hmembers).bracketed ('\x7b', '\x7d') (by decide)

theorem balanced_compactItems (items : List Json) : ∀ text ∈ Json.compactItems items,
    ∃ item ∈ items, Balanced (Json.Quotes · item) text := by
  cases items with
  | nil => rintro _ ⟨⟩
  | cons item rest =>
    rw [Json.compactItems]
    intro text htext
    rcases List.mem_cons.mp htext with rfl | htext
    · exact ⟨item, List.mem_cons_self, balanced_compact item⟩
    · obtain ⟨other, hother, hbalanced⟩ := balanced_compactItems rest text htext
      exact ⟨other, List.mem_cons_of_mem _ hother, hbalanced⟩

theorem balanced_compactMembers (members : List (String × Json)) : ∀ text ∈ Json.compactMembers members,
    ∃ member ∈ members, ∃ value, text = quoted member.1 ++ ":" ++ value ∧
      Balanced (Json.Quotes · member.2) value := by
  cases members with
  | nil => rintro _ ⟨⟩
  | cons member rest =>
    obtain ⟨key, value⟩ := member
    rw [Json.compactMembers]
    intro text htext
    rcases List.mem_cons.mp htext with rfl | htext
    · exact ⟨(key, value), List.mem_cons_self, value.compact, rfl, balanced_compact value⟩
    · obtain ⟨other, hother, hbalanced⟩ := balanced_compactMembers rest text htext
      exact ⟨other, List.mem_cons_of_mem _ hother, hbalanced⟩

end

/-! ## Types -/

section

variable {type : String} {parts : List String}

theorem balanced_propertyKey {name : String} (h : Name.isIdentifier name = false → quotes name) :
    Balanced quotes (Name.propertyKey name) := by
  unfold Name.propertyKey
  split
  · exact .of_isIdentifier ‹_›
  · rename_i hname
    exact .quoted (h (Bool.eq_false_iff.mpr hname))

theorem balanced_parentheses (h : Balanced quotes type) : Balanced quotes s!"({type})" :=
  h.bracketed ('(', ')') (by decide)

theorem balanced_parenthesize (h : Balanced quotes type) : Balanced quotes (parenthesize type) := by
  unfold parenthesize
  split
  · exact balanced_parentheses h
  · exact h

theorem balanced_union (h : ∀ part ∈ parts, Balanced quotes part) : Balanced quotes (union parts) :=
  .intercalate (.of_bare (by decide)) fun part hpart => h part (List.mem_eraseDups.mp hpart)

theorem balanced_intersectionPart (h : Balanced quotes type) : Balanced quotes (intersectionPart type) := by
  unfold intersectionPart
  split
  · exact balanced_parenthesize h
  · exact h

theorem balanced_intersection (h : ∀ part ∈ parts, Balanced quotes part) :
    Balanced quotes (intersection parts) := by
  unfold intersection
  split
  · exact h _ List.mem_cons_self
  · refine .intercalate (.of_bare (by decide)) fun text htext => ?_
    obtain ⟨part, hpart, rfl⟩ := List.mem_map.mp htext
    exact balanced_intersectionPart (h part hpart)

theorem balanced_arrayOf (options : Options) (h : Balanced quotes type) :
    Balanced quotes (arrayOf options type) := by
  unfold arrayOf
  split
  · have hname : Balanced quotes "Array" := .of_isIdentifier (by decide)
    have htext : s!"Array<{type}>" = "Array" ++ (String.ofList ['<'] ++ type ++ String.ofList ['>']) :=
      String.toList_inj.mp (by simp)
    rw [htext]
    exact hname.append (h.bracketed ('<', '>') (by decide))
  · have hempty : Balanced quotes "" := .of_bare rfl
    exact (balanced_parenthesize h).append (hempty.bracketed ('[', ']') (by decide))

theorem balanced_indexSignatureText (h : Balanced quotes type) :
    Balanced quotes (indexSignatureText type) := by
  have hkey : Balanced quotes "key: string" := .of_bare (by decide)
  have hsign : Balanced quotes ": " := .of_bare (by decide)
  exact ((hkey.bracketed ('[', ']') (by decide)).append hsign).append h

theorem balanced_braces (h : Balanced quotes type) : Balanced quotes s!"\x7b {type} \x7d" := by
  have hblank : Balanced quotes " " := .of_bare (by decide)
  have htext : s!"\x7b {type} \x7d" = String.ofList ['\x7b'] ++ (" " ++ type ++ " ") ++ String.ofList ['\x7d'] :=
    String.toList_inj.mp (by simp)
  rw [htext]
  exact ((hblank.append h).append hblank).bracketed ('\x7b', '\x7d') (by decide)

theorem balanced_mapOf (options : Options) (h : Balanced quotes type) :
    Balanced quotes (mapOf options type) := by
  unfold mapOf
  split
  · have hname : Balanced quotes "Record" := .of_isIdentifier (by decide)
    have hkey : Balanced quotes "string, " := .of_bare (by decide)
    have htext : s!"Record<string, {type}>" =
        "Record" ++ (String.ofList ['<'] ++ ("string, " ++ type) ++ String.ofList ['>']) :=
      String.toList_inj.mp (by simp)
    rw [htext]
    exact hname.append ((hkey.append h).bracketed ('<', '>') (by decide))
  · exact balanced_braces (balanced_indexSignatureText h)

theorem balanced_signatureText (optionalMarkers : Bool) {name : String} (required readonly : Bool)
    (hname : Name.isIdentifier name = false → quotes name) (h : Balanced quotes type) :
    Balanced quotes (Property.signatureText optionalMarkers name type required readonly) := by
  have hlead : Balanced quotes ((if readonly then "readonly " else "") ++ Name.propertyKey name) := by
    refine .append ?_ (balanced_propertyKey hname)
    cases readonly <;> exact .of_bare (by decide)
  have habsent : Balanced quotes (union [type, absentType]) := by
    refine balanced_union ?_
    simpa using ⟨h, .of_isIdentifier (by decide)⟩
  have hsign : Balanced quotes ": " := .of_bare (by decide)
  have hmarker : Balanced quotes "?: " := .of_bare (by decide)
  cases required with
  | true => exact (hlead.append hsign).append h
  | false =>
    cases optionalMarkers with
    | true => exact (hlead.append hmarker).append h
    | false => exact (hlead.append hsign).append habsent

theorem balanced_makeNullable (options : Options) (h : Balanced quotes type) :
    Balanced quotes (makeNullable options type) := by
  have hsign : Balanced quotes " | " := .of_bare (by decide)
  have hsuffix : Balanced quotes (nullSuffix options) := by
    unfold nullSuffix
    cases options.nullableType <;> exact .of_bare (by decide)
  unfold makeNullable
  dsimp only
  split_ifs
  · exact h
  · exact h
  · exact (h.append hsign).append hsuffix

end

end Typing

end SchemaTypings
