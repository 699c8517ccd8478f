import SchemaTypings.Proofs.Lowering.Companions
import SchemaTypings.Proofs.Lowering.NestedTypes

/-!
# Where operators bind

An element before `[]`, and a part of an intersection, is put in parentheses if an operator stands outside in
it. Every type expression that is written for a schema is balanced, so that there is one reading of what stands
outside; and the search for operators agrees with it where no text that is quoted ends in a backslash
(`Context.operators_bind`). After one that does, the search goes on as within quotes: then an enumeration of
that text and null is no element by itself.
-/

namespace SchemaTypings

open LowerM Typing Lowering

/-- No text that stands quoted in the type of the schema ends in a backslash. -/
def Schema.QuotesPlainly (schema : Schema) : Prop :=
  ∀ text, schema.Quotes text → endsInBackslash text = false

/-- The text is a type expression of the schema, with the references under identifiers. -/
def Lowering.TypeText (options : Options) (schema : Schema) (text : String) : Prop :=
  Writes options (fun _ name => Name.isIdentifier name = true) schema text

namespace Lowering

variable {raw : Json} {document : Document} {options : Options} {schema : Schema} {text : String}

namespace TypeText

theorem outside (h : TypeText options schema text) :
    Outside (Schema.Quotes · schema) text.toList (outerText text) :=
  (Writes.balanced (fun _ _ => id) h).outside

/-- A type expression reads in one way. -/
theorem outside_iff (h : TypeText options schema text) {outer : List Char} :
    Outside (Schema.Quotes · schema) text.toList outer ↔ outer = outerText text :=
  ⟨Outside.eq_outerChars, fun heq => heq ▸ h.outside⟩

theorem needsParens_eq (h : TypeText options schema text) (hquotes : schema.QuotesPlainly) :
    needsParens text = (outerText text).any isOperator :=
  h.outside.needsParens_eq hquotes

end TypeText

theorem ensures_typeText (h : Document.ofJson raw = .ok document) (schema : Schema) :
    (describe schema).Ensures (Spelled document options) fun descriptor =>
      TypeText options schema descriptor.typeName := by
  have htype : (typeExpression schema).Ensures (Spelled document options) (TypeText options schema) :=
    ensures_written Spelled.tells fun reference _ => Spelled.referenceName h reference
  exact htype.bind fun _ htext => .pure htext

/-! ## Elements and parts -/

/-- The element of an array within is put in parentheses if an operator stands outside in it. -/
theorem exists_element {items : Schema} {info : SchemaInfo} (hstyle : options.arrayType = .bracket)
    (h : TypeText options schema text) (hcontains : schema.Contains ⟨.array items, info⟩) :
    ∃ element, TypeText options items element ∧ Within (arrayOf options element) text ∧
      (items.QuotesPlainly → arrayOf options element =
        (if (outerText element).any isOperator then s!"({element})" else element) ++ "[]") := by
  obtain ⟨inner, hinner, hwithin⟩ := h.within hcontains
  obtain ⟨base, hbase, hbaseText⟩ := exists_within_base hinner
  obtain ⟨element, helement, rfl⟩ := written_array hbase
  have hfound : TypeText options items element := helement
  refine ⟨element, hfound, hbaseText.trans hwithin, fun hplain => ?_⟩
  rw [arrayOf, hstyle, ← hfound.needsParens_eq hplain]
  rfl

/-- So is a part of an intersection within, if a bar stands outside in it. -/
theorem exists_parts {members : List Schema} {info : SchemaInfo} (h : TypeText options schema text)
    (hcontains : schema.Contains ⟨.allOf members, info⟩) (hmembers : 2 ≤ members.length) :
    ∃ parts, List.Forall₂ (TypeText options) members parts ∧
      Within (String.intercalate " & " (parts.map intersectionPart)) text ∧
      ∀ member part, (member, part) ∈ members.zip parts → member.QuotesPlainly →
        '|' ∈ outerText part → intersectionPart part = s!"({part})" := by
  obtain ⟨inner, hinner, hwithin⟩ := h.within hcontains
  obtain ⟨base, hbase, hbaseText⟩ := exists_within_base hinner
  have hne : members ≠ [] := by
    rintro rfl
    simp at hmembers
  obtain ⟨parts, hparts, rfl⟩ := written_intersection hne hbase
  have hlength : 2 ≤ parts.length := hparts.length_eq ▸ hmembers
  have hjoined : intersection parts = String.intercalate " & " (parts.map intersectionPart) := by
    match parts, hlength with
    | _ :: _ :: _, _ => rfl
  refine ⟨parts, hparts, ?_, fun member part hpair hplain hbar => ?_⟩
  · rw [← hjoined]
    exact hbaseText.trans hwithin
  · have hpart : TypeText options member part := List.forall₂_zip hparts hpair
    have houter : (outerText part).any isOperator = true :=
      List.any_eq_true.mpr ⟨'|', hbar, by decide⟩
    have hcontained : part.toList.contains '|' = true :=
      List.contains_iff_mem.mpr (hpart.outside.mem_text hbar)
    rw [intersectionPart, if_pos hcontained, parenthesize, hpart.needsParens_eq hplain, houter]
    rfl

/-! ## Where the search goes wrong -/

/-- Arrays of a text or null. -/
def textOrNullArray (text : String) : Schema :=
  ⟨.array ⟨.enum { values := [.str text, .null] }, {}⟩, {}⟩

theorem outerText_textOrNull (text : String) : outerText s!"{quoted text} | null" = " | null".toList := by
  have htext : (s!"{quoted text} | null").toList = (quoted text).toList ++ " | null".toList := by
    simp
  rw [outerText, htext, outerChars_quoted]
  rfl

theorem needsParens_textOrNull (text : String) :
    needsParens s!"{quoted text} | null" = !endsInBackslash text := by
  have htext : (s!"{quoted text} | null").toList = (quoted text).toList ++ " | null".toList := by
    simp
  rw [needsParens, htext, hasOuterOperator_quoted]
  cases endsInBackslash text <;> rfl

theorem union_textOrNull (text : String) : union [quoted text, "null"] = s!"{quoted text} | null" := by
  have hne : quoted text ≠ "null" := by
    intro heq
    have hchars := congrArg String.toList heq
    rw [Quoted.toList_quoted] at hchars
    exact absurd (List.cons.inj hchars).1 (by decide)
  have hdistinct : [quoted text, "null"].eraseDups = [quoted text, "null"] := by
    simp [List.eraseDups_cons, hne.symm]
  rw [union, hdistinct, String.intercalate_cons_cons, String.intercalate_singleton, String.append_assoc]
  rfl

theorem runWith_describe_array {setting : Setting} {store after : Store} {items : Schema} {element : String}
    (h : (typeExpression items).runWith setting store = (.ok element, after)) :
    (describe ⟨.array items, {}⟩).runWith setting store =
      (.ok (.ofSchema (arrayOf setting.options element) false {}), after) := by
  rw [typeExpression] at h
  simp [describe, typeExpression, typeOf, typeOfKind, runWith_bind, runWith_map, h, Except.map]

/-- Arrays of a text or null are written right exactly if the text does not end in a backslash. -/
theorem runWith_describe_textOrNullArray {setting : Setting} (hstyle : setting.options.arrayType = .bracket)
    (store : Store) (text : String) :
    ((describe (textOrNullArray text)).runWith setting store).1.map (·.typeName) =
      .ok ((if endsInBackslash text then s!"{quoted text} | null" else s!"({quoted text} | null)") ++ "[]") := by
  have helement : (typeExpression ⟨.enum { values := [.str text, .null] }, {}⟩).runWith setting store =
      (.ok s!"{quoted text} | null", store) := by
    rw [← union_textOrNull]
    simp [typeExpression, typeOf, typeOfKind, enumType, Json.literal, Json.compact]
  have harray : arrayOf setting.options s!"{quoted text} | null" =
      (if endsInBackslash text then s!"{quoted text} | null" else s!"({quoted text} | null)") ++ "[]" := by
    have hparenthesize : parenthesize s!"{quoted text} | null" =
        if endsInBackslash text then s!"{quoted text} | null" else s!"({quoted text} | null)" := by
      rw [parenthesize, needsParens_textOrNull]
      cases endsInBackslash text
      · exact String.toList_inj.mp (by simp)
      · simp
    rw [← hparenthesize, arrayOf, hstyle]
    rfl
  rw [textOrNullArray, runWith_describe_array helement, ← harray]
  rfl

end Lowering

/-! ## Contexts -/

namespace Context

variable {raw : Json} {document : Document} {options : Options} {context : Context}

/-- A type expression reads in one way, and where no text that is quoted in it ends in a backslash, it has to be
put in parentheses exactly if an operator stands outside in it. Such elements of arrays within are put in
parentheses exactly then, and such parts of intersections if a bar stands outside in them. An array of a text or
null, for which a bar always stands outside, is written so exactly if the text does not end in a backslash. -/
theorem operators_bind (h : Document.ofJson raw = .ok document) (hcalled : Called document options context)
    (hstyle : options.arrayType = .bracket) :
    (∀ schema descriptor, (context.run (describe schema)).1 = .ok descriptor →
      (∀ outer, Outside (Schema.Quotes · schema) descriptor.typeName.toList outer ↔
        outer = outerText descriptor.typeName) ∧
      (schema.QuotesPlainly →
        needsParens descriptor.typeName = (outerText descriptor.typeName).any isOperator) ∧
      (∀ items info, schema.Contains ⟨.array items, info⟩ → ∃ element, TypeText options items element ∧
        Within (arrayOf options element) descriptor.typeName ∧
        (∀ outer, Outside (Schema.Quotes · items) element.toList outer ↔ outer = outerText element) ∧
        (items.QuotesPlainly → arrayOf options element =
          (if (outerText element).any isOperator then s!"({element})" else element) ++ "[]")) ∧
      ∀ members info, schema.Contains ⟨.allOf members, info⟩ → 2 ≤ members.length → ∃ parts,
        List.Forall₂ (TypeText options) members parts ∧
        Within (String.intercalate " & " (parts.map intersectionPart)) descriptor.typeName ∧
        ∀ member part, (member, part) ∈ members.zip parts →
          (∀ outer, Outside (Schema.Quotes · member) part.toList outer ↔ outer = outerText part) ∧
          (member.QuotesPlainly → '|' ∈ outerText part → intersectionPart part = s!"({part})")) ∧
    ∀ text, outerText s!"{quoted text} | null" = " | null".toList ∧
      (context.run (describe (textOrNullArray text))).1.map (·.typeName) =
        .ok ((if endsInBackslash text then s!"{quoted text} | null" else s!"({quoted text} | null)") ++ "[]") := by
  have hspelled := hcalled.spelled h
  refine ⟨fun schema descriptor hrun => ?_, fun text => ⟨outerText_textOrNull text, ?_⟩⟩
  · rw [run_eq] at hrun
    have htype := (ensures_typeText h schema _ _ hspelled).2 descriptor hrun
    refine ⟨fun _ => htype.outside_iff, htype.needsParens_eq, fun items info hcontains => ?_,
      fun members info hcontains hmembers => ?_⟩
    · obtain ⟨element, helement, hwithin, hbinds⟩ := exists_element hstyle htype hcontains
      exact ⟨element, helement, hwithin, fun _ => helement.outside_iff, hbinds⟩
    · obtain ⟨parts, hparts, hwithin, hbinds⟩ := exists_parts htype hcontains hmembers
      refine ⟨parts, hparts, hwithin, fun member part hpair => ⟨fun _ => ?_, hbinds member part hpair⟩⟩
      exact TypeText.outside_iff (List.forall₂_zip hparts hpair)
  · have hbracket : context.setting.options.arrayType = .bracket := by
      rw [hspelled.asked, hstyle]
    rw [run_eq]
    exact runWith_describe_textOrNullArray hbracket context.store text

/-- Arrays of one of two texts, with a bar in one and a bracket in the other. -/
def barArray : Schema :=
  ⟨.array ⟨.enum { values := [.str "a|b", .str "\x7b"] }, {}⟩, {}⟩

/-- Such an array has its element in parentheses; one of a backslash or null has not. -/
theorem operators_bind_of_barArray : ∃ document descriptor,
    Document.ofJson idUnion = .ok document ∧ Called document {} (fresh document {}) ∧
    ((fresh document {}).run (describe barArray)).1 = .ok descriptor ∧
    descriptor.typeName = "(\"a|b\" | \"\x7b\")[]" ∧
    (∃ element, Within (arrayOf {} element) descriptor.typeName ∧ arrayOf {} element =
      (if (outerText element).any isOperator then s!"({element})" else element) ++ "[]") ∧
    ((fresh document {}).run (describe (textOrNullArray "\\"))).1.map (·.typeName) =
      .ok "\"\\\\\" | null[]" := by
  have hrun : ((Document.ofJson idUnion).toOption.any fun document =>
      ((fresh document {}).run (describe barArray)).1.toOption.any fun descriptor =>
        descriptor.typeName == "(\"a|b\" | \"\x7b\")[]") = true := by decide +kernel
  obtain ⟨document, hdocument, hrun⟩ := Decode.exists_ok_of_any hrun
  obtain ⟨descriptor, hdescriptor, htext⟩ := Decode.exists_ok_of_any hrun
  have hcalled : Called document {} (fresh document {}) := .fresh
  obtain ⟨hbinds, hnull⟩ := operators_bind hdocument hcalled rfl
  have hplain : Schema.QuotesPlainly ⟨.enum { values := [.str "a|b", .str "\x7b"] }, {}⟩ := by
    intro text hquotes
    cases hquotes with
    | literal hvalue hvalueQuotes =>
      obtain rfl | rfl : _ = Json.str "a|b" ∨ _ = Json.str "\x7b" := by simpa using hvalue
      all_goals
        cases hvalueQuotes
        decide
    | child hchild => cases hchild
  obtain ⟨-, -, harrays, -⟩ := hbinds barArray descriptor hdescriptor
  obtain ⟨element, -, hwithin, -, hparens⟩ := harrays _ {} (.refl barArray)
  refine ⟨document, descriptor, hdocument, hcalled, hdescriptor, beq_iff_eq.mp htext,
    ⟨element, hwithin, hparens hplain⟩, ?_⟩
  rw [(hnull "\\").2]
  decide

end Context

end SchemaTypings
