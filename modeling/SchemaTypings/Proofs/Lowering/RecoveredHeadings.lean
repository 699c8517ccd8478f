import SchemaTypings.Proofs.Lowering.ObjectValidators
import SchemaTypings.Proofs.Lowering.PartDeclarations
import SchemaTypings.Proofs.Typing.Headings

/-!
# Kinds and names that are recovered from texts

What is made of a composed type is declared again from its text, under the name that this declares. The main
declaration is that of an interface if its text mentions one of the name. The text of an alias does where its
comment or its type expression does, as these hold descriptions, names of properties and literals; and only there
its kind is another one than that of its heading (`Context.recovered_headings`).
-/

namespace SchemaTypings

open LowerM Lowering Typing

/-! ## Texts within texts -/

namespace Text

variable {needle before after : List Char} {c : Char}

theorem occursIn_iff {cs : List Char} : occursIn needle cs = true ↔ needle <:+: cs := by
  induction cs with
  | nil => rw [occursIn, List.isEmpty_iff, List.infix_nil]
  | cons c rest ih => rw [occursIn, Bool.or_eq_true, List.isPrefixOf_iff_prefix, ih, List.infix_cons_iff]

/-- What does not hold a character stands before or after it. -/
theorem infix_append_cons_iff (h : c ∉ needle) :
    needle <:+: before ++ c :: after ↔ needle <:+: before ∨ needle <:+: after := by
  rw [List.infix_append_iff, List.infix_cons_iff]
  constructor
  · rintro (hbefore | (hstart | hafter) | ⟨first, second, rfl, hfirst, hsecond⟩)
    · exact Or.inl hbefore
    · cases needle with
      | nil => exact Or.inl (List.nil_infix)
      | cons d rest => exact absurd ((List.cons_prefix_cons.mp hstart).1 ▸ List.mem_cons_self) h
    · exact Or.inr hafter
    · cases second with
      | nil => exact Or.inl (by simpa using hfirst.isInfix)
      | cons d rest =>
        obtain rfl : d = c := (List.cons_prefix_cons.mp hsecond).1
        exact absurd (List.mem_append_right _ List.mem_cons_self) h
  · rintro (hbefore | hafter)
    · exact Or.inl hbefore
    · exact Or.inr (Or.inl (Or.inr hafter))

/-- What begins with a character stands behind a text that does not hold it. -/
theorem cons_infix_append_iff (h : c ∉ before) :
    c :: needle <:+: before ++ after ↔ c :: needle <:+: after := by
  induction before with
  | nil => rfl
  | cons d rest ih =>
    obtain ⟨hne, hrest⟩ := not_or.mp (List.mem_cons.not.mp h)
    rw [List.cons_append, List.infix_cons_iff, ih hrest, or_iff_right]
    exact fun hstart => hne (List.cons_prefix_cons.mp hstart).1

end Text

/-! ## Mentions of an interface -/

namespace Typing

/-- The text by which an interface of the name is recognized. -/
def mention (name : String) : List Char :=
  s!"interface {name} ".toList

variable {options : Options} {doc : List String} {name declared type : String}

theorem mention_eq (name : String) : mention name = 'i' :: ("nterface ".toList ++ (name.toList ++ [' '])) := by
  simp [mention, toString]

theorem not_mention_infix_nil (name : String) : ¬mention name <:+: [] := by
  rw [List.infix_nil, mention_eq]
  exact List.cons_ne_nil _ _

/-- A mention consists of blanks and of characters of identifiers. -/
theorem not_mem_mention (hname : Name.isIdentifier name = true) {c : Char}
    (hc : Name.continuesIdentifier c = false) (hblank : c ≠ ' ') : c ∉ mention name := by
  have hkeyword : ("interface ".toList.all fun d => Name.continuesIdentifier d || d == ' ') = true := by decide
  intro hmem
  have hsplit : mention name = "interface ".toList ++ (name.toList ++ [' ']) := mention_eq name
  rw [hsplit, List.mem_append, List.mem_append, List.mem_singleton] at hmem
  rcases hmem with hmem | hmem | hmem
  · rcases Bool.or_eq_true_iff.mp (List.all_eq_true.mp hkeyword c hmem) with hcontinues | hequal
    · exact Bool.false_ne_true (hc.symm.trans hcontinues)
    · exact hblank (beq_iff_eq.mp hequal)
  · have hcontinues := List.all_eq_true.mp (Name.all_continuesIdentifier hname) c hmem
    exact Bool.false_ne_true (hc.symm.trans hcontinues)
  · exact hblank hmem

/-- A mention has two blanks, and so does not stand in a name and one blank. -/
theorem not_mention_infix_name (hdeclared : Name.isIdentifier declared = true) :
    ¬mention name <:+: declared.toList ++ [' '] := by
  intro hinfix
  have hblanks := hinfix.count_le ' '
  have hnone : declared.toList.count ' ' = 0 := by
    refine List.count_eq_zero.mpr fun hmem => ?_
    have hcontinues := List.all_eq_true.mp (Name.all_continuesIdentifier hdeclared) _ hmem
    exact absurd hcontinues (by decide)
  have hkeyword : "interface ".toList.count ' ' = 1 := by decide
  have hsplit : mention name = "interface ".toList ++ (name.toList ++ [' ']) := mention_eq name
  rw [hsplit, List.count_append, List.count_append, List.count_append, hkeyword, hnone] at hblanks
  simp only [List.count_singleton_self] at hblanks
  omega

/-- In front of what follows a comment, a mention stands in the comment or behind it. -/
theorem mention_infix_docComment (hname : Name.isIdentifier name = true) (doc : List String) (rest : List Char) :
    mention name <:+: (docComment doc "").toList ++ rest ↔
      mention name <:+: (docComment doc "").toList ∨ mention name <:+: rest := by
  have hbreak : '\n' ∉ mention name := not_mem_mention hname (by decide) (by decide)
  by_cases hlines : commentLines doc = []
  · have hnone : docComment doc "" = "" := by rw [docComment, hlines]
    rw [hnone, String.toList_empty, List.nil_append, or_iff_right (not_mention_infix_nil name)]
  · have hindent : WithinComment "".toList := .of_plain (by decide) (by decide)
    obtain ⟨body, hcomment, -⟩ := exists_commentBody hindent hlines
    have hchars : (docComment doc "").toList = ("/**".toList ++ body.toList ++ "*/".toList) ++ '\n' :: [] := by
      rw [hcomment]
      simp [toString]
    rw [hchars, List.append_assoc, List.cons_append, List.nil_append, Text.infix_append_cons_iff hbreak,
      Text.infix_append_cons_iff hbreak, or_iff_left (not_mention_infix_nil name)]

theorem toList_aliasText (options : Options) (doc : List String) (declared type : String) :
    (aliasText options doc declared type).toList = (docComment doc "").toList
      ++ opening options .typeAlias (declared.toList ++ ' ' :: '=' :: ' ' :: (type.toList ++ [';'])) := by
  simp only [aliasText, opening, Template.toString_text, String.toList_append, List.append_assoc]
  rfl

theorem toList_interfaceText (options : Options) (doc : List String) (declared lines : String) :
    (interfaceText options doc declared lines).toList = (docComment doc "").toList
      ++ opening options .interface (declared.toList ++ ' ' :: '\x7b' :: '\n' :: (lines.toList ++ ['\x7d'])) := by
  simp only [interfaceText, opening, Template.toString_text, String.toList_append, List.append_assoc]
  rfl

/-- The text of an alias mentions an interface where its comment or its type does. -/
theorem mention_infix_aliasText (hname : Name.isIdentifier name = true)
    (hdeclared : Name.isIdentifier declared = true) (options : Options) (doc : List String) (type : String) :
    mention name <:+: (aliasText options doc declared type).toList ↔
      mention name <:+: (docComment doc "").toList ∨ mention name <:+: type.toList := by
  have hequals : '=' ∉ mention name := not_mem_mention hname (by decide) (by decide)
  have hend : ';' ∉ mention name := not_mem_mention hname (by decide) (by decide)
  have hword : 'i' ∉ options.exportWord.toList ++ "type ".toList := by
    unfold Options.exportWord
    split <;> decide
  have hopening : opening options .typeAlias (declared.toList ++ ' ' :: '=' :: ' ' :: (type.toList ++ [';'])) =
      (options.exportWord.toList ++ "type ".toList) ++ ((declared.toList ++ [' ']) ++ '=' :: ([' '] ++
        (type.toList ++ ';' :: []))) := by
    simp [opening, DeclarationKind.keyword]
  have hbehind : mention name <:+: [' '] ++ (type.toList ++ ';' :: []) ↔ mention name <:+: type.toList := by
    rw [mention_eq, Text.cons_infix_append_iff (by decide), ← mention_eq, Text.infix_append_cons_iff hend,
      or_iff_left (not_mention_infix_nil name)]
  rw [toList_aliasText, mention_infix_docComment hname, hopening, mention_eq, Text.cons_infix_append_iff hword,
    ← mention_eq, Text.infix_append_cons_iff hequals, or_iff_right (not_mention_infix_name hdeclared), hbehind]

/-! ## Texts that open a declaration -/

/-- The text opens a declaration if a name, or the beginning of one, stands behind the keyword. -/
theorem Opens.of_identifier {kind : DeclarationKind} {content : String} (name : String)
    (hname : Name.isIdentifier name = true) (hcontent : ∃ after, content.toList =
      options.exportWord.toList ++ (kind.keyword.toList ++ ' ' :: (name.toList ++ after))) :
    Opens options kind content := by
  obtain ⟨after, hcontent⟩ := hcontent
  rw [Name.isIdentifier] at hname
  cases hchars : name.toList with
  | nil => simp [hchars, Name.isIdentifierChars] at hname
  | cons first rest =>
    rw [hchars, Name.isIdentifierChars, Bool.and_eq_true] at hname
    exact ⟨first, rest ++ after, hname.1, by rw [hcontent, hchars]; rfl⟩

end Typing

theorem Validation.opens_validator {options : Options} {typeName : String} {properties : List Property}
    {declaration : Declaration} (h : validator? options.exportWord typeName properties = some declaration) :
    Opens options .function declaration.content := by
  unfold validator? at h
  split at h
  · cases h
  · cases h
    refine .of_identifier "validate" (by decide) ?_
    simp only [Template.toString_text, String.toList_append, List.append_assoc]
    exact ⟨_, rfl⟩

namespace DerivedTypes

variable (options : Options) {name : String}

theorem opens_aliases (hname : Name.isIdentifier name = true) (document : Document) (schema : Schema) :
    ∀ text ∈ aliases document options name schema, Opens options .typeAlias text := by
  have hplain : ∀ utility, Name.isIdentifier utility = true →
      Opens options .typeAlias s!"{options.exportWord}type {utility}{name} = {utility}<{name}>;" := by
    intro utility hutility
    refine .of_identifier utility hutility ?_
    simp only [Template.toString_text, String.toList_append, List.append_assoc]
    exact ⟨_, rfl⟩
  have hkeys : ∀ keys : String, Opens options .typeAlias s!"{options.exportWord}type {name}Keys = {keys};" := by
    intro keys
    refine .of_identifier name hname ?_
    simp only [Template.toString_text, String.toList_append, List.append_assoc]
    exact ⟨_, rfl⟩
  have hpick : Opens options .typeAlias
      s!"{options.exportWord}type Pick{name}<K extends {name}Keys> = Pick<{name}, K>;" := by
    refine .of_identifier "Pick" (by decide) ?_
    simp only [Template.toString_text, String.toList_append, List.append_assoc]
    exact ⟨_, rfl⟩
  have homit : Opens options .typeAlias
      s!"{options.exportWord}type Omit{name}<K extends {name}Keys> = Omit<{name}, K>;" := by
    refine .of_identifier "Omit" (by decide) ?_
    simp only [Template.toString_text, String.toList_append, List.append_assoc]
    exact ⟨_, rfl⟩
  have hdeep : Opens options .typeAlias (deepPartial options.exportWord name) := by
    refine .of_identifier "DeepPartial" (by decide) ?_
    simp only [deepPartial, Template.toString_text, String.toList_append, List.append_assoc]
    exact ⟨_, rfl⟩
  intro text htext
  rcases List.mem_append.mp htext with hmem | hmem
  · simp only [plainAliases, List.map_cons, List.map_nil, List.mem_cons, List.not_mem_nil, or_false] at hmem
    rcases hmem with rfl | rfl | rfl <;> exact hplain _ (by decide)
  · split at hmem
    · cases hmem
    · simp only [keyAliases, List.mem_append, List.mem_ite_nil_left, List.mem_ite_nil_right, List.mem_cons,
        List.not_mem_nil, or_false] at hmem
      rcases hmem with ⟨-, rfl | rfl | rfl⟩ | ⟨-, rfl⟩
      · exact hkeys _
      · exact hpick
      · exact homit
      · exact hdeep

theorem opens_functions (name : String) (document : Document) (schema : Schema) :
    ∀ text ∈ functions document options name schema, Opens options .function text := by
  have hguard : ∀ shape, Opens options .function (guard options.exportWord name shape) := by
    intro shape
    refine .of_identifier "is" (by decide) ?_
    simp only [guard, Template.toString_text, String.toList_append, List.append_assoc]
    exact ⟨_, rfl⟩
  have hclone : Opens options .function (clone options.exportWord name) := by
    refine .of_identifier "clone" (by decide) ?_
    simp only [clone, Template.toString_text, String.toList_append, List.append_assoc]
    exact ⟨_, rfl⟩
  have hmerge : Opens options .function (merge options.exportWord name) := by
    refine .of_identifier "merge" (by decide) ?_
    simp only [merge, Template.toString_text, String.toList_append, List.append_assoc]
    exact ⟨_, rfl⟩
  intro text htext
  unfold functions at htext
  dsimp only at htext
  split at htext
  · cases htext
  · simp only [List.cons_append, List.mem_cons, List.mem_append, List.mem_ite_nil_right, List.not_mem_nil,
      or_false] at htext
    rcases htext with rfl | ⟨-, rfl⟩ | rfl
    · exact hguard _
    · exact hclone
    · exact hmerge

end DerivedTypes

namespace UnionDispatch

variable (dispatch : UnionDispatch) {options : Options}

theorem opens_functions (hword : dispatch.exportWord = options.exportWord) (asked : UnionOptions) :
    ∀ declaration ∈ dispatch.functions asked, Opens options .function declaration.content := by
  have hguard : ∀ member, Opens options .function (dispatch.guard member).content := by
    intro member
    refine .of_identifier "is" (by decide) ?_
    unfold guard guardName
    dsimp only
    split <;> simp only [function, hword, Template.toString_text, String.toList_append, List.append_assoc] <;>
      exact ⟨_, rfl⟩
  have hmatch : Opens options .function dispatch.matcher.content := by
    refine .of_identifier "match" (by decide) ?_
    simp only [matcher, function, hword, Template.toString_text, String.toList_append, List.append_assoc]
    exact ⟨_, rfl⟩
  have hfold : Opens options .function dispatch.folder.content := by
    refine .of_identifier "fold" (by decide) ?_
    simp only [folder, function, hword, Template.toString_text, String.toList_append, List.append_assoc]
    exact ⟨_, rfl⟩
  have hassertion : Opens options .function dispatch.assertion.content := by
    refine .of_identifier "assert" (by decide) ?_
    simp only [assertion, function, hword, Template.toString_text, String.toList_append, List.append_assoc]
    exact ⟨_, rfl⟩
  intro declaration hdeclaration
  simp only [functions, List.mem_append, List.mem_ite_nil_right, List.mem_map, List.mem_cons, List.not_mem_nil,
    or_false] at hdeclaration
  rcases hdeclaration with (⟨-, member, -, rfl⟩ | ⟨-, rfl | rfl⟩) | ⟨-, rfl⟩
  · exact hguard member
  · exact hmatch
  · exact hfold
  · exact hassertion

end UnionDispatch

/-! ## Composed types -/

/-- The text of a composed type is that of an interface under the type name, or of an alias under the declared one,
and what is made of the type opens declarations. -/
structure Composition.Headed (options : Options) (declared : String) (composed : Composition) : Prop where
  main : (∃ doc lines, composed.content = interfaceText options doc composed.typeName lines) ∨
    ∃ doc type, composed.content = aliasText options doc declared type
  utilityTypes : ∀ text ∈ composed.utilityTypes, Opens options .typeAlias text
  helpers : ∀ text ∈ composed.helpers, Opens options .function text

namespace Composition.Headed

variable {options : Options} {declared : String} {composed : Composition} (h : composed.Headed options declared)

include h

/-- What is made of the type is declared under the name of its heading, and as what that says. -/
theorem derivations : ∀ declaration ∈ composed.derivations,
    heading? declaration.content = some (declaration.kind, declaration.name) := by
  have hderived : ∀ kind text, kind = .typeAlias ∨ kind = .function → Opens options kind text →
      heading? (composed.derived kind text).content =
        some ((composed.derived kind text).kind, (composed.derived kind text).name) := by
    intro kind text hkind hopens
    obtain ⟨name, hname, hheading⟩ := hopens.exists_name hkind
    rw [derived, hname]
    exact hheading
  intro declaration hdeclaration
  rcases List.mem_append.mp hdeclaration with hmem | hmem
  · obtain ⟨text, htext, rfl⟩ := List.mem_map.mp hmem
    exact hderived _ text (Or.inl rfl) (h.utilityTypes text htext)
  · obtain ⟨text, htext, rfl⟩ := List.mem_map.mp hmem
    exact hderived _ text (Or.inr rfl) (h.helpers text htext)

end Composition.Headed

namespace Composition

variable {composed : Composition} {options : Options} {doc : List String} {declared : String}

theorem mainKind_eq_interface_iff :
    composed.mainKind = .interface ↔ mention composed.typeName <:+: composed.content.toList := by
  rw [mainKind, ← mention, ← Text.occursIn_iff]
  split <;> simp_all

theorem mainKind_isMain (composed : Composition) :
    composed.mainKind = .interface ∨ composed.mainKind = .typeAlias := by
  unfold mainKind
  split
  · exact Or.inl rfl
  · exact Or.inr rfl

theorem heading?_interfaceText {lines : String} (hname : Name.isIdentifier declared = true) :
    heading? (interfaceText options doc declared lines) = some (.interface, declared) := by
  have hblank : ∀ c ∈ (' ' :: '\x7b' :: '\n' :: (lines.toList ++ ['\x7d'])).head?,
      Name.continuesIdentifier c = false := by
    rintro _ ⟨⟩
    decide
  rw [heading?_opening options doc .interface (leadingIdentifier?_append hname hblank)
    (toList_interfaceText options doc declared lines), String.ofList_toList]

theorem heading?_aliasText {type : String} (hname : Name.isIdentifier declared = true) :
    heading? (aliasText options doc declared type) = some (.typeAlias, declared) := by
  have hblank : ∀ c ∈ (' ' :: '=' :: ' ' :: (type.toList ++ [';'])).head?, Name.continuesIdentifier c = false := by
    rintro _ ⟨⟩
    decide
  rw [heading?_opening options doc .typeAlias (leadingIdentifier?_append hname hblank)
    (toList_aliasText options doc declared type), String.ofList_toList]

end Composition

namespace Lowering

variable {document : Document} {options : Options} {name : String}

theorem bottomAlias_eq (options : Options) (name : String) :
    (bottomAlias options name).content = aliasText options [] name bottomType := by
  have hcomment : docComment [] "" = "" := rfl
  simp only [bottomAlias, aliasText, hcomment, String.empty_append]

theorem headed_lowerUnion (name : String) (schema : Schema) :
    (lowerUnion name schema).Ensures (Over document options) fun lowered =>
      (∃ doc type, lowered.declaration.content = aliasText options doc (Name.pascal name) type) ∧
      ∀ declaration ∈ lowered.functions, Opens options .function declaration.content := by
  apply Ensures.withSegment Over.placeless
  cases unionMembersOf schema with
  | nil =>
    apply Over.readOptions
    apply (Over.any _).bind
    intro _ _
    exact .pure ⟨⟨[], bottomType, bottomAlias_eq options _⟩, by simp⟩
  | cons member rest =>
    apply Over.readDocument
    apply Over.readOptions
    apply (Over.any _).bind
    rintro ⟨⟨lowered, declarations⟩, dependencies⟩ -
    exact .pure ⟨⟨_, _, rfl⟩, UnionDispatch.opens_functions _ rfl options.unions⟩

theorem headed_composeUnion (derive : Bool) (hname : Name.isIdentifier name = true) (schema : Schema) :
    (composeUnion derive name schema).Ensures (Over document options) (Composition.Headed options (Name.pascal name)) := by
  apply (headed_lowerUnion name schema).bind
  rintro lowered ⟨hcontent, hfunctions⟩
  apply Over.readDocument
  apply Over.readOptions
  refine .pure ⟨Or.inr hcontent, ?_, ?_⟩
  · intro text htext
    exact DerivedTypes.opens_aliases options hname document schema text (List.mem_ite_nil_right.mp htext).2
  · intro text htext
    obtain ⟨declaration, hdeclaration, rfl⟩ := List.mem_map.mp (List.mem_ite_nil_right.mp htext).2
    exact hfunctions declaration hdeclaration

theorem headed_assemble (document : Document) (options : Options) (derive : Bool)
    (hname : Name.isIdentifier name = true) (schema : Schema) (body : CompositionBody) (parts : CompositionParts)
    (dependencies : List String) :
    (assemble document options derive name schema body parts dependencies).Headed options name where
  main := by
    unfold assemble
    dsimp only
    rcases body with expr | ⟨lines, properties⟩
    · rw [compositionContent_expression]
      exact Or.inr ⟨_, _, rfl⟩
    · rw [compositionContent_members]
      split
      · exact Or.inr ⟨_, _, rfl⟩
      · exact Or.inl ⟨_, _, rfl⟩
  utilityTypes text htext :=
    DerivedTypes.opens_aliases options hname document schema text (List.mem_ite_nil_right.mp htext).2
  helpers text htext := by
    rcases List.mem_append.mp htext with hmem | hmem
    · exact DerivedTypes.opens_functions options name document schema text (List.mem_ite_nil_right.mp hmem).2
    · obtain ⟨validator, hvalidator, rfl⟩ := Option.map_eq_some_iff.mp (Option.mem_toList.mp hmem)
      unfold compositionValidator? at hvalidator
      split at hvalidator
      · exact Validation.opens_validator hvalidator
      · cases hvalidator

theorem headed_compose (derive : Bool) (name : String) (schema : Schema) :
    (compose derive name schema).Ensures (Over document options)
      (Composition.Headed options (composedName name schema)) := by
  obtain ⟨kind, info⟩ := schema
  cases kind with
  | oneOf members | anyOf members => exact headed_composeUnion derive (Name.isIdentifier_pascal name) _
  | _ =>
    apply Ensures.withSegment Over.placeless
    apply (Over.any _).bind
    rintro ⟨⟨body, parts⟩, dependencies⟩ -
    apply Over.readDocument
    apply Over.readOptions
    exact .pure (headed_assemble document options derive (Name.isIdentifier_pascal name) _ body parts dependencies)

end Lowering

namespace Context

/-- What is made of a composed type is declared as what the heading of its text says, and under the name of it. The
main declaration is that of an interface if its heading is one. If that is an alias, it is so too where the comment
or the type expression of the alias mentions an interface of the type name, and only there. -/
theorem recovered_headings {context : Context} {derive : Bool} {name : String} {schema : Schema}
    {composed : Composition} (hrun : (context.run (compose derive name schema)).1 = .ok composed) :
    composed.declarations = composed.intermediates ++ composed.main :: composed.derivations ∧
    (∀ declaration ∈ composed.derivations,
      heading? declaration.content = some (declaration.kind, declaration.name)) ∧
    (composed.main.kind = .interface ∨ composed.main.kind = .typeAlias) ∧
    (heading? composed.main.content = some (.interface, composed.main.name) ∧ composed.main.kind = .interface ∨
      ∃ doc type, composed.main.content = aliasText context.options doc (composedName name schema) type ∧
        heading? composed.main.content = some (.typeAlias, composedName name schema) ∧
        (composed.main.kind = .interface ↔
          mention composed.main.name <:+: (docComment doc "").toList ∨
            mention composed.main.name <:+: type.toList)) := by
  rw [run_eq] at hrun
  have hheaded : composed.Headed context.options (composedName name schema) :=
    (headed_compose derive name schema context.setting context.store ⟨rfl, rfl⟩).2 composed hrun
  have hname : composed.typeName = Name.pascal name :=
    (gives_compose derive name schema context.setting context.store trivial).2 composed hrun
  have htype : Name.isIdentifier composed.typeName = true := hname ▸ Name.isIdentifier_pascal name
  have hdeclared : Name.isIdentifier (composedName name schema) = true := by
    unfold composedName
    split <;> exact Name.isIdentifier_pascal _
  refine ⟨rfl, hheaded.derivations, composed.mainKind_isMain, ?_⟩
  rcases hheaded.main with ⟨doc, lines, hcontent⟩ | ⟨doc, type, hcontent⟩
  · refine Or.inl ⟨?_, composed.mainKind_of_interfaceText hcontent⟩
    rw [Composition.main, hcontent, Composition.heading?_interfaceText htype]
  · refine Or.inr ⟨doc, type, hcontent, ?_, ?_⟩
    · rw [Composition.main, hcontent, Composition.heading?_aliasText hdeclared]
    · rw [Composition.main, Composition.mainKind_eq_interface_iff, hcontent]
      exact mention_infix_aliasText htype hdeclared context.options doc type

/-- An alias of texts whose description mentions the interface that it replaces. -/
def replacingAlias : Json :=
  .obj [("$defs", .obj [("User", .obj [("description", .str "Replaces the interface User of v1."),
    ("allOf", .arr [.obj [("type", .str "string")]])])])]

/-- Such an alias is declared as an interface, and what is made of it as it should be. -/
theorem recovered_headings_of_replacingAlias : ∃ document entry composed,
    Document.ofJson replacingAlias = .ok document ∧ document.named = [entry] ∧
    ((fresh document {}).run (compose true entry.name entry.schema)).1 = .ok composed ∧
    composed.main.content = "/** Replaces the interface User of v1. */\nexport type User = string;" ∧
    heading? composed.main.content = some (.typeAlias, "User") ∧ composed.main.kind = .interface ∧
    composed.utilityTypes ≠ [] ∧ ∀ declaration ∈ composed.derivations,
      heading? declaration.content = some (declaration.kind, declaration.name) := by
  have hrun : ((Document.ofJson replacingAlias).toOption.any fun document => document.named.length == 1 &&
      document.named.head?.any fun entry =>
        ((fresh document {}).run (compose true entry.name entry.schema)).1.toOption.any fun composed =>
          composed.main.content == "/** Replaces the interface User of v1. */\nexport type User = string;" &&
            heading? composed.main.content == some (.typeAlias, "User") &&
            composed.main.kind == .interface && !composed.utilityTypes.isEmpty) = true := by decide +kernel
  obtain ⟨document, hdocument, hrun⟩ := Decode.exists_ok_of_any hrun
  obtain ⟨hlength, hentry⟩ := Bool.and_eq_true_iff.mp hrun
  obtain ⟨entry, hhead, hentry⟩ := (Option.any_eq_true _ _).mp hentry
  obtain ⟨composed, hcomposed, hmain⟩ := Decode.exists_ok_of_any hentry
  simp only [Bool.and_eq_true, beq_iff_eq, Bool.not_eq_true', List.isEmpty_eq_false_iff] at hmain hlength
  obtain ⟨⟨⟨hcontent, hheading⟩, hkind⟩, hutilities⟩ := hmain
  have hnamed : document.named = [entry] := by
    obtain ⟨first, hfirst⟩ := List.length_eq_one_iff.mp hlength
    rw [hfirst] at hhead
    rw [hfirst, Option.some.inj hhead]
  exact ⟨document, entry, composed, hdocument, hnamed, hcomposed, hcontent, hheading, hkind, hutilities,
    (recovered_headings hcomposed).2.1⟩

end Context

end SchemaTypings
