import SchemaTypings.Lowering.Composition
import SchemaTypings.Proofs.Name.Identifiers
import SchemaTypings.Proofs.Typing.Resting

/-!
# Companions of types

The declarations of types, the validators, and what is derived from composed types are at rest. They refer to
no companion, but for the guard of a composed object, whose own name is that of one.
-/

namespace SchemaTypings

open Typing

variable {allowed : List Char → Prop} {name type : String}

/-! ## Declarations of types -/

namespace Typing.Property

variable {property : Property} (h : Rests allowed .word property.descriptor.typeName)

include h

theorem rests_member (options : Options) : Rests allowed .closed (property.member options) := by
  have hsignature : Rests allowed .word (property.signature options) := rests_signatureText _ _ _ _ h
  have hdoc : Rests allowed .closed
      (if options.generateComments then docComment property.docLines "  " else "") := by
    split
    · exact .docComment _ (Or.inr rfl)
    · exact .empty
  exact .of_template
    [.part (if options.generateComments then docComment property.docLines "  " else "") .closed,
      .literal "  ", .part (property.signature options) .word, .literal ";\n"] []
    (by simp [member]) rfl rfl (by simp [hsignature, hdoc]) (by simp)

end Typing.Property

namespace Typing

/-- The types of the properties are at rest. -/
def RestsIn (allowed : List Char → Prop) (properties : List Property) : Prop :=
  ∀ property ∈ properties, Rests allowed .word property.descriptor.typeName

theorem rests_memberLines (options : Options) {properties : List Property} {index : Option String}
    (h : RestsIn allowed properties) (hindex : ∀ value ∈ index, Rests allowed .word value) :
    Rests allowed .closed (memberLines options properties index) := by
  refine .append (.join fun line hline => ?_) ?_
  · obtain ⟨property, hproperty, rfl⟩ := List.mem_map.mp hline
    exact Property.rests_member (h property hproperty) options
  · cases index with
    | none => exact .empty
    | some value =>
      exact .of_template [.literal "  ", .part (indexSignatureText value) .word, .literal ";\n"] []
        (by simp) rfl rfl (by simp [rests_indexSignatureText (hindex value rfl)]) (by simp)

/-- A type that is declared after documentation. -/
theorem rests_typeDeclaration {content : String} (doc : List String) (options : Options)
    (hname : IsWord name) (htype : Rests allowed .word type)
    (htext : content.toList = Template.render [.part (docComment doc "") .closed,
      .part options.exportWord .closed, .literal "type ", .word name, .literal " = ", .part type .word,
      .literal ";"]) : Rests allowed .closed content :=
  .of_template _ [] htext rfl rfl
    (by simp [Rests.docComment doc (Or.inl rfl), Rests.exportWord options, hname, htype]) (by simp)

theorem rests_members {lines : String} (h : Rests allowed .closed lines) :
    Rests allowed .word s!"\x7b\n{lines}\x7d" :=
  (Rests.of_template [.literal "\x7b\n", .part lines .closed, .literal "\x7d"] [] (by simp) rfl rfl
    (by simp [h]) (by simp)).toWord

theorem rests_interface {lines content : String} (doc : List String) (options : Options)
    (hname : IsWord name) (hlines : Rests allowed .closed lines)
    (htext : content.toList = Template.render [.part (docComment doc "") .closed,
      .part options.exportWord .closed, .literal "interface ", .word name, .literal " \x7b\n",
      .part lines .closed, .literal "\x7d"]) : Rests allowed .closed content :=
  .of_template _ [] htext rfl rfl
    (by simp [Rests.docComment doc (Or.inl rfl), Rests.exportWord options, hname, hlines]) (by simp)

end Typing

namespace Lowering

theorem rests_interfaceDeclaration (options : Options) (info : SchemaInfo) {properties : List Property}
    {index : Option String} (dependencies : List String) (hname : IsWord name)
    (hproperties : RestsIn allowed properties) (hindex : ∀ value ∈ index, Rests allowed .word value) :
    Rests allowed .closed
      (interfaceDeclaration options name info properties index dependencies).content := by
  unfold interfaceDeclaration
  dsimp only
  split
  · have hvalue : Rests allowed .word (index.getD topType) := by
      cases index with
      | none => exact (IsWord.of_isIdentifier (by decide)).rests
      | some value => exact hindex value rfl
    have hrecord : Rests allowed .word s!"Record<string, {index.getD topType}>" :=
      (Rests.of_template [.literal "Record<string, ", .part (index.getD topType) .word, .literal ">"] []
        (by simp) rfl rfl (by simp [hvalue]) (by simp)).toWord
    exact rests_typeDeclaration (interfaceDoc options name info) options hname hrecord (by simp)
  · exact rests_interface (interfaceDoc options name info) options hname
      (rests_memberLines options hproperties hindex) (by simp)

theorem rests_bottomAlias (options : Options) (hname : IsWord name) :
    Rests allowed .closed (bottomAlias options name).content := by
  have hbottom : Rests allowed .word bottomType := (IsWord.of_isIdentifier (by decide)).rests
  exact rests_typeDeclaration [] options hname hbottom (by simp [bottomAlias, show docComment [] "" = "" from rfl])

theorem rests_unionDeclaration (options : Options) (info : SchemaInfo) {members : List UnionMember}
    (dependencies : List String) (hname : IsWord name)
    (hmembers : ∀ member ∈ members, Rests allowed .word member.typeName) :
    Rests allowed .closed (unionDeclaration options name info members dependencies).content := by
  have hunion : Rests allowed .word (union (members.map (·.typeName))) := by
    refine rests_union fun part hpart => ?_
    obtain ⟨member, hmember, rfl⟩ := List.mem_map.mp hpart
    exact hmembers member hmember
  have htype : Rests allowed .word (if info.nullable then
      makeNullable options (union (members.map (·.typeName))) else union (members.map (·.typeName))) := by
    split
    · exact rests_makeNullable options hunion
    · exact hunion
  exact rests_typeDeclaration (typeDoc options info) options hname htype (by simp [unionDeclaration])

end Lowering

/-! ## Validators -/

namespace Validation

/-- The property of a value is accessed as a member, or by its key between brackets. -/
theorem accessor_cases (property : String) :
    (IsWord (accessor property) ∧ (accessor property).toList.head? = some 'v') ∨
      accessor property = "value[" ++ quoted property ++ "]" := by
  unfold accessor
  split
  · rename_i hproperty
    have hvalue : IsWord "value." := by simp [IsWord]; decide
    exact Or.inl ⟨hvalue.append (IsWord.of_isIdentifier hproperty).2, by simp⟩
  · exact Or.inr rfl

theorem rests_accessor (property : String) : Rests allowed .word (accessor property) := by
  rcases accessor_cases property with ⟨hword, -⟩ | haccess
  · exact hword.rests
  · rw [haccess]
    exact (Rests.of_template [.literal "value[", .quoted property, .literal "]"] [] (by simp) rfl rfl
      (by simp) (by simp)).toWord

theorem rests_length (property : String) : Rests allowed .word (accessor property ++ ".length") := by
  rcases accessor_cases property with ⟨hword, -⟩ | haccess
  · exact (hword.append (by decide)).rests
  · rw [haccess]
    exact .of_template [.literal "value[", .quoted property, .literal "]", .word ".length"] [] (by simp)
      rfl rfl (by simp [IsWord]; decide) (by simp)

/-- The sign of a comparison could begin a call as well, but not of the function that a property is. -/
theorem rests_atMost {bound : String} (hbound : Rests allowed .plain bound) (property : String) :
    Rests allowed .word (accessor property ++ " <= " ++ bound) ∧
      Rests allowed .word (accessor property ++ ".length <= " ++ bound) := by
  rcases accessor_cases property with ⟨hword, hhead⟩ | haccess
  · have hlength : IsWord (accessor property ++ ".length") := hword.append (by decide)
    have hmet : (Use.call (accessor property)).Met allowed := Use.met_of_head 'v' hhead (by decide)
    have hmet' : (Use.call (accessor property ++ ".length")).Met allowed :=
      Use.met_of_head 'v' (by simp [hhead]) (by decide)
    constructor
    · exact (Rests.of_template [.word (accessor property), .literal " <= ", .part bound .plain]
        [.call (accessor property)] (by simp) rfl rfl (by simp [hword, hbound]) (by simp [hmet])).toWord
    · exact (Rests.of_template [.word (accessor property ++ ".length"), .literal " <= ", .part bound .plain]
        [.call (accessor property ++ ".length")] (by simp) rfl rfl (by simp [hlength, hbound])
        (by simp [hmet'])).toWord
  · rw [haccess]
    constructor
    · exact (Rests.of_template [.literal "value[", .quoted property, .literal "]", .literal " <= ",
        .part bound .plain] [] (by simp) rfl rfl (by simp [hbound]) (by simp)).toWord
    · exact (Rests.of_template [.literal "value[", .quoted property, .literal "]", .literal ".length <= ",
        .part bound .plain] [] (by simp) rfl rfl (by simp [hbound]) (by simp)).toWord

theorem rests_checkExpression (rule : Rule) (property : String) :
    Rests allowed .word (checkExpression rule (accessor property)) := by
  have haccess : Rests allowed .word (accessor property) := rests_accessor property
  have hlength : Rests allowed .word (accessor property ++ ".length") := rests_length property
  have hvalue : Rests allowed .plain rule.value.compact := rests_compact rule.value
  have hpattern : ∀ pattern, Rests allowed .word
      s!"new RegExp({quoted pattern}).test({accessor property})" := fun pattern =>
    (Rests.of_template [.literal "new RegExp(", .quoted pattern, .literal ").test(",
      .part (accessor property) .word, .literal ")"] [] (by simp) rfl rfl (by simp [haccess])
      (by simp)).toWord
  unfold checkExpression
  split
  · exact (Rests.of_template [.part (accessor property ++ ".length") .word, .literal " >= ",
      .part rule.value.compact .plain] [] (by simp) rfl rfl (by simp [hlength, hvalue]) (by simp)).toWord
  · exact (rests_atMost hvalue property).2
  · exact (Rests.of_template [.part (accessor property) .word, .literal " >= ",
      .part rule.value.compact .plain] [] (by simp) rfl rfl (by simp [haccess, hvalue]) (by simp)).toWord
  · exact (rests_atMost hvalue property).1
  · exact hpattern _
  · exact (Rests.of_template [.literal emailPattern, .literal ".test(", .part (accessor property) .word,
      .literal ")"] [] (by simp) rfl rfl (by simp [haccess]) (by simp)).toWord
  · exact (Rests.of_template [.literal urlPattern, .literal ".test(", .part (accessor property) .word,
      .literal ")"] [] (by simp) rfl rfl (by simp [haccess]) (by simp)).toWord

theorem rests_ruleCheck (property : Property) (rule : Rule) :
    Rests allowed .closed (ruleCheck property rule) := by
  have hcheck : Rests allowed .word (checkExpression rule (accessor property.name)) :=
    rests_checkExpression rule property.name
  have hguard : Rests allowed .closed (if !property.required || property.descriptor.isNullable then
      s!"{accessor property.name} != null && " else "") := by
    split
    · exact .of_template [.part (accessor property.name) .word, .literal " != null && "] [] (by simp) rfl rfl
        (by simp [rests_accessor]) (by simp)
    · exact .empty
  unfold ruleCheck
  dsimp only
  generalize (if !property.required || property.descriptor.isNullable then
    s!"{accessor property.name} != null && " else "") = guard_ at hguard
  exact .of_template [.literal "  if (", .part guard_ .closed, .literal "!(",
    .part (checkExpression rule (accessor property.name)) .word, .literal ")) \x7b\n    errors.push(",
    .quoted rule.message, .literal ");\n  \x7d\n"] [] (by simp) rfl rfl (by simp [hguard, hcheck]) (by simp)

theorem rests_validator {options : Options} {properties : List Property} {validator : Declaration}
    (hname : IsWord name) (h : validator? options.exportWord name properties = some validator) :
    Rests allowed .closed validator.content := by
  have hbody : Rests allowed .closed (String.join (properties.map propertyChecks)) := by
    refine .join fun checks hchecks => ?_
    obtain ⟨property, -, rfl⟩ := List.mem_map.mp hchecks
    refine .join fun check hcheck => ?_
    obtain ⟨rule, -, rfl⟩ := List.mem_map.mp hcheck
    exact rests_ruleCheck property rule
  have hword : IsWord ("validate" ++ name) := IsWord.append (.of_isIdentifier (by decide)) hname.2
  have hown : (Use.call ("validate" ++ name)).Met allowed := Use.met_of_head 'v' (by simp) (by decide)
  unfold validator? at h
  split at h
  · cases h
  · cases h
    exact .of_template [.part options.exportWord .closed, .literal "function ", .word ("validate" ++ name),
      .literal "(value: ", .word name, .literal "): string[] \x7b\n  const errors: string[] = [];\n",
      .part (String.join (properties.map propertyChecks)) .closed, .literal "  return errors;\n\x7d"]
      [.call ("validate" ++ name)] (by simp) rfl rfl
      (by simp [Rests.exportWord options, hword, hname, hbody]) (by simp [hown])

end Validation

/-! ## Compositions -/

/-- The types in the body are at rest. -/
def CompositionBody.Rests (allowed : List Char → Prop) : CompositionBody → Prop
  | .alias expr => Typing.Rests allowed .word expr
  | .members lines _ => Typing.Rests allowed .closed lines

theorem Lowering.rests_compositionContent (options : Options) (info : SchemaInfo) (circular : List String)
    {body : CompositionBody} (hname : IsWord name) (hbody : body.Rests allowed) :
    Rests allowed .closed (compositionContent options name info circular body) := by
  unfold compositionContent
  dsimp only
  split
  · exact rests_typeDeclaration (compositionDoc options info circular) options hname hbody (by simp)
  · exact rests_typeDeclaration (compositionDoc options info circular) options hname
      (rests_makeNullable options hbody) (by simp)
  · exact rests_typeDeclaration (compositionDoc options info circular) options hname
      (rests_makeNullable options (rests_members hbody)) (by simp)
  · exact rests_interface (compositionDoc options info circular) options hname hbody (by simp)

/-! ## Derived types -/

namespace DerivedTypes

variable (options : Options) (hname : IsWord name)

include hname

theorem rests_plainAliases : ∀ text ∈ plainAliases options.exportWord name, Rests allowed .closed text := by
  have hexport : Rests allowed .closed options.exportWord := .exportWord options
  have hpartial : IsWord ("Partial" ++ name) := IsWord.append (.of_isIdentifier (by decide)) hname.2
  have hrequired : IsWord ("Required" ++ name) := IsWord.append (.of_isIdentifier (by decide)) hname.2
  have hreadonly : IsWord ("Readonly" ++ name) := IsWord.append (.of_isIdentifier (by decide)) hname.2
  simp only [plainAliases, List.map_cons, List.map_nil, List.forall_mem_cons]
  refine ⟨?_, ?_, ?_, by simp⟩
  · exact .of_template [.part options.exportWord .closed, .literal "type ", .word ("Partial" ++ name),
      .literal " = ", .literal "Partial", .literal "<", .word name, .literal ">;"] [] (by simp) rfl rfl
      (by simp [hexport, hpartial, hname]) (by simp)
  · exact .of_template [.part options.exportWord .closed, .literal "type ", .word ("Required" ++ name),
      .literal " = ", .literal "Required", .literal "<", .word name, .literal ">;"] [] (by simp) rfl rfl
      (by simp [hexport, hrequired, hname]) (by simp)
  · exact .of_template [.part options.exportWord .closed, .literal "type ", .word ("Readonly" ++ name),
      .literal " = ", .literal "Readonly", .literal "<", .word name, .literal ">;"] [] (by simp) rfl rfl
      (by simp [hexport, hreadonly, hname]) (by simp)

theorem rests_keyAliases (shape : FlatShape) :
    ∀ text ∈ keyAliases options.exportWord name shape, Rests allowed .closed text := by
  have hexport : Rests allowed .closed options.exportWord := .exportWord options
  have hkeys : IsWord (name ++ "Keys") := hname.append (by decide)
  have hpick : IsWord ("Pick" ++ name) := IsWord.append (.of_isIdentifier (by decide)) hname.2
  have homit : IsWord ("Omit" ++ name) := IsWord.append (.of_isIdentifier (by decide)) hname.2
  have hcall : (Use.call ("Pick" ++ name)).Met allowed := Use.met_of_head 'P' (by simp) (by decide)
  have hcall' : (Use.call ("Omit" ++ name)).Met allowed := Use.met_of_head 'O' (by simp) (by decide)
  have hliterals : Rests allowed .word
      (String.intercalate " | " (shape.properties.map fun property => quoted property.1)) := by
    refine .intercalate (fun _ _ => rfl) fun literal hliteral => ?_
    obtain ⟨property, -, rfl⟩ := List.mem_map.mp hliteral
    exact (rests_quoted property.1).toWord
  unfold keyAliases
  split
  · simp
  · simp only [List.forall_mem_cons]
    refine ⟨?_, ?_, ?_, by simp⟩
    · exact .of_template [.part options.exportWord .closed, .literal "type ", .word (name ++ "Keys"),
        .literal " = ", .part (String.intercalate " | " (shape.properties.map fun property =>
          quoted property.1)) .word, .literal ";"] [] (by simp) rfl rfl
        (by simp [hexport, hkeys, hliterals]) (by simp)
    · exact .of_template [.part options.exportWord .closed, .literal "type ", .word ("Pick" ++ name),
        .literal "<K extends ", .word (name ++ "Keys"), .literal "> = Pick<", .word name,
        .literal ", K>;"] [.call ("Pick" ++ name)] (by simp) rfl rfl
        (by simp [hexport, hkeys, hpick, hname]) (by simp [hcall])
    · exact .of_template [.part options.exportWord .closed, .literal "type ", .word ("Omit" ++ name),
        .literal "<K extends ", .word (name ++ "Keys"), .literal "> = Omit<", .word name,
        .literal ", K>;"] [.call ("Omit" ++ name)] (by simp) rfl rfl
        (by simp [hexport, hkeys, homit, hname]) (by simp [hcall'])

theorem rests_deepPartial : Rests allowed .closed (deepPartial options.exportWord name) := by
  have hword : IsWord ("DeepPartial" ++ name) := IsWord.append (.of_isIdentifier (by decide)) hname.2
  have hcall : (Use.call ("DeepPartial" ++ name)).Met allowed := Use.met_of_head 'D' (by simp) (by decide)
  refine .of_template [.part options.exportWord .closed, .literal "type ", .word ("DeepPartial" ++ name),
    .literal "<T = ", .word name,
    .literal "> = \x7b\n  [P in keyof T]?: T[P] extends object ? ", .word ("DeepPartial" ++ name),
    .literal "<T[P]> : T[P];\n\x7d;"] [.call ("DeepPartial" ++ name), .call ("DeepPartial" ++ name)] ?_ rfl rfl
    (by simp [Rests.exportWord options, hword, hname]) (by simp [hcall])
  simp [deepPartial]

theorem rests_aliases (document : Document) (schema : Schema) :
    ∀ text ∈ aliases document options name schema, Rests allowed .closed text := by
  intro text htext
  unfold aliases at htext
  rcases List.mem_append.mp htext with htext | htext
  · exact rests_plainAliases options hname text htext
  · split at htext
    · cases htext
    · rename_i shape _
      rcases List.mem_append.mp htext with htext | htext
      · exact rests_keyAliases options hname shape text htext
      · obtain ⟨-, htext⟩ := List.mem_ite_nil_right.mp htext
        rw [List.mem_singleton.mp htext]
        exact rests_deepPartial options hname

/-- The guard names itself. -/
theorem rests_guard (shape : FlatShape) (hguard : (Use.call ("is" ++ name)).Met allowed) :
    Rests allowed .closed (guard options.exportWord name shape) := by
  have hchecks : Rests allowed .word (String.intercalate " && "
      (["typeof value === \"object\"", "value !== null", "!Array.isArray(value)"]
        ++ shape.required.map fun property => s!"{quoted property} in value")) := by
    refine .intercalate (fun _ _ => rfl) fun check hcheck => ?_
    simp only [List.mem_append, List.mem_cons, List.not_mem_nil, or_false, List.mem_map] at hcheck
    rcases hcheck with (rfl | rfl | rfl) | ⟨property, -, rfl⟩
    · exact (Rests.of_template [.literal "typeof value === \"object\""] [] (by simp) rfl rfl (by simp)
        (by simp)).toWord
    · exact .of_template [.literal "value !== ", .word "null"] [] (by simp) rfl rfl
        (by simpa using IsWord.of_isIdentifier (by decide)) (by simp)
    · exact (Rests.of_template [.literal "!Array.isArray(value)"] [] (by simp) rfl rfl (by simp)
        (by simp)).toWord
    · exact .of_template [.quoted property, .literal " in ", .word "value"] [] (by simp) rfl rfl
        (by simpa using IsWord.of_isIdentifier (by decide)) (by simp)
  have hword : IsWord ("is" ++ name) := IsWord.append (.of_isIdentifier (by decide)) hname.2
  unfold guard
  dsimp only
  generalize String.intercalate " && " (["typeof value === \"object\"", "value !== null",
    "!Array.isArray(value)"] ++ shape.required.map fun property => s!"{quoted property} in value") = checks
    at hchecks
  exact .of_template [.part options.exportWord .closed, .literal "function ", .word ("is" ++ name),
    .literal "(value: unknown): value is ", .word name, .literal " \x7b\n  return ", .part checks .word,
    .literal ";\n\x7d"] [.call ("is" ++ name)] (by simp) rfl rfl
    (by simp [Rests.exportWord options, hword, hname, hchecks]) (by simp [hguard])

theorem rests_clone : Rests allowed .closed (clone options.exportWord name) := by
  have hword : IsWord ("clone" ++ name) := IsWord.append (.of_isIdentifier (by decide)) hname.2
  have hcall : (Use.call ("clone" ++ name)).Met allowed := Use.met_of_head 'c' (by simp) (by decide)
  exact .of_template [.part options.exportWord .closed, .literal "function ", .word ("clone" ++ name),
    .literal "(value: ", .word name, .literal "): ", .word name,
    .literal " \x7b\n  return structuredClone(value);\n\x7d"] [.call ("clone" ++ name)]
    (by simp [clone]) rfl rfl (by simp [Rests.exportWord options, hword, hname]) (by simp [hcall])

theorem rests_merge : Rests allowed .closed (merge options.exportWord name) := by
  have hword : IsWord ("merge" ++ name) := IsWord.append (.of_isIdentifier (by decide)) hname.2
  have hcall : (Use.call ("merge" ++ name)).Met allowed := by
    intro hguard
    simp [namesGuard, isLedBy] at hguard
  exact .of_template [.part options.exportWord .closed, .literal "function ", .word ("merge" ++ name),
    .literal "(base: ", .word name, .literal ", patch: Partial<", .word name, .literal ">): ", .word name,
    .literal " \x7b\n  return \x7b ...base, ...patch \x7d;\n\x7d"] [.call ("merge" ++ name)]
    (by simp [merge]) rfl rfl (by simp [Rests.exportWord options, hword, hname]) (by simp [hcall])

theorem rests_functions (document : Document) (schema : Schema)
    (hguard : document.flatten? schema ≠ none → (Use.call ("is" ++ name)).Met allowed) :
    ∀ text ∈ functions document options name schema, Rests allowed .closed text := by
  intro text htext
  unfold functions at htext
  dsimp only at htext
  split at htext
  · cases htext
  · rename_i shape hshape
    have hsome : document.flatten? schema ≠ none := by
      rw [hshape]
      rintro ⟨⟩
    rcases List.mem_append.mp htext with htext | htext
    · rcases List.mem_cons.mp htext with rfl | htext
      · exact rests_guard options hname shape (hguard hsome)
      · obtain ⟨-, htext⟩ := List.mem_ite_nil_right.mp htext
        rw [List.mem_singleton.mp htext]
        exact rests_clone options hname
    · rw [List.mem_singleton.mp htext]
      exact rests_merge options hname

end DerivedTypes

end SchemaTypings
