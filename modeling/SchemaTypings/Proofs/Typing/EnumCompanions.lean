import SchemaTypings.Proofs.Name.Identifiers
import SchemaTypings.Proofs.Typing.Complete
import SchemaTypings.Proofs.Typing.Identifiers
import SchemaTypings.Typing.EnumText

/-!
# Companions of enumerations

Which companions the declarations about an enumeration refer to. The array of the values is read by the guard
and, where the type is derived from it, by the type; the guard is called by the readers and by the assertion.
-/

namespace SchemaTypings.Typing

variable {allowed : List Char → Prop}

/-! ## Values -/

namespace EnumValue

/-- The key is an identifier, and the literal is that of the value. -/
structure Wellformed (value : EnumValue) : Prop where
  key : Name.isIdentifier value.key = true
  literal : value.literal = value.json.literal

theorem wellformed_distinguish {values : List EnumValue} {taken : List String}
    (h : ∀ value ∈ values, value.Wellformed) : ∀ value ∈ distinguish taken values, value.Wellformed := by
  induction values generalizing taken with
  | nil => rintro _ ⟨⟩
  | cons first rest ih =>
    obtain ⟨hkey, hliteral⟩ := h first List.mem_cons_self
    intro value hvalue
    rw [distinguish] at hvalue
    rcases List.mem_cons.mp hvalue with rfl | hvalue
    · exact ⟨Name.isIdentifier_fresh (by decide) hkey taken, hliteral⟩
    · exact ih (fun other hother => h other (List.mem_cons_of_mem _ hother)) value hvalue

/-- Every value of an enumeration is well-formed, whatever the options make of the keys. -/
theorem wellformed_all {options : EnumOptions} {shape : EnumShape} :
    ∀ value ∈ all options shape, value.Wellformed := by
  have hpositions : ∀ value ∈ shape.values.mapIdx (ofPosition options shape), value.Wellformed := by
    intro value hvalue
    obtain ⟨index, hindex, rfl⟩ := List.mem_mapIdx.mp hvalue
    exact ⟨Name.isIdentifier_sanitize _, rfl⟩
  refine wellformed_distinguish ?_
  split
  · intro value hvalue
    exact hpositions value ((List.mergeSort_perm _ _).mem_iff.mp hvalue)
  · exact hpositions

variable {value : EnumValue} (h : value.Wellformed)

include h

theorem Wellformed.isWord_key : IsWord value.key :=
  .of_isIdentifier h.key

theorem Wellformed.rests_literal : Rests allowed .plain value.literal := by
  rw [h.literal]
  exact rests_compact value.json

end EnumValue

namespace EnumText

/-- The text is about a type whose name is an identifier, and about well-formed values. -/
structure Wellformed (text : EnumText) : Prop where
  name : Name.isIdentifier text.name = true
  values : ∀ value ∈ text.values, value.Wellformed
  exportWord : ∃ options : Options, text.exportWord = options.exportWord

namespace Wellformed

variable {text : EnumText} (h : text.Wellformed)

include h

theorem isWord : IsWord text.name :=
  .of_isIdentifier h.name

theorem isWord_after {lead : String} (hlead : IsWord lead) : IsWord (lead ++ text.name) :=
  hlead.append h.isWord.2

theorem isWord_valuesName : IsWord text.valuesName :=
  h.isWord.append (by decide)

theorem isWord_guard : IsWord ("is" ++ text.name) :=
  h.isWord_after (.of_isIdentifier (by decide))

/-- The access to a value of the type. -/
theorem isWord_access {key : String} (hkey : key.toList.all Lexer.isWordChar = true) :
    IsWord (text.name ++ "." ++ key) :=
  (h.isWord.append (by decide)).append hkey

theorem rests_exportWord : Rests allowed .closed text.exportWord := by
  obtain ⟨options, hword⟩ := h.exportWord
  rw [hword]
  exact .exportWord options

omit h in
theorem rests_header (info : SchemaInfo) : Rests allowed .closed (text.header info) := by
  unfold header
  split
  · exact .docComment _ (Or.inl rfl)
  · exact .empty

omit h in
theorem rests_valueDoc (value : EnumValue) : Rests allowed .closed (text.valueDoc value) := by
  unfold valueDoc
  split
  · exact .docComment _ (Or.inr rfl)
  · exact .empty

theorem rests_literals : ∀ literal ∈ text.literals, Rests allowed .word literal := by
  intro literal hliteral
  obtain ⟨value, hvalue, rfl⟩ := List.mem_map.mp hliteral
  exact (h.values value hvalue).rests_literal.toWord

/-! ### Types -/

/-- An entry of the map of the values. -/
theorem rests_entry {value : EnumValue} (hvalue : value ∈ text.values) (cast : Bool) :
    let suffix := if cast then s!" as {text.name}" else ""
    Rests allowed .closed s!"{text.valueDoc value}  {value.key}: {value.literal}{suffix},\n" := by
  have hkey := (h.values value hvalue).isWord_key
  have hliteral : Rests allowed .plain value.literal := (h.values value hvalue).rests_literal
  have hdoc : Rests allowed .closed (text.valueDoc value) := rests_valueDoc value
  cases cast with
  | true =>
    exact .of_template [.part (text.valueDoc value) .closed, .literal "  ", .word value.key, .literal ": ",
      .part value.literal .plain, .literal " as ", .word text.name, .literal ",\n"] []
      (by simp) rfl rfl (by simp [hdoc, hkey, hliteral, h.isWord]) (by simp)
  | false =>
    exact .of_template [.part (text.valueDoc value) .closed, .literal "  ", .word value.key, .literal ": ",
      .part value.literal .plain, .literal ",\n"] []
      (by simp) rfl rfl (by simp [hdoc, hkey, hliteral]) (by simp)

theorem rests_valueMap (cast : Bool) : Rests allowed .closed (text.valueMap cast).content := by
  have hcontent : ∃ body, Rests allowed .closed body ∧ (text.valueMap cast).content =
      s!"{text.exportWord}const {text.name} = \x7b\n{body}\x7d as const;" := by
    refine ⟨_, .join fun line hline => ?_, rfl⟩
    obtain ⟨value, hvalue, rfl⟩ := List.mem_map.mp hline
    exact h.rests_entry hvalue cast
  obtain ⟨body, hbody, hcontent⟩ := hcontent
  rw [hcontent]
  exact .of_template [.part text.exportWord .closed, .literal "const ", .word text.name,
    .literal " = \x7b\n", .part body .closed, .literal "\x7d as const;"] []
    (by simp) rfl rfl (by simp [h.rests_exportWord, h.isWord, hbody]) (by simp)

theorem rests_literalUnion (info : SchemaInfo) :
    Rests allowed .closed (text.literalUnion info).1.content :=
  .of_template [.part (text.header info) .closed, .part text.exportWord .closed, .literal "type ",
    .word text.name, .literal " = ", .part (union text.literals) .word, .literal ";"] []
    (by simp [literalUnion]) rfl rfl
    (by simp [rests_header, h.rests_exportWord, h.isWord, rests_union h.rests_literals]) (by simp)

theorem rests_enumBlock (info : SchemaInfo) : Rests allowed .closed (text.enumBlock info).1.content := by
  have hcontent : ∃ body, Rests allowed .closed body ∧ (text.enumBlock info).1.content =
      s!"{text.header info}{text.exportWord}enum {text.name} \x7b\n{body}\x7d" := by
    refine ⟨_, .join fun line hline => ?_, rfl⟩
    obtain ⟨value, hvalue, rfl⟩ := List.mem_map.mp hline
    have hkey := (h.values value hvalue).isWord_key
    have hliteral : Rests allowed .plain value.literal := (h.values value hvalue).rests_literal
    exact .of_template [.part (text.valueDoc value) .closed, .literal "  ", .word value.key,
      .literal " = ", .part value.literal .plain, .literal ",\n"] []
      (by simp) rfl rfl (by simp [rests_valueDoc, hkey, hliteral]) (by simp)
  obtain ⟨body, hbody, hcontent⟩ := hcontent
  rw [hcontent]
  exact .of_template [.part (text.header info) .closed, .part text.exportWord .closed, .literal "enum ",
    .word text.name, .literal " \x7b\n", .part body .closed, .literal "\x7d"] []
    (by simp) rfl rfl (by simp [rests_header, h.rests_exportWord, h.isWord, hbody]) (by simp)

/-- The type of the elements of the array asks for the type of the array. -/
theorem rests_constTuple (info : SchemaInfo) (hvalues : (Use.read text.valuesName).Met allowed) :
    Rests allowed .closed (text.constTuple info).1.content :=
  .of_template [.part (text.header info) .closed, .part text.exportWord .closed, .literal "type ",
    .word text.name, .literal " = (typeof ", .word text.valuesName, .literal ")[number];"]
    [.read text.valuesName] (by simp [constTuple]) rfl rfl
    (by simp [rests_header, h.rests_exportWord, h.isWord, h.isWord_valuesName])
    (by simp [hvalues])

theorem rests_tuple (info : SchemaInfo) :
    ∀ declaration ∈ (text.constTuple info).2, Rests allowed .closed declaration.content := by
  have hliterals : Rests allowed .word (String.intercalate ", " text.literals) :=
    .intercalate (fun _ _ => rfl) h.rests_literals
  have harray :
      let elements := String.intercalate ", " text.literals
      Rests allowed .closed s!"{text.exportWord}const {text.valuesName} = [{elements}] as const;" :=
    .of_template [.part text.exportWord .closed, .literal "const ", .word text.valuesName,
      .literal " = [", .part (String.intercalate ", " text.literals) .word, .literal "] as const;"] []
      (by simp) rfl rfl (by simp [h.rests_exportWord, h.isWord_valuesName, hliterals]) (by simp)
  simp only [constTuple, List.forall_mem_cons]
  exact ⟨harray, h.rests_valueMap false, by simp⟩

theorem rests_branded (info : SchemaInfo) : Rests allowed .closed (text.branded info).1.content := by
  have hbrand : IsWord (Name.camel text.name ++ "Brand") :=
    .of_isIdentifier (Name.isIdentifier_append (Name.isIdentifier_camel _) (by decide))
  exact .of_template [.literal "declare const ", .word (Name.camel text.name ++ "Brand"),
    .literal ": unique symbol;\n", .part (text.header info) .closed, .part text.exportWord .closed,
    .literal "type ", .word text.name, .literal " = (", .part (union text.literals) .word,
    .literal ") & \x7b readonly [", .word (Name.camel text.name ++ "Brand"), .literal "]: ",
    .quoted text.name, .literal " \x7d;"] []
    (by simp [branded]) rfl rfl
    (by simp [rests_header, h.rests_exportWord, h.isWord, hbrand, rests_union h.rests_literals]) (by simp)

/-- The declarations by a strategy refer to the array of the values if it is declared with them. -/
theorem rests_declarations (strategy : EnumStrategy) (info : SchemaInfo)
    (hvalues : strategy = .const → (Use.read text.valuesName).Met allowed) :
    ∀ declaration ∈ (text.declarations strategy info).1 :: (text.declarations strategy info).2,
      Rests allowed .closed declaration.content := by
  cases strategy <;> simp only [declarations, List.forall_mem_cons]
  case union => exact ⟨h.rests_literalUnion info, by simpa [literalUnion] using h.rests_valueMap false⟩
  case enum => exact ⟨h.rests_enumBlock info, by simp [enumBlock]⟩
  case const => exact ⟨h.rests_constTuple info (hvalues rfl), h.rests_tuple info⟩
  case branded => exact ⟨h.rests_branded info, by simpa [branded] using h.rests_valueMap true⟩

/-! ### Helpers -/

theorem rests_valuesArray : Rests allowed .closed text.valuesArray.content := by
  have hmembers : Rests allowed .word (String.intercalate ", "
      (text.values.map fun value => s!"{text.name}.{value.key}")) := by
    refine .intercalate (fun _ _ => rfl) fun member hmember => ?_
    obtain ⟨value, hvalue, rfl⟩ := List.mem_map.mp hmember
    exact (h.isWord_access (h.values value hvalue).isWord_key.2).rests
  have hcontent : ∃ members, Rests allowed .word members ∧ text.valuesArray.content =
      s!"{text.exportWord}const {text.valuesName}: readonly {text.name}[] = [{members}];" :=
    ⟨_, hmembers, rfl⟩
  obtain ⟨members, hmembers, hcontent⟩ := hcontent
  rw [hcontent]
  exact .of_template [.part text.exportWord .closed, .literal "const ", .word text.valuesName,
    .literal ": readonly ", .word text.name, .literal "[] = [", .part members .word, .literal "];"] []
    (by simp) rfl rfl
    (by simp [h.rests_exportWord, h.isWord, h.isWord_valuesName, hmembers]) (by simp)

/-- The guard reads the array of the values. -/
theorem rests_guard (hguard : (Use.call ("is" ++ text.name)).Met allowed)
    (hvalues : (Use.read text.valuesName).Met allowed) : Rests allowed .closed text.guard.content :=
  .of_template [.part text.exportWord .closed, .literal "function ", .word ("is" ++ text.name),
    .literal "(value: unknown): value is ", .word text.name, .literal " \x7b\n  return (",
    .word text.valuesName, .literal " as readonly unknown[]).includes(value);\n\x7d"]
    [.call ("is" ++ text.name), .read text.valuesName]
    (by simp [guard, about]) rfl rfl
    (by simp [h.rests_exportWord, h.isWord, h.isWord_guard, h.isWord_valuesName])
    (by simp [hguard, hvalues])

/-- The reader calls the guard. -/
theorem rests_reader (hguard : (Use.call ("is" ++ text.name)).Met allowed)
    (hreader : (Use.call ("parse" ++ text.name)).Met allowed) : Rests allowed .closed text.reader.content :=
  .of_template [.part text.exportWord .closed, .literal "function ", .word ("parse" ++ text.name),
    .literal "(value: unknown): ", .word text.name, .literal " | null \x7b\n  return ",
    .word ("is" ++ text.name), .literal "(value) ? value : null;\n\x7d"]
    [.call ("parse" ++ text.name), .call ("is" ++ text.name)]
    (by simp [reader, about]) rfl rfl
    (by simp [h.rests_exportWord, h.isWord, h.isWord_guard,
      h.isWord_after (.of_isIdentifier (by decide : Name.isIdentifier "parse" = true))])
    (by simp [hguard, hreader])

theorem rests_readerWithDefault (default? : Option Json) (hguard : (Use.call ("is" ++ text.name)).Met allowed)
    (hreader : (Use.call ("parse" ++ text.name ++ "OrDefault")).Met allowed) :
    Rests allowed .closed (text.readerWithDefault default?).content := by
  have hkey : (text.fallbackKey default?).toList.all Lexer.isWordChar = true := by
    have hfallback : ∀ value, ((default?.bind fun wanted => text.values.find? fun value =>
        value.json.equals wanted) <|> text.values.head?) = some value → value ∈ text.values := by
      intro value hvalue
      cases hchosen : default?.bind fun wanted => text.values.find? fun value =>
          value.json.equals wanted with
      | none =>
        rw [hchosen] at hvalue
        exact List.mem_of_head? hvalue
      | some found =>
        rw [hchosen] at hvalue
        obtain ⟨wanted, -, hfound⟩ := Option.bind_eq_some_iff.mp hchosen
        cases hvalue
        exact List.mem_of_find?_eq_some hfound
    unfold fallbackKey
    dsimp only
    generalize ((default?.bind fun wanted => text.values.find? fun value =>
        value.json.equals wanted) <|> text.values.head?) = chosen at hfallback
    cases chosen with
    | none => rfl
    | some value => exact (h.values value (hfallback value rfl)).isWord_key.2
  have hword : IsWord ("parse" ++ text.name ++ "OrDefault") :=
    (h.isWord_after (.of_isIdentifier (by decide))).append (by decide)
  exact .of_template [.part text.exportWord .closed, .literal "function ",
    .word ("parse" ++ text.name ++ "OrDefault"), .literal "(value: unknown, fallback: ",
    .word text.name, .literal " = ", .word (text.name ++ "." ++ text.fallbackKey default?),
    .literal "): ", .word text.name, .literal " \x7b\n  return ", .word ("is" ++ text.name),
    .literal "(value) ? value : fallback;\n\x7d"]
    [.call ("parse" ++ text.name ++ "OrDefault"), .call ("is" ++ text.name)]
    (by simp [readerWithDefault, about]) rfl rfl
    (by simp [h.rests_exportWord, h.isWord, h.isWord_guard, h.isWord_access hkey, hword])
    (by simp [hguard, hreader])

theorem rests_descriptionCase {value : EnumValue} (hvalue : value ∈ text.values) :
    Rests allowed .closed (text.descriptionCase value) := by
  have hword : IsWord (text.name ++ "." ++ value.key) :=
    h.isWord_access (h.values value hvalue).isWord_key.2
  unfold descriptionCase
  split
  · rename_i description _
    exact .of_template [.literal "    case ", .word (text.name ++ "." ++ value.key),
      .literal ":\n      return ", .quoted description, .literal ";\n"] []
      (by simp) rfl rfl (by simp [hword]) (by simp)
  · exact .empty

theorem rests_descriptionLookup : Rests allowed .closed text.descriptionLookup.content := by
  have hcases : Rests allowed .closed (String.join (text.values.map text.descriptionCase)) := by
    refine .join fun line hline => ?_
    obtain ⟨value, hvalue, rfl⟩ := List.mem_map.mp hline
    exact h.rests_descriptionCase hvalue
  have hword : IsWord ("get" ++ text.name ++ "Description") :=
    (h.isWord_after (.of_isIdentifier (by decide))).append (by decide)
  have hget : (Use.call ("get" ++ text.name ++ "Description")).Met allowed :=
    Use.met_of_head 'g' (by simp) (by decide)
  exact .of_template [.part text.exportWord .closed, .literal "function ",
    .word ("get" ++ text.name ++ "Description"), .literal "(value: ", .word text.name,
    .literal "): string | undefined \x7b\n  switch (value) \x7b\n",
    .part (String.join (text.values.map text.descriptionCase)) .closed,
    .literal "    default:\n      return undefined;\n  \x7d\n\x7d"]
    [.call ("get" ++ text.name ++ "Description")]
    (by simp [descriptionLookup, about]) rfl rfl
    (by simp [h.rests_exportWord, h.isWord, hword, hcases]) (by simp [hget])

/-- The assertion calls the guard. -/
theorem rests_assertion (hguard : (Use.call ("is" ++ text.name)).Met allowed) :
    Rests allowed .closed text.assertion.content := by
  have hword : IsWord ("assert" ++ text.name) := h.isWord_after (.of_isIdentifier (by decide))
  have hassert : (Use.call ("assert" ++ text.name)).Met allowed :=
    Use.met_of_head 'a' (by simp) (by decide)
  exact .of_template [.part text.exportWord .closed, .literal "function ", .word ("assert" ++ text.name),
    .literal "(value: unknown): asserts value is ", .word text.name, .literal " \x7b\n  if (!",
    .word ("is" ++ text.name), .literal "(value)) \x7b\n    throw new TypeError(\x60Invalid ",
    .word text.name, .literal ": $\x7bString(value)\x7d\x60);\n  \x7d\n\x7d"]
    [.call ("assert" ++ text.name), .call ("is" ++ text.name)]
    (by simp [assertion, about]) rfl rfl
    (by simp [h.rests_exportWord, h.isWord, h.isWord_guard, hword]) (by simp [hguard, hassert])

/-- What the helpers refer to: the guard and what it reads, the readers, and the guard again, which an
assertion calls even where there are no helpers. -/
theorem rests_helpers (options : EnumOptions) (strategy : EnumStrategy) (default? : Option Json)
    (hguard : (Use.call ("is" ++ text.name)).Met allowed)
    (hhelpers : options.generateHelpers = true → (Use.read text.valuesName).Met allowed ∧
      (Use.call ("parse" ++ text.name)).Met allowed ∧
      (Use.call ("parse" ++ text.name ++ "OrDefault")).Met allowed) :
    ∀ declaration ∈ text.helpers options strategy default?, Rests allowed .closed declaration.content := by
  intro declaration hdeclaration
  unfold helpers at hdeclaration
  simp only [List.mem_append, List.mem_ite_nil_right, List.mem_ite_nil_left, List.mem_cons,
    List.not_mem_nil, or_false] at hdeclaration
  rcases hdeclaration with ⟨hgenerate, (⟨-, rfl⟩ | rfl | rfl | rfl) | ⟨-, rfl⟩⟩ | ⟨-, rfl⟩
  · exact h.rests_valuesArray
  · exact h.rests_guard hguard (hhelpers hgenerate).1
  · exact h.rests_reader hguard (hhelpers hgenerate).2.1
  · exact h.rests_readerWithDefault default? hguard (hhelpers hgenerate).2.2
  · exact h.rests_descriptionLookup
  · exact h.rests_assertion hguard

/-! ### Mappings -/

theorem rests_mapping {name valueType : String} (entry : EnumValue → String) (hname : IsWord name)
    (htype : Rests allowed .word valueType) :
    Rests allowed .closed (text.mapping name valueType entry).content := by
  have hcontent : ∃ body, Rests allowed .closed body ∧ (text.mapping name valueType entry).content =
      s!"{text.exportWord}const {name}: Readonly<Record<string, {valueType}>> = \x7b\n{body}\x7d;" := by
    refine ⟨_, .join fun line hline => ?_, rfl⟩
    obtain ⟨value, hvalue, rfl⟩ := List.mem_map.mp hline
    exact .of_template [.literal "  ", .part (Name.propertyKey value.json.plainText) .word,
      .literal ": ", .quoted (entry value), .literal ",\n"] []
      (by simp) rfl rfl (by simp [rests_propertyKey]) (by simp)
  obtain ⟨body, hbody, hcontent⟩ := hcontent
  rw [hcontent]
  exact .of_template [.part text.exportWord .closed, .literal "const ", .word name,
    .literal ": Readonly<Record<string, ", .part valueType .word, .literal ">> = \x7b\n",
    .part body .closed, .literal "\x7d;"] []
    (by simp) rfl rfl (by simp [h.rests_exportWord, hname, htype, hbody]) (by simp)

/-- The map to the keys asks for the type of the map or the enumeration itself. -/
theorem rests_mappings (hname : (Use.read text.name).Met allowed) :
    ∀ declaration ∈ text.mappings, Rests allowed .closed declaration.content := by
  have hkeys : Rests allowed .word s!"keyof typeof {text.name}" :=
    .of_template [.literal "keyof typeof ", .word text.name] [.read text.name]
      (by simp) rfl rfl (by simp [h.isWord]) (by simp [hname])
  simp only [mappings, List.forall_mem_cons]
  exact ⟨h.rests_mapping _ (h.isWord.append (by decide)) (IsWord.of_isIdentifier (by decide)).rests,
    h.rests_mapping _ (h.isWord.append (by decide)) hkeys, by simp⟩

end Wellformed

end EnumText

/-! ## Completeness -/

namespace EnumText

variable (text : EnumText) (options : EnumOptions) (strategy : EnumStrategy) (info : SchemaInfo)

/-- Everything that is declared about the enumeration. -/
def all : List Declaration :=
  (text.declarations strategy info).1 :: ((text.declarations strategy info).2
    ++ text.helpers options strategy info.default?
    ++ (if options.generateMapping then text.mappings else []))

theorem helpers_subset_all : text.helpers options strategy info.default? ⊆ text.all options strategy info :=
  fun _ hmem => List.mem_cons_of_mem _ (List.mem_append_left _ (List.mem_append_right _ hmem))

theorem declares_name : text.name ∈ (text.all options strategy info).map (·.name) := by
  refine List.mem_map.mpr ⟨(text.declarations strategy info).1, List.mem_cons_self, ?_⟩
  cases strategy <;> rfl

theorem declares_valuesName (h : strategy = .const ∨ options.generateHelpers = true) :
    text.valuesName ∈ (text.all options strategy info).map (·.name) := by
  by_cases hstrategy : strategy = .const
  · subst hstrategy
    exact List.mem_map.mpr ⟨_, List.mem_cons_of_mem _ (List.mem_append_left _
      (List.mem_append_left _ List.mem_cons_self)), rfl⟩
  · refine List.mem_map.mpr ⟨text.valuesArray, text.helpers_subset_all options strategy info ?_, rfl⟩
    simp [helpers, h.resolve_left hstrategy, hstrategy]

/-- Where there are no helpers, the names that are declared begin like that of the enumeration, but for that of
the assertion. -/
theorem names_all (hhelpers : options.generateHelpers = false) : ∀ declaration ∈ text.all options strategy info,
    declaration.name = "assert" ++ text.name ∨ ∃ tail, declaration.name = text.name ++ tail := by
  have hdeclarations : ∀ declaration ∈ (text.declarations strategy info).1 ::
      (text.declarations strategy info).2, ∃ tail, declaration.name = text.name ++ tail := by
    have hself : ∃ tail, text.name = text.name ++ tail := ⟨"", by simp⟩
    have hvalues : ∃ tail, text.valuesName = text.name ++ tail := ⟨"Values", rfl⟩
    cases strategy <;>
      simp [declarations, literalUnion, enumBlock, constTuple, branded, valueMap, about, hself, hvalues]
  intro declaration hdeclaration
  rw [all, ← List.cons_append, ← List.cons_append, List.mem_append, List.mem_append,
    List.mem_ite_nil_right] at hdeclaration
  rcases hdeclaration with (hmem | hmem) | ⟨-, hmem⟩
  · exact Or.inr (hdeclarations declaration hmem)
  · rw [helpers, hhelpers] at hmem
    simp only [Bool.false_eq_true, if_false, List.nil_append, List.mem_ite_nil_right,
      List.mem_singleton] at hmem
    rw [hmem.2]
    exact Or.inl rfl
  · simp only [mappings, List.mem_cons, List.not_mem_nil, or_false] at hmem
    rcases hmem with rfl | rfl
    · exact Or.inr ⟨"DisplayNames", rfl⟩
    · exact Or.inr ⟨"Keys", rfl⟩

/-- Where there are no helpers, the guard is not declared. -/
theorem not_declares_guard (hhelpers : options.generateHelpers = false)
    (hname : Name.isIdentifier text.name = true) (hsmall : Name.beginsSmall text.name = false) :
    "is" ++ text.name ∉ (text.all options strategy info).map (·.name) := by
  intro hmem
  obtain ⟨declaration, hdeclaration, hguard⟩ := List.mem_map.mp hmem
  have hchars : declaration.name.toList = 'i' :: 's' :: text.name.toList := by
    rw [hguard]
    simp
  rcases text.names_all options strategy info hhelpers declaration hdeclaration with hassert | ⟨tail, htail⟩
  · simp [hassert] at hchars
  · rw [htail, String.toList_append] at hchars
    cases hfirst : text.name.toList with
    | nil => simp [Name.isIdentifier, hfirst, Name.isIdentifierChars] at hname
    | cons first others =>
      rw [hfirst, List.cons_append] at hchars
      obtain ⟨rfl, -⟩ := List.cons.inj hchars
      simp [Name.beginsSmall, hfirst] at hsmall

/-- What is declared about an enumeration is complete, but for an assertion without helpers: it calls the
guard, which is one of the helpers. -/
theorem complete_all (h : text.Wellformed) : ∀ declaration ∈ text.all options strategy info,
    Rests (Declares (text.all options strategy info)) .closed declaration.content ∨
      options.generateHelpers = false ∧ options.generateValidation = true ∧ declaration = text.assertion := by
  have hreads : ∀ {name}, name ∈ (text.all options strategy info).map (·.name) →
      (Use.read name).Met (Declares (text.all options strategy info)) :=
    fun hname _ => declares_toList.mpr hname
  intro declaration hdeclaration
  rw [all, ← List.cons_append, ← List.cons_append, List.mem_append, List.mem_append,
    List.mem_ite_nil_right] at hdeclaration
  rcases hdeclaration with (hmem | hmem) | ⟨-, hmem⟩
  · exact Or.inl (h.rests_declarations strategy info
      (fun hstrategy => hreads (text.declares_valuesName options strategy info (Or.inl hstrategy)))
      declaration hmem)
  · cases hhelpers : options.generateHelpers with
    | true =>
      have hcalls : ∀ helper ∈ [text.guard, text.reader, text.readerWithDefault info.default?],
          (Use.call helper.name).Met (Declares (text.all options strategy info)) := by
        intro helper hhelper _
        refine declares_toList.mpr (List.mem_map.mpr
          ⟨helper, text.helpers_subset_all options strategy info ?_, rfl⟩)
        rw [helpers, if_pos hhelpers]
        exact List.mem_append_left _ (List.mem_append_left _ (List.mem_append_right _ hhelper))
      simp only [List.forall_mem_cons] at hcalls
      exact Or.inl (h.rests_helpers options strategy info.default? hcalls.1
        (fun hon => ⟨hreads (text.declares_valuesName options strategy info (Or.inr hon)), hcalls.2.1,
          hcalls.2.2.1⟩) declaration hmem)
    | false =>
      rw [helpers, hhelpers] at hmem
      simp only [Bool.false_eq_true, if_false, List.nil_append, List.mem_ite_nil_right,
        List.mem_singleton] at hmem
      exact Or.inr ⟨rfl, hmem⟩
  · exact Or.inl (h.rests_mappings (hreads (text.declares_name options strategy info)) declaration hmem)

end EnumText

end SchemaTypings.Typing
