import SchemaTypings.Proofs.Lowering.Dependencies
import SchemaTypings.Proofs.Lowering.WrittenTypes

/-!
# Types that operations introduce

The types that an operation declares for a schema are those of its parts, then the one of its name, then the
ones derived from that (`Typing.Introduces`). Enumerations, interfaces and aliases have no parts, and only what
is composed at the top has derived types (`Lowering.utilityTypes_compose`).
-/

namespace SchemaTypings

open LowerM Lowering Typing

variable {document : Document} {options : Options} {α : Type}

/-! ## Types among declarations -/

namespace Typing

/-- The declarations that introduce types. -/
def types (declarations : List Declaration) : List Declaration :=
  declarations.filter (·.kind.isType)

/-- The names of the types that the declarations introduce. -/
def introduced (declarations : List Declaration) : List String :=
  (types declarations).map (·.name)

@[simp]
theorem types_nil : types [] = [] := rfl

@[simp]
theorem types_append (first second : List Declaration) :
    types (first ++ second) = types first ++ types second :=
  List.filter_append ..

theorem types_cons {declaration : Declaration} (h : declaration.kind.isType = true)
    (rest : List Declaration) : types (declaration :: rest) = declaration :: types rest :=
  List.filter_cons_of_pos h

theorem types_eq_nil {declarations : List Declaration}
    (h : ∀ declaration ∈ declarations, declaration.kind.isType = false) : types declarations = [] :=
  List.filter_eq_nil_iff.mpr fun declaration hmem => by simp [h declaration hmem]

theorem types_eq_self {declarations : List Declaration}
    (h : ∀ declaration ∈ declarations, declaration.kind.isType = true) : types declarations = declarations :=
  List.filter_eq_self.mpr h

@[simp]
theorem introduced_nil : introduced [] = [] := rfl

@[simp]
theorem introduced_append (first second : List Declaration) :
    introduced (first ++ second) = introduced first ++ introduced second := by
  simp [introduced]

theorem introduced_flatMap (declarations : α → List Declaration) (values : List α) :
    introduced (values.flatMap declarations) = values.flatMap fun value => introduced (declarations value) := by
  induction values with
  | nil => rfl
  | cons value rest ih => rw [List.flatMap_cons, introduced_append, ih, List.flatMap_cons]

end Typing

/-- The types among the declarations are the given ones, one of the name, and the derived ones. -/
def Typing.Introduces (name : String) (declarations parts derived : List Declaration) : Prop :=
  ∃ main, main.name = name ∧ types declarations = types parts ++ main :: derived

/-! ## What operations declare -/

theorem Validation.types_validator? (exportWord name : String) (properties : List Property) :
    types (validator? exportWord name properties).toList = [] := by
  unfold validator?
  split <;> rfl

theorem UnionDispatch.types_functions (dispatch : UnionDispatch) (options : UnionOptions) :
    types (dispatch.functions options) = [] := by
  have hguards : types (dispatch.members.map dispatch.guard) = [] := by
    apply types_eq_nil
    intro declaration hmem
    obtain ⟨member, -, rfl⟩ := List.mem_map.mp hmem
    rfl
  have hhelpers : types [dispatch.matcher, dispatch.folder] = [] := rfl
  have hassertion : types [dispatch.assertion] = [] := rfl
  simp only [functions, types_append, apply_ite types, hguards, hhelpers, hassertion, types_nil, ite_self,
    List.append_nil]

namespace Typing.EnumText

variable (text : EnumText)

theorem types_declarations (strategy : EnumStrategy) (info : SchemaInfo) :
    types (text.declarations strategy info).2 = [] := by
  cases strategy <;> rfl

theorem types_helpers (options : EnumOptions) (strategy : EnumStrategy) (default? : Option Json) :
    types (text.helpers options strategy default?) = [] := by
  have harray : types [text.valuesArray] = [] := rfl
  have hreaders : types [text.guard, text.reader, text.readerWithDefault default?] = [] := rfl
  have hdescriptions : types [text.descriptionLookup] = [] := rfl
  have hassertion : types [text.assertion] = [] := rfl
  simp only [helpers, types_append, apply_ite types, harray, hreaders, hdescriptions, hassertion, types_nil,
    ite_self, List.append_nil]

theorem types_mappings : types text.mappings = [] := rfl

/-- Of all that is declared about an enumeration, one declaration introduces a type. -/
theorem types_all (options : EnumOptions) (strategy : EnumStrategy) (info : SchemaInfo) :
    types ((text.declarations strategy info).1 :: ((text.declarations strategy info).2
      ++ text.helpers options strategy info.default?
      ++ (if options.generateMapping then text.mappings else []))) = [(text.declarations strategy info).1] := by
  obtain ⟨-, htype⟩ := text.introduces strategy info
  rw [types_cons htype]
  simp only [types_append, apply_ite types, types_declarations, types_helpers, types_mappings, types_nil,
    ite_self, List.append_nil]

end Typing.EnumText

theorem LoweredUnion.introduces {lowered : LoweredUnion} {name : String}
    (hdeclaration : lowered.declaration.Introduces name) (hfunctions : types lowered.functions = []) :
    Introduces name lowered.declarations lowered.memberDeclarations [] :=
  ⟨lowered.declaration, hdeclaration.1, by
    rw [declarations, types_append, types_cons hdeclaration.2, hfunctions]⟩

theorem Composition.introduces (composed : Composition) :
    Introduces composed.typeName composed.declarations composed.intermediates
      (composed.utilityTypes.map (composed.derived .typeAlias)) := by
  have hmain : composed.mainKind.isType = true := by
    unfold mainKind
    split <;> rfl
  have hutilities : types (composed.utilityTypes.map (composed.derived .typeAlias)) =
      composed.utilityTypes.map (composed.derived .typeAlias) := by
    apply types_eq_self
    intro declaration hmem
    obtain ⟨text, -, rfl⟩ := List.mem_map.mp hmem
    rfl
  have hhelpers : types (composed.helpers.map (composed.derived .function)) = [] := by
    apply types_eq_nil
    intro declaration hmem
    obtain ⟨text, -, rfl⟩ := List.mem_map.mp hmem
    rfl
  refine ⟨⟨composed.typeName, composed.mainKind, composed.content, composed.dependencies⟩, rfl, ?_⟩
  rw [declarations, types_append, types_cons hmain, types_append, hutilities, hhelpers, List.append_nil]

namespace Lowering

open LowerM.Gives

theorem introduces_lowerEnum (name : String) (schema : Schema) :
    (lowerEnum name schema).Gives fun lowered =>
      Introduces (Name.pascal name) lowered.declarations [] [] := by
  apply Ensures.lowerEnum placeless
  · exact fun setting _ _ => ⟨bottomAlias setting.options (Name.pascal name), rfl, rfl⟩
  · intro setting _ _ strategy
    let text : EnumText := ⟨Name.pascal name, EnumValue.all setting.options.enums (enumShapeOf schema),
      setting.options.exportWord, setting.options.generateComments⟩
    exact ⟨(text.declarations strategy schema.info).1, (text.introduces strategy schema.info).1,
      text.types_all setting.options.enums strategy schema.info⟩

theorem introduces_lowerUnion (name : String) (schema : Schema) :
    (lowerUnion name schema).Gives fun lowered =>
      Introduces (Name.pascal name) lowered.declarations lowered.memberDeclarations [] := by
  apply Ensures.withSegment placeless
  cases unionMembersOf schema with
  | nil => exact last fun options => last fun _ => .pure ⟨bottomAlias options (Name.pascal name), rfl, rfl⟩
  | cons member rest =>
    exact last fun source => last fun options => last fun lowered =>
      .pure (LoweredUnion.introduces ⟨rfl, rfl⟩ (UnionDispatch.types_functions _ _))

theorem introduces_declareInterface (name : String) (schema : Schema) :
    (declareInterface name schema).Gives fun declarations =>
      Introduces (Name.pascal name) declarations [] [] := by
  have hlowered : (lowerInterface name schema).Gives fun lowered =>
      lowered.declaration.Introduces (Name.pascal name) :=
    last fun _ => last fun _ => .pure (introduces_interfaceDeclaration _ _ _ _ _ _)
  apply Ensures.bind hlowered
  rintro lowered ⟨hname, htype⟩
  refine last fun options => .pure ⟨lowered.declaration, hname, ?_⟩
  rw [types_append, LoweredInterface.declarations, types_cons htype, LoweredInterface.validator?,
    Validation.types_validator?]
  rfl

theorem introduces_lowerAlias (name : String) (schema : Schema) :
    (lowerAlias name schema).Gives fun declaration =>
      Introduces (Name.pascal name) [declaration] [] [] :=
  last fun _ => last fun _ => .pure ⟨_, rfl, rfl⟩

/-- What a step gives anywhere, it gives over a document. -/
theorem Over.of_gives {step : LowerM α} {post : α → Prop} (h : step.Gives post) :
    step.Ensures (Over document options) post :=
  fun setting store hover => ⟨hover, (h setting store trivial).2⟩

/-- What is derived from a composed type depends on the options, and is nothing but at the top. -/
theorem utilityTypes_compose (derive : Bool) (name : String) (schema : Schema) :
    (compose derive name schema).Ensures (Over document options) fun composed =>
      composed.utilityTypes = utilityTypesFor document options derive (Name.pascal name) schema := by
  have hunion : ∀ union, (composeUnion derive (Name.pascal name) union).Ensures (Over document options)
      fun composed => composed.utilityTypes =
        utilityTypesFor document options derive (Name.pascal name) union := fun union =>
    .bind (Over.any _) fun lowered _ => Over.readDocument (Over.readOptions (.pure rfl))
  obtain ⟨kind, info⟩ := schema
  cases kind with
  | oneOf members | anyOf members => exact hunion _
  | _ =>
    apply Ensures.withSegment Over.placeless
    exact .bind (Over.any _) fun composed _ => Over.readDocument (Over.readOptions (.pure rfl))

end Lowering

/-! ## Named schemas -/

namespace NamedSchema

/-- The name of the type that a named schema is declared as. -/
def typeName (entry : NamedSchema) : String :=
  Name.pascal (Name.pascal entry.name)

/-- The types derived from that of a named schema, which only a composed one has. -/
def derivedTypes (document : Document) (options : Options) (entry : NamedSchema) : List Declaration :=
  if Operation.select entry.schema = .compose then
    (utilityTypesFor document options true entry.typeName entry.schema).map fun content =>
      ⟨(declaredName? content).getD entry.typeName, .typeAlias, content, [entry.typeName]⟩
  else []

end NamedSchema

end SchemaTypings
