import SchemaTypings.Lowering.Union
import SchemaTypings.Proofs.Lowering.Ensures
import SchemaTypings.Proofs.Schema.Children
import SchemaTypings.Proofs.Typing.Trees

/-!
# How types are written

The inline type of a schema is written as its tree says (`Lowering.ensures_written`), and the declarations
of objects and aliases declare what the trees of their schemas say. A reference is written as a name that it
resolves to (`Lowering.Names`).
-/

namespace SchemaTypings

open LowerM Typing

namespace Lowering

variable {document : Document} {options : Options} {names : String → String → Prop} {α : Type}

/-! ## Where steps are run -/

/-- The step is run over the document, with the options. -/
def Over (document : Document) (options : Options) (setting : Setting) (_ : Store) : Prop :=
  setting.document = document ∧ setting.options = options

namespace Over

theorem placeless : Placeless (Over document options) :=
  ⟨fun _ _ _ _ => Iff.rfl, fun _ => id⟩

theorem tells : Tells options (Over document options) :=
  ⟨placeless, And.right⟩

variable {post : α → Prop}

theorem readOptions {next : Options → LowerM α} (h : (next options).Ensures (Over document options) post) :
    (LowerM.options >>= next).Ensures (Over document options) post :=
  tells.readOptions h

theorem readDocument {next : Document → LowerM α}
    (h : (next document).Ensures (Over document options) post) :
    (LowerM.document >>= next).Ensures (Over document options) post := by
  rintro setting store ⟨rfl, rfl⟩
  exact h setting store ⟨rfl, rfl⟩

/-- Whatever a step gives, the document and the options stay. -/
theorem any (step : LowerM α) : step.Ensures (Over document options) fun _ => True :=
  fun _ _ hover => ⟨hover, fun _ _ => trivial⟩

end Over

/-! ## Parts of type expressions -/

/-- The type of a schema is written as its tree says. -/
abbrev Writes (options : Options) (names : String → String → Prop) (schema : Schema) (text : String) :
    Prop :=
  (typeTree options schema).WrittenAs options names text

theorem written_primitiveType (format : Option String) (type : Primitive) :
    (primitiveTree options format type).WrittenAs options names (primitiveType options format type) := by
  cases type with
  | string =>
    rw [primitiveTree, primitiveType]
    split
    · exact .date
    · exact .string
  | number => exact .number
  | integer => exact .number
  | boolean => exact .boolean
  | null => exact .null
  | unknown name => exact .unknown

theorem written_literals (values : List Json) :
    List.Forall₂ (TypeTree.WrittenAs options names) (values.map .literal)
      (values.map Json.literal) := by
  rw [List.forall₂_map_left_iff, List.forall₂_map_right_iff]
  exact List.forall₂_same.mpr fun value _ => .literal value

/-- The signature of a property is written with the type of the property, or with that and `undefined`. -/
theorem written_signature {type : TypeTree} {text : String} (name : String) (info : SchemaInfo)
    (required : Bool) (h : type.WrittenAs options names text) :
    ∃ written, (fieldOf options required name info type).type.WrittenAs options names written ∧
      inlineSignature options name text info required =
        (fieldOf options required name info type).signature written := by
  rw [fieldOf, inlineSignature]
  cases required with
  | true => exact ⟨text, h, rfl⟩
  | false =>
    cases hmarkers : options.optionalMarkers with
    | true => exact ⟨text, h, rfl⟩
    | false => exact ⟨union [text, absentType], .union (.cons h (.cons .undefined .nil)), rfl⟩

/-- An object type is written with the signatures of its properties, and the one for arbitrary keys. -/
theorem written_object {fields : List (FieldTree TypeTree)} {texts : List String} {index : Option TypeTree}
    {indexText : Option String} (hfields : fields ≠ [])
    (h : List.Forall₂ (TypeTree.WrittenAs options names) (fields.map (·.type)) texts)
    (hindex : Option.Rel (TypeTree.WrittenAs options names) index indexText) :
    (TypeTree.object fields index).WrittenAs options names (objectText
      (List.zipWith FieldTree.signature fields texts ++ (indexText.map indexSignatureText).toList)) := by
  cases hindex with
  | none =>
    rw [Option.map_none, Option.toList_none, List.append_nil]
    exact .closed hfields h
  | some hindex => exact .opened hfields h hindex

/-- An object type without properties is written as one with arbitrary keys. -/
theorem written_map {additional : Additional Schema} {indexText : Option String}
    (h : Option.Rel (TypeTree.WrittenAs options names) (indexTree options true additional) indexText) :
    (TypeTree.object [] (indexTree options true additional)).WrittenAs options names
      (mapOf options (indexText.getD topType)) := by
  have hindex : ∃ index, indexTree options true additional = some index := by
    cases additional <;> exact ⟨_, rfl⟩
  obtain ⟨index, hindex⟩ := hindex
  rw [hindex] at h ⊢
  cases h with
  | some h => exact .map h

/-! ## Type expressions -/

section

variable {inv : Setting → Store → Prop} (htells : Tells options inv) {resolve : String → LowerM String}

include htells

theorem ensures_typesOfMembers_written {members : List Schema} (index : Nat)
    (h : ∀ member ∈ members,
      (typeOf resolve member).Ensures inv (Writes options names member)) :
    (typesOfMembers resolve index members).Ensures inv
      (List.Forall₂ (TypeTree.WrittenAs options names) (memberTrees options members)) := by
  induction members generalizing index with
  | nil => exact .pure .nil
  | cons member rest ih =>
    have hmember := Ensures.descend htells.toPlaceless (memberSegment index) (h member List.mem_cons_self)
    have hrest := ih (index + 1) fun other hother => h other (List.mem_cons_of_mem _ hother)
    rw [typesOfMembers]
    apply hmember.bind
    intro type htype
    apply hrest.bind
    intro types htypes
    exact .pure (.cons htype htypes)

theorem ensures_indexValue_written {propertyless : Bool} {additional : Additional Schema}
    (h : ∀ schema ∈ additional.schemas,
      (typeOf resolve schema).Ensures inv (Writes options names schema)) :
    (indexValue resolve propertyless additional).Ensures inv
      (Option.Rel (TypeTree.WrittenAs options names) (indexTree options propertyless additional)) := by
  cases additional with
  | opened => exact .pure (.some .unknown)
  | schema value =>
    have hvalue := h value (by simp [Additional.schemas])
    have hsegment := Ensures.withSegment htells.toPlaceless additionalSegment hvalue
    rw [indexValue, indexTree]
    exact .map (hsegment.mono fun _ htext => .some htext)
  | closed =>
    cases propertyless with
    | true => exact .pure (.some .never)
    | false => exact .pure .none
  | unspecified =>
    cases propertyless with
    | true => exact .pure (.some .unknown)
    | false => exact .pure .none

theorem ensures_signaturesOf_written {required : List String} {properties : List (String × Schema)}
    (h : ∀ property ∈ properties,
      (typeOf resolve property.2).Ensures inv (Writes options names property.2)) :
    (signaturesOf resolve required properties).Ensures inv fun signatures =>
      ∃ texts, List.Forall₂ (TypeTree.WrittenAs options names)
          ((fieldTrees options required properties).map (·.type)) texts ∧
        signatures = List.zipWith FieldTree.signature (fieldTrees options required properties) texts := by
  induction properties with
  | nil => exact .pure ⟨[], .nil, rfl⟩
  | cons property rest ih =>
    obtain ⟨name, schema⟩ := property
    have hproperty := Ensures.withSegment htells.toPlaceless name (h (name, schema) List.mem_cons_self)
    have hrest := ih fun other hother => h other (List.mem_cons_of_mem _ hother)
    rw [signaturesOf]
    apply hproperty.bind
    intro type htype
    apply htells.readOptions
    apply hrest.bind
    rintro signatures ⟨texts, htexts, rfl⟩
    obtain ⟨text, htext, hsignature⟩ :=
      written_signature name schema.info (required.contains name) htype
    refine .pure ⟨text :: texts, .cons htext htexts, ?_⟩
    rw [hsignature]
    rfl

theorem ensures_objectType_written {shape : ObjectShape Schema} {format : Option String}
    (h : ∀ schema ∈ shape.schemas,
      (typeOf resolve schema).Ensures inv (Writes options names schema)) :
    (typeOfKind resolve format (.object shape)).Ensures inv
      ((kindTree options format (.object shape)).WrittenAs options names) := by
  obtain ⟨properties, required, additional⟩ := shape
  have hindex : (indexValue resolve properties.isEmpty additional).Ensures inv
      (Option.Rel (TypeTree.WrittenAs options names)
        (indexTree options properties.isEmpty additional)) :=
    ensures_indexValue_written htells fun schema hschema => h schema (List.mem_append_right _ hschema)
  have hsignatures : ∀ property ∈ properties,
      (typeOf resolve property.2).Ensures inv (Writes options names property.2) := fun property hproperty =>
    h property.2 (List.mem_append_left _ (List.mem_map_of_mem hproperty))
  rw [typeOfKind, kindTree]
  apply hindex.bind
  intro index hindex
  cases properties with
  | nil =>
    apply htells.readOptions
    exact .pure (written_map hindex)
  | cons property rest =>
    apply (ensures_signaturesOf_written htells hsignatures).bind
    rintro signatures ⟨texts, htexts, rfl⟩
    exact .pure (written_object (by simp [fieldTrees]) htexts hindex)

theorem ensures_typeOfKind_written {format : Option String} {kind : SchemaKind Schema}
    (hresolve : ∀ reference, kind = .ref reference →
      (resolve reference).Ensures inv (names reference))
    (hchildren : ∀ child ∈ Schema.childrenOfKind kind,
      (typeOf resolve child).Ensures inv (Writes options names child)) :
    (typeOfKind resolve format kind).Ensures inv
      ((kindTree options format kind).WrittenAs options names) := by
  have hdegenerate : ∀ (policy : Options → DegeneratePolicy) (reason : String), Ensures inv (do
        LowerM.degenerate (policy (← LowerM.options)) reason
        return bottomType) (TypeTree.never.WrittenAs options names) := by
    intro policy reason
    apply htells.readOptions
    apply (Ensures.degenerate htells.toPlaceless _ reason).bind
    intro _ _
    exact .pure .never
  cases kind with
  | any =>
    rw [typeOfKind, kindTree]
    exact .pure .unknown
  | ref target =>
    rw [typeOfKind, kindTree]
    exact (hresolve target rfl).mono fun name hname => .reference hname
  | oneOf members | anyOf members =>
    have htypes := ensures_typesOfMembers_written htells 0 hchildren
    rw [typeOfKind, kindTree]
    cases members with
    | nil => exact hdegenerate (·.unions.emptyUnion) noMembersReason
    | cons member rest => exact .map (htypes.mono fun types h => .union h)
  | allOf members =>
    have htypes := ensures_typesOfMembers_written htells 0 hchildren
    rw [typeOfKind, kindTree]
    cases members with
    | nil => exact .pure .unknown
    | cons member rest => exact .map (htypes.mono fun types h => .intersection h)
  | array items =>
    have hitems := hchildren items (by simp [Schema.childrenOfKind])
    rw [typeOfKind, kindTree]
    apply htells.readOptions
    exact .map (hitems.mono fun element h => .array h)
  | object shape => exact ensures_objectType_written htells hchildren
  | enum shape =>
    rw [typeOfKind, kindTree, enumType]
    split
    · exact hdegenerate (·.enums.emptyEnum) noValuesReason
    · exact .pure (.union (written_literals shape.values))
  | primitive type =>
    rw [typeOfKind, kindTree]
    apply htells.readOptions
    exact .pure (written_primitiveType format type)

/-- The type expression of a schema is written as the tree of its type says. -/
theorem ensures_written {schema : Schema} (hresolve : ∀ reference, schema.Mentions reference →
      (resolve reference).Ensures inv (names reference)) :
    (typeOf resolve schema).Ensures inv (Writes options names schema) := by
  induction schema using Schema.inductionOn with
  | step schema ih =>
    have hchildren : ∀ child ∈ schema.children,
        (typeOf resolve child).Ensures inv (Writes options names child) := by
      intro child hchild
      exact ih child hchild fun reference hmention => hresolve reference (.of_child hchild hmention)
    obtain ⟨kind, info⟩ := schema
    have hkind : (typeOfKind resolve info.format kind).Ensures inv
        ((kindTree options info.format kind).WrittenAs options names) :=
      ensures_typeOfKind_written htells (fun reference hkind => hresolve reference ⟨_, .refl _, hkind⟩) hchildren
    have hnullable : Ensures inv (do
        let base ← typeOfKind resolve info.format kind
        if info.nullable then return makeNullable (← LowerM.options) base else return base)
        ((if info.nullable then TypeTree.nullable (kindTree options info.format kind)
          else kindTree options info.format kind).WrittenAs options names) := by
      apply hkind.bind
      intro base hbase
      cases info.nullable with
      | true =>
        apply htells.readOptions
        exact .pure (.nullable hbase)
      | false => exact .pure hbase
    cases kind with
    | ref target =>
      rw [typeOf]
      exact hkind
    | _ => exact hnullable

end

/-! ## References -/

/-- A name that the reference resolves to, somewhere over the document. -/
def Names (document : Document) (options : Options) (reference name : String) : Prop :=
  ∃ setting store, Over document options setting store ∧
    ((referenceName reference).runWith setting store).1 = .ok name

theorem ensures_referenceName_names (reference : String) :
    (referenceName reference).Ensures (Over document options) (Names document options reference) :=
  fun setting store hover => ⟨hover, fun _ hname => ⟨setting, store, hover, hname⟩⟩

theorem ensures_typeExpression_written (schema : Schema) :
    (typeExpression schema).Ensures (Over document options)
      (Writes options (Names document options) schema) :=
  ensures_written Over.tells fun reference _ => ensures_referenceName_names reference

theorem ensures_describe_written (schema : Schema) :
    (describe schema).Ensures (Over document options) fun descriptor =>
      Writes options (Names document options) schema descriptor.typeName :=
  (ensures_typeExpression_written schema).bind fun _ htype => .pure htype

end Lowering

/-! ## Declarations -/

namespace Typing

variable (options : Options) (names : String → String → Prop)

/-- The signature of the property is that of the field, its type being written as the field says. -/
def FieldTree.SignedBy (field : FieldTree TypeTree) (property : Property) : Prop :=
  ∃ text, field.type.WrittenAs options names text ∧
    property.signature options = field.signature text

/-- The declaration introduces the type under the name: as an alias, or as an interface. -/
inductive TypeTree.DeclaredAs (name : String) : TypeTree → Declaration → Prop
  | alias {type : TypeTree} {text : String} (h : type.WrittenAs options names text) (doc : String)
    (dependencies : List String) : DeclaredAs name type
      ⟨name, .typeAlias, s!"{doc}{options.exportWord}type {name} = {text};", dependencies⟩
  | interface {fields : List (FieldTree TypeTree)} {index : Option TypeTree} {properties : List Property}
    {indexText : Option String} (hfields : List.Forall₂ (FieldTree.SignedBy options names) fields properties)
    (hindex : Option.Rel (TypeTree.WrittenAs options names) index indexText) (info : SchemaInfo)
    (dependencies : List String) : DeclaredAs name (.object fields index)
      (Lowering.interfaceDeclaration options name info properties indexText dependencies)

end Typing

namespace Lowering

variable {document : Document} {options : Options} {α β : Type}

theorem Over.collectDependencies {step : LowerM α} {post : α → Prop}
    (h : step.Ensures (Over document options) post) :
    (LowerM.collectDependencies step).Ensures (Over document options) fun collected =>
      post collected.1 :=
  h.collectDependencies fun _ _ _ => id

/-- What stands in the second of two lists that go along with each other goes along with something in the first. -/
theorem exists_left_of_forall₂ {R : β → α → Prop} {items : List β} {results : List α} {result : α}
    (h : List.Forall₂ R items results) (hresult : result ∈ results) : ∃ item ∈ items, R item result := by
  induction h with
  | nil => cases hresult
  | cons hfirst _ ih =>
    rcases List.mem_cons.mp hresult with rfl | hresult
    · exact ⟨_, List.mem_cons_self, hfirst⟩
    · obtain ⟨item, hitem, hrest⟩ := ih hresult
      exact ⟨item, List.mem_cons_of_mem _ hitem, hrest⟩

theorem exists_right_of_forall₂ {R : β → α → Prop} {items : List β} {results : List α} {item : β}
    (h : List.Forall₂ R items results) (hitem : item ∈ items) : ∃ result ∈ results, R item result :=
  exists_left_of_forall₂ h.flip hitem

theorem ensures_lowerProperty_signed (shape : ObjectShape Schema) (name : String) (schema : Schema) :
    (lowerProperty shape name schema).Ensures (Over document options)
      (FieldTree.SignedBy options (Names document options)
        (fieldOf options (shape.required.contains name) name schema.info (typeTree options schema))) := by
  apply (Ensures.withSegment Over.placeless name (ensures_describe_written schema)).bind
  intro descriptor hdescriptor
  apply Over.readOptions
  exact .pure (written_signature name schema.info (shape.requires name) hdescriptor)

theorem ensures_lowerShape_signed (shape : ObjectShape Schema) :
    (lowerShape shape).Ensures (Over document options) fun lowered =>
      List.Forall₂ (FieldTree.SignedBy options (Names document options))
          (fieldTrees options shape.required shape.properties) lowered.1 ∧
        Option.Rel (TypeTree.WrittenAs options (Names document options))
          (indexTree options shape.properties.isEmpty shape.additional) lowered.2 := by
  have hproperty : ∀ property ∈ shape.properties, (lowerProperty shape property.1 property.2).Ensures
      (Over document options) (FieldTree.SignedBy options (Names document options)
        (fieldOf options (shape.required.contains property.1) property.1 property.2.info
          (typeTree options property.2))) := fun property _ =>
    ensures_lowerProperty_signed shape property.1 property.2
  have hindex : (lowerIndex shape).Ensures (Over document options) (Option.Rel
      (TypeTree.WrittenAs options (Names document options))
        (indexTree options shape.properties.isEmpty shape.additional)) :=
    ensures_indexValue_written Over.tells fun schema _ => ensures_typeExpression_written schema
  apply (Ensures.mapM_forall₂ hproperty).bind
  intro properties hproperties
  apply hindex.bind
  intro index hindex
  refine .pure ⟨?_, hindex⟩
  rw [fieldTrees_eq_map, List.forall₂_map_left_iff]
  exact hproperties

/-- An object is declared as the object type of its shape, nullable or not. -/
theorem ensures_declareInterface_declared (name : String) (shape : ObjectShape Schema)
    (info : SchemaInfo) : (declareInterface name ⟨.object shape, info⟩).Ensures (Over document options)
      fun declarations => ∃ declaration ∈ declarations, (shapeTree options shape).DeclaredAs options
        (Names document options) (Name.pascal name) declaration := by
  have hlowered : (lowerInterface name ⟨.object shape, info⟩).Ensures (Over document options)
      fun lowered => (shapeTree options shape).DeclaredAs options (Names document options)
        (Name.pascal name) lowered.declaration := by
    refine (Ensures.withSegment Over.placeless _
      (Over.collectDependencies (ensures_lowerShape_signed shape))).bind ?_
    rintro ⟨⟨properties, index⟩, dependencies⟩ ⟨hproperties, hindex⟩
    apply Over.readOptions
    rw [shapeTree_eq]
    exact .pure (.interface hproperties hindex info _)
  apply hlowered.bind
  intro lowered hdeclared
  apply Over.readOptions
  exact .pure ⟨lowered.declaration, List.mem_append_left _ List.mem_cons_self, hdeclared⟩

/-- A schema that is declared as an alias is declared as its type. -/
theorem ensures_lowerAlias_declared (name : String) (schema : Schema) :
    (lowerAlias name schema).Ensures (Over document options)
      ((typeTree options schema).DeclaredAs options (Names document options) (Name.pascal name)) := by
  refine (Ensures.withSegment Over.placeless _
    (Over.collectDependencies (ensures_describe_written schema))).bind ?_
  rintro ⟨descriptor, dependencies⟩ htype
  apply Over.readOptions
  exact .pure (.alias htype _ _)

end Lowering

end SchemaTypings
