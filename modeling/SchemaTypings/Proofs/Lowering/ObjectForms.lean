import SchemaTypings.Proofs.Lowering.MainDeclarations
import SchemaTypings.Proofs.Lowering.WrittenTypes

/-!
# Three forms of an object

An object is written inline, declared as an interface, or composed. The three differ in the order in which
they go through it, in how they treat a property that is a reference, and in what they note besides. But a
schema has one type expression at most if the names of its references are fixed (`Types.unique`), wherever
lowering stands and whatever was lowered before. So where no property is a composite the three forms carry
the same members, and one of them can be had exactly if all can (`Context.object_forms_agree`).
-/

namespace SchemaTypings

open LowerM Lowering Typing

variable {raw : Json} {document : Document} {options : Options} {α : Type}

/-! ## Type expressions of schemas -/

/-- The document and the options are the given ones, and what is recorded has the names that are fixed. -/
structure Settled (document : Document) (options : Options) (setting : Setting) (store : Store) : Prop where
  source : setting.document = document
  asked : setting.options = options
  canonical : store.Canonical document

namespace Settled

variable {post : α → Prop}

theorem placeless : Placeless (Settled document options) where
  push _ _ _ _ := ⟨fun h => ⟨h.source, h.asked, h.canonical⟩, fun h => ⟨h.source, h.asked, h.canonical⟩⟩
  warned _ h := ⟨h.source, h.asked, h.canonical⟩

theorem tells : Tells options (Settled document options) :=
  ⟨placeless, Settled.asked⟩

theorem readOptions {next : Options → LowerM α} (h : (next options).Ensures (Settled document options) post) :
    (LowerM.options >>= next).Ensures (Settled document options) post :=
  tells.readOptions h

theorem collectDependencies {step : LowerM α} (h : step.Ensures (Settled document options) post) :
    (LowerM.collectDependencies step).Ensures (Settled document options) fun collected =>
      post collected.1 :=
  h.collectDependencies fun _ _ _ hsettled => ⟨hsettled.source, hsettled.asked, hsettled.canonical⟩

end Settled

/-- Somewhere the type expression of the schema is the text. -/
def Types (document : Document) (options : Options) (schema : Schema) (text : String) : Prop :=
  ∃ scope store after, store.Canonical document ∧
    (typeExpression schema).runWith ⟨document, options, scope⟩ store = (.ok text, after)

theorem Settles.typeExpression (h : Document.ofJson raw = .ok document) (visited : List String)
    (depth : Nat) (schema : Schema) :
    Settles document options visited depth (typeExpression schema) (schema.demands options depth) :=
  inlineRules.typeOf fun reference _ _ => referenceName h reference

theorem Types.unique (h : Document.ofJson raw = .ok document) {schema : Schema} {text text' : String}
    (hfixed : ∀ reference, schema.Mentions reference → document.Fixed reference)
    (htext : Types document options schema text) (htext' : Types document options schema text') :
    text = text' := by
  obtain ⟨scope, store, after, hcanonical, hrun⟩ := htext
  obtain ⟨scope', store', after', hcanonical', hrun'⟩ := htext'
  exact (Settles.typeExpression h [] 0 schema).agrees
    (fun reference hdemand => hfixed reference (Schema.follow_mem_demands.mp hdemand))
    hcanonical hcanonical' hrun hrun'

/-! ## Texts of members -/

namespace Typing

/-- The signature of a property. One that is optional has a mark at its key, or `undefined` in its type. -/
def signatureOf (options : Options) (property : Property) : String :=
  let lead := if property.readonly then "readonly " else ""
  let sign := if !property.required && options.optionalMarkers then "?: " else ": "
  let type := property.descriptor.typeName
  lead ++ Name.propertyKey property.name ++ sign ++
    if property.required || options.optionalMarkers then type else union [type, "undefined"]

/-- The lines of a property: its comment, if comments are asked for, and its signature. -/
def linesOf (options : Options) (property : Property) : String :=
  let comment := if options.generateComments then docComment property.docLines "  " else ""
  s!"{comment}  {signatureOf options property};\n"

/-- The lines of the properties, and the line for other keys. -/
def membersText (options : Options) (properties : List Property) (index : Option String) : String :=
  String.join (properties.map (linesOf options)) ++
    match index with
    | some type => s!"  [key: string]: {type};\n"
    | none => ""

/-- The signatures of the properties, and the one for other keys. -/
def signaturesText (options : Options) (properties : List Property) (index : Option String) : String :=
  String.intercalate "; " (properties.map (signatureOf options) ++
    match index with
    | some type => [s!"[key: string]: {type}"]
    | none => [])

variable (options)

theorem signature_eq (property : Property) : property.signature options = signatureOf options property := by
  rw [Property.signature, Property.signatureText, signatureOf]
  cases property.required <;> cases options.optionalMarkers <;> rfl

theorem memberLines_eq (properties : List Property) (index : Option String) :
    memberLines options properties index = membersText options properties index := by
  have hmember : Property.member options = linesOf options := by
    funext property
    rw [Property.member, linesOf, signature_eq]
  rw [memberLines, hmember]
  cases index with
  | none => rfl
  | some type =>
    have hjoined : "  " ++ "[key: string]: " = "  [key: string]: " := by simp
    simp only [membersText, Option.map_some, Option.getD_some, indexSignatureText, toString, ← hjoined,
      String.append_assoc]

theorem objectText_eq (properties : List Property) (index : Option String) :
    objectText (properties.map (·.signature options) ++ (index.map indexSignatureText).toList) =
      "\x7b " ++ signaturesText options properties index ++ " \x7d" := by
  have hsignature : (fun property : Property => property.signature options) = signatureOf options :=
    funext (signature_eq options)
  rw [objectText, hsignature]
  cases index <;> rfl

end Typing

namespace Lowering

/-! ## Members of objects -/

section Members

variable (document options)

/-- The signature is that of the property with the type expression of its schema. -/
def SignatureOf (required : List String) (property : String × Schema) (signature : String) : Prop :=
  ∃ text, Types document options property.2 text ∧ signature =
    inlineSignature options property.1 text property.2.info (required.contains property.1)

/-- The property is described with the type expression of its schema, nullable or not. -/
def PropertyOf (required : List String) (property : String × Schema) (lowered : Property) : Prop :=
  ∃ text nullable, Types document options property.2 text ∧ lowered =
    .ofDescriptor options property.1 (.ofSchema text nullable property.2.info) property.2.info
      (required.contains property.1)

/-- The values beyond the properties have the type expression of their schema. -/
def IndexOf (propertyless : Bool) : Additional Schema → Option String → Prop
  | .opened, index => index = some topType
  | .schema value, index => ∃ text, Types document options value text ∧ index = some text
  | .closed, index => index = if propertyless then some bottomType else none
  | .unspecified, index => index = if propertyless then some topType else none

end Members

variable (h : Document.ofJson raw = .ok document)

include h

theorem types_typeExpression (schema : Schema) :
    (typeExpression schema).Ensures (Settled document options) (Types document options schema) := by
  rintro ⟨source, asked, scope⟩ store ⟨rfl, rfl, hcanonical⟩
  refine ⟨⟨rfl, rfl, (Settles.typeExpression h [] 0 schema).keeps scope hcanonical⟩, fun text htext => ?_⟩
  exact ⟨scope, store, _, hcanonical, Prod.ext htext rfl⟩

theorem indexOf_indexValue (propertyless : Bool) (additional : Additional Schema) :
    (indexValue referenceName propertyless additional).Ensures (Settled document options)
      (IndexOf document options propertyless additional) := by
  cases additional with
  | schema value =>
    refine .map (.withSegment Settled.placeless _ ((types_typeExpression h value).mono fun text htext => ?_))
    exact ⟨text, htext, rfl⟩
  | _ => exact .pure rfl

theorem signaturesOf_types (required : List String) (properties : List (String × Schema)) :
    (signaturesOf referenceName required properties).Ensures (Settled document options)
      (List.Forall₂ (SignatureOf document options required) properties) := by
  induction properties with
  | nil => exact .pure .nil
  | cons property rest ih =>
    rw [signaturesOf]
    refine (Ensures.withSegment Settled.placeless _ (types_typeExpression h property.2)).bind fun text htext => ?_
    refine Settled.readOptions (.map (ih.mono fun signatures hsignatures => ?_))
    exact .cons ⟨text, htext, rfl⟩ hsignatures

/-- A schema is described by its type expression. -/
theorem typed_describe (schema : Schema) : (describe schema).Ensures (Settled document options)
    fun descriptor => ∃ text nullable, Types document options schema text ∧
      descriptor = .ofSchema text nullable schema.info := by
  refine (types_typeExpression h schema).bind fun text htext => .pure ?_
  exact ⟨text, _, htext, rfl⟩

theorem propertyOf_lowerProperty (shape : ObjectShape Schema) (property : String × Schema) :
    (lowerProperty shape property.1 property.2).Ensures (Settled document options)
      (PropertyOf document options shape.required property) := by
  have hdescribe : (describe property.2).Ensures (Settled document options) _ := typed_describe h property.2
  refine (hdescribe.withSegment Settled.placeless property.1).bind fun descriptor hdescriptor => ?_
  obtain ⟨text, nullable, htext, rfl⟩ := hdescriptor
  exact Settled.readOptions (.pure ⟨text, nullable, htext, rfl⟩)

theorem propertiesOf_lowerShape (shape : ObjectShape Schema) :
    (lowerShape shape).Ensures (Settled document options) fun lowered =>
      List.Forall₂ (PropertyOf document options shape.required) shape.properties lowered.1 ∧
        IndexOf document options shape.properties.isEmpty shape.additional lowered.2 := by
  have hproperties : (shape.properties.mapM fun property =>
      lowerProperty shape property.1 property.2).Ensures (Settled document options)
        (List.Forall₂ (PropertyOf document options shape.required) shape.properties) :=
    Ensures.mapM_forall₂ fun property _ => propertyOf_lowerProperty h shape property
  refine hproperties.bind fun properties hproperties => ?_
  refine (indexOf_indexValue h shape.properties.isEmpty shape.additional).bind fun index hindex => ?_
  exact .pure ⟨hproperties, hindex⟩

theorem types_resolveReference (target : String) (info : SchemaInfo) :
    (resolveReference target).Ensures (Settled document options) fun resolution =>
      Types document options ⟨.ref target, info⟩ resolution.name := by
  rintro ⟨source, asked, scope⟩ store ⟨rfl, rfl, hcanonical⟩
  have hrun : (typeExpression ⟨.ref target, info⟩).runWith ⟨source, asked, scope⟩ store =
      (((resolveReference target).runWith ⟨source, asked, scope⟩ store).1.map Resolution.name,
        ((resolveReference target).runWith ⟨source, asked, scope⟩ store).2) :=
    runWith_map Resolution.name (resolveReference target) _ store
  have hsettles : Settles source asked [] 0 (typeExpression ⟨.ref target, info⟩) _ :=
    Settles.typeExpression h [] 0 _
  have hkeeps := hsettles.keeps scope hcanonical
  rw [hrun] at hkeeps
  refine ⟨⟨rfl, rfl, hkeeps⟩, fun resolution hresolution => ?_⟩
  rw [hresolution] at hrun
  exact ⟨scope, store, _, hcanonical, hrun⟩

/-- Within a composition a reference is named by its type expression, whether it leads back or not. -/
theorem types_composeReference (target : String) (info : SchemaInfo) (parts : CompositionParts) :
    (composeReference target parts).Ensures (Settled document options) fun named =>
      Types document options ⟨.ref target, info⟩ named.1 := by
  refine (types_resolveReference h target info).bind fun resolution htype => ?_
  split
  · exact .pure htype
  · refine Settled.readOptions ?_
    split
    · exact .readScope fun scope => .throw _
    · exact .pure htype

/-- A property that is no composite is composed as it is lowered. -/
theorem typed_composeDescriptor (owner name : String) {schema : Schema} (hplain : schema.isComposite = false)
    (compose : String → LowerM Composition) (parts : CompositionParts) :
    (composeDescriptor owner name schema compose parts).Ensures (Settled document options)
      fun described => ∃ text nullable, Types document options schema text ∧
        described.1 = .ofSchema text nullable schema.info := by
  have hdescribe : (describe schema).Ensures (Settled document options) _ := typed_describe h schema
  obtain ⟨kind, info⟩ := schema
  rw [composeDescriptor, if_neg (by simp [hplain])]
  cases kind with
  | ref target =>
    have hreference : (composeReference target parts).Ensures (Settled document options) _ :=
      types_composeReference h target info parts
    refine (hreference.withSegment Settled.placeless name).bind fun named hnamed => ?_
    exact .pure ⟨named.1, info.nullable, hnamed, rfl⟩
  | _ =>
    refine (hdescribe.withSegment Settled.placeless name).bind fun descriptor hdescriptor => ?_
    exact .pure hdescriptor

theorem propertiesOf_composeProperties (owner : String) (required : List String) (parts : CompositionParts)
    {properties : List (String × Schema)} (hplain : ∀ property ∈ properties, property.2.isComposite = false) :
    (composeProperties owner required parts properties).Ensures (Settled document options) fun composed =>
      List.Forall₂ (PropertyOf document options required) properties composed.1 := by
  induction properties generalizing parts with
  | nil => exact .pure .nil
  | cons property rest ih =>
    rw [composeProperties]
    refine (typed_composeDescriptor h owner property.1 (hplain property List.mem_cons_self) _ parts).bind ?_
    rintro ⟨descriptor, more⟩ ⟨text, nullable, htext, rfl⟩
    refine Settled.readOptions ((ih more fun other hother =>
      hplain other (List.mem_cons_of_mem _ hother)).bind fun composed hcomposed => .pure ?_)
    exact .cons ⟨text, nullable, htext, rfl⟩ hcomposed

/-- The inline type of an object with properties lists their signatures, and that for other keys. -/
theorem members_objectLiteral {shape : ObjectShape Schema} (hproperties : shape.properties ≠ []) :
    (objectLiteral shape).Ensures (Settled document options) fun literal => ∃ signatures index,
      List.Forall₂ (SignatureOf document options shape.required) shape.properties signatures ∧
        IndexOf document options shape.properties.isEmpty shape.additional index ∧
          literal = objectText (signatures ++ (index.map indexSignatureText).toList) := by
  obtain ⟨properties, required, additional⟩ := shape
  have hempty : properties.isEmpty = false := List.isEmpty_eq_false_iff.mpr hproperties
  rw [objectLiteral, typeOfKind]
  refine (indexOf_indexValue h properties.isEmpty additional).bind fun index hindex => ?_
  rw [if_neg (by simp [hempty])]
  refine (signaturesOf_types h required properties).bind fun signatures hsignatures => ?_
  exact .pure ⟨signatures, index, hsignatures, hindex, rfl⟩

/-- The body of a composed object with properties are the lines of their members, and that for other
keys. -/
theorem members_composeBody (owner : String) (info : SchemaInfo) {shape : ObjectShape Schema}
    (hproperties : shape.properties ≠ [])
    (hplain : ∀ property ∈ shape.properties, property.2.isComposite = false) :
    (composeBody owner info (.object shape)).Ensures (Settled document options) fun composed =>
      ∃ properties index,
        List.Forall₂ (PropertyOf document options shape.required) shape.properties properties ∧
          IndexOf document options shape.properties.isEmpty shape.additional index ∧
            composed.1 = .members (memberLines options properties index) properties := by
  obtain ⟨properties, required, additional⟩ := shape
  have hempty : properties.isEmpty = false := List.isEmpty_eq_false_iff.mpr hproperties
  rw [composeBody, if_neg (by simp [hempty])]
  refine (propertiesOf_composeProperties h owner required {} hplain).bind ?_
  rintro ⟨lowered, parts⟩ hlowered
  refine (indexOf_indexValue h properties.isEmpty additional).bind fun index hindex => ?_
  exact Settled.readOptions (.pure ⟨lowered, index, hlowered, hindex, rfl⟩)

/-! ## Interfaces and composed types -/

omit h in
theorem content_interfaceDeclaration (options : Options) (name : String) (info : SchemaInfo)
    {properties : List Property} (hproperties : properties ≠ []) (index : Option String)
    (dependencies : List String) :
    (interfaceDeclaration options name info properties index dependencies).content =
      interfaceText options (interfaceDoc options name info) name (memberLines options properties index) := by
  have hempty : properties.isEmpty = false := List.isEmpty_eq_false_iff.mpr hproperties
  rw [interfaceDeclaration, hempty]
  rfl

/-- An object with properties is declared with the lines of their members. -/
theorem members_lowerInterface (name : String) (info : SchemaInfo) {shape : ObjectShape Schema}
    (hproperties : shape.properties ≠ []) :
    (lowerInterface name ⟨.object shape, info⟩).Ensures (Settled document options) fun lowered =>
      List.Forall₂ (PropertyOf document options shape.required) shape.properties lowered.properties ∧
        IndexOf document options shape.properties.isEmpty shape.additional lowered.indexSignature ∧
          lowered.declaration.content =
            interfaceText options (interfaceDoc options (Name.pascal name) info) (Name.pascal name)
              (memberLines options lowered.properties lowered.indexSignature) := by
  have hshape : (lowerShape shape).Ensures (Settled document options) _ := propertiesOf_lowerShape h shape
  refine ((Settled.collectDependencies hshape).withSegment Settled.placeless _).bind ?_
  rintro ⟨⟨properties, index⟩, collected⟩ ⟨hlowered, hindex⟩
  have hlisted : properties ≠ [] := by
    rintro rfl
    exact hproperties (List.forall₂_nil_right_iff.mp hlowered)
  refine Settled.readOptions (.pure ⟨hlowered, hindex, ?_⟩)
  exact content_interfaceDeclaration options (Name.pascal name) info hlisted index _

/-- An object with properties, none of which is a composite, is composed of the lines of their members. -/
theorem members_compose (derive : Bool) (name : String) (info : SchemaInfo) {shape : ObjectShape Schema}
    (hproperties : shape.properties ≠ [])
    (hplain : ∀ property ∈ shape.properties, property.2.isComposite = false) :
    (compose derive name ⟨.object shape, info⟩).Ensures (Settled document options) fun composed =>
      ∃ properties index,
        List.Forall₂ (PropertyOf document options shape.required) shape.properties properties ∧
          IndexOf document options shape.properties.isEmpty shape.additional index ∧
            composed.content = compositionContent options (Name.pascal name) info composed.circularRefs
              (.members (memberLines options properties index) properties) := by
  have hbody : (composeBody (Name.pascal name) info (.object shape)).Ensures (Settled document options) _ :=
    members_composeBody h (Name.pascal name) info hproperties hplain
  refine .withSegment Settled.placeless _ ?_
  refine (Settled.collectDependencies hbody).bind ?_
  rintro ⟨⟨body, parts⟩, collected⟩ ⟨properties, index, hlowered, hindex, hmembers⟩
  refine .readDocument fun document => Settled.readOptions (.pure ⟨properties, index, hlowered, hindex, ?_⟩)
  rw [← hmembers]
  rfl

/-! ## Agreement of members -/

section Agreement

omit h in
/-- Lists that go along with the items of one list have equal images if what goes along with an item has. -/
theorem map_eq_map_of_forall₂ {ι β γ δ : Type} {R : ι → β → Prop} {S : ι → γ → Prop} {f : β → δ}
    {g : γ → δ} {items : List ι} {firsts : List β} {seconds : List γ} (hfirsts : List.Forall₂ R items firsts)
    (hseconds : List.Forall₂ S items seconds)
    (heq : ∀ item ∈ items, ∀ first second, R item first → S item second → f first = g second) :
    firsts.map f = seconds.map g := by
  induction hfirsts generalizing seconds with
  | nil =>
    cases hseconds
    rfl
  | @cons item first items firsts hfirst _ ih =>
    obtain ⟨second, rest, hsecond, hrest, rfl⟩ := List.forall₂_cons_left_iff.mp hseconds
    rw [List.map_cons, List.map_cons, heq item List.mem_cons_self first second hfirst hsecond]
    rw [ih hrest fun other hother => heq other (List.mem_cons_of_mem _ hother)]

omit h in
theorem PropertyOf.marks {required : List String} {property : String × Schema} {lowered : Property}
    (hlowered : PropertyOf document options required property lowered) :
    lowered.name = property.1 ∧ lowered.required = required.contains property.1 ∧
      lowered.readonly = (options.useReadonly || property.2.info.readOnly) := by
  obtain ⟨text, nullable, -, rfl⟩ := hlowered
  exact ⟨rfl, rfl, rfl⟩

theorem PropertyOf.signature_eq {required : List String} {property : String × Schema} {lowered : Property}
    {signature : String} (hfixed : ∀ reference, property.2.Mentions reference → document.Fixed reference)
    (hlowered : PropertyOf document options required property lowered)
    (hsignature : SignatureOf document options required property signature) :
    lowered.signature options = signature := by
  obtain ⟨text, nullable, htext, rfl⟩ := hlowered
  obtain ⟨text', htext', rfl⟩ := hsignature
  rw [Types.unique h hfixed htext htext']
  rfl

/-- The lines of a property are the same, nullable or not. -/
theorem PropertyOf.member_eq {required : List String} {property : String × Schema} {lowered lowered' : Property}
    (hfixed : ∀ reference, property.2.Mentions reference → document.Fixed reference)
    (hlowered : PropertyOf document options required property lowered)
    (hlowered' : PropertyOf document options required property lowered') :
    lowered.member options = lowered'.member options := by
  obtain ⟨text, nullable, htext, rfl⟩ := hlowered
  obtain ⟨text', nullable', htext', rfl⟩ := hlowered'
  rw [Types.unique h hfixed htext htext']
  rfl

theorem IndexOf.unique {propertyless : Bool} {additional : Additional Schema} {index index' : Option String}
    (hfixed : ∀ value ∈ additional.schemas, ∀ reference, value.Mentions reference →
      document.Fixed reference)
    (hindex : IndexOf document options propertyless additional index)
    (hindex' : IndexOf document options propertyless additional index') : index = index' := by
  cases additional with
  | schema value =>
    obtain ⟨text, htext, rfl⟩ := hindex
    obtain ⟨text', htext', rfl⟩ := hindex'
    rw [Types.unique h (hfixed value (by simp [Additional.schemas])) htext htext']
  | _ => exact hindex.trans hindex'.symm

end Agreement

/-! ## What composing an object asks for -/

section Demands

omit h

variable {visited : List String} {depth : Nat}

theorem composeReferenceDemands_of_marker (hmarker : options.composition.circularRefs = .marker)
    (target : String) : composeReferenceDemands options visited target = [.follow target] := by
  have hkept : (visited.contains target && options.composition.circularRefs == .error) = false := by
    rw [hmarker]
    exact Bool.and_false _
  rw [composeReferenceDemands, hkept]
  rfl

/-- A property that is no composite is asked for the same when it is composed, if references that lead back
are kept. -/
theorem partDemands_of_plain (hmarker : options.composition.circularRefs = .marker) {schema : Schema}
    (hplain : schema.isComposite = false) (declared : List Demand) :
    partDemands options visited schema schema.isComposite declared (schema.demands options depth) =
      schema.demands options depth := by
  obtain ⟨kind, info⟩ := schema
  cases kind with
  | ref target =>
    rw [Schema.demands_ref]
    exact composeReferenceDemands_of_marker hmarker target
  | oneOf members | anyOf members | allOf members => cases hplain
  | _ => rfl

/-- An object without composite properties asks for the same when it is composed. -/
theorem composeDemands_object (hmarker : options.composition.circularRefs = .marker)
    {shape : ObjectShape Schema} (info : SchemaInfo)
    (hplain : ∀ property ∈ shape.properties, property.2.isComposite = false) :
    composeDemands document options visited depth ⟨.object shape, info⟩ =
      Schema.demands options depth ⟨.object shape, info⟩ := by
  rw [composeDemands_properties, composePropertiesDemands_eq_flatMap, Schema.demands_object]
  exact congrArg (· ++ _) (List.flatMap_congr fun property hproperty =>
    partDemands_of_plain hmarker (hplain property hproperty) _)

end Demands

end Lowering

namespace Context

variable {context : Context}

/-- The step succeeds in the context. -/
def Succeeds (context : Context) (step : LowerM α) : Prop :=
  ∃ value, (context.run step).1 = .ok value

theorem succeeds_iff {step : LowerM α} {demands : List Demand}
    (hmeets : Meets context.document context.options context.scope.visited context.scope.depth step demands) :
    context.Succeeds step ↔ ∀ demand ∈ demands, context.document.Grants context.options
      (fun known => known ∈ context.scope.visited ∨ context.store.Records known) demand := by
  rw [← hmeets.succeeds_iff context.scope.path context.store]
  refine exists_congr fun value => ⟨fun hrun => ⟨_, runWith_of_run hrun⟩, ?_⟩
  rintro ⟨after, hrun⟩
  rw [run_eq]
  exact congrArg Prod.fst hrun

/-- The forms of an object carry the same members. The inline type lists the signatures of the properties that
the interface has, and that for other keys; the interface and the composed type hold the lines of these
members, with one text. -/
structure SameMembers (options : Options) (name : String) (shape : ObjectShape Schema) (info : SchemaInfo)
    (literal : String) (lowered : LoweredInterface) (composed : Composition) : Prop where
  properties : List.Forall₂ (fun (property : String × Schema) (written : Property) =>
      written.name = property.1 ∧ written.required = shape.required.contains property.1 ∧
        written.readonly = (options.useReadonly || property.2.info.readOnly))
    shape.properties lowered.properties
  inline : literal = "\x7b " ++ signaturesText options lowered.properties lowered.indexSignature ++ " \x7d"
  declared : lowered.declaration.content = interfaceText options (interfaceDoc options name info) name
    (membersText options lowered.properties lowered.indexSignature)
  composed : composed.content =
    let lines := membersText options lowered.properties lowered.indexSignature
    let doc := compositionDoc options info composed.circularRefs
    if info.nullable then aliasText options doc name (makeNullable options (blockText lines))
    else interfaceText options doc name lines

/-- Where no property of an object is a composite, each of its forms can be had if the others can: the inline
type, the interface, and the composed type if references that lead back are kept. -/
theorem succeeds_forms (h : Document.ofJson raw = .ok context.document) {shape : ObjectShape Schema}
    (info : SchemaInfo)
    (hplain : ∀ property ∈ shape.properties, property.2.isComposite = false)
    (hmarker : context.options.composition.circularRefs = .marker) (derive : Bool) (name : String) :
    (context.Succeeds (objectLiteral shape) ↔ context.Succeeds (lowerInterface name ⟨.object shape, info⟩)) ∧
      (context.Succeeds (objectLiteral shape) ↔
        context.Succeeds (compose derive name ⟨.object shape, info⟩)) := by
  have hrules : Rules context.document context.options (Meets context.document context.options) :=
    Meets.rules (Document.local_of_ofJson h)
  have hgranted : context.Succeeds (objectLiteral shape) ↔ _ :=
    succeeds_iff (hrules.objectType info fun child _ => hrules.typeExpression child)
  have hgranted' : context.Succeeds (lowerInterface name ⟨.object shape, info⟩) ↔ _ :=
    succeeds_iff (hrules.lowerInterface name ⟨.object shape, info⟩)
  have hgranted'' : context.Succeeds (compose derive name ⟨.object shape, info⟩) ↔ _ :=
    succeeds_iff (hrules.compose derive name ⟨.object shape, info⟩)
  rw [composeDemands_object hmarker info hplain] at hgranted''
  exact ⟨hgranted.trans hgranted'.symm, hgranted.trans hgranted''.symm⟩

/-- In every context that operations reach, an object with properties, none of which is a composite, and with
references of fixed names only, has an inline type, an interface and a composed type, or none of them; and if
it has, all carry the same members. References that lead back are kept. -/
theorem object_forms_agree (h : Document.ofJson raw = .ok document)
    (hreached : Reached document options context) {shape : ObjectShape Schema} {info : SchemaInfo}
    (hproperties : shape.properties ≠ [])
    (hplain : ∀ property ∈ shape.properties, property.2.isComposite = false)
    (hfixed : ∀ reference, Schema.Mentions ⟨.object shape, info⟩ reference → document.Fixed reference)
    (hmarker : options.composition.circularRefs = .marker) (derive : Bool) (name : String) :
    ((context.Succeeds (objectLiteral shape) ↔
        context.Succeeds (lowerInterface name ⟨.object shape, info⟩)) ∧
      (context.Succeeds (objectLiteral shape) ↔
        context.Succeeds (compose derive name ⟨.object shape, info⟩))) ∧
    ∀ literal lowered composed, (context.run (objectLiteral shape)).1 = .ok literal →
      (context.run (lowerInterface name ⟨.object shape, info⟩)).1 = .ok lowered →
      (context.run (compose derive name ⟨.object shape, info⟩)).1 = .ok composed →
        SameMembers options (Name.pascal name) shape info literal lowered composed := by
  have hcanonical := hreached.canonical h
  obtain ⟨rfl, rfl, -⟩ := hreached.changes
  refine ⟨succeeds_forms h info hplain hmarker derive name, ?_⟩
  intro literal lowered composed hliteral hlowered hcomposed
  have hsettled : Settled context.document context.options context.setting context.store :=
    ⟨rfl, rfl, hcanonical⟩
  obtain ⟨signatures, index, hsignatures, hindex, rfl⟩ :=
    (members_objectLiteral h hproperties _ _ hsettled).2 literal (congrArg Prod.fst (runWith_of_run hliteral))
  obtain ⟨hmembers, hindex', hdeclared⟩ := (members_lowerInterface h name info hproperties _ _ hsettled).2
    lowered (congrArg Prod.fst (runWith_of_run hlowered))
  obtain ⟨properties, index', hmembers', hindex'', hcontent⟩ :=
    (members_compose h derive name info hproperties hplain _ _ hsettled).2 composed
      (congrArg Prod.fst (runWith_of_run hcomposed))
  have hproperty : ∀ property ∈ shape.properties, ∀ reference, property.2.Mentions reference →
      context.document.Fixed reference := fun property hmem reference hmention =>
    hfixed reference (.of_child (List.mem_append_left _ (List.mem_map_of_mem hmem)) hmention)
  have hvalue : ∀ value ∈ shape.additional.schemas, ∀ reference, value.Mentions reference →
      context.document.Fixed reference := fun value hmem reference hmention =>
    hfixed reference (.of_child (List.mem_append_right _ hmem) hmention)
  obtain rfl := IndexOf.unique h hvalue hindex' hindex
  obtain rfl := IndexOf.unique h hvalue hindex'' hindex'
  have hsigned : lowered.properties.map (·.signature context.options) = signatures.map id :=
    map_eq_map_of_forall₂ hmembers hsignatures fun property hmem _ _ =>
      PropertyOf.signature_eq h (hproperty property hmem)
  have hlines : properties.map (Property.member context.options) =
      lowered.properties.map (Property.member context.options) :=
    map_eq_map_of_forall₂ hmembers' hmembers fun property hmem _ _ =>
      PropertyOf.member_eq h (hproperty property hmem)
  refine ⟨hmembers.imp fun _ _ => PropertyOf.marks, ?_, ?_, ?_⟩
  · rw [← objectText_eq, hsigned, List.map_id]
  · rw [← memberLines_eq, hdeclared]
  · rw [hcontent, compositionContent_members, ← memberLines_eq, memberLines, hlines]
    rfl

/-- A node has a label, and it may have a next node. -/
def nodeShape : ObjectShape Schema where
  properties := [("label", { kind := .primitive .string }), ("next", { kind := .ref "#/$defs/Node" })]
  required := ["label"]

/-- A document that names nodes. -/
def namedNode : Json :=
  .obj [("$defs", .obj [("Node", .obj [("type", .str "object"), ("required", .arr [.str "label"]),
    ("properties", .obj [("label", .obj [("type", .str "string")]),
      ("next", .obj [("$ref", .str "#/$defs/Node")])])])])]

/-- A node has the same members in its three forms. -/
theorem object_forms_agree_of_node : ∃ document lowered composed,
    Document.ofJson namedNode = .ok document ∧
    ((fresh document {}).run (objectLiteral nodeShape)).1 = .ok "\x7b label: string; next?: Node \x7d" ∧
    ((fresh document {}).run (lowerInterface "Node" ⟨.object nodeShape, {}⟩)).1 = .ok lowered ∧
    ((fresh document {}).run (compose true "Node" ⟨.object nodeShape, {}⟩)).1 = .ok composed ∧
    SameMembers {} (Name.pascal "Node") nodeShape {} "\x7b label: string; next?: Node \x7d" lowered
      composed := by
  have hrun : ((Document.ofJson namedNode).toOption.any fun document =>
      document.isNamed "#/$defs/Node" &&
        ((fresh document {}).run (objectLiteral nodeShape)).1.toOption.any
          (· == "\x7b label: string; next?: Node \x7d")) = true := by decide +kernel
  obtain ⟨document, hdocument, hrun⟩ := Decode.exists_ok_of_any hrun
  obtain ⟨hnamed, hrun⟩ := Bool.and_eq_true_iff.mp hrun
  obtain ⟨literal, hliteral, htext⟩ := Decode.exists_ok_of_any hrun
  obtain rfl := beq_iff_eq.mp htext
  have hfixed : ∀ reference, Schema.Mentions ⟨.object nodeShape, {}⟩ reference →
      document.Fixed reference := by
    intro reference hmention
    have hdemand : .follow reference ∈ Schema.demands {} 0 ⟨.object nodeShape, {}⟩ :=
      Schema.follow_mem_demands.mpr hmention
    simp [nodeShape, Schema.demands_object, Schema.demands_ref, Schema.demands_primitive,
      Additional.schemas] at hdemand
    subst hdemand
    exact Or.inl hnamed
  have hreached : Reached document {} (fresh document {}) := .fresh
  obtain ⟨⟨hinterface, hcompose⟩, hsame⟩ := object_forms_agree hdocument hreached
    (by decide : nodeShape.properties ≠ []) (by decide) hfixed rfl true "Node"
  obtain ⟨lowered, hlowered⟩ := hinterface.mp ⟨_, hliteral⟩
  obtain ⟨composed, hcomposed⟩ := hcompose.mp ⟨_, hliteral⟩
  exact ⟨document, lowered, composed, hdocument, hliteral, hlowered, hcomposed,
    hsame _ lowered composed hliteral hlowered hcomposed⟩

end Context

end SchemaTypings
