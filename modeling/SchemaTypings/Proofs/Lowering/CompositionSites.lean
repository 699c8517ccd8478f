import SchemaTypings.Proofs.Lowering.Demands
import SchemaTypings.Proofs.Lowering.Run
import SchemaTypings.Proofs.Name.Pascal

/-!
# Where a composition goes

Composing a schema does not go everywhere in it. It comes to the references right below, and to the parts that
are declared on their own: members that are not inline, composite properties, items. What stands inline is
written as any type is, and a union is declared as any union is. The schemas it comes to are
`Schema.compositionSites`.

What holds of a composition follows from what holds at each of them, whatever is said of steps: what they ask
for, what they do to the store, or what they give. A `CompositionLogic` is something that is said, and the
induction over compositions is done once for all of them (`CompositionLogic.Sound.compose`).
-/

namespace SchemaTypings

open LowerM Lowering Typing

namespace Schema

/-- The schema itself, unless it is a reference: that is come to where it is resolved. -/
def ownSites (schema : Schema) : List Schema :=
  match schema.kind with
  | .ref _ => []
  | _ => [schema]

/-- The schemas that composing a part comes to: a reference itself, another part what composing it comes to if
it is declared on its own. -/
def partSites (part : Schema) (isDeclared : Bool) (sites : List Schema) : List Schema :=
  match part.kind with
  | .ref _ => [part]
  | _ => if isDeclared then sites else []

mutual

/-- The schemas that composing a schema comes to, in the order in which they are done with: the schema itself is
the last one. -/
def compositionSites (options : Options) : Schema → List Schema
  | ⟨.allOf members, info⟩ => memberSites options members ++ [⟨.allOf members, info⟩]
  | ⟨.object ⟨properties, required, additional⟩, info⟩ =>
    propertySites options properties ++ [⟨.object ⟨properties, required, additional⟩, info⟩]
  | ⟨.array items, info⟩ =>
    partSites items (items.isComposite || !isInline options items) (compositionSites options items)
      ++ [⟨.array items, info⟩]
  | schema => [schema]

/-- The schemas that composing the members comes to. -/
def memberSites (options : Options) : List Schema → List Schema
  | [] => []
  | member :: rest => partSites member (!isInline options member) (compositionSites options member)
      ++ memberSites options rest

/-- The schemas that composing the properties comes to. -/
def propertySites (options : Options) : List (String × Schema) → List Schema
  | [] => []
  | (_, schema) :: rest => partSites schema schema.isComposite (compositionSites options schema)
      ++ propertySites options rest

end

end Schema

namespace Lowering

/-- The property is described with the type that its schema has in a composition. -/
def Composed (options : Options) (shape : ObjectShape Schema) (property : String × Schema)
    (lowered : Property) : Prop :=
  ∃ type, lowered = .ofDescriptor options property.1
    (.ofSchema type property.2.info.nullable property.2.info) property.2.info (shape.requires property.1)

/-- The body of an object with properties lists them. -/
def ComposedBody (options : Options) (kind : SchemaKind Schema) (body : CompositionBody) : Prop :=
  ∀ shape, kind = .object shape → shape.properties ≠ [] → ∃ properties index,
    body = .members (memberLines options properties index) properties ∧
      List.Forall₂ (Composed options shape) shape.properties properties

/-- The texts that the body of a composed type consists of. -/
def BodyWrites (options : Options) (writes : String → Prop) : CompositionBody → Prop
  | .alias expr => writes expr
  | .members lines properties => ∃ index, lines = memberLines options properties index ∧
      (∀ property ∈ properties, writes property.descriptor.typeName) ∧ ∀ value ∈ index, writes value

/-! ## Names for parts -/

theorem isAscii_itemName (name : String) : s!"{Name.pascal name}Item".toList.all Text.isAscii = true := by
  simp only [toString, String.toList_append, List.all_append, Name.all_isAscii_pascal, Bool.true_and]
  decide

theorem isAscii_partName (name : String) (index : Nat) :
    s!"{Name.pascal name}Part{index + 1}".toList.all Text.isAscii = true := by
  simp only [toString, String.toList_append, List.all_append, Name.all_isAscii_pascal,
    Name.all_isAscii_repr, Bool.and_true, Bool.true_and]
  decide

theorem isAscii_propertyName (name property : String) :
    s!"{Name.pascal name}{Name.pascal property}".toList.all Text.isAscii = true := by
  simp only [toString, String.toList_append, List.all_append, Name.all_isAscii_pascal, Bool.true_and]

/-- What a composition is assembled of: its body and its parts, and the dependencies collected for them. -/
def assembled (derive : Bool) (name : String) (schema : Schema)
    (step : LowerM (CompositionBody × CompositionParts)) : LowerM Composition := do
  let ((body, parts), dependencies) ← collectDependencies step
  return assemble (← document) (← options) derive name schema body parts dependencies

end Lowering

/-! ## Logics of compositions -/

/-- What is said of the steps that compose a schema. -/
structure CompositionLogic where
  /-- What is said of a step below some levels: what it asks for, and a postcondition about the dependencies
  afterwards, the names that are claimed for parts, and what is given. -/
  holds : Nat → ∀ {α : Type}, LowerM α → List Demand → (List String → List String → α → Prop) → Prop
  /-- The schemas that are composed. -/
  admits : Schema → Prop := fun _ => True
  /-- The names that they are composed under. -/
  names : String → Prop := fun _ => True
  /-- The names that are claimed for parts. -/
  claims : String → Prop := fun _ => True
  /-- The texts of types, beside the parts so far. -/
  writes : List String → CompositionParts → String → Prop := fun _ _ _ => True
  /-- What comes to the parts at some sites: the parts before, and after. -/
  adds : List Schema → CompositionParts → List String → List String → CompositionParts → Prop :=
    fun _ _ _ _ _ => True
  /-- What is composed under a name, at the top or below, at some sites. -/
  declares : Bool → String → List Schema → List String → List String → Composition → Prop :=
    fun _ _ _ _ _ _ => True

/-- What is composed comes to the parts at some sites, and the texts in it are written beside the parts. -/
structure CompositionLogic.Continues {β : Type} (logic : CompositionLogic) (sites : List Schema)
    (start : CompositionParts) (writes : (String → Prop) → β → Prop) (dependencies claimed : List String)
    (composed : β × CompositionParts) : Prop where
  adds : logic.adds sites start dependencies claimed composed.2
  written : writes (logic.writes dependencies composed.2) composed.1

/-- What is said holds at each site, and is kept by putting sites together. -/
structure CompositionLogic.Sound (logic : CompositionLogic) (document : Document) (options : Options)
    (visited : List String) : Prop where
  pure {α : Type} {depth : Nat} {value : α} {post : List String → List String → α → Prop} :
    (∀ dependencies, post dependencies [] value) → logic.holds depth (Pure.pure value) [] post
  /-- The names that a step and the next one claim follow one another. -/
  bind {α β : Type} {depth : Nat} {step : LowerM α} {next : α → LowerM β} {demands others : List Demand}
    {post : List String → List String → α → Prop} {result : List String → List String → β → Prop} :
    logic.holds depth step demands post → (∀ value, logic.holds depth (next value) others
      fun dependencies claimed given => ∀ before, post dependencies before value →
        result dependencies (before ++ claimed) given) →
      logic.holds depth (step >>= next) (demands ++ others) result
  readOptions {α : Type} {depth : Nat} {next : Options → LowerM α} {demands : List Demand}
    {post : List String → List String → α → Prop} : logic.holds depth (next options) demands post →
      logic.holds depth (LowerM.options >>= next) demands post
  withSegment {α : Type} {depth : Nat} {step : LowerM α} {demands : List Demand}
    {post : List String → List String → α → Prop} (segment : String) :
    logic.holds depth step demands post → logic.holds depth (LowerM.withSegment segment step) demands post
  descend {α : Type} {depth : Nat} {step : LowerM α} {demands : List Demand}
    {post : List String → List String → α → Prop} (segment : String) :
    logic.holds (depth + 1) step demands post →
      logic.holds depth (LowerM.descend segment step) (options.levelDemands depth ++ demands) post
  claimThen {α : Type} {depth : Nat} {base : String} {next : String → LowerM α} {demands : List Demand}
    {post : List String → List String → α → Prop} : base.toList.all Text.isAscii = true →
      (∀ name, logic.claims name → logic.holds depth (next name) demands
        fun dependencies claimed given => post dependencies (name :: claimed) given) →
        logic.holds depth (LowerM.claimName base >>= next) demands post
  names {name : String} : logic.claims name → logic.names name
  child {schema child : Schema} : logic.admits schema → child ∈ schema.children → logic.admits child
  top {dependencies : List String} {parts : CompositionParts} : logic.writes dependencies parts topType
  intersection {dependencies types : List String} {parts : CompositionParts} :
    (∀ type ∈ types, logic.writes dependencies parts type) →
      logic.writes dependencies parts (intersection types)
  arrayOf {dependencies : List String} {parts : CompositionParts} {element : String} :
    logic.writes dependencies parts element → logic.writes dependencies parts (arrayOf options element)
  /-- What is written beside the parts so far is written beside the later ones. -/
  later {sites : List Schema} {start final : CompositionParts} {dependencies claimed : List String}
    {text : String} : logic.adds sites start dependencies claimed final →
      logic.writes dependencies start text → logic.writes dependencies final text
  refl {dependencies : List String} (parts : CompositionParts) : logic.adds [] parts dependencies [] parts
  trans {sites others : List Schema} {start between final : CompositionParts}
    {dependencies claimed more : List String} : logic.adds sites start dependencies claimed between →
      logic.adds others between dependencies more final →
        logic.adds (sites ++ others) start dependencies (claimed ++ more) final
  typeExpression {depth : Nat} {schema : Schema} : logic.admits schema → logic.holds depth
    (typeExpression schema) (schema.demands options depth) fun dependencies claimed type =>
      claimed = [] ∧ ∀ parts, logic.writes dependencies parts type
  indexValue {depth : Nat} {propertyless : Bool} {additional : Additional Schema} :
    (∀ schema ∈ additional.schemas, logic.admits schema) → logic.holds depth
      (indexValue referenceName propertyless additional) (additional.schemas.flatMap (·.demands options depth))
      fun dependencies claimed index =>
        claimed = [] ∧ ∀ value ∈ index, ∀ parts, logic.writes dependencies parts value
  reference {depth : Nat} {target : String} {info : SchemaInfo} (parts : CompositionParts) :
    logic.admits ⟨.ref target, info⟩ → logic.holds depth (composeReference target parts)
      (composeReferenceDemands options visited target)
      (logic.Continues [⟨.ref target, info⟩] parts fun writes name => writes name)
  union (derive : Bool) {depth : Nat} {name : String} {schema : Schema} :
    Operation.select schema = .union → logic.admits schema → logic.names name →
      logic.holds depth (composeUnion derive (Name.pascal name) schema)
        (unionDemands document options depth schema) (logic.declares derive name [schema])
  absorb {name : String} {sites : List Schema} {dependencies claimed : List String} {nested : Composition}
    (parts : CompositionParts) : logic.claims name →
      logic.declares false name sites dependencies claimed nested →
        logic.Continues sites parts (fun writes name => writes name) dependencies (name :: claimed)
          (name, parts.absorb nested)
  assembled (derive : Bool) {depth : Nat} {name : String} {kind : SchemaKind Schema} {info : SchemaInfo}
    {sites : List Schema} {step : LowerM (CompositionBody × CompositionParts)} {demands : List Demand} :
    Operation.ofKind kind ≠ .union → logic.names name → logic.holds depth step demands
      (logic.Continues sites {} fun writes body => ComposedBody options kind body ∧
        BodyWrites options writes body) →
        logic.holds depth (Lowering.assembled derive (Name.pascal name) ⟨kind, info⟩ step) demands
          (logic.declares derive name (sites ++ Schema.ownSites ⟨kind, info⟩))

namespace CompositionLogic.Sound

variable {logic : CompositionLogic} {document : Document} {options : Options} {visited : List String}
  (sound : logic.Sound document options visited) {depth : Nat} {α β : Type}

include sound

/-! ## Steps -/

/-- A step and the next one, which asks for nothing. -/
theorem bindNone {step : LowerM α} {next : α → LowerM β} {demands : List Demand}
    {post : List String → List String → α → Prop} {result : List String → List String → β → Prop}
    (h : logic.holds depth step demands post) (hnext : ∀ value, logic.holds depth (next value) []
      fun dependencies claimed given => ∀ before, post dependencies before value →
        result dependencies (before ++ claimed) given) :
    logic.holds depth (step >>= next) demands result :=
  List.append_nil demands ▸ sound.bind h hnext

/-- What is made of the value of a step. -/
theorem last {step : LowerM α} {f : α → β} {demands : List Demand} {post : List String → List String → α → Prop}
    {result : List String → List String → β → Prop} (h : logic.holds depth step demands post)
    (hresult : ∀ dependencies claimed value, post dependencies claimed value →
      result dependencies claimed (f value)) :
    logic.holds depth (step >>= fun value => Pure.pure (f value)) demands result := by
  refine sound.bindNone h fun value => sound.pure fun dependencies claimed hpost => ?_
  rw [List.append_nil]
  exact hresult dependencies claimed value hpost

/-- What is made of the value of a step and of the options. -/
theorem lastOptions {step : LowerM α} {f : Options → α → β} {demands : List Demand}
    {post : List String → List String → α → Prop} {result : List String → List String → β → Prop}
    (h : logic.holds depth step demands post) (hresult : ∀ dependencies claimed value,
      post dependencies claimed value → result dependencies claimed (f options value)) :
    logic.holds depth (step >>= fun value => LowerM.options >>= fun options => Pure.pure (f options value))
      demands result := by
  refine sound.bindNone h fun value => sound.readOptions (sound.pure fun dependencies claimed hpost => ?_)
  rw [List.append_nil]
  exact hresult dependencies claimed value hpost

/-! ## Parts -/

/-- A type expression stands inline, and nothing is added for it. -/
theorem inlinePart {schema : Schema} (hschema : logic.admits schema) (parts : CompositionParts) :
    logic.holds depth (do return (← Lowering.typeExpression schema, parts)) (schema.demands options depth)
      (logic.Continues [] parts fun writes name => writes name) := by
  refine sound.last (sound.typeExpression hschema) ?_
  rintro dependencies _ type ⟨rfl, htype⟩
  exact ⟨sound.refl parts, htype parts⟩

/-- What is described without being a reference is nullable as it says. -/
theorem describe {schema : Schema} (hschema : logic.admits schema)
    (hreference : ∀ target, schema.kind ≠ .ref target) (parts : CompositionParts) :
    logic.holds depth (describe schema) (schema.demands options depth) fun dependencies claimed descriptor =>
      claimed = [] ∧ ∃ type, logic.writes dependencies parts type ∧
        descriptor = .ofSchema type schema.info.nullable schema.info := by
  refine sound.last (sound.typeExpression hschema) ?_
  rintro dependencies _ type ⟨rfl, htype⟩
  refine ⟨rfl, type, htype parts, ?_⟩
  obtain ⟨kind, info⟩ := schema
  cases kind with
  | ref target => exact absurd rfl (hreference target)
  | _ => simp

section Parts

variable {schema : Schema} (hschema : logic.admits schema)
  (hcompose : ∀ name, logic.names name → logic.holds (depth + 1) (compose false name schema)
    (composeDemands document options visited (depth + 1) schema)
    (logic.declares false name (schema.compositionSites options)))

include hcompose

theorem declarePart {base : String} (hbase : base.toList.all Text.isAscii = true) (parts : CompositionParts) :
    logic.holds (depth + 1) (declarePart (fun name => compose false name schema) base parts)
      (composeDemands document options visited (depth + 1) schema)
      (logic.Continues (schema.compositionSites options) parts fun writes name => writes name) :=
  sound.claimThen hbase fun name hname => sound.last (hcompose name (sound.names hname)) fun _ _ _ hnested =>
    sound.absorb parts hname hnested

include hschema

theorem composeItems (owner : String) :
    logic.holds depth (composeItems (Name.pascal owner) schema fun name => compose false name schema)
      (partDemands options visited schema (schema.isComposite || !isInline options schema)
        (options.levelDemands depth ++ composeDemands document options visited (depth + 1) schema)
        (schema.demands options depth))
      (logic.Continues (schema.partSites (schema.isComposite || !isInline options schema)
        (schema.compositionSites options)) {} fun writes name => writes name) := by
  have hdeclared := sound.descend "items" (sound.declarePart hcompose (isAscii_itemName owner) {})
  have hinline : logic.holds depth _ _ _ := sound.inlinePart hschema {}
  obtain ⟨kind, info⟩ := schema
  cases kind with
  | ref target => exact sound.reference {} hschema
  | _ =>
    refine sound.readOptions ?_
    dsimp only [partDemands, Schema.partSites]
    split
    · exact hdeclared
    · exact hinline

theorem composeMember (owner : String) (index : Nat) (parts : CompositionParts) :
    logic.holds depth
      (composeMember (Name.pascal owner) index schema (fun name => compose false name schema) parts)
      (options.levelDemands depth ++ partDemands options visited schema (!isInline options schema)
        (composeDemands document options visited (depth + 1) schema) (schema.demands options (depth + 1)))
      (logic.Continues (schema.partSites (!isInline options schema) (schema.compositionSites options)) parts
        fun writes name => writes name) := by
  have hdeclared := sound.declarePart hcompose (isAscii_partName owner index) parts
  have hinline : logic.holds (depth + 1) _ _ _ := sound.inlinePart hschema parts
  refine sound.descend _ ?_
  obtain ⟨kind, info⟩ := schema
  cases kind with
  | ref target => exact sound.reference parts hschema
  | _ =>
    refine sound.readOptions ?_
    dsimp only [partDemands, Schema.partSites]
    cases isInline options _ with
    | true => exact hinline
    | false => exact hdeclared

theorem composeDescriptor (owner name : String) (parts : CompositionParts) :
    logic.holds depth
      (composeDescriptor (Name.pascal owner) name schema (fun name => compose false name schema) parts)
      (partDemands options visited schema schema.isComposite
        (options.levelDemands depth ++ composeDemands document options visited (depth + 1) schema)
        (schema.demands options depth))
      (logic.Continues (schema.partSites schema.isComposite (schema.compositionSites options)) parts
        fun writes descriptor => ∃ type, writes type ∧
          descriptor = .ofSchema type schema.info.nullable schema.info) := by
  have hdeclared := sound.descend name (sound.declarePart hcompose (isAscii_propertyName owner name) parts)
  obtain ⟨kind, info⟩ := schema
  cases kind with
  | oneOf members | anyOf members | allOf members =>
    exact sound.last hdeclared fun _ _ named hnamed => ⟨hnamed.adds, named.1, hnamed.written, rfl⟩
  | ref target =>
    exact sound.last (sound.withSegment name (sound.reference parts hschema)) fun _ _ named hnamed =>
      ⟨hnamed.adds, named.1, hnamed.written, rfl⟩
  | _ =>
    refine sound.last (sound.withSegment name (sound.describe hschema (by simp) parts)) ?_
    rintro dependencies _ _ ⟨rfl, hdescriptor⟩
    exact ⟨sound.refl parts, hdescriptor⟩

end Parts

/-! ## Members and properties -/

theorem composeMembers (owner : String) {members : List Schema}
    (hmembers : ∀ member ∈ members, logic.admits member)
    (hcompose : ∀ member ∈ members, ∀ name, logic.names name → logic.holds (depth + 1)
      (compose false name member) (composeDemands document options visited (depth + 1) member)
      (logic.declares false name (member.compositionSites options)))
    (index : Nat) (parts : CompositionParts) :
    logic.holds depth (composeMembers (Name.pascal owner) index parts members)
      (composeMembersDemands document options visited depth members)
      (logic.Continues (Schema.memberSites options members) parts
        fun writes types => ∀ type ∈ types, writes type) := by
  induction members generalizing index parts with
  | nil => exact sound.pure fun _ => ⟨sound.refl parts, by simp⟩
  | cons member rest ih =>
    have hmember := sound.composeMember (hmembers member List.mem_cons_self)
      (hcompose member List.mem_cons_self) owner index parts
    have hrest := ih (fun other hother => hmembers other (List.mem_cons_of_mem _ hother))
      fun other hother => hcompose other (List.mem_cons_of_mem _ hother)
    rw [Lowering.composeMembers, composeMembersDemands, Schema.memberSites]
    refine sound.bind hmember fun first => sound.last (hrest (index + 1) first.2)
      fun dependencies more others hmore claimed hfirst => ?_
    exact ⟨sound.trans hfirst.adds hmore.adds,
      List.forall_mem_cons.mpr ⟨sound.later hmore.adds hfirst.written, hmore.written⟩⟩

theorem composeProperties (owner : String) (shape : ObjectShape Schema)
    {properties : List (String × Schema)} (hproperties : ∀ property ∈ properties, logic.admits property.2)
    (hcompose : ∀ property ∈ properties, ∀ name, logic.names name → logic.holds (depth + 1)
      (compose false name property.2) (composeDemands document options visited (depth + 1) property.2)
      (logic.declares false name (property.2.compositionSites options)))
    (parts : CompositionParts) :
    logic.holds depth (composeProperties (Name.pascal owner) shape.required parts properties)
      (composePropertiesDemands document options visited depth properties)
      (logic.Continues (Schema.propertySites options properties) parts fun writes lowered =>
        List.Forall₂ (Composed options shape) properties lowered ∧
          ∀ property ∈ lowered, writes property.descriptor.typeName) := by
  induction properties generalizing parts with
  | nil => exact sound.pure fun _ => ⟨sound.refl parts, .nil, by simp⟩
  | cons property rest ih =>
    obtain ⟨name, schema⟩ := property
    have hproperty := sound.composeDescriptor (hproperties (name, schema) List.mem_cons_self)
      (hcompose (name, schema) List.mem_cons_self) owner name parts
    have hrest := ih (fun other hother => hproperties other (List.mem_cons_of_mem _ hother))
      fun other hother => hcompose other (List.mem_cons_of_mem _ hother)
    rw [Lowering.composeProperties, composePropertiesDemands, Schema.propertySites]
    refine sound.bind hproperty fun first => sound.readOptions (sound.last (hrest first.2)
      fun dependencies more others hmore claimed hfirst => ?_)
    obtain ⟨hadds, type, htype, hdescriptor⟩ := hfirst
    rw [hdescriptor]
    exact ⟨sound.trans hadds hmore.adds, .cons ⟨type, rfl⟩ hmore.written.1,
      List.forall_mem_cons.mpr ⟨sound.later hmore.adds htype, hmore.written.2⟩⟩

/-! ## Compositions -/

/-- What the body of a composed type comes to, besides the type itself. -/
theorem composeBody (depth : Nat) (owner : String) {info : SchemaInfo} {kind : SchemaKind Schema}
    (hschema : logic.admits ⟨kind, info⟩)
    (hcompose : ∀ child ∈ Schema.childrenOfKind kind, ∀ name, logic.names name → logic.holds (depth + 1)
      (compose false name child) (composeDemands document options visited (depth + 1) child)
      (logic.declares false name (child.compositionSites options))) :
    ∃ sites, (Operation.ofKind kind ≠ .union →
        Schema.compositionSites options ⟨kind, info⟩ = sites ++ Schema.ownSites ⟨kind, info⟩) ∧
      logic.holds depth (composeBody (Name.pascal owner) info kind)
        (composeBodyDemands document options visited depth info kind)
        (logic.Continues sites {} fun writes body => ComposedBody options kind body ∧
          BodyWrites options writes body) := by
  have hchildren : ∀ child ∈ Schema.childrenOfKind kind, logic.admits child := fun child hchild =>
    sound.child hschema hchild
  have hinline (hobject : ∀ shape, kind = .object shape → shape.properties = []) : logic.holds depth
      (do return (CompositionBody.alias (← Lowering.typeExpression ⟨kind, info⟩), ({} : CompositionParts)))
      (Schema.demands options depth ⟨kind, info⟩)
      (logic.Continues [] {} fun writes body => ComposedBody options kind body ∧
        BodyWrites options writes body) := by
    refine sound.last (sound.typeExpression hschema) ?_
    rintro dependencies _ type ⟨rfl, htype⟩
    exact ⟨sound.refl {}, fun shape hkind hne => absurd (hobject shape hkind) hne, htype {}⟩
  cases kind with
  | allOf members =>
    refine ⟨Schema.memberSites options members, fun _ => rfl, ?_⟩
    rw [Lowering.composeBody, composeBodyDemands]
    cases members with
    | nil => exact sound.pure fun _ => ⟨sound.refl {}, by rintro _ ⟨⟩, sound.top⟩
    | cons member rest =>
      refine sound.last (sound.composeMembers owner hchildren hcompose 0 {}) fun _ _ composed hcomposed => ?_
      exact ⟨hcomposed.adds, by rintro _ ⟨⟩, sound.intersection hcomposed.written⟩
  | ref target =>
    refine ⟨[⟨.ref target, info⟩], fun _ => rfl, ?_⟩
    rw [Lowering.composeBody, composeBodyDemands]
    exact sound.last (sound.reference {} hschema) fun _ _ named hnamed =>
      ⟨hnamed.adds, by rintro _ ⟨⟩, hnamed.written⟩
  | object shape =>
    have hproperties : ∀ property ∈ shape.properties, property.2 ∈ shape.schemas := fun property hproperty =>
      List.mem_append_left _ (List.mem_map_of_mem hproperty)
    have hlisted := sound.composeProperties owner shape
      (fun property hproperty => hchildren property.2 (hproperties property hproperty))
      (fun property hproperty => hcompose property.2 (hproperties property hproperty)) {}
    have hindex : logic.holds depth
        (Lowering.indexValue referenceName shape.properties.isEmpty shape.additional) _ _ :=
      sound.indexValue fun value hvalue => hchildren value (List.mem_append_right _ hvalue)
    obtain ⟨properties, required, additional⟩ := shape
    refine ⟨Schema.propertySites options properties, fun _ => rfl, ?_⟩
    rw [Lowering.composeBody, composeBodyDemands]
    cases properties with
    | nil =>
      refine hinline ?_
      rintro shape ⟨⟩
      rfl
    | cons property rest =>
      refine sound.bind hlisted fun composed => sound.lastOptions hindex ?_
      rintro dependencies _ index ⟨rfl, hindex⟩ claimed ⟨hadds, hlisted, hwritten⟩
      rw [List.append_nil]
      refine ⟨hadds, ?_, index, rfl, hwritten, fun value hvalue => hindex value hvalue _⟩
      rintro shape ⟨⟩ -
      exact ⟨composed.1, index, rfl, hlisted⟩
  | array items =>
    have hitems := List.mem_singleton_self items
    refine ⟨_, fun _ => rfl, ?_⟩
    rw [Lowering.composeBody, composeBodyDemands]
    refine sound.lastOptions (sound.composeItems (hchildren items hitems) (hcompose items hitems) owner)
      fun _ _ composed hcomposed => ?_
    exact ⟨hcomposed.adds, by rintro _ ⟨⟩, sound.arrayOf hcomposed.written⟩
  | oneOf members | anyOf members => exact ⟨[], fun hunion => absurd rfl hunion, hinline (by simp)⟩
  | _ => exact ⟨[], fun _ => rfl, hinline (by simp)⟩

/-- What holds at the sites of a composition holds of the whole composition. -/
theorem compose (depth : Nat) (derive : Bool) {name : String} (hname : logic.names name) {schema : Schema}
    (hschema : logic.admits schema) :
    logic.holds depth (compose derive name schema) (composeDemands document options visited depth schema)
      (logic.declares derive name (schema.compositionSites options)) := by
  induction schema using Schema.inductionOn generalizing derive name depth with
  | step schema ih =>
    have hchild : ∀ child ∈ schema.children, ∀ part, logic.names part → logic.holds (depth + 1)
        (Lowering.compose false part child) (composeDemands document options visited (depth + 1) child)
        (logic.declares false part (child.compositionSites options)) :=
      fun child hchild part hpart => ih child hchild (depth + 1) false hpart (sound.child hschema hchild)
    obtain ⟨kind, info⟩ := schema
    by_cases hunion : Operation.select ⟨kind, info⟩ = .union
    · have hcomposed : logic.holds depth _ _ _ := sound.union derive hunion hschema hname
      obtain ⟨members, rfl | rfl⟩ := Operation.kind_of_select_union hunion
      all_goals exact hcomposed
    · have hone : ∀ members, kind ≠ .oneOf members := by
        rintro members rfl
        exact hunion rfl
      have hany : ∀ members, kind ≠ .anyOf members := by
        rintro members rfl
        exact hunion rfl
      obtain ⟨sites, hsites, hbody⟩ := sound.composeBody depth name hschema hchild
      rw [compose.eq_3 _ _ _ _ hone hany, composeDemands.eq_3 _ _ _ _ _ _ hone hany, hsites hunion]
      exact sound.withSegment _ (sound.assembled derive hunion hname hbody)

end CompositionLogic.Sound

end SchemaTypings
