import SchemaTypings.Lowering.Named
import SchemaTypings.Proofs.Schema.Demands

/-!
# What operations ask for

What lowering a schema by each operation asks for, below `depth` levels of composition and while the
references `visited` are being resolved. Most operations ask for what the type of the schema asks for. A
union lowers its object members with the discriminator pinned. A composition opens no level for a part
that stands inline in an array or an object, and it may refuse references that lead back.
-/

namespace SchemaTypings.Lowering

variable (document : Document) (options : Options) (visited : List String)

/-! ## Unions -/

/-- A member of a union as it is lowered: an object has the discriminator pinned to its value. -/
def pinnedMember (discriminator : Option ResolvedDiscriminator) (member : Schema × Nat) : Schema :=
  match discriminator, member.1.kind with
  | some found, .object shape =>
    let value := (found.values[member.2]?).join
    ⟨.object ((value.map (shape.pin found.property)).getD shape), member.1.info⟩
  | _, _ => member.1

/-- What a union asks for. -/
def unionDemands (depth : Nat) (schema : Schema) : List Demand :=
  match unionMembersOf schema with
  | [] => options.unions.emptyUnion.demands
  | members => members.zipIdx.flatMap fun member => options.levelDemands depth ++
      (pinnedMember (discriminatorOf? document options schema) member).demands options (depth + 1)

/-! ## Compositions -/

/-- What a reference within a composition asks for. -/
def composeReferenceDemands (target : String) : List Demand :=
  .follow target ::
    if visited.contains target && options.composition.circularRefs == .error then [.refuse] else []

/-- What a part of a composition asks for: a reference as one, another part what it asks for when it
is declared on its own, or when it stands inline. -/
def partDemands (part : Schema) (isDeclared : Bool) (declared inline : List Demand) : List Demand :=
  match part.kind with
  | .ref target => composeReferenceDemands options visited target
  | _ => if isDeclared then declared else inline

mutual

/-- What composing a schema asks for. -/
def composeDemands (depth : Nat) : Schema → List Demand
  | ⟨.oneOf members, info⟩ => unionDemands document options depth ⟨.oneOf members, info⟩
  | ⟨.anyOf members, info⟩ => unionDemands document options depth ⟨.anyOf members, info⟩
  | ⟨kind, info⟩ => composeBodyDemands depth info kind

/-- What the body of a composed type asks for. -/
def composeBodyDemands (depth : Nat) (info : SchemaInfo) : SchemaKind Schema → List Demand
  | .allOf members => composeMembersDemands depth members
  | .ref target => composeReferenceDemands options visited target
  | .object ⟨properties, required, additional⟩ =>
    if properties.isEmpty then
      Schema.demands options depth ⟨.object ⟨properties, required, additional⟩, info⟩
    else composePropertiesDemands depth properties
      ++ additional.schemas.flatMap (·.demands options depth)
  | .array items => partDemands options visited items
      (items.isComposite || !isInline options items)
      (options.levelDemands depth ++ composeDemands (depth + 1) items) (items.demands options depth)
  | kind => Schema.demands options depth ⟨kind, info⟩

/-- What the members of a composed type ask for, each one level further down. -/
def composeMembersDemands (depth : Nat) : List Schema → List Demand
  | [] => []
  | member :: rest => options.levelDemands depth
      ++ partDemands options visited member (!isInline options member)
        (composeDemands (depth + 1) member) (member.demands options (depth + 1))
      ++ composeMembersDemands depth rest

/-- What the properties of a composed type ask for. -/
def composePropertiesDemands (depth : Nat) : List (String × Schema) → List Demand
  | [] => []
  | (_, schema) :: rest => partDemands options visited schema schema.isComposite
        (options.levelDemands depth ++ composeDemands (depth + 1) schema)
        (schema.demands options depth)
      ++ composePropertiesDemands depth rest

end

theorem composeDemands_union {schema : Schema} {members : List Schema}
    (hkind : schema.kind = .oneOf members ∨ schema.kind = .anyOf members) (depth : Nat) :
    composeDemands document options visited depth schema = unionDemands document options depth schema := by
  obtain ⟨kind, info⟩ := schema
  obtain rfl | rfl := hkind <;> rw [composeDemands]

theorem composeMembersDemands_eq_flatMap (depth : Nat) (members : List Schema) :
    composeMembersDemands document options visited depth members = members.flatMap fun member =>
      options.levelDemands depth ++ partDemands options visited member (!isInline options member)
        (composeDemands document options visited (depth + 1) member) (member.demands options (depth + 1)) := by
  induction members with
  | nil => rfl
  | cons member rest ih => rw [composeMembersDemands, ih, List.flatMap_cons]

theorem composePropertiesDemands_eq_flatMap (depth : Nat) (properties : List (String × Schema)) :
    composePropertiesDemands document options visited depth properties = properties.flatMap fun property =>
      partDemands options visited property.2 property.2.isComposite
        (options.levelDemands depth ++ composeDemands document options visited (depth + 1) property.2)
        (property.2.demands options depth) := by
  induction properties with
  | nil => rfl
  | cons property rest ih =>
    obtain ⟨name, schema⟩ := property
    rw [composePropertiesDemands, ih, List.flatMap_cons]

theorem composeDemands_members (depth : Nat) (members : List Schema) (info : SchemaInfo) :
    composeDemands document options visited depth ⟨.allOf members, info⟩ =
      composeMembersDemands document options visited depth members := rfl

theorem composeDemands_properties (depth : Nat) (shape : ObjectShape Schema) (info : SchemaInfo) :
    composeDemands document options visited depth ⟨.object shape, info⟩ =
      composePropertiesDemands document options visited depth shape.properties
        ++ shape.additional.schemas.flatMap (·.demands options depth) := by
  obtain ⟨properties, required, additional⟩ := shape
  show composeBodyDemands document options visited depth info (.object ⟨properties, required, additional⟩) = _
  rw [composeBodyDemands]
  cases properties with
  | nil => simp [Schema.demands_object, composePropertiesDemands]
  | cons property rest => rfl

/-- Where a schema is composed, what holds of it follows from what holds of the members, the properties or the
items that may be composed with it. -/
@[elab_as_elim]
theorem composition_induction {motive : Schema → Prop}
    (union : ∀ {schema : Schema} {members : List Schema},
      schema.kind = .oneOf members ∨ schema.kind = .anyOf members → motive schema)
    (intersection : ∀ {members : List Schema} (info : SchemaInfo), (∀ member ∈ members, motive member) →
      motive ⟨.allOf members, info⟩)
    (object : ∀ {shape : ObjectShape Schema} (info : SchemaInfo),
      (∀ property ∈ shape.properties, motive property.2) → motive ⟨.object shape, info⟩)
    (array : ∀ {items : Schema} (info : SchemaInfo), motive items → motive ⟨.array items, info⟩)
    (reference : ∀ target info, motive ⟨.ref target, info⟩)
    (enum : ∀ shape info, motive ⟨.enum shape, info⟩) (primitive : ∀ type info, motive ⟨.primitive type, info⟩)
    (any : ∀ info, motive ⟨.any, info⟩) (schema : Schema) : motive schema := by
  induction schema using Schema.inductionOn with
  | step schema ih =>
    obtain ⟨kind, info⟩ := schema
    cases kind with
    | oneOf members => exact union (Or.inl rfl)
    | anyOf members => exact union (Or.inr rfl)
    | allOf members => exact intersection info ih
    | object shape =>
      exact object info fun property hproperty =>
        ih property.2 (List.mem_append_left _ (List.mem_map_of_mem hproperty))
    | array items => exact array info (ih items (List.mem_singleton_self items))
    | ref target => exact reference target info
    | enum shape => exact enum shape info
    | primitive type => exact primitive type info
    | any => exact any info

/-! ## Named schemas -/

/-- What declaring a schema asks for, by the operation that its kind selects. -/
def declareDemands (depth : Nat) (schema : Schema) : List Demand :=
  match Operation.select schema with
  | .union => unionDemands document options depth schema
  | .compose => composeDemands document options visited depth schema
  | _ => schema.demands options depth

end SchemaTypings.Lowering
