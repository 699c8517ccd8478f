import SchemaTypings.Lowering.Context
import SchemaTypings.Lowering.Reference
import SchemaTypings.Proofs.Decode.Success
import SchemaTypings.Proofs.Lowering.Moments

/-!
# Metadata

Of the data that goes along with a schema, a type depends on three things: whether null is admitted, whether
a property is read-only, and the format of a text. The rest is metadata. `Schema.bare` is a schema without it,
at any depth; two schemas differ in metadata only if they are the same without it.

The type expression of a schema is that of the bare schema, as a step: the two steps are equal, so that no
run can tell them apart, from whatever context (`Lowering.typeOf_bare`).
-/

namespace SchemaTypings

open LowerM Lowering Typing

/-! ## Schemas without metadata -/

/-- What a type depends on. -/
def SchemaInfo.bare (info : SchemaInfo) : SchemaInfo where
  nullable := info.nullable
  readOnly := info.readOnly
  format := info.format

namespace Schema

mutual

/-- The schema without metadata, at any depth. -/
def bare : Schema → Schema
  | ⟨kind, info⟩ => ⟨bareKind kind, info.bare⟩

def bareKind : SchemaKind Schema → SchemaKind Schema
  | .any => .any
  | .ref target => .ref target
  | .oneOf members => .oneOf (bareMembers members)
  | .anyOf members => .anyOf (bareMembers members)
  | .allOf members => .allOf (bareMembers members)
  | .array items => .array (bare items)
  | .object ⟨properties, required, additional⟩ =>
    .object ⟨bareProperties properties, required, bareAdditional additional⟩
  | .enum shape => .enum shape
  | .primitive type => .primitive type

def bareMembers : List Schema → List Schema
  | [] => []
  | member :: rest => bare member :: bareMembers rest

def bareProperties : List (String × Schema) → List (String × Schema)
  | [] => []
  | (name, schema) :: rest => (name, bare schema) :: bareProperties rest

def bareAdditional : Additional Schema → Additional Schema
  | .unspecified => .unspecified
  | .opened => .opened
  | .closed => .closed
  | .schema value => .schema (bare value)

end

theorem info_bare (schema : Schema) : schema.bare.info = schema.info.bare := by
  cases schema
  rfl

theorem isEmpty_bareMembers (members : List Schema) : (bareMembers members).isEmpty = members.isEmpty := by
  cases members <;> rfl

theorem isEmpty_bareProperties (properties : List (String × Schema)) :
    (bareProperties properties).isEmpty = properties.isEmpty := by
  cases properties with
  | nil => rfl
  | cons property rest => rfl

end Schema

/-! ## Types -/

namespace Lowering

open Schema

variable {resolve : String → LowerM String}

mutual

/-- The step that gives the type of a schema is the one that gives the type of the bare schema. -/
theorem typeOf_bare : (schema : Schema) → typeOf resolve schema.bare = typeOf resolve schema
  | ⟨kind, info⟩ => by
    have hnullable : (do
        let base ← typeOfKind resolve info.format (bareKind kind)
        if info.nullable then return makeNullable (← LowerM.options) base else return base) = (do
        let base ← typeOfKind resolve info.format kind
        if info.nullable then return makeNullable (← LowerM.options) base else return base) := by
      rw [typeOfKind_bare]
    cases kind with
    | ref target => rfl
    | _ => exact hnullable

theorem typeOfKind_bare (format : Option String) : (kind : SchemaKind Schema) →
    typeOfKind resolve format (bareKind kind) = typeOfKind resolve format kind
  | .any => rfl
  | .ref target => rfl
  | .oneOf members => by
    rw [bareKind, typeOfKind, typeOfKind, isEmpty_bareMembers, typesOfMembers_bare]
  | .anyOf members => by
    rw [bareKind, typeOfKind, typeOfKind, isEmpty_bareMembers, typesOfMembers_bare]
  | .allOf members => by
    rw [bareKind, typeOfKind, typeOfKind, isEmpty_bareMembers, typesOfMembers_bare]
  | .array items => by rw [bareKind, typeOfKind, typeOfKind, typeOf_bare]
  | .object ⟨properties, required, additional⟩ => by
    rw [bareKind, typeOfKind, typeOfKind, isEmpty_bareProperties, indexValue_bare, signaturesOf_bare]
  | .enum shape => rfl
  | .primitive type => rfl

theorem typesOfMembers_bare (index : Nat) : (members : List Schema) →
    typesOfMembers resolve index (bareMembers members) = typesOfMembers resolve index members
  | [] => rfl
  | member :: rest => by
    rw [bareMembers, typesOfMembers, typesOfMembers, typeOf_bare, typesOfMembers_bare]

theorem signaturesOf_bare (required : List String) : (properties : List (String × Schema)) →
    signaturesOf resolve required (bareProperties properties) = signaturesOf resolve required properties
  | [] => rfl
  | (name, schema) :: rest => by
    rw [bareProperties, signaturesOf, signaturesOf, typeOf_bare, signaturesOf_bare, info_bare]
    rfl

theorem indexValue_bare (propertyless : Bool) : (additional : Additional Schema) →
    indexValue resolve propertyless (bareAdditional additional) =
      indexValue resolve propertyless additional
  | .unspecified => rfl
  | .opened => rfl
  | .closed => rfl
  | .schema value => by rw [bareAdditional, indexValue, indexValue, typeOf_bare]

end

end Lowering

/-! ## Descriptions -/

/-- The descriptor with the metadata of a schema. -/
def Typing.TypeDescriptor.annotated (descriptor : TypeDescriptor) (info : SchemaInfo) : TypeDescriptor :=
  { descriptor with
    description := info.description
    example? := info.example?
    constraints := someConstraints info.constraints }

namespace Lowering

/-- A schema is described as the bare schema is, and its metadata is added to that. -/
theorem describe_eq (schema : Schema) :
    describe schema = (·.annotated schema.info) <$> describe schema.bare := by
  have hstep : typeExpression schema.bare = typeExpression schema := typeOf_bare schema
  obtain ⟨kind, info⟩ := schema
  simp only [describe, hstep, map_bind, map_pure]
  cases kind <;> rfl

end Lowering

namespace Context

/-- Two schemas that differ in metadata only, at whatever depth, have the same type or the same failure, from
every context, and leave the same context: what is recorded, declared, warned of, depended on and taken as a
name. Their descriptors differ in nothing but the metadata that they pass on. -/
theorem types_ignore_metadata (context : Context) {schema schema' : Schema}
    (h : schema.bare = schema'.bare) :
    (context.run (describe schema')).2 = (context.run (describe schema)).2 ∧
    (context.run (describe schema')).1.map (·.typeName) =
      (context.run (describe schema)).1.map (·.typeName) ∧
    (context.run (describe schema')).1 =
      (context.run (describe schema)).1.map (·.annotated schema'.info) := by
  rw [run_eq, run_eq, describe_eq schema, describe_eq schema', h, runWith_map, runWith_map]
  rcases ((describe schema'.bare).runWith context.setting context.store).1 with _ | _ <;> exact ⟨rfl, rfl, rfl⟩

/-- A user with an identifier and friends, without metadata. -/
def plainUser : Schema where
  kind := .object {
    properties := [
      ("id", { kind := .primitive .string, info := { nullable := true, format := some "date" } }),
      ("friends", { kind := .array { kind := .ref "#/$defs/User" } })]
    required := ["id"] }

/-- The same user with metadata on every level. -/
def documentedUser : Schema where
  kind := .object {
    properties := [
      ("id", {
        kind := .primitive .string
        info := {
          nullable := true, format := some "date", description := some "Since when", deprecated := true
          constraints := { minLength := some 8, format := some "date" } } }),
      ("friends", {
        kind := .array {
          kind := .ref "#/$defs/User", info := { title := some "Friend", example? := some .null } }
        info := { default? := some (.arr []) } })]
    required := ["id"] }
  info := { description := some "A user", discriminator := some { propertyName := "id" } }

/-- The two are described alike, by a reference that leads back. -/
theorem types_ignore_metadata_of_user : ∃ document,
    Document.ofJson (.obj [("$defs", .obj [("User", .obj [("items", .obj [("$ref",
      .str "#/$defs/User")])])])]) = .ok document ∧
    plainUser.bare = documentedUser.bare ∧
    ((fresh document {}).run (describe documentedUser)).1.map (·.typeName) =
      .ok "\x7b id: string | null; friends?: User[] \x7d" ∧
    ((fresh document {}).run (describe documentedUser)).2 =
      ((fresh document {}).run (describe plainUser)).2 := by
  have hrun : ((Document.ofJson (.obj [("$defs", .obj [("User", .obj [("items", .obj [("$ref",
      .str "#/$defs/User")])])])])).toOption.any fun document =>
        ((fresh document {}).run (describe plainUser)).1.toOption.any fun descriptor =>
          descriptor.typeName == "\x7b id: string | null; friends?: User[] \x7d") = true := by
    decide +kernel
  obtain ⟨document, hdocument, hrun⟩ := Decode.exists_ok_of_any hrun
  obtain ⟨descriptor, hdescriptor, hname⟩ := Decode.exists_ok_of_any hrun
  have hbare : plainUser.bare = documentedUser.bare := rfl
  obtain ⟨hcontext, htype, -⟩ := types_ignore_metadata (fresh document {}) hbare
  refine ⟨document, hdocument, hbare, ?_, hcontext⟩
  rw [htype, hdescriptor]
  exact congrArg Except.ok (beq_iff_eq.mp hname)

end Context

end SchemaTypings
