import Mathlib.Order.MinMax
import SchemaTypings.Proofs.Lowering.Declared

/-!
# How deep a composition goes

Each member of a composite stands one level further down, wherever it is lowered. Composing opens more
levels than that: one for each property that is a composite, and one for the items of an array that are
declared on their own. `Schema.composedNesting` counts all of them. Where references back are marked and
not refused, this count is the only thing that can stand in the way of composing a schema but not of its
type (`refuse_mem_composeDemands`).
-/

namespace SchemaTypings

open Lowering

namespace Schema

mutual

/-- The most levels on a way down a schema that is composed. -/
def composedNesting (options : Options) : Schema → Nat
  | ⟨.oneOf members, info⟩ => nesting ⟨.oneOf members, info⟩
  | ⟨.anyOf members, info⟩ => nesting ⟨.anyOf members, info⟩
  | ⟨.allOf members, _⟩ => membersNesting options members
  | ⟨.object ⟨properties, _, additional⟩, _⟩ =>
    max (propertiesNesting options properties) ((additional.schemas.map nesting).foldr max 0)
  | ⟨.array items, _⟩ =>
    if items.isComposite || !isInline options items then 1 + composedNesting options items
    else nesting items
  | ⟨.any, _⟩ | ⟨.ref _, _⟩ | ⟨.enum _, _⟩ | ⟨.primitive _, _⟩ => 0

/-- The most levels on a way down the members of a schema that is composed. -/
def membersNesting (options : Options) : List Schema → Nat
  | [] => 0
  | member :: rest =>
    max (1 + if !isInline options member then composedNesting options member else nesting member)
      (membersNesting options rest)

/-- The most levels on a way down the properties of a schema that is composed. -/
def propertiesNesting (options : Options) : List (String × Schema) → Nat
  | [] => 0
  | (_, schema) :: rest =>
    max (if schema.isComposite then 1 + composedNesting options schema else nesting schema)
      (propertiesNesting options rest)

end

variable {options : Options} {depth : Nat} {schema : Schema}

/-- Something stands in the schema that is empty and must not be. -/
def HoldsEmpty (options : Options) (schema : Schema) : Prop :=
  ∃ other, schema.Contains other ∧ .refuse ∈ other.emptinessDemands options

theorem holdsEmpty_iff : schema.HoldsEmpty options ↔ .refuse ∈ schema.emptinessDemands options ∨
    ∃ child ∈ schema.children, child.HoldsEmpty options := by
  constructor
  · rintro ⟨other, hother, hempty⟩
    rcases contains_iff.mp hother with rfl | ⟨child, hchild, hbelow⟩
    · exact Or.inl hempty
    · exact Or.inr ⟨child, hchild, other, hbelow, hempty⟩
  · rintro (hempty | ⟨child, hchild, other, hbelow, hempty⟩)
    · exact ⟨schema, .refl _, hempty⟩
    · exact ⟨other, .step hchild hbelow, hempty⟩

theorem refuse_mem_demands_iff : .refuse ∈ schema.demands options depth ↔
    options.maxDepth - depth < schema.nesting ∨ schema.HoldsEmpty options :=
  refuse_mem_demands

theorem refuse_mem_flatMap_demands {schemas : List Schema} :
    .refuse ∈ schemas.flatMap (·.demands options depth) ↔
      options.maxDepth - depth < (schemas.map nesting).foldr max 0 ∨
        ∃ schema ∈ schemas, schema.HoldsEmpty options := by
  induction schemas with
  | nil => simp
  | cons schema rest ih =>
    rw [List.flatMap_cons, List.mem_append, ih, refuse_mem_demands_iff, List.map_cons,
      List.foldr_cons, lt_max_iff, List.exists_mem_cons_iff]
    exact or_or_or_comm

end Schema

namespace Lowering

variable {document : Document} {options : Options} {visited : List String} {depth : Nat}
  {schema : Schema} {demands : List Demand}

/-! ## Unions -/

theorem demands_setProperty {name : String} {value : Json} {properties : List (String × Schema)}
    {demand : Demand} (h : demand ∈ (setProperty name (.constant value) properties).flatMap
      (·.2.demands options depth)) : demand ∈ properties.flatMap (·.2.demands options depth) := by
  have hconstant : (Schema.constant value).demands options depth = [] := Schema.demands_enum
  induction properties with
  | nil => simp [setProperty, hconstant] at h
  | cons property rest ih =>
    obtain ⟨key, old⟩ := property
    rw [List.flatMap_cons, List.mem_append]
    rw [setProperty] at h
    split at h
    · rw [List.flatMap_cons, hconstant, List.nil_append] at h
      exact Or.inr h
    · rw [List.flatMap_cons, List.mem_append] at h
      exact h.imp_right ih

/-- To pin a property is to ask for no more. -/
theorem mem_demands_of_pinned {discriminator : Option ResolvedDiscriminator} {member : Schema × Nat}
    {demand : Demand} (h : demand ∈ (pinnedMember discriminator member).demands options depth) :
    demand ∈ member.1.demands options depth := by
  obtain ⟨⟨kind, info⟩, index⟩ := member
  cases discriminator with
  | none => exact h
  | some found =>
    cases kind with
    | object shape =>
      cases hvalue : (found.values[index]?).join with
      | none => simpa only [pinnedMember, hvalue, Option.map_none, Option.getD_none] using h
      | some value =>
        simp only [pinnedMember, hvalue, Option.map_some, Option.getD_some] at h
        rw [Schema.demands_object, List.mem_append] at h ⊢
        exact h.imp_left demands_setProperty
    | _ => exact h

/-- A union asks for no more than its type. -/
theorem mem_demands_of_union {members : List Schema} {demand : Demand}
    (hkind : schema.kind = .oneOf members ∨ schema.kind = .anyOf members)
    (h : demand ∈ unionDemands document options depth schema) :
    demand ∈ schema.demands options depth := by
  have hmembers : unionMembersOf schema = members := by
    rcases hkind with hkind | hkind <;> simp [unionMembersOf, hkind]
  have hchildren : schema.children = members := by
    rcases hkind with hkind | hkind <;> simp [Schema.children, Schema.childrenOfKind, hkind]
  rw [unionDemands, hmembers] at h
  cases members with
  | nil =>
    obtain ⟨kind, info⟩ := schema
    rcases hkind with rfl | rfl
    · rwa [Schema.demands_oneOf_nil]
    · rwa [Schema.demands_anyOf_nil]
  | cons member rest =>
    have hlevels : schema.levels ≠ 0 := by
      rcases hkind with hkind | hkind <;> simp [Schema.levels, hkind]
    rw [Schema.mem_demands_of_levels hlevels, hchildren]
    obtain ⟨other, hother, h⟩ := List.mem_flatMap.mp h
    refine List.mem_flatMap.mpr ⟨other.1, ?_, ?_⟩
    · exact (List.mem_zipIdx hother).2.2 ▸ List.getElem_mem _
    · rw [List.mem_append] at h ⊢
      exact h.imp_right mem_demands_of_pinned

/-- A union is refused where its type is. -/
theorem refuse_mem_unionDemands {members : List Schema}
    (hkind : schema.kind = .oneOf members ∨ schema.kind = .anyOf members) :
    .refuse ∈ unionDemands document options depth schema ↔
      options.maxDepth - depth < schema.nesting ∨ schema.HoldsEmpty options := by
  rw [← Schema.refuse_mem_demands_iff]
  exact ⟨mem_demands_of_union hkind, (Refines.union hkind).refuse⟩

/-! ## Compositions -/

/-- What stands in the way of a step below one more level, if that is known of the step. -/
theorem refuse_mem_level {levels : Nat} {other : Prop}
    (h : .refuse ∈ demands ↔ options.maxDepth - (depth + 1) < levels ∨ other) :
    .refuse ∈ options.levelDemands depth ++ demands ↔
      options.maxDepth - depth < 1 + levels ∨ other := by
  rw [List.mem_append, Schema.refuse_mem_levelDemands, h, ← or_assoc]
  refine or_congr_left ?_
  omega

variable (hmarker : options.composition.circularRefs = .marker)

include hmarker

/-- What stands in the way of a part, if that is known of the part where it is declared. -/
theorem refuse_mem_partDemands {part : Schema} {isDeclared : Bool} {levels : Nat}
    (hreference : ∀ target, part.kind = .ref target → isDeclared = false)
    (h : .refuse ∈ demands ↔ options.maxDepth - depth < levels ∨ part.HoldsEmpty options) :
    .refuse ∈ partDemands options visited part isDeclared demands (part.demands options depth) ↔
      options.maxDepth - depth < (if isDeclared then levels else part.nesting) ∨
        part.HoldsEmpty options := by
  obtain ⟨kind, info⟩ := part
  cases kind with
  | ref target =>
    obtain rfl := hreference target rfl
    rw [if_neg Bool.false_ne_true, ← Schema.refuse_mem_demands_iff, Schema.demands_ref]
    simp [partDemands, composeReferenceDemands, hmarker]
  | _ =>
    cases isDeclared with
    | true => exact h
    | false => exact Schema.refuse_mem_demands_iff

theorem refuse_mem_composeMembersDemands {members : List Schema}
    (h : ∀ member ∈ members, .refuse ∈ composeDemands document options visited (depth + 1) member ↔
      options.maxDepth - (depth + 1) < member.composedNesting options ∨ member.HoldsEmpty options) :
    .refuse ∈ composeMembersDemands document options visited depth members ↔
      options.maxDepth - depth < Schema.membersNesting options members ∨
        ∃ member ∈ members, member.HoldsEmpty options := by
  induction members with
  | nil => simp [composeMembersDemands, Schema.membersNesting]
  | cons member rest ih =>
    have hreference : ∀ target, member.kind = .ref target → (!isInline options member) = false := by
      intro target hkind
      simp [isInline, Schema.isObject, Schema.isComposite, hkind]
    rw [composeMembersDemands, List.mem_append, ih fun other hother => h other (by simp [hother]),
      refuse_mem_level (refuse_mem_partDemands hmarker hreference (h member (by simp))),
      Schema.membersNesting, lt_max_iff, List.exists_mem_cons_iff]
    exact or_or_or_comm

theorem refuse_mem_composePropertiesDemands {properties : List (String × Schema)}
    (h : ∀ property ∈ properties,
      .refuse ∈ composeDemands document options visited (depth + 1) property.2 ↔
        options.maxDepth - (depth + 1) < property.2.composedNesting options ∨
          property.2.HoldsEmpty options) :
    .refuse ∈ composePropertiesDemands document options visited depth properties ↔
      options.maxDepth - depth < Schema.propertiesNesting options properties ∨
        ∃ property ∈ properties, property.2.HoldsEmpty options := by
  induction properties with
  | nil => simp [composePropertiesDemands, Schema.propertiesNesting]
  | cons property rest ih =>
    obtain ⟨name, schema⟩ := property
    have hreference : ∀ target, schema.kind = .ref target → schema.isComposite = false := by
      intro target hkind
      simp [Schema.isComposite, hkind]
    rw [composePropertiesDemands, List.mem_append, ih fun other hother => h other (by simp [hother]),
      refuse_mem_partDemands hmarker hreference (refuse_mem_level (h (name, schema) (by simp))),
      Schema.propertiesNesting, lt_max_iff, List.exists_mem_cons_iff]
    exact or_or_or_comm

/-- Where references back are marked, composing is refused exactly if levels nest too deep or something
is empty that must not be. -/
theorem refuse_mem_composeDemands : .refuse ∈ composeDemands document options visited depth schema ↔
    options.maxDepth - depth < schema.composedNesting options ∨ schema.HoldsEmpty options := by
  induction schema using composition_induction generalizing depth with
  | @union schema members hkind =>
    have hnesting : schema.composedNesting options = schema.nesting := by
      obtain ⟨kind, info⟩ := schema
      obtain rfl | rfl := hkind <;> rw [Schema.composedNesting]
    rw [composeDemands_union _ _ _ hkind, hnesting]
    exact refuse_mem_unionDemands hkind
  | intersection info ih =>
    rw [composeDemands_members, Schema.composedNesting, Schema.holdsEmpty_iff,
      refuse_mem_composeMembersDemands hmarker fun member hmember => ih member hmember]
    simp [Schema.emptinessDemands, Schema.children, Schema.childrenOfKind]
  | @object shape info ih =>
    obtain ⟨properties, required, additional⟩ := shape
    rw [composeDemands_properties, List.mem_append,
      refuse_mem_composePropertiesDemands hmarker fun property hproperty => ih property hproperty,
      Schema.refuse_mem_flatMap_demands, Schema.composedNesting, Schema.holdsEmpty_iff, lt_max_iff]
    simp only [Schema.emptinessDemands, Schema.children, Schema.childrenOfKind, ObjectShape.schemas,
      List.not_mem_nil, false_or, List.mem_append, List.mem_map, or_and_right, exists_or,
      exists_exists_and_eq_and]
    exact or_or_or_comm
  | @array items info ih =>
    have hreference : ∀ target, items.kind = .ref target →
        (items.isComposite || !isInline options items) = false := by
      intro target hkind
      simp [isInline, Schema.isObject, Schema.isComposite, hkind]
    rw [Schema.composedNesting, Schema.holdsEmpty_iff]
    refine (refuse_mem_partDemands hmarker hreference (refuse_mem_level ih)).trans ?_
    simp [Schema.emptinessDemands, Schema.children, Schema.childrenOfKind]
  | reference target info =>
    have hnone : .refuse ∉ composeReferenceDemands options visited target := by
      simp [composeReferenceDemands, hmarker]
    rw [Schema.composedNesting, Schema.holdsEmpty_iff]
    simp [Schema.emptinessDemands, Schema.children, Schema.childrenOfKind]
    exact hnone
  | _ =>
    rw [Schema.composedNesting]
    refine Schema.refuse_mem_demands_iff.trans ?_
    rw [Schema.nesting_eq]
    rfl

end Lowering

end SchemaTypings
