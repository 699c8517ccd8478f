import SchemaTypings.Options.Basic
import SchemaTypings.Proofs.Schema.Children

/-!
# What the type of a schema asks for

The type expression of a schema asks that references are followed, and it is refused where compositions
are nested too deep or something is empty that must not be. `Schema.demands` lists both, for a schema
that stands below `depth` compositions. What follows the first refusal is listed as well, so that the
references among the demands are all those in the schema (`follow_mem_demands`), and a refusal is among
them if the nesting is too deep or something forbidden stands in the schema (`refuse_mem_demands`).
-/

namespace SchemaTypings

/-- What a step of lowering asks for: that a reference is followed, or what cannot be had. -/
inductive Demand where
  | follow (reference : String)
  | refuse
  deriving DecidableEq, Repr

/-- What a policy asks for where something is empty. -/
def DegeneratePolicy.demands : DegeneratePolicy → List Demand
  | .error => [.refuse]
  | .never => []

/-- What going one level further down than `depth` asks for. -/
def Options.levelDemands (options : Options) (depth : Nat) : List Demand :=
  if depth + 1 > options.maxDepth then [.refuse] else []

namespace Schema

variable {options : Options} {depth : Nat} {schema : Schema}

/-- How many levels of composition the schema opens: one if it is a composite with members. -/
def levels (schema : Schema) : Nat :=
  match schema.kind with
  | .oneOf (_ :: _) | .anyOf (_ :: _) | .allOf (_ :: _) => 1
  | _ => 0

/-- What the schema asks for as an empty enumeration or union. -/
def emptinessDemands (options : Options) (schema : Schema) : List Demand :=
  match schema.kind with
  | .oneOf [] | .anyOf [] => options.unions.emptyUnion.demands
  | .enum shape => if shape.values.isEmpty then options.enums.emptyEnum.demands else []
  | _ => []

/-- What the schema asks for as a reference. -/
def referenceDemands (schema : Schema) : List Demand :=
  match schema.kind with
  | .ref target => [.follow target]
  | _ => []

/-- What the schema asks for beside what stands in it. -/
def ownDemands (options : Options) (depth : Nat) (schema : Schema) : List Demand :=
  schema.referenceDemands ++ schema.emptinessDemands options
    ++ if schema.levels = 0 then [] else options.levelDemands depth

/-- What the type of a schema asks for below `depth` levels of composition. -/
def demands (options : Options) (depth : Nat) (schema : Schema) : List Demand :=
  schema.ownDemands options depth ++ schema.children.attach.flatMap fun ⟨child, _⟩ =>
    child.demands options (depth + schema.levels)
termination_by schema
decreasing_by exact sizeOf_lt_of_mem_children ‹_›

/-- The most levels of composition on a way down the schema. -/
def nesting (schema : Schema) : Nat :=
  schema.levels + (schema.children.attach.map fun ⟨child, _⟩ => child.nesting).foldr max 0
termination_by schema
decreasing_by exact sizeOf_lt_of_mem_children ‹_›

theorem mem_demands {demand : Demand} :
    demand ∈ schema.demands options depth ↔ demand ∈ schema.ownDemands options depth ∨
      ∃ child ∈ schema.children, demand ∈ child.demands options (depth + schema.levels) := by
  rw [demands]
  simp

theorem demands_eq_of_levels (h : schema.levels = 0) :
    schema.demands options depth = schema.referenceDemands ++ schema.emptinessDemands options
      ++ schema.children.flatMap (·.demands options depth) := by
  rw [demands]
  simp [ownDemands, h, List.flatMap_subtype]

variable {info : SchemaInfo}

theorem demands_any : demands options depth ⟨.any, info⟩ = [] := by
  rw [demands_eq_of_levels rfl]
  rfl

theorem demands_ref {target : String} :
    demands options depth ⟨.ref target, info⟩ = [.follow target] := by
  rw [demands_eq_of_levels rfl]
  rfl

theorem demands_oneOf_nil :
    demands options depth ⟨.oneOf [], info⟩ = options.unions.emptyUnion.demands := by
  rw [demands_eq_of_levels rfl]
  simp [referenceDemands, emptinessDemands, children, childrenOfKind]

theorem demands_anyOf_nil :
    demands options depth ⟨.anyOf [], info⟩ = options.unions.emptyUnion.demands := by
  rw [demands_eq_of_levels rfl]
  simp [referenceDemands, emptinessDemands, children, childrenOfKind]

theorem demands_allOf_nil : demands options depth ⟨.allOf [], info⟩ = [] := by
  rw [demands_eq_of_levels rfl]
  rfl

theorem demands_array {items : Schema} :
    demands options depth ⟨.array items, info⟩ = items.demands options depth := by
  rw [demands_eq_of_levels rfl]
  simp [referenceDemands, emptinessDemands, children, childrenOfKind]

theorem demands_object {shape : ObjectShape Schema} :
    demands options depth ⟨.object shape, info⟩ =
      shape.properties.flatMap (·.2.demands options depth) ++
        shape.additional.schemas.flatMap (·.demands options depth) := by
  rw [demands_eq_of_levels rfl]
  simp [referenceDemands, emptinessDemands, children, childrenOfKind, ObjectShape.schemas,
    List.flatMap_map]

theorem demands_enum {shape : EnumShape} :
    demands options depth ⟨.enum shape, info⟩ =
      if shape.values.isEmpty then options.enums.emptyEnum.demands else [] := by
  rw [demands_eq_of_levels rfl]
  simp [referenceDemands, emptinessDemands, children, childrenOfKind]

theorem demands_primitive {type : Primitive} :
    demands options depth ⟨.primitive type, info⟩ = [] := by
  rw [demands_eq_of_levels rfl]
  rfl

/-- A composite with members asks for what each member asks for, one level further down. -/
theorem mem_demands_of_levels (h : schema.levels ≠ 0) {demand : Demand} :
    demand ∈ schema.demands options depth ↔ demand ∈ schema.children.flatMap fun member =>
      options.levelDemands depth ++ member.demands options (depth + 1) := by
  obtain ⟨kind, info⟩ := schema
  rw [mem_demands]
  cases kind with
  | oneOf members | anyOf members | allOf members =>
    cases members with
    | nil => simp [levels] at h
    | cons member rest =>
      simp [ownDemands, referenceDemands, emptinessDemands, levels, children, childrenOfKind]
      constructor
      · rintro (h | h | ⟨other, hother, h⟩)
        · exact Or.inl h
        · exact Or.inr (Or.inl h)
        · exact Or.inr (Or.inr ⟨other, hother, Or.inr h⟩)
      · rintro (h | h | ⟨other, hother, h | h⟩)
        · exact Or.inl h
        · exact Or.inr (Or.inl h)
        · exact Or.inl h
        · exact Or.inr (Or.inr ⟨other, hother, h⟩)
  | _ => simp [levels] at h

/-! ## References -/

theorem follow_not_mem_emptinessDemands {reference : String} :
    .follow reference ∉ schema.emptinessDemands options := by
  unfold emptinessDemands
  split <;> (try split) <;> simp [DegeneratePolicy.demands] <;> split <;> simp

theorem follow_mem_ownDemands {reference : String} :
    .follow reference ∈ schema.ownDemands options depth ↔ schema.kind = .ref reference := by
  have hlevel : .follow reference ∉ options.levelDemands depth := by
    unfold Options.levelDemands
    split <;> simp
  have hreference : .follow reference ∈ schema.referenceDemands ↔
      schema.kind = .ref reference := by
    unfold referenceDemands
    split
    · rename_i target hkind
      simp [hkind, eq_comm]
    · rename_i hkind
      simpa using hkind reference
  simp only [ownDemands, List.mem_append, hreference, follow_not_mem_emptinessDemands, or_false]
  refine ⟨fun h => h.resolve_right ?_, Or.inl⟩
  split <;> simp [hlevel]

theorem follow_mem_demands {reference : String} :
    .follow reference ∈ schema.demands options depth ↔ schema.Mentions reference := by
  induction schema using inductionOn generalizing depth with
  | step schema ih =>
    rw [mem_demands, mentions_iff, follow_mem_ownDemands]
    refine or_congr_right ⟨?_, ?_⟩
    · rintro ⟨child, hchild, h⟩
      exact ⟨child, hchild, (ih child hchild).mp h⟩
    · rintro ⟨child, hchild, h⟩
      exact ⟨child, hchild, (ih child hchild).mpr h⟩

/-! ## Refusals -/

theorem refuse_mem_levelDemands :
    .refuse ∈ options.levelDemands depth ↔ options.maxDepth < depth + 1 := by
  unfold Options.levelDemands
  split <;> simp_all

theorem refuse_mem_ownDemands :
    .refuse ∈ schema.ownDemands options depth ↔ .refuse ∈ schema.emptinessDemands options ∨
      (schema.levels ≠ 0 ∧ options.maxDepth < depth + 1) := by
  have hreference : .refuse ∉ schema.referenceDemands := by
    unfold referenceDemands
    split <;> simp
  simp only [ownDemands, List.mem_append, hreference, false_or]
  refine or_congr_right ?_
  split <;> simp_all [refuse_mem_levelDemands]

theorem levels_le_one (schema : Schema) : schema.levels ≤ 1 := by
  unfold levels
  split <;> omega

theorem nesting_eq (schema : Schema) :
    schema.nesting = schema.levels + (schema.children.map nesting).foldr max 0 := by
  rw [nesting]
  simp

theorem lt_nesting_iff {bound : Nat} :
    bound < schema.nesting ↔ bound < schema.levels ∨
      ∃ child ∈ schema.children, bound < schema.levels + child.nesting := by
  have hmax : ∀ (children : List Schema) (offset : Nat),
      bound < offset + (children.map nesting).foldr max 0 ↔
        bound < offset ∨ ∃ child ∈ children, bound < offset + child.nesting := by
    intro children offset
    induction children with
    | nil => simp
    | cons child rest ih =>
      simp only [List.map_cons, List.foldr_cons, List.mem_cons, exists_eq_or_imp]
      rw [show bound < offset + max child.nesting ((rest.map nesting).foldr max 0) ↔
        bound < offset + child.nesting ∨ bound < offset + (rest.map nesting).foldr max 0 by omega, ih]
      exact or_left_comm
  rw [nesting_eq, hmax]

/-- The type of a schema is refused if compositions are nested too deep in it, or an empty enumeration
or union stands in it that is forbidden. -/
theorem refuse_mem_demands :
    .refuse ∈ schema.demands options depth ↔ options.maxDepth - depth < schema.nesting ∨
      ∃ other, schema.Contains other ∧ .refuse ∈ other.emptinessDemands options := by
  induction schema using inductionOn generalizing depth with
  | step schema ih =>
    have hlevels := schema.levels_le_one
    rw [mem_demands, refuse_mem_ownDemands, lt_nesting_iff]
    constructor
    · rintro ((h | h) | ⟨child, hchild, h⟩)
      · exact Or.inr ⟨schema, .refl _, h⟩
      · exact Or.inl (Or.inl (by omega))
      · rcases (ih child hchild).mp h with h | ⟨other, hother, h⟩
        · exact Or.inl (Or.inr ⟨child, hchild, by omega⟩)
        · exact Or.inr ⟨other, .step hchild hother, h⟩
    · rintro ((h | ⟨child, hchild, h⟩) | ⟨other, hother, h⟩)
      · exact Or.inl (Or.inr (by omega))
      · by_cases hown : options.maxDepth - depth < schema.levels
        · exact Or.inl (Or.inr (by omega))
        · exact Or.inr ⟨child, hchild, (ih child hchild).mpr (Or.inl (by omega))⟩
      · rcases contains_iff.mp hother with rfl | ⟨child, hchild, hbelow⟩
        · exact Or.inl (Or.inl h)
        · exact Or.inr ⟨child, hchild, (ih child hchild).mpr (Or.inr ⟨other, hbelow, h⟩)⟩

end Schema

end SchemaTypings
