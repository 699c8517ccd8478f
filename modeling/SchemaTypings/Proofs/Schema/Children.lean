import SchemaTypings.Schema.Basic

/-!
# The schemas within a schema

`Schema.children` are the schemas right below a schema: members, items, properties, and what holds for
other properties. They are smaller, which gives induction over all schemas at once
(`Schema.inductionOn`) in place of one induction for each kind of list. `Schema.Contains` is any
number of steps down, and `Schema.Mentions` that a reference stands somewhere within, the targets of
references not counted.
-/

namespace SchemaTypings

/-- The schema for the properties beyond the declared ones, if there is one. -/
def Additional.schemas {α : Type} : Additional α → List α
  | .schema value => [value]
  | _ => []

/-- The schemas of an object: those of its properties, and that of the others. -/
def ObjectShape.schemas {α : Type} (shape : ObjectShape α) : List α :=
  shape.properties.map (·.2) ++ shape.additional.schemas

namespace Schema

/-- The schemas right below a kind. -/
def childrenOfKind : SchemaKind Schema → List Schema
  | .oneOf members | .anyOf members | .allOf members => members
  | .array items => [items]
  | .object shape => shape.schemas
  | _ => []

/-- The schemas right below a schema. -/
def children (schema : Schema) : List Schema :=
  childrenOfKind schema.kind

theorem sizeOf_lt_of_mem_children {schema child : Schema} (h : child ∈ schema.children) :
    sizeOf child < sizeOf schema := by
  obtain ⟨kind, info⟩ := schema
  cases kind with
  | oneOf members | anyOf members | allOf members =>
    have hlt : sizeOf child < sizeOf members := List.sizeOf_lt_of_mem h
    simp
    omega
  | array items =>
    obtain rfl : child = items := by simpa [children, childrenOfKind] using h
    simp
    omega
  | object shape =>
    obtain ⟨properties, required, additional⟩ := shape
    simp only [children, childrenOfKind, ObjectShape.schemas, List.mem_append, List.mem_map] at h
    rcases h with ⟨⟨name, value⟩, hmem, rfl⟩ | h
    · have hlt := List.sizeOf_lt_of_mem hmem
      simp at hlt ⊢
      omega
    · cases additional <;> simp [Additional.schemas] at h
      subst h
      simp
      omega
  | _ => simp [children, childrenOfKind] at h

/-- What holds of a schema whenever it holds of those right below it holds of every schema. -/
@[elab_as_elim]
theorem inductionOn {motive : Schema → Prop} (schema : Schema)
    (step : ∀ schema, (∀ child ∈ schema.children, motive child) → motive schema) : motive schema :=
  step schema fun child h =>
    have := sizeOf_lt_of_mem_children h
    inductionOn child step
termination_by schema

/-- `schema.Contains other`: the other schema is the schema or stands somewhere below it. -/
inductive Contains : Schema → Schema → Prop
  | refl (schema : Schema) : Contains schema schema
  | step {schema child other : Schema} (hchild : child ∈ schema.children)
      (h : Contains child other) : Contains schema other

theorem contains_iff {schema other : Schema} :
    schema.Contains other ↔ other = schema ∨ ∃ child ∈ schema.children, child.Contains other := by
  constructor
  · rintro (_ | ⟨hchild, h⟩)
    · exact Or.inl rfl
    · exact Or.inr ⟨_, hchild, h⟩
  · rintro (rfl | ⟨child, hchild, h⟩)
    · exact .refl _
    · exact .step hchild h

/-- `schema.Mentions reference`: the reference stands somewhere in the schema. -/
def Mentions (schema : Schema) (reference : String) : Prop :=
  ∃ other, schema.Contains other ∧ other.kind = .ref reference

theorem mentions_iff {schema : Schema} {reference : String} :
    schema.Mentions reference ↔
      schema.kind = .ref reference ∨ ∃ child ∈ schema.children, child.Mentions reference := by
  constructor
  · rintro ⟨other, h, hkind⟩
    rcases contains_iff.mp h with rfl | ⟨child, hchild, hbelow⟩
    · exact Or.inl hkind
    · exact Or.inr ⟨child, hchild, other, hbelow, hkind⟩
  · rintro (hkind | ⟨child, hchild, other, hbelow, hkind⟩)
    · exact ⟨schema, .refl _, hkind⟩
    · exact ⟨other, .step hchild hbelow, hkind⟩

theorem Mentions.of_child {schema child : Schema} {reference : String}
    (hchild : child ∈ schema.children) (h : child.Mentions reference) :
    schema.Mentions reference :=
  mentions_iff.mpr (Or.inr ⟨child, hchild, h⟩)

end Schema

end SchemaTypings
