import SchemaTypings.Proofs.Document.Traces
import SchemaTypings.Proofs.Json.Wellformed

/-!
# Listed values stand in the document

A schema that was read from a value lists no values but parts of that value, and one that is reached within a
document no values but parts of the document or of the schema that the references begin in
(`Schema.lists_of_ofJson`, `Schema.lists_of_resolveDeep?`). So what is listed is well formed if they are.
-/

namespace SchemaTypings

open Decode (map_eq_ok bind_eq_ok within_eq_ok)

/-! ## Values of schemas -/

/-- The kind is an enumeration with the value. -/
def SchemaKind.Lists (value : Json) (kind : SchemaKind Schema) : Prop :=
  ∃ shape, kind = .enum shape ∧ value ∈ shape.values

/-- The value is listed somewhere in the schema. -/
def Schema.Lists (schema : Schema) (value : Json) : Prop :=
  schema.Has (SchemaKind.Lists value)

namespace Keywords

/-- The value is one of an enumeration, or the constant. -/
def Lists (value : Json) (keywords : Keywords Schema) : Prop :=
  value ∈ keywords.values.getD [] ∨ keywords.constant = some value

theorem lists_of_kind {keywords : Keywords Schema} {value : Json} (h : keywords.kind.Lists value) :
    keywords.Lists value := by
  obtain ⟨shape, hkind, hvalue⟩ := h
  have hlisted : ∃ values, keywords.listed = some values ∧ value ∈ values := by
    unfold kind at hkind
    split at hkind
    · cases hkind
    · cases hkind
    · cases hkind
    · cases hkind
    · split at hkind
      · cases hkind
      · split at hkind
        · cases hkind
        · split at hkind
          · rename_i values hvalues
            cases hkind
            exact ⟨values, hvalues, hvalue⟩
          · unfold kindByTypes at hkind
            split at hkind <;> cases hkind
  obtain ⟨values, hvalues, hvalue⟩ := hlisted
  unfold listed at hvalues
  cases hfound : keywords.values with
  | some found =>
    rw [hfound] at hvalues
    obtain rfl := Option.some.inj hvalues
    exact Or.inl (by rwa [hfound])
  | none =>
    rw [hfound] at hvalues
    obtain ⟨constant, hconstant, rfl⟩ := Option.map_eq_some_iff.mp hvalues
    exact Or.inr (by rw [hconstant, List.mem_singleton.mp hvalue])

theorem readList_ok {index : Nat} {items values : List Json}
    (h : Decode.readList .ok index items = .ok values) : values = items := by
  induction items generalizing index values with
  | nil =>
    cases h
    rfl
  | cons item rest ih =>
    obtain ⟨first, hfirst, hrest⟩ := bind_eq_ok.mp h
    obtain ⟨others, hothers, h⟩ := bind_eq_ok.mp hrest
    cases h
    cases within_eq_ok.mp hfirst
    rw [ih hothers]

theorem lists_of_values {keywords keywords' : Keywords Schema} {value part : Json}
    (h : (Decode.optional (Decode.asList .ok) value).map (fun found => { keywords with values := found }) =
      .ok keywords') (hlists : keywords'.Lists part) : keywords.Lists part ∨ value.Holds part := by
  obtain ⟨found, hfound, rfl⟩ := map_eq_ok.mp h
  refine hlists.elim (fun hpart => Or.inr ?_) fun hconstant => Or.inl (Or.inr hconstant)
  cases value with
  | null =>
    cases hfound
    cases hpart
  | arr items =>
    obtain ⟨values, hvalues, rfl⟩ := map_eq_ok.mp hfound
    obtain rfl := readList_ok hvalues
    exact .item hpart (.refl part)
  | _ => cases hfound

theorem lists_of_constant {keywords : Keywords Schema} {value part : Json}
    (hlists : { keywords with constant := present value : Keywords Schema }.Lists part) :
    keywords.Lists part ∨ value.Holds part := by
  refine hlists.imp Or.inl fun hconstant => ?_
  cases value with
  | null => cases hconstant
  | _ =>
    obtain rfl := Option.some.inj hconstant
    exact .refl _

/-- The listed values that a keyword adds stand in its value. -/
theorem lists_of_setPlain {keywords keywords' : Keywords Schema} {name : String} {value part : Json}
    (h : keywords.setPlain name value = .ok keywords') (hlists : keywords'.Lists part) :
    keywords.Lists part ∨ value.Holds part := by
  unfold setPlain at h
  split at h
  all_goals first
    | exact lists_of_values h hlists
    | obtain ⟨_, -, rfl⟩ := map_eq_ok.mp h
      exact Or.inl hlists
    | cases h
      first
        | exact Or.inl hlists
        | exact lists_of_constant hlists

end Keywords

/-- Listed values go from the parts of values to kinds. -/
theorem traced_literal (part : Json) :
    Traced (SchemaKind.Lists part) (Keywords.Lists part) fun value => value.Holds part where
  any := by
    rintro ⟨_, ⟨⟩, -⟩
  primitive := by
    rintro _ ⟨_, ⟨⟩, -⟩
  kind := Keywords.lists_of_kind
  blank := by
    rintro (h | h) <;> cases h
  plain := Keywords.lists_of_setPlain
  properties := fun _ h => Or.inl h
  nested := by
    intro keywords keywords' _ _ hvalues hconstant h
    rwa [Keywords.Lists, hvalues, hconstant] at h
  item := fun _ hitem h => .item hitem h
  member := fun _ hmember h => .member hmember h

namespace Schema

theorem Lists.of_child {schema child : Schema} {value : Json} (hchild : child ∈ schema.children)
    (h : child.Lists value) : schema.Lists value :=
  has_iff.mpr (Or.inr ⟨child, hchild, h⟩)

/-- A schema lists no values but parts of the value it was read from. -/
theorem lists_of_ofJson {value part : Json} {schema : Schema} (h : ofJson value = .ok schema)
    (hlists : schema.Lists part) : value.Holds part :=
  (traced_literal part).of_ofJson h hlists

/-- The schema at the end of a chain of references lists no values but those that are listed where the chain
begins, or stand in the document. -/
theorem lists_of_resolveDeep? {raw part : Json} {document : Document} {schema target : Schema}
    (h : Document.ofJson raw = .ok document) (htarget : document.resolveDeep? schema = some target)
    (hlists : target.Lists part) : schema.Lists part ∨ raw.Holds part :=
  (traced_literal part).of_resolveDeep? h htarget hlists

end Schema

end SchemaTypings
