import SchemaTypings.Schema.Document

/-!
# Chains of references

To follow references until a schema is none is to come to the end of a chain of them, if it has fewer links than
schemas may be looked at (`Document.follow?_eq_some_iff`).
-/

namespace SchemaTypings.Document

variable {document : Document} {schema target : Schema}

/-- A chain of so many references begins with the one schema and ends in the other, which is none. -/
inductive EndsIn (document : Document) : Nat → Schema → Schema → Prop
  | here {schema : Schema} (hkind : ∀ reference, schema.kind ≠ .ref reference) : EndsIn document 0 schema schema
  | next {links : Nat} {schema next target : Schema} {reference : String} (hkind : schema.kind = .ref reference)
      (hnext : document.resolve? reference = some next) (h : EndsIn document links next target) :
      EndsIn document (links + 1) schema target

theorem follow?_eq_some_iff {steps : Nat} :
    document.follow? steps schema = some target ↔ ∃ links < steps, document.EndsIn links schema target := by
  induction steps generalizing schema with
  | zero => simp [follow?]
  | succ steps ih =>
    rw [follow?]
    split
    · rename_i reference hkind
      simp only [Option.bind_eq_some_iff, ih]
      constructor
      · rintro ⟨next, hnext, links, hlinks, h⟩
        exact ⟨links + 1, by omega, .next hkind hnext h⟩
      · rintro ⟨_, hlinks, h⟩
        cases h with
        | here hother => exact absurd hkind (hother reference)
        | @next links _ next _ _ hkind' hnext h =>
          cases hkind.symm.trans hkind'
          exact ⟨next, hnext, links, by omega, h⟩
    · rename_i hkind
      rw [Option.some.injEq]
      constructor
      · rintro rfl
        exact ⟨0, by omega, .here hkind⟩
      · rintro ⟨_, -, h⟩
        cases h with
        | here _ => rfl
        | next hkind' _ _ => exact absurd hkind' (hkind _)

theorem resolveDeep?_eq_some_iff :
    document.resolveDeep? schema = some target ↔ ∃ links < chainLimit, document.EndsIn links schema target :=
  follow?_eq_some_iff

end SchemaTypings.Document
