import SchemaTypings.Proofs.Lowering.ComposedNesting
import SchemaTypings.Proofs.Lowering.Success
import SchemaTypings.Proofs.Report.Dependencies

/-!
# Naming a schema

A named schema is declared by other operations than those that give the type of a reference to it. Where
references back are marked, it can be declared exactly if the reference has a type and, where the schema
is composed, the levels that composing opens are not too many (`NamedSchema.lowers_iff_referenced`). A
schema that is not composed can be declared exactly if a reference to it has a type.
-/

namespace SchemaTypings

open LowerM Lowering

variable {raw : Json} {document : Document} {options : Options} {entry : NamedSchema}

namespace NamedSchema

/-- A named schema succeeds alone if it is sound to refer to it, and nothing is refused where it is
declared. -/
theorem granted_alone_iff (hpointers : (document.named.map (·.pointer)).Nodup)
    (hentry : entry ∈ document.named) : entry.Granted document options (fun _ => False) ↔
      document.Sound options entry.pointer ∧ .refuse ∉ entry.demands document options := by
  constructor
  · exact fun h => ⟨h.sound_alone hpointers hentry, fun hrefuse => h _ hrefuse⟩
  · rintro ⟨hsound, hrefuse⟩ demand hdemand
    cases demand with
    | refuse => exact absurd hdemand hrefuse
    | follow reference =>
      intro last hlast
      have hfollowed := leads_of_mem_demands hpointers hentry hdemand
      exact hsound last (hfollowed.trans (hlast.mono fun _ => False.elim))

/-- Where references back are marked, declaring a schema is refused where its type is, or if composing it
opens too many levels. -/
theorem refuse_mem_demands_iff (hmarker : options.composition.circularRefs = .marker) :
    .refuse ∈ entry.demands document options ↔ .refuse ∈ entry.schema.demands options 0 ∨
      (Operation.select entry.schema = .compose ∧
        options.maxDepth < entry.schema.composedNesting options) := by
  have hasked : .refuse ∈ entry.schema.demands options 0 → .refuse ∈ entry.demands document options :=
    (Refines.declare entry.schema).refuse
  unfold demands declareDemands at hasked ⊢
  cases hselect : Operation.select entry.schema with
  | compose =>
    simp only [hselect, refuse_mem_composeDemands hmarker, Nat.sub_zero] at hasked ⊢
    constructor
    · rintro (hnesting | hempty)
      · exact Or.inr ⟨trivial, hnesting⟩
      · exact Or.inl (Schema.refuse_mem_demands_iff.mpr (Or.inr hempty))
    · rintro (hrefuse | ⟨-, hnesting⟩)
      · exact hasked hrefuse
      · exact Or.inl hnesting
  | union =>
    obtain ⟨members, hkind⟩ := Operation.kind_of_select_union hselect
    simp [refuse_mem_unionDemands hkind, Schema.refuse_mem_demands_iff]
  | _ => simp

/-- Where references back are marked, a named schema lowers in a fresh context exactly if the type of a
reference to it can be had in a fresh context, and, if it is composed, the levels that composing opens are
no more than the options allow. -/
theorem lowers_iff_referenced (h : Document.ofJson raw = .ok document)
    (hkeys : Document.KeysDistinct raw) (hmarker : options.composition.circularRefs = .marker)
    (hentry : entry ∈ document.named) (info : SchemaInfo) :
    (∃ declarations, (Context.run (lowerNamed entry) (.fresh document options)).1 = .ok declarations) ↔
      (∃ descriptor, (Context.run (describe ⟨.ref entry.pointer, info⟩)
        (.fresh document options)).1 = .ok descriptor) ∧
      (Operation.select entry.schema = .compose →
        entry.schema.composedNesting options ≤ options.maxDepth) := by
  have hlocal := Document.local_of_ofJson h
  have hpointers := Document.pointers_nodup h hkeys
  have hnamed : (∃ declarations,
      (Context.run (lowerNamed entry) (.fresh document options)).1 = .ok declarations) ↔
        document.Sound options entry.pointer ∧ .refuse ∉ entry.demands document options := by
    rw [← granted_alone_iff hpointers hentry, ← isOk_alone_iff hlocal, isOk_outcome_iff hlocal,
      ← succeeds_iff hlocal, Context.run_eq]
    rfl
  have hreferenced : (∃ descriptor, (Context.run (describe ⟨.ref entry.pointer, info⟩)
      (.fresh document options)).1 = .ok descriptor) ↔ document.Sound options entry.pointer := by
    rw [Document.describe_succeeds_iff h, Document.typable_iff_grants, Schema.demands_ref]
    simp [Document.Sound]
  rw [hnamed, hreferenced, refuse_mem_demands_iff hmarker]
  refine and_congr_right fun hsound => ?_
  obtain ⟨schema, hschema, hfine⟩ :=
    Document.not_obstacle_iff.mp (hsound entry.pointer (.refl id))
  obtain rfl := Option.some.inj (hschema.symm.trans (Document.resolve?_pointer hpointers hentry))
  simp only [hfine, false_or, not_and, Nat.not_lt]

/-- A schema with a property that is a union. -/
def unionProperty : Json :=
  .obj [("$defs", .obj [("Box", .obj [("properties", .obj [("label",
    .obj [("oneOf", .arr [.obj [("type", .str "string")]])])])])])]

/-- With two levels the schema is declared. So a reference to it has a type, and composing it opens no more
than two. -/
theorem lowers_of_unionProperty : ∃ document, Document.ofJson unionProperty = .ok document ∧
    Document.KeysDistinct unionProperty ∧ ∃ entry ∈ document.named,
      (∃ descriptor, (Context.run (describe ⟨.ref entry.pointer, {}⟩)
        (.fresh document { maxDepth := 2 })).1 = .ok descriptor) ∧
      entry.schema.composedNesting { maxDepth := 2 } ≤ 2 := by
  have hrun : ((Document.ofJson unionProperty).toOption.any fun document =>
      document.named.head?.any fun entry => decide (Operation.select entry.schema = .compose) &&
        (Context.run (lowerNamed entry) (.fresh document { maxDepth := 2 })).1.toOption.any
          fun _ => true) = true := by decide +kernel
  have hkeys : Document.KeysDistinct unionProperty := by decide +kernel
  obtain ⟨document, hdocument, hrun⟩ := Decode.exists_ok_of_any hrun
  obtain ⟨entry, hhead, hentry⟩ := (Option.any_eq_true _ _).mp hrun
  rw [Bool.and_eq_true] at hentry
  obtain ⟨hselect, hlowers⟩ := hentry
  obtain ⟨declarations, hlowered, -⟩ := Decode.exists_ok_of_any hlowers
  have hmem := List.mem_of_head? hhead
  obtain ⟨hreferenced, hnesting⟩ :=
    (lowers_iff_referenced hdocument hkeys rfl hmem {}).mp ⟨declarations, hlowered⟩
  exact ⟨document, hdocument, hkeys, entry, hmem, hreferenced, hnesting (of_decide_eq_true hselect)⟩

/-- With one level a reference to the schema has a type, but the schema is not declared: composing it
opens a level for the property, and the union one for its member. -/
theorem not_lowers_of_unionProperty : ∃ document, Document.ofJson unionProperty = .ok document ∧
    ∃ entry ∈ document.named,
      (∃ descriptor, (Context.run (describe ⟨.ref entry.pointer, {}⟩)
        (.fresh document { maxDepth := 1 })).1 = .ok descriptor) ∧
      ¬∃ declarations, (Context.run (lowerNamed entry)
        (.fresh document { maxDepth := 1 })).1 = .ok declarations := by
  have hrun : ((Document.ofJson unionProperty).toOption.any fun document =>
      document.named.head?.any fun entry =>
        (Context.run (describe ⟨.ref entry.pointer, {}⟩)
          (.fresh document { maxDepth := 1 })).1.toOption.any fun _ =>
            !(Context.run (lowerNamed entry) (.fresh document { maxDepth := 1 })).1.isOk) = true := by
    decide +kernel
  obtain ⟨document, hdocument, hrun⟩ := Decode.exists_ok_of_any hrun
  obtain ⟨entry, hhead, hentry⟩ := (Option.any_eq_true _ _).mp hrun
  obtain ⟨descriptor, hdescribed, hfails⟩ := Decode.exists_ok_of_any hentry
  refine ⟨document, hdocument, entry, List.mem_of_head? hhead, ⟨descriptor, hdescribed⟩, ?_⟩
  rintro ⟨declarations, hlowered⟩
  simp [hlowered, Except.isOk, Except.toBool] at hfails

end NamedSchema

end SchemaTypings
