import SchemaTypings.Proofs.Decode.Success
import SchemaTypings.Proofs.Lowering.Calls

/-!
# Calls only add to a context

Whatever a call is given, and whether it succeeds or fails, it leaves the scope as it was, and the store
is the one before it with something added. The exception is a call that lowers a named schema: if it
fails, it withdraws the type name of that schema. A reference below a named schema withdraws its own name
as well if its target does not lower, but that name was not there before (`Store.Grows.forget`).
-/

namespace SchemaTypings

open LowerM Lowering

/-! ## Growth of a store -/

/-- What the store lists is continued. -/
structure Store.Continues (store after : Store) : Prop where
  dependencies : store.dependencies <+: after.dependencies
  declarations : store.declarations <+: after.declarations
  warnings : store.warnings <+: after.warnings
  usedNames : store.usedNames <+: after.usedNames

/-- The store afterwards has all that it had before: lists are continued, and recorded type names
stay. -/
structure Store.Grows (store after : Store) : Prop extends store.Continues after where
  types : ∀ reference name, store.types.lookup reference = some name →
    after.types.lookup reference = some name

namespace Store.Grows

variable {store between after inner : Store} {reference : String}

theorem refl (store : Store) : store.Grows store where
  dependencies := List.prefix_rfl
  declarations := List.prefix_rfl
  warnings := List.prefix_rfl
  usedNames := List.prefix_rfl
  types _ _ h := h

theorem trans (h : store.Grows between) (hafter : between.Grows after) : store.Grows after where
  dependencies := h.dependencies.trans hafter.dependencies
  declarations := h.declarations.trans hafter.declarations
  warnings := h.warnings.trans hafter.warnings
  usedNames := h.usedNames.trans hafter.usedNames
  types reference name hname := hafter.types reference name (h.types reference name hname)

theorem record (store : Store) (reference name : String) : store.Grows (store.record reference name) :=
  { refl store with
    types := by
      intro other found hfound
      rw [lookup_record]
      split
      · rename_i heq
        subst heq
        rw [hfound, Option.getD_some]
      · exact hfound }

theorem claim (store : Store) (base : String) : store.Grows (store.claim base).2 :=
  { refl store with usedNames := List.prefix_append _ _ }

theorem declare (store : Store) (declaration : Typing.Declaration) :
    store.Grows (store.declare declaration) :=
  { refl store with
    declarations := by
      simp only [Store.declare, Memo.addDeclaration]
      split
      · exact List.prefix_rfl
      · exact List.prefix_append _ _ }

theorem nameBelow (document : Document) (reference : String) (store : Store) :
    store.Grows (store.nameBelow document reference).2 := by
  unfold Store.nameBelow
  split
  · exact refl store
  · exact claim store _

theorem enterBelow (document : Document) (reference : String) (store : Store) :
    store.Grows (store.enterBelow document reference) :=
  (nameBelow document reference store).trans (record _ _ _)

/-- To forget a reference that was not recorded loses nothing. -/
theorem forget (hrecords : ¬store.Records reference) (h : store.Grows inner) :
    store.Grows (inner.forget reference) where
  dependencies := h.dependencies
  declarations := h.declarations
  warnings := h.warnings
  usedNames := h.usedNames
  types := by
    intro other name hname
    have hne : other ≠ reference := by
      rintro rfl
      rw [not_records_iff.mp hrecords] at hname
      cases hname
    rw [lookup_forget, if_neg hne]
    exact h.types other name hname

theorem discipline (document : Document) :
    Discipline document (fun _ _ => True) fun _ => Store.Grows where
  refl _ := refl
  trans := trans
  dependencies _ h := h
  depend _ store name := { refl store with
    dependencies := prefix_foldl_addName store.dependencies [name] }
  enclosed hmerge h := { h with dependencies := hmerge _ _ }
  warned {_ store} _ h := ⟨h, { refl store with warnings := List.prefix_append _ _ }⟩
  claim base h := ⟨h, claim _ base⟩
  visit _ h := h
  named _ _ h hkeeps := ⟨⟨h, hkeeps⟩, h, hkeeps.trans (record _ _ _)⟩
  enterBelow _ _ _ h := h
  leaveBelow _ _ hrecords h _ hkeeps :=
    have hgrows := (enterBelow _ _ _).trans hkeeps
    ⟨⟨h, hgrows.forget hrecords⟩, fun declaration _ => ⟨h, hgrows.trans (declare _ declaration)⟩⟩

end Store.Grows

/-! ## Calls -/

/-- What a call leaves: a store that has grown, or, if it lowers a named schema and fails, one that has
grown and forgotten the schema. -/
def Call.Leaves (call : Call) (store : Store) (isOk : Bool) (after : Store) : Prop :=
  store.Grows after ∨ isOk = false ∧ ∃ pointer inner, call.ownPointer? = some pointer ∧
    store.Grows inner ∧ after = inner.forget pointer

theorem Call.Leaves.continues {call : Call} {store after : Store} {isOk : Bool}
    (h : call.Leaves store isOk after) : store.Continues after := by
  rcases h with hgrows | ⟨-, pointer, inner, -, hgrows, rfl⟩
  · exact hgrows.toContinues
  · exact ⟨hgrows.dependencies, hgrows.declarations, hgrows.warnings, hgrows.usedNames⟩

/-- A type name that was recorded before a call is recorded after it, unless the call withdraws it. -/
theorem Call.Leaves.recorded {call : Call} {store after : Store} {isOk : Bool}
    (h : call.Leaves store isOk after) {reference name : String}
    (hname : store.types.lookup reference = some name) :
    after.types.lookup reference = some name ∨
      isOk = false ∧ call.ownPointer? = some reference := by
  rcases h with hgrows | ⟨hfailed, pointer, inner, hpointer, hgrows, rfl⟩
  · exact Or.inl (hgrows.types reference name hname)
  · by_cases heq : reference = pointer
    · exact Or.inr ⟨hfailed, heq ▸ hpointer⟩
    · rw [Store.lookup_forget, if_neg heq]
      exact Or.inl (hgrows.types reference name hname)

namespace Context

variable {document : Document} {options : Options} {context : Context}

theorem through_call (call : Call) {path visited : List String} {depth : Nat} {store : Store}
    (hdepth : depth ≤ options.maxDepth) :
    call.step.Through (Scope.Safe options fun _ _ => True)
      (.within document options path visited depth) store
      fun result after => call.Leaves store result.isOk after := by
  have hdiscipline := Store.Grows.discipline document
  have hsafe : Scope.Safe options (fun _ _ => True) ⟨path, visited, depth⟩ store := ⟨hdepth, trivial⟩
  cases hcall : call.ownPointer? with
  | none =>
    obtain ⟨demands, hcalls⟩ := Upholds.call hdiscipline options visited depth call hcall
    exact (hcalls path store hsafe).mono fun result after _ hgrows => Or.inl hgrows
  | some pointer =>
    obtain ⟨entry, rfl⟩ := Call.eq_lowerNamed hcall
    refine Upholds.lowerNamed hdiscipline hsafe (fun _ _ h hgrows => ⟨h, hgrows⟩) ?_ ?_
    · intro inner declarations hleaves
      exact ⟨trivial, Or.inl (hleaves.2.trans (.record inner _ _))⟩
    · intro inner error hleaves
      exact ⟨trivial, Or.inr ⟨rfl, _, inner, rfl, hleaves.2, rfl⟩⟩

theorem Arises.depth_le (h : Arises document options context) :
    context.scope.depth ≤ options.maxDepth := by
  induction h with
  | fresh => exact Nat.zero_le _
  | @moment context moment h call hmoment ih =>
    obtain ⟨rfl, rfl⟩ := h.place
    exact (((through_call call ih).run context).1 moment hmoment).1
  | frame _ _ hdepth _ => exact hdepth
  | store _ _ ih => exact ih

/-- Wherever calls are made from, they leave the scope as it was and only add to the store, whether they
succeed or fail; but a call that lowers a named schema and fails withdraws the type name of that schema.
At no moment are compositions nested deeper than the options allow. -/
theorem call_only_adds (h : Arises document options context) (call : Call) :
    let (result, after) := context.run call.step
    after.scope = context.scope ∧
      context.store.dependencies <+: after.store.dependencies ∧
      context.store.declarations <+: after.store.declarations ∧
      context.store.warnings <+: after.store.warnings ∧
      context.store.usedNames ⊆ after.store.usedNames ∧
      (∀ reference name, context.recorded? reference = some name →
        after.recorded? reference = some name ∨
          result.isOk = false ∧ call.ownPointer? = some reference) ∧
      ∀ moment ∈ context.moments call.step, moment.scope.depth ≤ options.maxDepth := by
  have hdepth := h.depth_le
  obtain ⟨rfl, rfl⟩ := h.place
  have hscope : (context.run call.step).2.scope = context.scope := by rw [run_eq]
  obtain ⟨hmoments, hleaves⟩ := (through_call call hdepth).run context
  have hcontinues := hleaves.continues
  refine ⟨hscope, hcontinues.dependencies, hcontinues.declarations, hcontinues.warnings,
    hcontinues.usedNames.subset, ?_, ?_⟩
  · intro reference name hname
    exact hleaves.recorded hname
  · intro moment hmoment
    exact (hmoments moment hmoment).1

/-- A crate holds a box, which is there, and a lid, which is not. -/
def crate : Json :=
  .obj [("definitions", .obj [("Box", .obj [("type", .str "string")]),
    ("Crate", .obj [("properties", .obj [("box", .obj [("$ref", .str "#/definitions/Box")]),
      ("lid", .obj [("$ref", .str "#/definitions/Lid")])])])])]

/-- The crate fails at its lid, after its box was resolved, and leaves the box recorded. -/
theorem call_only_adds_of_crate : ∃ document entry, Document.ofJson crate = .ok document ∧
    ((fresh document {}).run (lowerNamed entry)).1.isOk = false ∧
    (((fresh document {}).run (lowerNamed entry)).2.run (lowerNamed entry)).2.recorded?
      "#/definitions/Box" = some "Box" := by
  have hrun : ((Document.ofJson crate).toOption.any fun document =>
      document.named[1]?.any fun entry =>
        ((fresh document {}).run (lowerNamed entry)).1.isOk == false &&
          (((fresh document {}).run (lowerNamed entry)).2.recorded? "#/definitions/Box" ==
            some "Box" && entry.pointer == "#/definitions/Crate")) = true := by decide +kernel
  obtain ⟨document, hdocument, hrun⟩ := Decode.exists_ok_of_any hrun
  obtain ⟨entry, -, hentry⟩ := (Option.any_eq_true _ _).mp hrun
  simp only [Bool.and_eq_true, beq_iff_eq] at hentry
  obtain ⟨hfails, hbox, hpointer⟩ := hentry
  have harises : Arises document {} ((fresh document {}).run (lowerNamed entry)).2 :=
    .moment .fresh (.lowerNamed entry) (run_mem_moments (lowerNamed entry) (fresh document {}))
  obtain ⟨-, -, -, -, -, hkept, -⟩ := call_only_adds harises (.lowerNamed entry)
  refine ⟨document, entry, hdocument, hfails, (hkept _ _ hbox).resolve_right ?_⟩
  rintro ⟨-, hown⟩
  have hsame : entry.pointer = "#/definitions/Box" := Option.some.inj hown
  rw [hpointer] at hsame
  exact absurd hsame (by decide)

end Context

end SchemaTypings
