import SchemaTypings.Proofs.Lowering.EnsuredCompositions
import SchemaTypings.Proofs.Lowering.UnionDependencies

/-!
# What named schemas depend on

The parts of a composition are declared under claimed names, with everything that they depend on allowed.
So the declarations of a named schema depend on what is allowed, whichever operation is selected, except
for what the operation coins itself (`Attribution.declare`).
-/

namespace SchemaTypings

open LowerM Lowering Typing

/-! ## Compositions -/

/-- What the composed type depends on is allowed, and its parts are attributed. -/
structure Composition.Attributed (allowed : String → Prop) (composed : Composition) : Prop where
  name : allowed composed.typeName
  dependencies : ∀ name ∈ composed.dependencies, allowed name
  intermediates : ∀ declaration ∈ composed.intermediates, declaration.Attributed allowed

/-- The texts derived from the type declare names that begin with small letters, if any. -/
def Composition.Plain (composed : Composition) : Prop :=
  ∀ text ∈ composed.utilityTypes ++ composed.helpers, ∀ name, declaredName? text = some name →
    Name.beginsSmall name = true

/-- The parts are attributed. -/
def CompositionParts.Attributed (allowed : String → Prop) (parts : CompositionParts) : Prop :=
  ∀ declaration ∈ parts.intermediates, declaration.Attributed allowed

namespace Composition.Attributed

variable {allowed : String → Prop} {composed : Composition}

theorem depends_declarations (h : composed.Attributed allowed) {declaration : Declaration}
    (hmem : declaration ∈ composed.declarations) : ∀ name ∈ declaration.dependencies, allowed name := by
  have hderived : declaration.dependencies = [composed.typeName] →
      ∀ name ∈ declaration.dependencies, allowed name := by
    intro hdependencies name hname
    rw [hdependencies] at hname
    rw [List.mem_singleton.mp hname]
    exact h.name
  simp only [declarations, List.mem_append, List.mem_cons, List.mem_map] at hmem
  rcases hmem with hmem | rfl | ⟨text, -, rfl⟩ | ⟨text, -, rfl⟩
  · exact (h.intermediates declaration hmem).dependencies
  · exact h.dependencies
  · exact hderived rfl
  · exact hderived rfl

theorem declarations (h : composed.Attributed allowed) (hplain : composed.Plain)
    (hsmall : ∀ name, Name.beginsSmall name = true → allowed name) {declaration : Declaration}
    (hmem : declaration ∈ composed.declarations) : declaration.Attributed allowed := by
  refine ⟨?_, h.depends_declarations hmem⟩
  have hderived : ∀ kind, ∀ text ∈ composed.utilityTypes ++ composed.helpers,
      allowed (composed.derived kind text).name := by
    intro kind text htext
    show allowed ((declaredName? text).getD composed.typeName)
    cases hname : declaredName? text with
    | none => exact h.name
    | some name => exact hsmall name (hplain text htext name hname)
  simp only [Composition.declarations, List.mem_append, List.mem_cons, List.mem_map] at hmem
  rcases hmem with hmem | rfl | ⟨text, htext, rfl⟩ | ⟨text, htext, rfl⟩
  · exact (h.intermediates declaration hmem).name
  · exact h.name
  · exact hderived _ text (List.mem_append_left _ htext)
  · exact hderived _ text (List.mem_append_right _ htext)

end Composition.Attributed

theorem Lowering.plain_assemble {document : Document} {options : Options} {name : String}
    {schema : Schema} {body : CompositionBody} {parts : CompositionParts} {dependencies : List String} :
    (assemble document options false name schema body parts dependencies).Plain := by
  intro text htext found hfound
  simp only [assemble, utilityTypesFor, structuralHelpersFor, Bool.false_and, Bool.false_eq_true,
    if_false, List.nil_append, Option.mem_toList, Option.map_eq_some_iff] at htext
  obtain ⟨declaration, hdeclaration, rfl⟩ := htext
  unfold compositionValidator? at hdeclaration
  split at hdeclaration
  · exact Validation.declaredName?_validator hdeclaration hfound
  · cases hdeclaration

namespace Attribution

variable {raw : Json} {document : Document} {own : String} {allowed : String → Prop}
  (h : Attribution raw document own allowed)

include h

/-! ### Parts -/

theorem composeReference {target : String} (parts : CompositionParts)
    (hnamed : document.isNamed target → allowed (Name.ofReference target)) :
    (composeReference target parts).Ensures (Declaring document own allowed) fun named =>
      parts.Attributed allowed → named.2.Attributed allowed :=
  .composeReference (h.resolveReference hnamed) (fun _ _ => id) fun _ _ => id

theorem composeUnion (derive : Bool) {name : String} {schema : Schema} (hname : allowed (Name.pascal name))
    (hschema : schema.Allowed document allowed) :
    (composeUnion derive (Name.pascal name) schema).Ensures (Declaring document own allowed) fun composed =>
      composed.Attributed allowed ∧ (derive = false → composed.Plain) := by
  apply (h.lowerUnion (Name.pascal name) hschema).bind
  rintro lowered ⟨-, hlowered⟩
  apply Ensures.readDocument
  intro source
  apply Ensures.readOptions
  intro options
  refine .pure ⟨⟨hname, hlowered.union, hlowered.members⟩, ?_⟩
  rintro rfl text htext
  simp [utilityTypesFor] at htext

omit h in
theorem attributed_assemble (source : Document) (options : Options) (derive : Bool) {name : String}
    (schema : Schema) (body : CompositionBody) {parts : CompositionParts} {dependencies : List String}
    (hname : allowed (Name.pascal name)) (hparts : parts.Attributed allowed)
    (hdependencies : ∀ other ∈ dependencies, allowed other) :
    let composed := assemble source options derive (Name.pascal name) schema body parts dependencies
    composed.Attributed allowed ∧ (derive = false → composed.Plain) := by
  refine ⟨⟨hname, ?_, hparts⟩, ?_⟩
  · intro other hother
    rcases mem_foldl_addName.mp hother with hother | hother
    · exact hdependencies other (List.mem_of_mem_filter hother)
    · obtain ⟨declaration, hdeclaration, rfl⟩ := List.mem_map.mp (List.mem_of_mem_filter hother)
      exact (hparts declaration hdeclaration).name
  · rintro rfl
    exact plain_assemble

/-- What is composed is attributed at every site. -/
theorem compositionSound (options : Options) : CompositionInvariant.Sound
    { inv := Asking options (Declaring document own allowed)
      admits := Schema.Allowed document allowed
      names := fun name => allowed (Name.pascal name)
      depends := fun dependencies => ∀ name ∈ dependencies, allowed name
      adds := fun _ start final => start.Attributed allowed → final.Attributed allowed
      declares := fun derive _ composed =>
        composed.Attributed allowed ∧ (derive = false → composed.Plain) } options where
  toTells := Declaring.placeless.asking options
  closed := ⟨fun _ => True, closed_true⟩
  child := Schema.Allowed.child
  claimName hbase := ((h.claimName hbase).asking options).mono fun name hname =>
    have hallowed : allowed (Name.pascal name) := hname.1.symm ▸ hname.2
    ⟨hallowed, trivial⟩
  typeExpression hschema := ((h.typeExpression hschema).asking options).mono fun _ _ => trivial
  collectDependencies hstep := hstep.collecting (D := fun dependencies => ∀ name ∈ dependencies, allowed name)
    (fun _ _ hinv => ⟨hinv.1.fresh, hinv.2⟩) (fun _ _ _ hinv hafter => ⟨hinv.1.merged hafter.1, hinv.2⟩)
    fun _ _ hinv => hinv.1.dependencies
  refl _ := id
  trans hbetween hfinal hstart := hfinal (hbetween hstart)
  absorb _ hnested hparts declaration hdeclaration :=
    (List.mem_append.mp hdeclaration).elim (hparts declaration) fun hmem =>
      hnested.1.declarations (hnested.2 rfl) (fun _ => h.small) hmem
  reference parts hschema := ((h.composeReference parts hschema.target).asking options).mono fun _ hadds =>
    ⟨trivial, hadds⟩
  union derive {_ _} _ hschema hname := (h.composeUnion derive hname hschema).asking options
  assemble derive {_ _ _ _ body _ _ setting _} _ _ hname hparts _ _ hdepends :=
    attributed_assemble setting.document options derive _ body hname (hparts (by rintro _ ⟨⟩)) hdepends

theorem compose {derive : Bool} {name : String} {schema : Schema} (hname : allowed (Name.pascal name))
    (hschema : schema.Allowed document allowed) :
    (compose derive name schema).Ensures (Declaring document own allowed) fun composed =>
      composed.Attributed allowed ∧ (derive = false → composed.Plain) :=
  .of_asking fun setting _ _ => (h.compositionSound setting.options).compose derive hname hschema

end Attribution

/-! ## Named schemas -/

/-- The name is one that the operation coins for a type name: that for the values of an enumeration, or
that of a date in a union. -/
def Operation.Coins (operation : Operation) (typeName name : String) : Prop :=
  match operation with
  | .enum => name = typeName ++ "Values"
  | .union => name = "Date"
  | _ => False

instance (operation : Operation) (typeName name : String) :
    Decidable (operation.Coins typeName name) := by
  cases operation <;> unfold Operation.Coins <;> infer_instance

/-- Whichever operation is selected, the declarations of a named schema depend on what is allowed, and on
what the operation coins. -/
theorem Attribution.declare {raw : Json} {document : Document} {own : String} {allowed : String → Prop}
    (h : Attribution raw document own allowed) {typeName : String} {schema : Schema}
    (hname : allowed (Name.pascal typeName)) (hschema : schema.Allowed document allowed) :
    (declare typeName schema).Ensures (Declaring document own allowed) fun declarations =>
      ∀ declaration ∈ declarations, ∀ name ∈ declaration.dependencies,
        allowed name ∨ (Operation.select schema).Coins (Name.pascal typeName) name := by
  unfold Lowering.declare
  cases Operation.select schema with
  | enum =>
    refine .map ((Attribution.lowerEnum typeName schema).mono ?_)
    intro lowered hlowered declaration hdeclaration name hdepends
    rcases hlowered declaration hdeclaration name hdepends with rfl | rfl
    · exact Or.inl hname
    · exact Or.inr rfl
  | union =>
    refine .map ((h.lowerUnion typeName hschema).mono ?_)
    rintro lowered ⟨htype, hlowered⟩ declaration hdeclaration name hdepends
    rcases List.mem_append.mp hdeclaration with hmem | hmem
    · exact Or.inl ((hlowered.members declaration hmem).dependencies name hdepends)
    · rcases List.mem_cons.mp hmem with rfl | hmem
      · exact Or.inl (hlowered.union name hdepends)
      · rcases hlowered.functions declaration hmem name hdepends with rfl | hallowed
        · exact Or.inl (htype ▸ hname)
        · exact hallowed
  | compose =>
    refine .map ((h.compose hname hschema).mono ?_)
    rintro composed ⟨hcomposed, -⟩ declaration hdeclaration name hdepends
    exact Or.inl (hcomposed.depends_declarations hdeclaration name hdepends)
  | interface =>
    refine (h.declareInterface hname hschema).mono ?_
    intro declarations hdeclarations declaration hdeclaration name hdepends
    exact Or.inl ((hdeclarations declaration hdeclaration).dependencies name hdepends)
  | _ =>
    refine .map ((h.lowerAlias hname hschema).mono ?_)
    intro alias_ halias declaration hdeclaration name hdepends
    rw [List.mem_singleton.mp hdeclaration] at hdepends
    exact Or.inl (halias.dependencies name hdepends)

end SchemaTypings
