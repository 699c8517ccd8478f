import SchemaTypings.Proofs.Lowering.MainDeclarations

/-!
# Direct dependencies

An alias or an interface depends on the names of the references in its schema, and on nothing else: what
lies behind a reference is collected apart, and what was collected before is put back in front of it. A
union or a composed type depends on all names that its text is written with, those of references and those
of its parts, but for its own (`Context.dependencies_direct`). An interface of what is no object has nothing
of it, and so no dependencies (`Context.dependencies_missing_of_list`).
-/

namespace SchemaTypings

open LowerM Lowering Typing

namespace Context

variable {context : Context} {reference name : String} {schema : Schema}

/-! ## What declarations depend on -/

/-- The declaration depends on what the references in the schema resolve to, each name once, but not on
itself. -/
structure DependsDirectly (after : Context) (schema : Schema) (declaration : Declaration) : Prop where
  mem_iff : ∀ name, name ∈ declaration.dependencies ↔
    name ≠ declaration.name ∧ ∃ reference, schema.Mentions reference ∧ after.ResolvesTo reference name
  nodup : declaration.dependencies.Nodup

/-- The text declares a type of the name, is written over the names of references and parts, and depends on
all of these but that one. -/
structure DependsOnNames (after : Context) (demands : List Demand) (name : String) (parts : List Declaration)
    (content : String) (dependencies : List String) : Prop where
  written : DeclarationOver (after.Names demands parts) name content
  depends : ∀ known, after.Names demands parts known → known ∈ dependencies ∨ known = name

/-- What is collected while the parts of a declaration are lowered is what it depends on. -/
theorem dependsDirectly_of_collects {demands : List Demand} {collected : List String} {after : Context}
    {declaration : Declaration} {own : String}
    (h : after.store.Collects after.document after.scope.visited demands collected)
    (hdemands : ∀ reference, .follow reference ∈ demands ↔ schema.Mentions reference)
    (hname : declaration.name = own) (hdependencies : declaration.dependencies = collected.filter (· != own)) :
    after.DependsDirectly schema declaration := by
  subst hname
  constructor
  · intro name
    rw [hdependencies, List.mem_filter, bne_iff_ne, h.mem_iff, and_comm]
    refine and_congr_right fun _ => exists_congr fun reference => ?_
    rw [hdemands]
    refine and_congr_right fun hmention => ?_
    exact (resolvesTo_iff (h.met reference ((hdemands reference).mpr hmention))).symm
  · rw [hdependencies]
    exact h.nodup.filter _

theorem dependsDirectly_lowerAlias {declaration : Declaration}
    (h : (context.run (lowerAlias name schema)).1 = .ok declaration) :
    (context.run (lowerAlias name schema)).2.DependsDirectly schema declaration := by
  obtain ⟨⟨descriptor, collected⟩, inner, hcollect, hrun⟩ := runWith_bind_eq_ok.mp (runWith_of_run h)
  have hafter : inner = (context.run (lowerAlias name schema)).2.store := congrArg Prod.snd hrun
  have hcollects : (context.run (lowerAlias name schema)).2.store.Collects
      (context.run (lowerAlias name schema)).2.document
      (context.run (lowerAlias name schema)).2.scope.visited
      (schema.demands context.options context.scope.depth) collected := by
    rw [document_run, scope_run, ← hafter]
    rw [runWith_withSegment] at hcollect
    exact (Gathering.rules.describe schema).collects hcollect
  cases congrArg Prod.fst hrun
  exact dependsDirectly_of_collects hcollects (fun _ => Schema.follow_mem_demands) rfl rfl

theorem dependencies_interfaceDeclaration (options : Options) (name : String) (info : SchemaInfo)
    (properties : List Property) (index : Option String) (dependencies : List String) :
    (interfaceDeclaration options name info properties index dependencies).dependencies =
      dependencies := by
  unfold interfaceDeclaration
  split <;> rfl

theorem dependsDirectly_lowerInterface {lowered : LoweredInterface}
    (h : (context.run (lowerInterface name schema)).1 = .ok lowered) :
    (context.run (lowerInterface name schema)).2.DependsDirectly
      ⟨.object (objectShapeOf schema), schema.info⟩ lowered.declaration := by
  obtain ⟨⟨⟨properties, index⟩, collected⟩, inner, hcollect, hrun⟩ := runWith_bind_eq_ok.mp (runWith_of_run h)
  have hafter : inner = (context.run (lowerInterface name schema)).2.store := congrArg Prod.snd hrun
  have hcollects : (context.run (lowerInterface name schema)).2.store.Collects
      (context.run (lowerInterface name schema)).2.document
      (context.run (lowerInterface name schema)).2.scope.visited
      (Schema.demands context.options context.scope.depth ⟨.object (objectShapeOf schema), schema.info⟩)
      collected := by
    rw [document_run, scope_run, ← hafter]
    rw [runWith_withSegment] at hcollect
    exact (Gathering.rules.lowerShape (objectShapeOf schema) schema.info).collects hcollect
  cases congrArg Prod.fst hrun
  exact dependsDirectly_of_collects hcollects (fun _ => Schema.follow_mem_demands)
    (introduces_interfaceDeclaration _ _ _ _ _ _).1 (dependencies_interfaceDeclaration _ _ _ _ _ _)

theorem dependsOnNames_of_accounts {α : Type} {step : LowerM α} {demands : List Demand}
    {name content : String} {parts : List Declaration} {dependencies : List String}
    (haccounts : Store.Accounts context.document context.scope.visited demands name parts content
      dependencies context.store (context.run step).2.store) :
    (context.run step).2.DependsOnNames demands name parts content dependencies := by
  have hnames := names_of_accounts haccounts
  exact ⟨hnames ▸ haccounts.written, hnames ▸ haccounts.depends⟩

/-- What is no object has nothing that an interface of it could depend on. -/
theorem dependencies_eq_nil {lowered : LoweredInterface} (hobject : schema.isObject = false)
    (h : (context.run (lowerInterface name schema)).1 = .ok lowered) :
    lowered.declaration.dependencies = [] := by
  have hshape : objectShapeOf schema = {} := by
    obtain ⟨kind, info⟩ := schema
    cases kind <;> first | rfl | cases hobject
  refine List.eq_nil_iff_forall_not_mem.mpr fun known hknown => ?_
  obtain ⟨-, reference, hmention, -⟩ := ((dependsDirectly_lowerInterface h).mem_iff known).mp hknown
  rw [hshape] at hmention
  rcases Schema.mentions_iff.mp hmention with hkind | ⟨child, hchild, -⟩
  · cases hkind
  · simp [Schema.children, Schema.childrenOfKind, ObjectShape.schemas, Additional.schemas] at hchild

/-- An alias depends on the names that the references in its schema resolve to, each one once, and on nothing
else, but not on itself; and so does the interface of an object, while that of another schema depends on
nothing. The declaration of a union or of a composed type is written over the names that the references
followed for it resolve to and over the names of the types of its parts, and depends on all of them but the
one that its text declares; and so it does on the references that it says to lead back. -/
theorem dependencies_direct (context : Context) (name : String) (schema : Schema) :
    (∀ declaration, (context.run (lowerAlias name schema)).1 = .ok declaration →
      (context.run (lowerAlias name schema)).2.DependsDirectly schema declaration) ∧
    (∀ lowered, (context.run (lowerInterface name schema)).1 = .ok lowered →
      if schema.isObject then
        (context.run (lowerInterface name schema)).2.DependsDirectly schema lowered.declaration
      else lowered.declaration.dependencies = []) ∧
    (∀ lowered, (context.run (lowerUnion name schema)).1 = .ok lowered →
      (context.run (lowerUnion name schema)).2.DependsOnNames
        (unionDemands context.document context.options context.scope.depth schema) (Name.pascal name)
        lowered.memberDeclarations lowered.declaration.content lowered.declaration.dependencies) ∧
    ∀ derive composed, (context.run (compose derive name schema)).1 = .ok composed →
      (context.run (compose derive name schema)).2.DependsOnNames
        (composeDemands context.document context.options context.scope.visited context.scope.depth schema)
        (composedName name schema) composed.intermediates composed.content composed.dependencies ∧
      ∀ known ∈ composed.circularRefs, known ∈ composed.dependencies ∨ known = composedName name schema := by
  refine ⟨fun _ => dependsDirectly_lowerAlias, fun lowered h => ?_, fun lowered h => ?_,
    fun derive composed h => ?_⟩
  · have hdepends := dependsDirectly_lowerInterface h
    split
    next hobject =>
      obtain ⟨kind, info⟩ := schema
      cases kind with
      | object shape => exact hdepends
      | _ => cases hobject
    next hobject => exact dependencies_eq_nil ((Bool.not_eq_true _).mp hobject) h
  · exact dependsOnNames_of_accounts (accounts_lowerUnion (runWith_of_run h))
  · have haccounts := accounts_compose (runWith_of_run h)
    refine ⟨dependsOnNames_of_accounts haccounts, fun known hknown => ?_⟩
    exact haccounts.depends known (circularRefs_compose (runWith_of_run h) hknown)

/-- A document that names a text. -/
def namedText : Json :=
  .obj [("$defs", .obj [("A", .obj [("type", .str "string")])])]

/-- A reference to the text. -/
def textReference : Schema :=
  { kind := .ref "#/$defs/A" }

/-- A list of the text, a box with it, one of the two, and both. -/
def listOfText : Schema :=
  { kind := .array textReference }

def boxOfText : Schema :=
  { kind := .object { properties := [("text", textReference)] } }

def eitherText : Schema :=
  { kind := .oneOf [textReference, boxOfText] }

def bothTexts : Schema :=
  { kind := .allOf [textReference, boxOfText] }

/-- A list, a box, a union and a composed type depend on the text that they refer to. -/
theorem dependencies_direct_of_text : ∃ document, Document.ofJson namedText = .ok document ∧
    (∃ declaration, ((fresh document {}).run (lowerAlias "List" listOfText)).1 = .ok declaration ∧
      ((fresh document {}).run (lowerAlias "List" listOfText)).2.DependsDirectly listOfText declaration) ∧
    (∃ lowered, ((fresh document {}).run (lowerInterface "Box" boxOfText)).1 = .ok lowered ∧
      ((fresh document {}).run (lowerInterface "Box" boxOfText)).2.DependsDirectly boxOfText
        lowered.declaration) ∧
    (∃ lowered, ((fresh document {}).run (lowerUnion "Either" eitherText)).1 = .ok lowered ∧
      ((fresh document {}).run (lowerUnion "Either" eitherText)).2.DependsOnNames
        (unionDemands document {} 0 eitherText) (Name.pascal "Either") lowered.memberDeclarations
        lowered.declaration.content lowered.declaration.dependencies) ∧
    ∃ composed, ((fresh document {}).run (compose true "Both" bothTexts)).1 = .ok composed ∧
      ((fresh document {}).run (compose true "Both" bothTexts)).2.DependsOnNames
        (composeDemands document {} [] 0 bothTexts) (composedName "Both" bothTexts) composed.intermediates
        composed.content composed.dependencies := by
  have hrun : ((Document.ofJson namedText).toOption.any fun document =>
      ((fresh document {}).run (lowerAlias "List" listOfText)).1.toOption.isSome &&
        (((fresh document {}).run (lowerInterface "Box" boxOfText)).1.toOption.isSome &&
          (((fresh document {}).run (lowerUnion "Either" eitherText)).1.toOption.isSome &&
            ((fresh document {}).run (compose true "Both" bothTexts)).1.toOption.isSome))) = true := by
    decide +kernel
  have hok : ∀ {α : Type} {result : Except LoweringError α}, result.toOption.isSome = true →
      ∃ value, result = .ok value := by
    rintro α (error | value) h
    · cases h
    · exact ⟨value, rfl⟩
  obtain ⟨document, hdocument, hrun⟩ := Decode.exists_ok_of_any hrun
  simp only [Bool.and_eq_true] at hrun
  obtain ⟨hlist, hbox, heither, hboth⟩ := hrun
  obtain ⟨declaration, hdeclaration⟩ := hok hlist
  obtain ⟨interface, hinterface⟩ := hok hbox
  obtain ⟨union, hunion⟩ := hok heither
  obtain ⟨composed, hcomposed⟩ := hok hboth
  refine ⟨document, hdocument, ⟨declaration, hdeclaration, ?_⟩, ⟨interface, hinterface, ?_⟩,
    ⟨union, hunion, ?_⟩, composed, hcomposed, ?_⟩
  · exact (dependencies_direct (fresh document {}) "List" listOfText).1 declaration hdeclaration
  · exact (dependencies_direct (fresh document {}) "Box" boxOfText).2.1 interface hinterface
  · exact (dependencies_direct (fresh document {}) "Either" eitherText).2.2.1 union hunion
  · exact ((dependencies_direct (fresh document {}) "Both" bothTexts).2.2.2 true composed hcomposed).1

/-- An interface of a list, which is no object, depends on nothing, although the list refers to a text. -/
theorem dependencies_missing_of_list : ∃ document lowered, Document.ofJson namedText = .ok document ∧
    ((fresh document {}).run (lowerInterface "List" listOfText)).1 = .ok lowered ∧
    lowered.declaration.dependencies = [] ∧ listOfText.Mentions "#/$defs/A" ∧
    ((fresh document {}).run (lowerInterface "List" listOfText)).2.ResolvesTo "#/$defs/A" "A" ∧
    ¬((fresh document {}).run (lowerInterface "List" listOfText)).2.DependsDirectly listOfText
      lowered.declaration := by
  have hrun : ((Document.ofJson namedText).toOption.any fun document =>
      ((fresh document {}).run (lowerInterface "List" listOfText)).1.toOption.any fun lowered =>
        lowered.declaration.dependencies.isEmpty && (lowered.declaration.name != "A" &&
          (((fresh document {}).run (lowerInterface "List" listOfText)).2.run
            (resolveReference "#/$defs/A")).1.toOption.any (·.name == "A"))) = true := by decide +kernel
  obtain ⟨document, hdocument, hrun⟩ := Decode.exists_ok_of_any hrun
  obtain ⟨lowered, hlowered, hrun⟩ := Decode.exists_ok_of_any hrun
  simp only [Bool.and_eq_true, List.isEmpty_iff, bne_iff_ne] at hrun
  obtain ⟨hnone, hname, hresolves⟩ := hrun
  obtain ⟨resolution, hresolution, hresolved⟩ := Decode.exists_ok_of_any hresolves
  have hmention : listOfText.Mentions "#/$defs/A" := by
    refine Schema.mentions_iff.mpr (Or.inr ⟨textReference, List.mem_singleton_self _, ?_⟩)
    exact Schema.mentions_iff.mpr (Or.inl rfl)
  have htext : ((fresh document {}).run (lowerInterface "List" listOfText)).2.ResolvesTo "#/$defs/A" "A" := by
    rw [ResolvesTo, hresolution, ← beq_iff_eq.mp hresolved]
    rfl
  refine ⟨document, lowered, hdocument, hlowered, hnone, hmention, htext, fun hdepends => ?_⟩
  have hmem := (hdepends.mem_iff "A").mpr ⟨Ne.symm hname, "#/$defs/A", hmention, htext⟩
  rw [hnone] at hmem
  cases hmem

end Context

end SchemaTypings
