import SchemaTypings.Proofs.Lowering.DeclaredParts

/-!
# Main declarations

The declaration of a union or of a composed type is written over names of two sorts: those of the references
that are followed for it, and those of the types of its parts (`Store.Names`). The parts are declared under
the names claimed for them, and it depends on all these names but its own (`Store.Accounts`).
-/

namespace SchemaTypings

open LowerM Lowering Typing

variable {document : Document} {options : Options} {visited path : List String} {depth : Nat}
  {store after : Store} {α : Type}

/-! ## Texts of declarations -/

namespace Lowering

variable {names : String → Prop}

theorem over_bottomAlias (options : Options) (name : String) :
    DeclarationOver names name (bottomAlias options name).content := by
  have hover : DeclarationOver names name (aliasText options [] name bottomType) := .alias options [] .bottom
  have hcomment : docComment [] "" = "" := rfl
  simpa only [bottomAlias, aliasText, hcomment, String.empty_append] using hover

theorem over_unionDeclaration (options : Options) (name : String) (info : SchemaInfo)
    {members : List UnionMember} (dependencies : List String)
    (h : ∀ member ∈ members, WrittenOver names member.typeName) :
    DeclarationOver names name (unionDeclaration options name info members dependencies).content := by
  have hunion : WrittenOver names (union (members.map (·.typeName))) :=
    .union (List.forall_mem_map.mpr h)
  unfold unionDeclaration
  dsimp only
  split
  · exact .alias options (typeDoc options info) (.nullable options hunion)
  · exact .alias options (typeDoc options info) hunion

theorem compositionContent_expression (options : Options) (name : String) (info : SchemaInfo)
    (circularRefs : List String) (expr : String) :
    compositionContent options name info circularRefs (.alias expr) =
      aliasText options (compositionDoc options info circularRefs) name
        (if info.nullable then makeNullable options expr else expr) := by
  unfold compositionContent aliasText
  cases info.nullable <;> rfl

theorem compositionContent_members (options : Options) (name : String) (info : SchemaInfo)
    (circularRefs : List String) (lines : String) (properties : List Property) :
    compositionContent options name info circularRefs (.members lines properties) =
      if info.nullable then aliasText options (compositionDoc options info circularRefs) name
        (makeNullable options (blockText lines))
      else interfaceText options (compositionDoc options info circularRefs) name lines := by
  unfold compositionContent aliasText interfaceText blockText
  cases info.nullable <;> rfl

theorem over_compositionContent (options : Options) (name : String) (info : SchemaInfo)
    (circularRefs : List String) {body : CompositionBody} (h : BodyWrites options (WrittenOver names) body) :
    DeclarationOver names name (compositionContent options name info circularRefs body) := by
  rcases body with expr | ⟨lines, properties⟩
  · rw [compositionContent_expression]
    split
    · exact .alias options _ (.nullable options h)
    · exact .alias options _ h
  · obtain ⟨index, rfl, hproperties, hindex⟩ := h
    rw [compositionContent_members]
    split
    · exact .nullable options _ ⟨hproperties, hindex⟩
    · exact .interface options _ ⟨hproperties, hindex⟩

end Lowering

/-! ## Collected dependencies -/

namespace Store

/-- The names are those of the references that are asked to be followed, each one once, and these references
are recorded or being resolved. -/
structure Collects (document : Document) (visited : List String) (demands : List Demand)
    (collected : List String) (after : Store) : Prop where
  met : ∀ reference, .follow reference ∈ demands → reference ∈ visited ∨ after.Records reference
  mem_iff : ∀ name, name ∈ collected ↔
    ∃ reference, .follow reference ∈ demands ∧ after.nameOf document reference = name
  nodup : collected.Nodup

end Store

theorem Gathering.collects {step : LowerM α} {demands : List Demand} {value : α}
    {collected : List String} (h : Gathering document options visited depth step demands)
    (hrun : (LowerM.collectDependencies step).runWith (.within document options path visited depth) store =
      (.ok (value, collected), after)) : after.Collects document visited demands collected := by
  obtain ⟨inner, hstep, rfl, rfl⟩ := runWith_scopedDependencies_eq_ok.mp hrun
  have hgathers := h path hstep
  refine ⟨hgathers.met, fun name => ?_, hgathers.nodup List.nodup_nil⟩
  exact (hgathers.mem_dependencies name).trans (or_iff_right List.not_mem_nil)

/-! ## Names of references and parts -/

namespace Store

/-- The name is that of a reference which is asked to be followed, or of the type of a part. -/
def Names (document : Document) (demands : List Demand) (parts : List Declaration) (after : Store)
    (name : String) : Prop :=
  (∃ reference, .follow reference ∈ demands ∧ after.nameOf document reference = name) ∨
    name ∈ introduced parts

/-- The names claimed for parts are those of the types that the declarations of parts introduce. The text
declares a type of the name, and is written over the names of references and parts, all of which but that
name are among the dependencies. -/
structure Accounts (document : Document) (visited : List String) (demands : List Demand) (name : String)
    (parts : List Declaration) (content : String) (dependencies : List String) (store after : Store) :
    Prop where
  additions : Extends document visited (introduced parts) store after
  met : ∀ reference, .follow reference ∈ demands → reference ∈ visited ∨ after.Records reference
  written : DeclarationOver (after.Names document demands parts) name content
  depends : ∀ known, after.Names document demands parts known → known ∈ dependencies ∨ known = name

theorem Collects.names {demands : List Demand} {collected : List String} {parts : List Declaration}
    (h : after.Collects document visited demands collected) :
    after.Names document demands parts = Known collected (introduced parts) :=
  funext fun name => propext (or_congr_left (h.mem_iff name).symm)

/-- What is collected, and the names of the parts, are dependencies but for the own name. -/
theorem Collects.depends {demands : List Demand} {collected dependencies : List String}
    {parts : List Declaration} {name : String} (h : after.Collects document visited demands collected)
    (hcollected : ∀ known ∈ collected, known ∈ dependencies ∨ known = name)
    (hparts : ∀ part ∈ parts, part.name ∈ dependencies ∨ part.name = name) :
    ∀ known, after.Names document demands parts known → known ∈ dependencies ∨ known = name := by
  intro known hknown
  rw [h.names] at hknown
  rcases hknown with hknown | hknown
  · exact hcollected known hknown
  · obtain ⟨part, hpart, rfl⟩ := List.mem_map.mp hknown
    exact hparts part (List.mem_of_mem_filter hpart)

end Store

namespace Lowering

/-- A union with members is declared with what was collected while they were lowered. -/
theorem lowerUnion_eq_ok {name : String} {schema member : Schema} {rest : List Schema}
    {lowered : LoweredUnion} (hmembers : unionMembersOf schema = member :: rest)
    (hrun : (lowerUnion name schema).runWith (.within document options path visited depth) store =
      (.ok lowered, after)) :
    ∃ members declarations collected,
      (LowerM.collectDependencies (lowerMembers (Name.pascal name) (discriminatorOf? document options schema)
        (member :: rest))).runWith (.within document options (path ++ [Name.pascal name]) visited depth)
          store = (.ok ((members, declarations), collected), after) ∧
      lowered.members = members ∧ lowered.memberDeclarations = declarations ∧
        lowered.declaration = unionDeclaration options (Name.pascal name) schema.info members
          ((declarations.map (·.name)).foldl addName (collected.filter (· != Name.pascal name))) := by
  rw [lowerUnion, runWith_withSegment, hmembers] at hrun
  obtain ⟨source, _, hsource, hrun⟩ := runWith_bind_eq_ok.mp hrun
  cases hsource
  obtain ⟨asked, _, hasked, hrun⟩ := runWith_bind_eq_ok.mp hrun
  cases hasked
  obtain ⟨⟨⟨members, declarations⟩, collected⟩, inner, hcollect, hrun⟩ := runWith_bind_eq_ok.mp hrun
  cases hrun
  exact ⟨members, declarations, collected, hcollect, rfl, rfl, rfl⟩

/-- A type that is no union is composed of what was collected while its body was. -/
theorem compose_eq_ok {derive : Bool} {name : String} {kind : SchemaKind Schema} {info : SchemaInfo}
    {composed : Composition} (hone : ∀ members, kind ≠ .oneOf members)
    (hany : ∀ members, kind ≠ .anyOf members)
    (hrun : (compose derive name ⟨kind, info⟩).runWith (.within document options path visited depth) store =
      (.ok composed, after)) :
    ∃ body parts collected,
      (LowerM.collectDependencies (composeBody (Name.pascal name) info kind)).runWith
        (.within document options (path ++ [Name.pascal name]) visited depth) store =
          (.ok ((body, parts), collected), after) ∧
      composed = assemble document options derive (Name.pascal name) ⟨kind, info⟩ body parts collected := by
  rw [compose.eq_3 _ _ _ _ hone hany, runWith_withSegment] at hrun
  obtain ⟨⟨⟨body, parts⟩, collected⟩, inner, hcollect, hrun⟩ := runWith_bind_eq_ok.mp hrun
  cases hrun
  exact ⟨body, parts, collected, hcollect, rfl⟩

/-- The name of which the text of a composed type declares a type. The name of a union is made a type name
again. -/
def composedName (name : String) (schema : Schema) : String :=
  match schema.kind with
  | .oneOf _ | .anyOf _ => Name.pascal (Name.pascal name)
  | _ => Name.pascal name

/-- What is collected is depended on but for the own name, whatever is depended on besides. -/
theorem mem_dependencies_of_collected {name known : String} {collected others : List String}
    (hknown : known ∈ collected) :
    known ∈ others.foldl addName (collected.filter (· != name)) ∨ known = name := by
  by_cases hname : known = name
  · exact Or.inr hname
  · refine Or.inl (mem_foldl_addName.mpr (Or.inl (List.mem_filter.mpr ⟨hknown, ?_⟩)))
    exact bne_iff_ne.mpr hname

theorem follow_not_mem_degenerate (policy : DegeneratePolicy) (reference : String) :
    .follow reference ∉ policy.demands := by
  cases policy <;> simp [DegeneratePolicy.demands]

theorem accounts_lowerUnion {name : String} {schema : Schema} {lowered : LoweredUnion}
    (hrun : (lowerUnion name schema).runWith (.within document options path visited depth) store =
      (.ok lowered, after)) :
    Store.Accounts document visited (unionDemands document options depth schema) (Name.pascal name)
      lowered.memberDeclarations lowered.declaration.content lowered.declaration.dependencies store after := by
  have hmet := (Gathering.rules.lowerUnion name schema path hrun).met
  obtain ⟨parts, hadvances, hparts⟩ := Spells.lowerUnion name schema path depth hrun
  obtain rfl := hparts _ (List.Subset.refl _)
  cases hmembers : unionMembersOf schema with
  | nil =>
    rw [lowerUnion, runWith_withSegment, hmembers] at hrun
    obtain ⟨_, _, -, hrun⟩ := runWith_bind_eq_ok.mp hrun
    obtain ⟨_, _, -, hrun⟩ := runWith_bind_eq_ok.mp hrun
    cases hrun
    refine ⟨hadvances.additions, hmet, over_bottomAlias _ _, ?_⟩
    rintro known (⟨reference, hdemand, -⟩ | hknown)
    · rw [unionDemands, hmembers] at hdemand
      exact absurd hdemand (follow_not_mem_degenerate _ reference)
    · cases hknown
  | cons member rest =>
    obtain ⟨members, declarations, collected, hcollect, -, hdeclarations, hdeclaration⟩ :=
      lowerUnion_eq_ok hmembers hrun
    have hcollects := (Gathering.rules.lowerMembers _ _ _).collects hcollect
    obtain ⟨_, -, hspelled⟩ := (Spells.lowerMembers name _ _).collectDependencies _ depth hcollect
    obtain ⟨-, -, hover⟩ := hspelled _ (List.Subset.refl _)
    rw [hdeclarations] at hadvances
    rw [unionDemands, hmembers] at hmet ⊢
    rw [hdeclarations, hdeclaration]
    refine ⟨hadvances.additions, hmet, over_unionDeclaration _ _ _ _ fun found hfound => ?_, ?_⟩
    · obtain ⟨own, hown, hwritten⟩ := hover found hfound
      rw [hcollects.names]
      refine hwritten.written.mono fun known hknown => hknown.imp_right fun hmem => ?_
      exact List.map_subset _ (List.filter_subset _ hown) hmem
    · refine hcollects.depends (fun known hknown => mem_dependencies_of_collected hknown) fun part hpart => ?_
      exact Or.inl (mem_foldl_addName.mpr (Or.inr (List.mem_map_of_mem hpart)))

theorem accounts_composeUnion {derive : Bool} {name : String} {schema : Schema} {composed : Composition}
    (hrun : (composeUnion derive name schema).runWith (.within document options path visited depth) store =
      (.ok composed, after)) :
    Store.Accounts document visited (unionDemands document options depth schema) (Name.pascal name)
      composed.intermediates composed.content composed.dependencies store after := by
  obtain ⟨lowered, inner, hlowered, hrun⟩ := runWith_bind_eq_ok.mp hrun
  cases hrun
  exact accounts_lowerUnion hlowered

/-- What a type is composed of that is no union: its body is written over what was collected for it, which are
the names of the references that are followed. -/
theorem collects_compose {derive : Bool} {name : String} {kind : SchemaKind Schema} {info : SchemaInfo}
    {composed : Composition} (hone : ∀ members, kind ≠ .oneOf members)
    (hany : ∀ members, kind ≠ .anyOf members)
    (hrun : (compose derive name ⟨kind, info⟩).runWith (.within document options path visited depth) store =
      (.ok composed, after)) :
    ∃ body parts collected claimed,
      composed = assemble document options derive (Name.pascal name) ⟨kind, info⟩ body parts collected ∧
      after.Collects document visited (composeBodyDemands document options visited depth info kind)
        collected ∧
      CompositionParts.Gains collected {} parts claimed ∧
      BodyWrites options (WrittenOver (parts.Knows collected)) body := by
  obtain ⟨body, parts, collected, hcollect, hcomposed⟩ := compose_eq_ok hone hany hrun
  have hcollects := (Gathering.rules.composeBody name info kind).collects hcollect
  obtain ⟨claimed, -, hspelled⟩ := (Spells.composeBody name info kind).collectDependencies _ depth hcollect
  exact ⟨body, parts, collected, claimed, hcomposed, hcollects, (hspelled _ (List.Subset.refl _)).2⟩

theorem accounts_composeBody {derive : Bool} {name : String} {kind : SchemaKind Schema} {info : SchemaInfo}
    {composed : Composition} (hone : ∀ members, kind ≠ .oneOf members)
    (hany : ∀ members, kind ≠ .anyOf members)
    (hrun : (compose derive name ⟨kind, info⟩).runWith (.within document options path visited depth) store =
      (.ok composed, after)) :
    Store.Accounts document visited (composeBodyDemands document options visited depth info kind)
      (Name.pascal name) composed.intermediates composed.content composed.dependencies store after := by
  obtain ⟨claimed, hadvances, hclaimed⟩ := Spells.compose derive name ⟨kind, info⟩ path depth hrun
  have hparts := (hclaimed _ (List.Subset.refl _)).parts
  obtain ⟨body, parts, collected, _, rfl, hcollects, -, hwritten⟩ := collects_compose hone hany hrun
  refine ⟨hadvances.additions.perm hparts, hcollects.met, over_compositionContent _ _ _ _ ?_, ?_⟩
  · exact hcollects.names ▸ hwritten
  · refine hcollects.depends (fun known hknown => mem_dependencies_of_collected hknown) fun part hpart => ?_
    by_cases hname : part.name = Name.pascal name
    · exact Or.inr hname
    · refine Or.inl (mem_foldl_addName.mpr (Or.inr (List.mem_filter.mpr ⟨List.mem_map_of_mem hpart, ?_⟩)))
      exact bne_iff_ne.mpr hname

theorem accounts_compose {derive : Bool} {name : String} {schema : Schema} {composed : Composition}
    (hrun : (compose derive name schema).runWith (.within document options path visited depth) store =
      (.ok composed, after)) :
    Store.Accounts document visited (composeDemands document options visited depth schema)
      (composedName name schema) composed.intermediates composed.content composed.dependencies store after := by
  obtain ⟨kind, info⟩ := schema
  cases kind with
  | oneOf members | anyOf members => exact accounts_composeUnion hrun
  | _ => exact accounts_composeBody (by simp) (by simp) hrun

/-- What a composed type says to lead back are references that are followed for it. -/
theorem circularRefs_compose {derive : Bool} {name : String} {schema : Schema} {composed : Composition}
    (hrun : (compose derive name schema).runWith (.within document options path visited depth) store =
      (.ok composed, after)) {known : String} (hknown : known ∈ composed.circularRefs) :
    after.Names document (composeDemands document options visited depth schema) composed.intermediates
      known := by
  have hbody : ∀ {kind : SchemaKind Schema} {info : SchemaInfo}, (∀ members, kind ≠ .oneOf members) →
      (∀ members, kind ≠ .anyOf members) → (compose derive name ⟨kind, info⟩).runWith
        (.within document options path visited depth) store = (.ok composed, after) →
          after.Names document (composeBodyDemands document options visited depth info kind)
            composed.intermediates known := by
    intro kind info hone hany hrun
    obtain ⟨body, parts, collected, _, rfl, hcollects, hgains, -⟩ := collects_compose hone hany hrun
    rw [hcollects.names]
    exact Or.inl ((hgains.circularRefs known hknown).resolve_left List.not_mem_nil)
  obtain ⟨kind, info⟩ := schema
  cases kind with
  | oneOf members | anyOf members =>
    obtain ⟨lowered, inner, -, hrun⟩ := runWith_bind_eq_ok.mp hrun
    cases hrun
    cases hknown
  | _ => exact hbody (by simp) (by simp) hrun

end Lowering

/-! ## Names in contexts -/

namespace Context

variable {context : Context} {reference name : String}

/-- The reference resolves to the name. -/
def ResolvesTo (context : Context) (reference name : String) : Prop :=
  (context.run (resolveReference reference)).1.map Resolution.name = .ok name

theorem resolves_of_mem_visited (h : reference ∈ context.scope.visited) :
    ∃ resolution, (context.run (resolveReference reference)).1 = .ok resolution := by
  obtain ⟨document, options, ⟨path, visited, depth⟩, store⟩ := context
  rw [run_eq]
  show ∃ resolution, ((resolveReference reference).runWith
    (.within document options path visited depth) store).1 = .ok resolution
  rw [runWith_resolveReference, Document.referenceBound, runWith_resolveWithin_of_mem _ h,
    runWith_forwardReference]
  exact ⟨_, rfl⟩

/-- A reference that is recorded or being resolved resolves to the name that it has. -/
theorem resolvesTo_iff (h : reference ∈ context.scope.visited ∨ context.store.Records reference) :
    context.ResolvesTo reference name ↔ context.store.nameOf context.document reference = name := by
  obtain ⟨resolution, hresolution⟩ := h.elim resolves_of_mem_visited resolves_of_records
  have hname : resolution.name = context.store.nameOf context.document reference := by
    have hrun := hresolution
    rw [run_eq] at hrun
    obtain ⟨hname, hgathers⟩ := gathers_resolveReference (Prod.ext hrun rfl)
    obtain ⟨parts, hkeeps⟩ := hgathers.keeps
    exact hname.trans (hkeeps.nameOf_eq h)
  rw [ResolvesTo, hresolution, ← hname]
  simp [Except.map]

/-- The name is what a reference resolves to that is asked to be followed, or that of the type of a part. -/
def Names (after : Context) (demands : List Demand) (parts : List Declaration) (name : String) : Prop :=
  (∃ reference, .follow reference ∈ demands ∧ after.ResolvesTo reference name) ∨ name ∈ introduced parts

theorem runWith_of_run {step : LowerM α} {value : α} (h : (context.run step).1 = .ok value) :
    step.runWith (.within context.document context.options context.scope.path context.scope.visited
      context.scope.depth) context.store = (.ok value, (context.run step).2.store) := by
  rw [run_eq] at h ⊢
  exact Prod.ext h rfl

@[simp]
theorem document_run (step : LowerM α) (context : Context) :
    (context.run step).2.document = context.document := by
  rw [run_eq]

@[simp]
theorem scope_run (step : LowerM α) (context : Context) : (context.run step).2.scope = context.scope := by
  rw [run_eq]

/-- What the names come to for a declaration that a run accounts for. -/
theorem names_of_accounts {step : LowerM α} {demands : List Demand} {parts : List Declaration}
    {name content : String} {dependencies : List String}
    (h : Store.Accounts context.document context.scope.visited demands name parts content dependencies
      context.store (context.run step).2.store) :
    (context.run step).2.Names demands parts =
      (context.run step).2.store.Names context.document demands parts := by
  funext known
  refine propext (or_congr_left (exists_congr fun reference => and_congr_right fun hdemand => ?_))
  have hmet : reference ∈ (context.run step).2.scope.visited ∨
      (context.run step).2.store.Records reference := by
    rw [scope_run]
    exact h.met reference hdemand
  rw [resolvesTo_iff hmet, document_run]

end Context

end SchemaTypings
