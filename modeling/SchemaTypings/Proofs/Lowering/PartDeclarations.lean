import SchemaTypings.Proofs.Lowering.MainDeclarations

/-!
# Declarations of parts

The names that a union or a composed type claims for its parts, at any nesting, are those of the types that
are declared before it, each one once; and its text is written with these names and with those of references
(`Context.parts_declared`). A name that is claimed may be declared a second time, as the union of the keys of
a composed type: the names of derived types are not looked up among those that are taken
(`Context.part_declared_twice`).
-/

namespace SchemaTypings

open LowerM Lowering Typing

variable {document : Document} {visited parts : List String}

/-! ## Claimed names -/

namespace Document

variable {new : List (String × String)} {name : String}

theorem mem_claimedNames : name ∈ document.claimedNames new ↔
    ∃ reference, (reference, name) ∈ new ∧ document.isNamed reference = false ∧
      document.alias? reference = none := by
  simp [claimedNames, and_comm]

end Document

namespace Context

variable {before after : Context} {name : String}

/-- The name was taken between the two contexts, and not for a reference. -/
def ClaimedForPart (before after : Context) (name : String) : Prop :=
  name ∈ after.store.usedNames ∧ name ∉ before.store.usedNames ∧
    ¬∃ reference, before.store.types.lookup reference = none ∧
      after.store.types.lookup reference = some name ∧
        before.document.isNamed reference = false ∧ before.document.alias? reference = none

/-- The names that were taken for parts are told apart from those taken for references. -/
theorem claimedForPart_iff
    (h : Store.Extends before.document visited parts before.store after.store) :
    before.ClaimedForPart after name ↔ name ∈ parts := by
  obtain ⟨new, taken, hadds⟩ := h
  have htaken : name ∈ after.store.usedNames ∧ name ∉ before.store.usedNames ↔ name ∈ taken := by
    have hfresh : name ∈ taken → name ∉ before.store.usedNames := fun hmem hused => hadds.fresh hused hmem
    rw [hadds.usedNames, List.mem_append]
    tauto
  have hreferences : (∃ reference, before.store.types.lookup reference = none ∧
      after.store.types.lookup reference = some name ∧ before.document.isNamed reference = false ∧
        before.document.alias? reference = none) ↔ name ∈ before.document.claimedNames new := by
    rw [Document.mem_claimedNames]
    refine exists_congr fun reference => ?_
    rw [← and_assoc]
    refine and_congr_left fun _ => ⟨fun ⟨hnone, hsome⟩ => ?_, fun hmem => hadds.lookup_of_mem_new hmem⟩
    rw [hadds.types, List.lookup_append, hnone, Option.none_or] at hsome
    obtain ⟨first, rest, rfl, -⟩ := List.lookup_eq_some_iff.mp hsome
    simp
  have hdistinct := hadds.accounts.nodup_iff.mp hadds.distinct
  rw [ClaimedForPart, ← and_assoc, htaken, hreferences, hadds.accounts.mem_iff, List.mem_append]
  constructor
  · rintro ⟨hmem | hmem, hnot⟩
    · exact hmem
    · exact absurd hmem hnot
  · exact fun hmem => ⟨Or.inl hmem, fun hmem' => List.disjoint_of_nodup_append hdistinct hmem hmem'⟩

theorem nodup_parts {store after : Store} (h : Store.Extends document visited parts store after) :
    parts.Nodup := by
  obtain ⟨new, taken, hadds⟩ := h
  exact (hadds.accounts.nodup_iff.mp hadds.distinct).of_append_left

/-! ## Parts before the main declaration -/

/-- The declarations are those of parts, then the main one, then others. The names claimed for parts are those
of the types among the first, each one once; and such a name is that of only one type among all declarations
exactly if it is not the name of the main declaration, or of a type after it. -/
structure PartsDeclared (before after : Context) (declarations parts : List Declaration) (main : Declaration)
    (others : List Declaration) : Prop where
  order : declarations = parts ++ main :: others
  claimed_iff : ∀ name, before.ClaimedForPart after name ↔ name ∈ introduced parts
  distinct : (introduced parts).Nodup
  once_iff : ∀ name ∈ introduced parts, (introduced declarations).count name = 1 ↔
    name ≠ main.name ∧ name ∉ introduced others

theorem partsDeclared_of_extends {declarations parts others : List Declaration} {main : Declaration}
    (h : Store.Extends before.document visited (introduced parts) before.store after.store)
    (horder : declarations = parts ++ main :: others) (hmain : main.kind.isType = true) :
    before.PartsDeclared after declarations parts main others := by
  refine ⟨horder, fun name => claimedForPart_iff h, nodup_parts h, fun name hname => ?_⟩
  have hintroduced : introduced declarations = introduced parts ++ main.name :: introduced others := by
    rw [horder, introduced_append, introduced, introduced, introduced, types_cons hmain, List.map_cons]
  have honce : (introduced parts).count name = 1 := List.count_eq_one_of_mem (nodup_parts h) hname
  have hnone : name ∉ introduced others ↔ (introduced others).count name = 0 := List.count_eq_zero.symm
  rw [hintroduced, List.count_append, honce, List.count_cons, hnone]
  by_cases hown : main.name = name
  · simp [hown]
  · simp [hown, Ne.symm hown]

/-! ## Unions and composed types -/

end Context

/-- The main declaration of a composed type. -/
def Composition.main (composed : Composition) : Declaration :=
  ⟨composed.typeName, composed.mainKind, composed.content, composed.dependencies⟩

/-- What is declared after the main declaration of a composed type. -/
def Composition.derivations (composed : Composition) : List Declaration :=
  composed.utilityTypes.map (composed.derived .typeAlias) ++ composed.helpers.map (composed.derived .function)

namespace Context

variable {context : Context} {schema : Schema}

open LowerM.Gives in
/-- Nothing after the declaration of a union introduces a type. -/
theorem functions_lowerUnion (name : String) (schema : Schema) :
    (lowerUnion name schema).Gives fun lowered => types lowered.functions = [] := by
  refine LowerM.Ensures.withSegment placeless _ ?_
  cases unionMembersOf schema with
  | nil => exact last fun options => last fun _ => .pure rfl
  | cons member rest =>
    exact last fun source => last fun options => last fun lowered =>
      .pure (UnionDispatch.types_functions _ _)

/-- The members of a union that are neither written inline nor references are declared under the names that they
are written as. -/
theorem declared_members {lowered : LoweredUnion} (h : (context.run (lowerUnion name schema)).1 = .ok lowered) :
    ∀ member ∈ lowered.members, member.isInline = false → (∀ target, member.schema.kind ≠ .ref target) →
      member.typeName ∈ introduced lowered.memberDeclarations := by
  have hrun := runWith_of_run h
  intro member hmember hdeclared hreference
  cases hmembers : unionMembersOf schema with
  | nil =>
    rw [lowerUnion, runWith_withSegment, hmembers] at hrun
    obtain ⟨_, _, -, hrun⟩ := runWith_bind_eq_ok.mp hrun
    obtain ⟨_, _, -, hrun⟩ := runWith_bind_eq_ok.mp hrun
    cases congrArg Prod.fst hrun
    cases hmember
  | cons first rest =>
    obtain ⟨members, declarations, collected, hcollect, rfl, rfl, -⟩ := lowerUnion_eq_ok hmembers hrun
    obtain ⟨_, -, hspelled⟩ := (Spells.lowerMembers name _ _).collectDependencies _ _ hcollect
    obtain ⟨-, -, hover⟩ := hspelled _ (List.Subset.refl _)
    obtain ⟨own, hown, hwritten⟩ := hover member hmember
    refine List.map_subset _ (List.filter_subset _ hown) ?_
    show member.typeName ∈ introduced own
    rw [hwritten.declared hdeclared hreference]
    exact List.mem_singleton_self _

theorem introduced_derivations (composed : Composition) :
    introduced composed.derivations =
      composed.utilityTypes.map fun content => (declaredName? content).getD composed.typeName := by
  have hutilities : types (composed.utilityTypes.map (composed.derived .typeAlias)) =
      composed.utilityTypes.map (composed.derived .typeAlias) :=
    types_eq_self (List.forall_mem_map.mpr fun _ _ => rfl)
  have hhelpers : types (composed.helpers.map (composed.derived .function)) = [] :=
    types_eq_nil (List.forall_mem_map.mpr fun _ _ => rfl)
  rw [introduced, Composition.derivations, types_append, hutilities, hhelpers, List.append_nil, List.map_map]
  rfl

/-- What is declared along with a union or a composed type are its parts, under the names claimed for them, then
the type itself, then what is made of it. Each claimed name is that of one part, and of no other type but
possibly the main one or, for a composed type, a derived one. The text of the main declaration is written over
the names that references resolve to and the names of parts; and the members of a union that are neither
references nor inline are written as the names under which they are declared. -/
theorem parts_declared (context : Context) (name : String) (schema : Schema) :
    (∀ lowered, (context.run (lowerUnion name schema)).1 = .ok lowered →
      context.PartsDeclared (context.run (lowerUnion name schema)).2 lowered.declarations
        lowered.memberDeclarations lowered.declaration lowered.functions ∧
      introduced lowered.functions = [] ∧
      DeclarationOver ((context.run (lowerUnion name schema)).2.Names
        (unionDemands context.document context.options context.scope.depth schema) lowered.memberDeclarations)
        lowered.declaration.name lowered.declaration.content ∧
      ∀ member ∈ lowered.members, member.isInline = false → (∀ target, member.schema.kind ≠ .ref target) →
        member.typeName ∈ introduced lowered.memberDeclarations) ∧
    ∀ derive composed, (context.run (compose derive name schema)).1 = .ok composed →
      context.PartsDeclared (context.run (compose derive name schema)).2 composed.declarations
        composed.intermediates composed.main composed.derivations ∧
      introduced composed.derivations =
        composed.utilityTypes.map (fun content => (declaredName? content).getD composed.typeName) ∧
      DeclarationOver ((context.run (compose derive name schema)).2.Names
        (composeDemands context.document context.options context.scope.visited context.scope.depth schema)
        composed.intermediates) (composedName name schema) composed.content := by
  refine ⟨fun lowered h => ?_, fun derive composed h => ?_⟩
  · have hrun := runWith_of_run h
    have haccounts := accounts_lowerUnion hrun
    obtain ⟨hname, htype⟩ :=
      (gives_lowerUnion name schema _ context.store trivial).2 lowered (congrArg Prod.fst hrun)
    have hfunctions :=
      (functions_lowerUnion name schema _ context.store trivial).2 lowered (congrArg Prod.fst hrun)
    refine ⟨partsDeclared_of_extends haccounts.additions rfl htype, ?_, ?_, declared_members h⟩
    · rw [introduced, hfunctions, List.map_nil]
    · rw [hname, names_of_accounts haccounts]
      exact haccounts.written
  · have haccounts := accounts_compose (runWith_of_run h)
    refine ⟨partsDeclared_of_extends haccounts.additions rfl ?_, introduced_derivations composed, ?_⟩
    · show composed.mainKind.isType = true
      unfold Composition.mainKind
      split <;> rfl
    · rw [names_of_accounts haccounts]
      exact haccounts.written

/-- Two texts, or a third one. -/
def textsOrText : Schema :=
  { kind := .oneOf [
    { kind := .object { properties := ["first", "second", "third"].map fun name =>
      (name, { kind := .primitive .string }) } },
    { kind := .primitive .string }] }

/-- A box with one property, which is a union. -/
def unionBox (property : String) : Schema :=
  { kind := .object { properties := [(property, { kind := .oneOf [{ kind := .primitive .string }] })] } }

/-- The object in a union and the label of a box are declared, once each. -/
theorem parts_declared_of_label : ∃ document lowered composed,
    Document.ofJson (.obj [("$defs", .obj [])]) = .ok document ∧
    ((fresh document {}).run (lowerUnion "Pet" textsOrText)).1 = .ok lowered ∧
    (fresh document {}).ClaimedForPart ((fresh document {}).run (lowerUnion "Pet" textsOrText)).2
      "PetMember1" ∧
    (introduced lowered.declarations).count "PetMember1" = 1 ∧
    ((fresh document {}).run (compose true "Box" (unionBox "label"))).1 = .ok composed ∧
    (fresh document {}).ClaimedForPart ((fresh document {}).run (compose true "Box" (unionBox "label"))).2
      "BoxLabel" ∧
    (introduced composed.declarations).count "BoxLabel" = 1 := by
  have hrun : ((Document.ofJson (.obj [("$defs", .obj [])])).toOption.any fun document =>
      (((fresh document {}).run (lowerUnion "Pet" textsOrText)).1.toOption.any fun lowered =>
        (introduced lowered.memberDeclarations).contains "PetMember1" &&
          lowered.declaration.name != "PetMember1") &&
      ((fresh document {}).run (compose true "Box" (unionBox "label"))).1.toOption.any fun composed =>
        (introduced composed.intermediates).contains "BoxLabel" && (composed.main.name != "BoxLabel" &&
          !(introduced composed.derivations).contains "BoxLabel")) = true := by decide +kernel
  obtain ⟨document, hdocument, hrun⟩ := Decode.exists_ok_of_any hrun
  obtain ⟨hunion, hbox⟩ := Bool.and_eq_true_iff.mp hrun
  obtain ⟨lowered, hlowered, hmember⟩ := Decode.exists_ok_of_any hunion
  obtain ⟨composed, hcomposed, hlabel⟩ := Decode.exists_ok_of_any hbox
  simp only [Bool.and_eq_true, List.contains_iff_mem, bne_iff_ne, Bool.not_eq_true', ← Bool.not_eq_true]
    at hmember hlabel
  obtain ⟨hparts, hfunctions, -⟩ := (parts_declared (fresh document {}) "Pet" textsOrText).1 lowered hlowered
  obtain ⟨hparts', -⟩ :=
    (parts_declared (fresh document {}) "Box" (unionBox "label")).2 true composed hcomposed
  refine ⟨document, lowered, composed, hdocument, hlowered, (hparts.claimed_iff _).mpr hmember.1,
    (hparts.once_iff _ hmember.1).mpr ⟨Ne.symm hmember.2, ?_⟩, hcomposed,
    (hparts'.claimed_iff _).mpr hlabel.1,
    (hparts'.once_iff _ hlabel.1).mpr ⟨Ne.symm hlabel.2.1, hlabel.2.2⟩⟩
  rw [hfunctions]
  exact List.not_mem_nil

/-- A property with the name of the keys is declared under the name of the union of the keys. -/
theorem part_declared_twice : ∃ document composed,
    Document.ofJson (.obj [("$defs", .obj [])]) = .ok document ∧
    ((fresh document {}).run (compose true "Box" (unionBox "keys"))).1 = .ok composed ∧
    "BoxKeys" ∈ introduced composed.intermediates ∧
    (introduced composed.declarations).count "BoxKeys" = 2 := by
  have hrun : ((Document.ofJson (.obj [("$defs", .obj [])])).toOption.any fun document =>
      ((fresh document {}).run (compose true "Box" (unionBox "keys"))).1.toOption.any fun composed =>
        (introduced composed.intermediates).contains "BoxKeys" &&
          (introduced composed.declarations).count "BoxKeys" == 2) = true := by decide +kernel
  obtain ⟨document, hdocument, hrun⟩ := Decode.exists_ok_of_any hrun
  obtain ⟨composed, hcomposed, hkeys⟩ := Decode.exists_ok_of_any hrun
  simp only [Bool.and_eq_true, List.contains_iff_mem, beq_iff_eq] at hkeys
  exact ⟨document, composed, hdocument, hcomposed, hkeys⟩

end Context

end SchemaTypings
