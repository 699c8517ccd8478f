import SchemaTypings.Proofs.Lowering.Spells

/-!
# Parts are declared

A union or a composition claims a name for each part that it declares on its own: a name that is made of the
owner's type name and something in ASCII, and so is its own type name. The part is declared under that very name,
and it is this name that the text of the union or of the composition is written with, beside the names of
references (`Spells.lowerMembers`, `Spells.composeBody`). The parts of parts are declared with them: so the names
claimed for parts are those of the types among the declarations, no more and no less (`Spells.compose`,
`Spells.declare`).
-/

namespace SchemaTypings

open LowerM Lowering Typing

variable {document : Document} {options : Options} {visited : List String}

/-! ## Members of unions -/

namespace Lowering

/-- The member is written over the names of the dependencies and of the types declared for it; and if it is
declared on its own, then it is written as the name of that type. -/
structure MemberOver (dependencies : List String) (lowered : UnionMember × List Declaration) : Prop where
  written : WrittenOver (Known dependencies (introduced lowered.2)) lowered.1.typeName
  declared : lowered.1.isInline = false → (∀ target, lowered.1.schema.kind ≠ .ref target) →
    introduced lowered.2 = [lowered.1.typeName]

end Lowering

namespace Spells

open LowerM.Spells

theorem referenceMember (target : String) (value : Option Json) {member : Schema}
    (hmember : member.kind = .ref target) :
    (referenceMember target value member).Spells document options visited
      fun dependencies parts lowered => parts = introduced lowered.2 ∧ MemberOver dependencies lowered := by
  refine (referenceName target).bind fun name => .pure ?_
  rintro dependencies _ ⟨rfl, hname⟩
  exact ⟨rfl, .name (Or.inl hname), fun _ hreference => absurd hmember (hreference target)⟩

theorem inlineMember (tag : String) (value : Option Json) (member : Schema) :
    (inlineMember tag value member).Spells document options visited
      fun dependencies parts lowered => parts = introduced lowered.2 ∧ MemberOver dependencies lowered := by
  refine (typeExpression member).bind fun text => .pure ?_
  rintro dependencies _ ⟨rfl, hwritten⟩
  refine ⟨rfl, hwritten.mono fun _ => Or.inl, ?_⟩
  rintro ⟨⟩

/-- A member that is declared on its own. -/
theorem declaredMember {base : String} (hbase : base.toList.all Text.isAscii = true)
    (value : Option Json) (member : Schema) {declare : String → LowerM (List Declaration)}
    (hpartless : ∀ name, (declare name).Spells document options visited fun _ parts _ => parts = [])
    (hintroduces : ∀ name, (declare name).Gives fun declarations =>
      Introduces (Name.pascal name) declarations [] []) :
    (declaredMember base value member declare).Spells document options visited
      fun dependencies parts lowered => parts = introduced lowered.2 ∧ MemberOver dependencies lowered := by
  refine claimThen hbase fun name hname => ?_
  refine ((hpartless name).ensuring (Over.of_gives (hintroduces name))).bind fun declarations => .pure ?_
  rintro dependencies _ ⟨rfl, main, hmain, htypes⟩
  have hintroduced : introduced declarations = [name] := by
    rw [introduced, htypes, types_nil, List.nil_append, List.map_singleton, hmain, hname]
  refine ⟨hintroduced.symm, ?_, fun _ _ => hintroduced⟩
  exact .name (Or.inr (hintroduced ▸ List.mem_singleton_self name))

theorem lowerMember (union : String) (discriminator : Option ResolvedDiscriminator) (index : Nat)
    (member : Schema) :
    (lowerMember (Name.pascal union) discriminator index member).Spells document options visited
      fun dependencies parts lowered => parts = introduced lowered.2 ∧ MemberOver dependencies lowered := by
  refine LowerM.Spells.lowerMember fun step hform => ?_
  cases hform with
  | reference target info => exact referenceMember target _ rfl
  | inline => exact inlineMember _ _ member
  | interface shape info =>
    exact declaredMember (Attribution.isAscii_valueMemberName union index _) _ _
      (fun name => declareInterface name _) fun name => introduces_declareInterface name _
  | typeAlias =>
    exact declaredMember (Attribution.isAscii_memberName union index) none member
      (fun name => .map (lowerAlias name member)) fun name => .map (introduces_lowerAlias name member)

theorem lowerMembers (union : String) (discriminator : Option ResolvedDiscriminator)
    (members : List Schema) :
    (lowerMembers (Name.pascal union) discriminator members).Spells document options visited
      fun dependencies parts lowered => parts = introduced lowered.2 ∧
        ∀ member ∈ lowered.1, ∃ declarations, declarations ⊆ lowered.2 ∧
          MemberOver dependencies (member, declarations) := by
  refine (LowerM.Spells.mapM fun item _ => lowerMember union discriminator item.2 item.1).bind fun lowered =>
    .pure ?_
  rintro dependencies _ ⟨rfl, hlowered⟩
  refine ⟨by simp [introduced_flatMap], fun member hmember => ?_⟩
  obtain ⟨found, hfound, rfl⟩ := List.mem_map.mp hmember
  exact ⟨found.2, fun _ hdeclaration => List.mem_flatMap.mpr ⟨found, hfound, hdeclaration⟩,
    hlowered found hfound⟩

theorem lowerUnion (name : String) (schema : Schema) :
    (lowerUnion name schema).Spells document options visited
      fun _ parts lowered => parts = introduced lowered.memberDeclarations := by
  refine withSegment _ ?_
  cases unionMembersOf schema with
  | nil =>
    refine readOptions ((LowerM.Spells.degenerate _ _).bind fun _ => .pure ?_)
    rintro _ _ rfl
    rfl
  | cons member rest =>
    refine readDocument (readOptions ?_)
    refine (collectDependencies (lowerMembers name _ _)).bind fun collected => .pure ?_
    rintro dependencies _ ⟨-, rfl, -⟩
    simp

end Spells

/-! ## Compositions -/

/-- The types of the parts of a composition have the claimed names, and what it says to lead back is depended
on. -/
structure Composition.Declares (dependencies claimed : List String) (composed : Composition) : Prop where
  parts : claimed.Perm (introduced composed.intermediates)
  circularRefs : composed.circularRefs ⊆ dependencies

namespace CompositionParts

variable {start between final : CompositionParts} {claimed more dependencies : List String}

/-- The parts are continued by declarations that introduce the types of the claimed names, and by references
that are depended on. -/
structure Gains (dependencies : List String) (start final : CompositionParts) (claimed : List String) :
    Prop where
  intermediates : ∃ new, final.intermediates = start.intermediates ++ new ∧ claimed.Perm (introduced new)
  circularRefs : ∀ name ∈ final.circularRefs, name ∈ start.circularRefs ∨ name ∈ dependencies

/-- The name is that of a dependency, or of the type of a part. -/
def Knows (dependencies : List String) (parts : CompositionParts) : String → Prop :=
  Known dependencies (introduced parts.intermediates)

theorem Gains.refl (parts : CompositionParts) : Gains dependencies parts parts [] :=
  ⟨⟨[], (List.append_nil _).symm, List.Perm.refl []⟩, fun _ => Or.inl⟩

theorem Gains.trans (h : Gains dependencies start between claimed)
    (h' : Gains dependencies between final more) : Gains dependencies start final (claimed ++ more) := by
  obtain ⟨new, hbetween, hclaimed⟩ := h.intermediates
  obtain ⟨new', hfinal, hmore⟩ := h'.intermediates
  refine ⟨⟨new ++ new', by rw [hfinal, hbetween, List.append_assoc], ?_⟩, fun name hname => ?_⟩
  · rw [introduced_append]
    exact hclaimed.append hmore
  · rcases h'.circularRefs name hname with hname | hname
    · exact h.circularRefs name hname
    · exact Or.inr hname

/-- A reference that leads back is depended on. -/
theorem Gains.addCircular {name : String} (parts : CompositionParts) (h : name ∈ dependencies) :
    Gains dependencies parts (parts.addCircular name) [] := by
  refine ⟨⟨[], (List.append_nil _).symm, List.Perm.refl []⟩, fun other hother => ?_⟩
  rcases mem_addName.mp hother with hother | rfl
  · exact Or.inl hother
  · exact Or.inr h

/-- A part that is declared under a name, with its own parts. -/
theorem Gains.absorb {nested : Composition} {name : String} (parts : CompositionParts)
    (h : nested.Declares dependencies claimed)
    (hintroduced : introduced nested.declarations = introduced nested.intermediates ++ [name]) :
    Gains dependencies parts (parts.absorb nested) (name :: claimed) := by
  refine ⟨⟨nested.declarations, rfl, ?_⟩, fun other hother => ?_⟩
  · rw [hintroduced]
    exact (h.parts.cons name).trans (List.perm_append_singleton name _).symm
  · exact (mem_foldl_addName.mp hother).imp_right fun hmem => h.circularRefs hmem

/-- All parts are gained from none. -/
theorem Gains.perm (h : Gains dependencies {} final claimed) :
    claimed.Perm (introduced final.intermediates) := by
  obtain ⟨new, hfinal, hclaimed⟩ := h.intermediates
  exact (congrArg introduced hfinal) ▸ hclaimed

/-- What is written with the parts so far is written with the later ones. -/
theorem Gains.written (h : Gains dependencies start final claimed) {text : String}
    (hwritten : WrittenOver (start.Knows dependencies) text) :
    WrittenOver (final.Knows dependencies) text := by
  obtain ⟨new, hfinal, -⟩ := h.intermediates
  refine hwritten.mono fun name hname => hname.imp_right fun hmem => ?_
  rw [hfinal, introduced_append]
  exact List.mem_append_left _ hmem

end CompositionParts

namespace Spells

open LowerM.Spells

theorem composeReference (target : String) (parts : CompositionParts) :
    (composeReference target parts).Spells document options visited fun dependencies claimed named =>
      CompositionParts.Gains dependencies parts named.2 claimed ∧
        WrittenOver (named.2.Knows dependencies) named.1 := by
  refine (resolveReference target).bind fun resolution => ?_
  split
  · refine .pure ?_
    rintro dependencies _ ⟨rfl, hname⟩
    exact ⟨.refl _, .name (Or.inl hname)⟩
  · refine readOptions ?_
    cases options.composition.circularRefs with
    | error => exact refuse fun scope => .circular target scope.pathText
    | marker =>
      refine .pure ?_
      rintro dependencies _ ⟨rfl, hname⟩
      exact ⟨.addCircular parts hname, .name (Or.inl hname)⟩

theorem composeUnion (derive : Bool) (name : String) (schema : Schema) :
    (composeUnion derive (Name.pascal name) schema).Spells document options visited
      fun dependencies claimed composed => composed.Declares dependencies claimed ∧
        composed.typeName = Name.pascal name ∧ (derive = false → composed.utilityTypes = []) := by
  refine (lowerUnion (Name.pascal name) schema).bind fun lowered => readDocument (readOptions (.pure ?_))
  rintro dependencies _ rfl
  rw [List.append_nil]
  refine ⟨⟨List.Perm.refl _, List.nil_subset _⟩, rfl, ?_⟩
  rintro rfl
  simp [utilityTypesFor]

/-- At each site of a composition, the types that come to the parts have the names that are claimed there. -/
theorem compositionSound : CompositionLogic.Sound
    { holds := fun _ {_} step _ post => step.Spells document options visited post
      claims := fun name => Name.pascal name = name
      writes := fun dependencies parts => WrittenOver (parts.Knows dependencies)
      adds := fun _ start dependencies claimed final => CompositionParts.Gains dependencies start final claimed
      declares := fun derive name _ dependencies claimed composed => composed.Declares dependencies claimed ∧
        composed.typeName = Name.pascal name ∧ (derive = false → composed.utilityTypes = []) }
    document options visited where
  pure := .pure
  bind := .bind
  readOptions := readOptions
  withSegment := withSegment
  descend := descend
  claimThen hbase hnext := claimThen hbase hnext
  names _ := trivial
  child _ _ := trivial
  top := .top
  intersection := .intersection
  arrayOf := .arrayOf options
  later hgains := hgains.written
  refl := .refl
  trans := .trans
  typeExpression _ := (typeExpression _).mono fun _ _ _ ⟨hclaimed, hwritten⟩ =>
    ⟨hclaimed, fun _ => hwritten.mono fun _ => Or.inl⟩
  indexValue _ := (indexValue _ _).mono fun _ _ _ ⟨hclaimed, hwritten⟩ =>
    ⟨hclaimed, fun value hvalue _ => (hwritten value hvalue).mono fun _ => Or.inl⟩
  reference parts _ := (composeReference _ parts).mono fun _ _ _ hnamed => ⟨hnamed.1, hnamed.2⟩
  union derive {_ name schema} _ _ _ := composeUnion derive name schema
  absorb {name sites dependencies claimed nested} parts hname hnested := by
    obtain ⟨hclaimed, htypeName, hutilities⟩ := hnested
    have hintroduced : introduced nested.declarations = introduced nested.intermediates ++ [name] := by
      obtain ⟨main, hmain, htypes⟩ := nested.introduces
      rw [introduced, htypes, hutilities rfl, List.map_append, List.map_cons, hmain, htypeName, hname]
      rfl
    refine ⟨.absorb parts hclaimed hintroduced, .name (Or.inr ?_)⟩
    simp [CompositionParts.absorb, hintroduced]
  assembled derive {_ name kind info sites step demands} _ _ hstep := by
    refine (collectDependencies hstep).bind fun collected => readDocument (readOptions (.pure ?_))
    rintro dependencies claimed ⟨hcollected, hgains, -⟩
    rw [List.append_nil]
    refine ⟨⟨hgains.perm, fun name hname => hcollected ?_⟩, rfl, ?_⟩
    · exact (hgains.circularRefs name hname).resolve_left List.not_mem_nil
    · rintro rfl
      simp [assemble, utilityTypesFor]

theorem compose (derive : Bool) (name : String) (schema : Schema) :
    (compose derive name schema).Spells document options visited Composition.Declares := by
  have hcomposed : (Lowering.compose derive name schema).Spells document options visited _ :=
    compositionSound.compose 0 derive trivial trivial
  exact hcomposed.mono fun _ _ _ hdeclares => hdeclares.1

/-- The body of a composed type is written over the names of its parts and of what is depended on. -/
theorem composeBody (name : String) (info : SchemaInfo) (kind : SchemaKind Schema) :
    (composeBody (Name.pascal name) info kind).Spells document options visited
      fun dependencies claimed composed => CompositionParts.Gains dependencies {} composed.2 claimed ∧
        BodyWrites options (WrittenOver (composed.2.Knows dependencies)) composed.1 := by
  obtain ⟨_, -, hbody⟩ := compositionSound.composeBody 0 name trivial fun child _ part _ =>
    compositionSound.compose 1 false trivial trivial
  exact LowerM.Spells.mono hbody fun _ _ _ hcomposed => ⟨hcomposed.adds, hcomposed.written.2⟩

/-! ## Named schemas -/

/-- What the names of a step are claimed for are the parts among its declarations. -/
theorem introducing {α : Type} {step : LowerM α} {declarations parts : α → List Declaration} {name : String}
    {derived : List Declaration}
    (hclaims : step.Spells document options visited fun _ claimed value => claimed.Perm (introduced (parts value)))
    (hintroduces : step.Ensures (Over document options) fun value =>
      Introduces name (declarations value) (parts value) derived) :
    (declarations <$> step).Spells document options visited fun _ claimed given =>
      ∃ parts, claimed.Perm (introduced parts) ∧ Introduces name given parts derived :=
  .map ((hclaims.ensuring hintroduces).mono fun _ _ value hvalue => ⟨parts value, hvalue⟩)

/-- The types that a named schema declares are those of its parts, under the names claimed for them, then its
own, then those derived from it. -/
theorem declare (entry : NamedSchema) :
    (declare (Name.pascal entry.name) entry.schema).Spells document options visited
      fun _ claimed declarations => ∃ parts, claimed.Perm (introduced parts) ∧
        Introduces entry.typeName declarations parts (entry.derivedTypes document options) := by
  have hpartless : ∀ {α : Type} {step : LowerM α}, (step.Spells document options visited fun _ parts _ =>
      parts = []) → step.Spells document options visited fun _ claimed _ => claimed.Perm (introduced []) :=
    fun hstep => hstep.mono fun _ _ _ hnone => hnone ▸ List.Perm.refl _
  unfold Lowering.declare NamedSchema.derivedTypes
  generalize htypeName : Name.pascal entry.name = name
  have hname : entry.typeName = Name.pascal name := htypeName ▸ rfl
  rw [hname]
  cases hoperation : Operation.select entry.schema with
  | enum =>
    exact introducing (hpartless (lowerEnum name entry.schema))
      (Over.of_gives (introduces_lowerEnum name entry.schema))
  | union =>
    exact introducing ((lowerUnion name entry.schema).mono fun _ _ _ hclaimed => hclaimed ▸ List.Perm.refl _)
      (Over.of_gives (introduces_lowerUnion name entry.schema))
  | compose =>
    refine introducing ((compose true name entry.schema).mono fun _ _ _ hdeclares => hdeclares.parts)
      fun setting store hover => ⟨hover, fun composed hcomposed => ?_⟩
    have htype := (gives_compose true name entry.schema setting store trivial).2 composed hcomposed
    have hutilities := (utilityTypes_compose true name entry.schema setting store hover).2 composed hcomposed
    have hderived : composed.derived .typeAlias = fun content =>
        ⟨(declaredName? content).getD (Name.pascal name), .typeAlias, content, [Name.pascal name]⟩ := by
      rw [← htype]
      rfl
    have hintroduces := composed.introduces
    rw [htype, hutilities, hderived] at hintroduces
    exact hintroduces
  | interface =>
    have hinterface : (id <$> Lowering.declareInterface name entry.schema).Spells document options visited _ :=
      introducing (hpartless (declareInterface name entry.schema))
        (Over.of_gives (introduces_declareInterface name entry.schema))
    rwa [id_map] at hinterface
  | _ =>
    exact introducing (hpartless (lowerAlias name entry.schema))
      (Over.of_gives (introduces_lowerAlias name entry.schema))

end Spells

/-- What is declared for a named schema leaves names claimed, and if it succeeds, those of its parts come to
them. -/
theorem Lowering.introduces_declare {raw : Json} (h : Document.ofJson raw = .ok document) (options : Options)
    (entry : NamedSchema) (path visited : List String) (depth : Nat) {store : Store} {claimed : List String}
    (hclaimed : store.Claimed document claimed) :
    let run := (declare (Name.pascal entry.name) entry.schema).runWith
      (.within document options path visited depth) store
    run.2.Claimed document claimed ∧ ∀ declarations, run.1 = .ok declarations →
      ∃ parts, Typing.Introduces entry.typeName declarations parts (entry.derivedTypes document options) ∧
        run.2.Claimed document (introduced parts ++ claimed) := by
  refine ⟨(rules_staysClaimed h options).declare _ entry.schema (fun _ _ => trivial) path store claimed hclaimed,
    fun declarations hdeclarations => ?_⟩
  obtain ⟨names, hadvances, hspelled⟩ := Spells.declare entry path depth (Prod.ext hdeclarations rfl)
  obtain ⟨parts, hnames, hintroduces⟩ := hspelled _ (List.Subset.refl _)
  exact ⟨parts, hintroduces, (hadvances.perm hnames).claimed h hclaimed⟩

end SchemaTypings
