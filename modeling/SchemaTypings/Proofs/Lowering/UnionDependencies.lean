import SchemaTypings.Proofs.Lowering.Attribution
import SchemaTypings.Proofs.Lowering.OwnName

/-!
# What objects, enumerations and unions depend on

The declarations of an object, and an alias, depend on what is allowed, and have allowed names themselves.
Two names are written that belong to no reference: that for the values of an enumeration, and `Date`, if a
member of a union is a date, which the functions about the union depend on like on a type that is
declared.
-/

namespace SchemaTypings

open LowerM Lowering Typing

/-! ## Declarations -/

/-- What the declaration depends on is allowed, and so is its own name. -/
structure Typing.Declaration.Attributed (allowed : String → Prop) (declaration : Declaration) :
    Prop where
  name : allowed declaration.name
  dependencies : ∀ name ∈ declaration.dependencies, allowed name

namespace Typing.EnumText

variable (text : EnumText) {declaration : Declaration} {name : String}

theorem depends_declarations {strategy : EnumStrategy} {info : SchemaInfo}
    (h : declaration ∈ (text.declarations strategy info).1 :: (text.declarations strategy info).2)
    (hname : name ∈ declaration.dependencies) : name = text.name ∨ name = text.valuesName := by
  cases strategy <;>
    simp only [declarations, literalUnion, enumBlock, constTuple, branded, valueMap, about,
      List.mem_cons, List.not_mem_nil, or_false] at h
  case const =>
    rcases h with rfl | rfl | rfl
    · exact Or.inr (List.mem_singleton.mp hname)
    · cases hname
    · exact Or.inl (List.mem_singleton.mp hname)
  case enum =>
    rw [h] at hname
    cases hname
  all_goals
    rcases h with rfl | rfl
    · cases hname
    · exact Or.inl (List.mem_singleton.mp hname)

theorem depends_helpers {options : EnumOptions} {strategy : EnumStrategy} {default? : Option Json}
    (h : declaration ∈ text.helpers options strategy default?) :
    declaration.dependencies = [text.name] := by
  unfold helpers at h
  simp only [List.mem_append, List.mem_ite_nil_right, List.mem_ite_nil_left, List.mem_cons,
    List.not_mem_nil, or_false] at h
  rcases h with ⟨-, (⟨-, rfl⟩ | rfl | rfl | rfl) | ⟨-, rfl⟩⟩ | ⟨-, rfl⟩ <;> rfl

theorem depends_mappings (h : declaration ∈ text.mappings) :
    declaration.dependencies = [text.name] := by
  simp only [mappings, List.mem_cons, List.not_mem_nil, or_false] at h
  rcases h with rfl | rfl <;> rfl

end Typing.EnumText

/-- Every function about a union depends on it and on its members. -/
theorem UnionDispatch.depends_functions (dispatch : UnionDispatch) {options : UnionOptions}
    {declaration : Declaration} (h : declaration ∈ dispatch.functions options) :
    declaration.dependencies =
      ((dispatch.members.map (·.typeName)).filter Name.isIdentifier).foldl addName [dispatch.name] := by
  unfold functions at h
  simp only [List.mem_append, List.mem_ite_nil_right, List.mem_map, List.mem_cons, List.not_mem_nil,
    or_false] at h
  rcases h with (⟨-, member, -, rfl⟩ | ⟨-, rfl | rfl⟩) | ⟨-, rfl⟩ <;> rfl

namespace Validation

variable {options : Options} {typeName : String} {properties : List Property}
  {declaration : Declaration}

theorem validator?_eq_some
    (h : validator? options.exportWord typeName properties = some declaration) :
    declaration.dependencies = [typeName] ∧ Name.beginsSmall declaration.name = true := by
  unfold validator? at h
  split at h
  · cases h
  · cases h
    refine ⟨rfl, ?_⟩
    simp [Name.beginsSmall, toString]

/-- The text of a validator declares a function whose name begins with a small letter. -/
theorem declaredName?_validator
    (h : validator? options.exportWord typeName properties = some declaration) {name : String}
    (hname : declaredName? declaration.content = some name) : Name.beginsSmall name = true := by
  have hcontent : ∃ rest, declaration.content.toList =
      options.exportWord.toList ++ ("function v".toList ++ rest) := by
    unfold validator? at h
    split at h
    · cases h
    · cases h
      simp only [toString, String.toList_append, List.append_assoc, List.append_cancel_left_eq]
      exact ⟨"alidate".toList ++ _, rfl⟩
  obtain ⟨rest, hrest⟩ := hcontent
  have hdeclared : declaredNameFrom false (options.exportWord.toList ++ ("function v".toList ++ rest)) =
      some ('v' :: rest.takeWhile Name.continuesIdentifier) := by
    unfold Options.exportWord
    split <;> rfl
  rw [declaredName?, hrest, hdeclared] at hname
  cases hname
  simp [Name.beginsSmall]

end Validation

namespace Attribution

variable {raw : Json} {document : Document} {own : String} {allowed : String → Prop}
  (h : Attribution raw document own allowed) {schema : Schema}

include h

/-! ## Types -/

theorem referenceName {reference : String}
    (hnamed : document.isNamed reference → allowed (Name.ofReference reference)) :
    (referenceName reference).Ensures (Declaring document own allowed) allowed :=
  .map (h.resolveReference hnamed)

theorem typeExpression (hschema : schema.Allowed document allowed) :
    (typeExpression schema).Ensures (Declaring document own allowed)
      (Name.IfIdentifier fun name => allowed name ∨ name = "Date") := by
  refine ensures_typeOf Declaring.placeless h.words.closed ?_
  intro reference hmention
  exact (h.referenceName (hschema reference hmention)).mono fun _ hname _ => Or.inl hname

theorem describe (hschema : schema.Allowed document allowed) :
    (describe schema).Ensures (Declaring document own allowed) fun _ => True :=
  (h.typeExpression hschema).bind fun _ _ => .pure trivial

/-! ## Objects and aliases -/

theorem lowerShape {shape : ObjectShape Schema}
    (hshape : ∀ child ∈ shape.schemas, child.Allowed document allowed) :
    (lowerShape shape).Ensures (Declaring document own allowed) fun _ => True := by
  have hproperty : ∀ property ∈ shape.properties,
      (lowerProperty shape property.1 property.2).Ensures (Declaring document own allowed)
        fun _ => True := by
    intro property hmem
    have hchild := hshape property.2 (List.mem_append_left _ (List.mem_map_of_mem hmem))
    apply (Ensures.withSegment Declaring.placeless property.1 (h.describe hchild)).bind
    intro descriptor _
    exact .readOptions fun options => .pure trivial
  have hindex : (lowerIndex shape).Ensures (Declaring document own allowed) fun _ => True :=
    (ensures_indexValue Declaring.placeless h.words.closed fun child hchild =>
      h.typeExpression (hshape child (List.mem_append_right _ hchild))).mono fun _ _ => trivial
  apply (Ensures.mapM hproperty).bind
  intro properties _
  apply hindex.bind
  intro index _
  exact .pure trivial

theorem lowerInterface (name : String) (hschema : schema.Allowed document allowed) :
    (lowerInterface name schema).Ensures (Declaring document own allowed) fun lowered =>
      lowered.name = Name.pascal name ∧ lowered.declaration.name = Name.pascal name ∧
        ∀ other ∈ lowered.declaration.dependencies, allowed other := by
  have hshape : (Lowering.lowerShape (objectShapeOf schema)).Ensures (Declaring document own allowed)
      fun _ => True := by
    apply h.lowerShape
    intro child hchild
    obtain ⟨kind, info⟩ := schema
    cases kind with
    | object shape => exact hschema.child hchild
    | _ => cases hchild
  apply (Ensures.withSegment Declaring.placeless _ (collectDependencies hshape)).bind
  rintro ⟨⟨properties, index⟩, dependencies⟩ ⟨-, hdependencies⟩
  apply Ensures.readOptions
  intro options
  refine .pure ⟨rfl, (introduces_interfaceDeclaration _ _ _ _ _ _).1, ?_⟩
  intro other hother
  have hmem : other ∈ dependencies.filter (· != Name.pascal name) := by
    unfold interfaceDeclaration at hother
    split at hother <;> exact hother
  exact hdependencies other (List.mem_of_mem_filter hmem)

theorem declareInterface {name : String} (hname : allowed (Name.pascal name))
    (hschema : schema.Allowed document allowed) :
    (declareInterface name schema).Ensures (Declaring document own allowed) fun declarations =>
      ∀ declaration ∈ declarations, declaration.Attributed allowed := by
  apply (h.lowerInterface name hschema).bind
  rintro lowered ⟨hlowered, hdeclared, hdependencies⟩
  apply Ensures.readOptions
  intro options
  apply Ensures.pure
  intro declaration hdeclaration
  rcases List.mem_append.mp hdeclaration with hmem | hmem
  · obtain rfl := List.mem_singleton.mp hmem
    exact ⟨hdeclared ▸ hname, hdependencies⟩
  · obtain ⟨hvalidator, hsmall⟩ := Validation.validator?_eq_some (Option.mem_toList.mp hmem)
    refine ⟨h.small hsmall, ?_⟩
    intro other hother
    rw [hvalidator, List.mem_singleton, hlowered] at hother
    exact hother ▸ hname

theorem lowerAlias {name : String} (hname : allowed (Name.pascal name))
    (hschema : schema.Allowed document allowed) :
    (lowerAlias name schema).Ensures (Declaring document own allowed) fun declaration =>
      declaration.Attributed allowed := by
  have hdescribe := Attribution.collectDependencies (h.describe hschema)
  apply (Ensures.withSegment Declaring.placeless _ hdescribe).bind
  rintro ⟨descriptor, dependencies⟩ ⟨-, hdependencies⟩
  apply Ensures.readOptions
  intro options
  refine .pure ⟨hname, ?_⟩
  intro other hother
  exact hdependencies other (List.mem_of_mem_filter hother)

omit h in
theorem lowerEnum (name : String) (schema : Schema) :
    (lowerEnum name schema).Ensures (Declaring document own allowed) fun lowered =>
      ∀ declaration ∈ lowered.declarations, ∀ other ∈ declaration.dependencies,
        other = Name.pascal name ∨ other = Name.pascal name ++ "Values" := by
  apply Ensures.lowerEnum Declaring.placeless
  · intro setting store _
    simp [LoweredEnum.declarations, bottomAlias]
  · intro setting store _ strategy declaration hdeclaration other hother
    rcases List.mem_cons.mp hdeclaration with hmem | hmem
    · exact EnumText.depends_declarations _ (List.mem_cons.mpr (Or.inl hmem)) hother
    · simp only [EnumText.lowered, List.mem_append, List.mem_ite_nil_right] at hmem
      rcases hmem with (hmem | hmem) | ⟨-, hmem⟩
      · exact EnumText.depends_declarations _ (List.mem_cons_of_mem _ hmem) hother
      · rw [EnumText.depends_helpers _ hmem] at hother
        exact Or.inl (List.mem_singleton.mp hother)
      · rw [EnumText.depends_mappings _ hmem] at hother
        exact Or.inl (List.mem_singleton.mp hother)

/-! ## Unions -/

omit h in
theorem isAscii_memberName (name : String) (index : Nat) :
    (memberName (Name.pascal name) index).toList.all Text.isAscii = true := by
  simp only [memberName, toString, String.toList_append, List.all_append, Name.all_isAscii_pascal,
    Name.all_isAscii_repr, Bool.and_true, Bool.true_and]
  decide

omit h in
theorem isAscii_valueMemberName (name : String) (index : Nat) (value : Option Json) :
    (valueMemberName (Name.pascal name) index value).toList.all Text.isAscii = true := by
  cases value with
  | none => exact isAscii_memberName name index
  | some value =>
    simp only [valueMemberName, toString, String.toList_append, List.all_append,
      Name.all_isAscii_pascal, Bool.and_true]

end Attribution

/-- The type of the member is an allowed name or `Date`, if it is an identifier at all, and what it
declares is attributed. -/
structure UnionMember.Attributed (allowed : String → Prop)
    (lowered : UnionMember × List Declaration) : Prop where
  type : Name.IfIdentifier (fun name => allowed name ∨ name = "Date") lowered.1.typeName
  declarations : ∀ declaration ∈ lowered.2, declaration.Attributed allowed

/-- What the members declare is attributed, and the union depends on what is allowed; the functions
about it depend on the union besides, and may on `Date`. -/
structure LoweredUnion.Attributed (allowed : String → Prop) (lowered : LoweredUnion) : Prop where
  members : ∀ declaration ∈ lowered.memberDeclarations, declaration.Attributed allowed
  union : ∀ name ∈ lowered.declaration.dependencies, allowed name
  functions : ∀ declaration ∈ lowered.functions, ∀ name ∈ declaration.dependencies,
    name = lowered.name ∨ allowed name ∨ name = "Date"

namespace Attribution

variable {raw : Json} {document : Document} {own : String} {allowed : String → Prop}
  (h : Attribution raw document own allowed) {member : Schema}

include h

/-- A member that is declared on its own has a name of its own, which is allowed. -/
theorem declaredMember {base : String} (hbase : base.toList.all Text.isAscii = true) (value : Option Json)
    {declare : String → LowerM (List Declaration)}
    (hdeclare : ∀ name, allowed (Name.pascal name) →
      (declare name).Ensures (Declaring document own allowed) fun declarations =>
        ∀ declaration ∈ declarations, declaration.Attributed allowed) :
    (declaredMember base value member declare).Ensures (Declaring document own allowed)
      (UnionMember.Attributed allowed) := by
  apply (h.claimName hbase).bind
  rintro part ⟨hsettled, hpart⟩
  apply (hdeclare part (hsettled.symm ▸ hpart)).bind
  intro declarations hdeclarations
  exact .pure ⟨fun _ => Or.inl hpart, hdeclarations⟩

theorem lowerMember (name : String) (discriminator : Option ResolvedDiscriminator) (index : Nat)
    (hmember : member.Allowed document allowed) :
    (lowerMember (Name.pascal name) discriminator index member).Ensures (Declaring document own allowed)
      (UnionMember.Attributed allowed) := by
  refine Ensures.lowerMember Declaring.placeless fun _ _ _ step hform => ?_
  cases hform with
  | reference target info =>
    apply (h.referenceName hmember.target).bind
    intro part hpart
    exact .pure ⟨fun _ => Or.inl hpart, by simp⟩
  | inline =>
    apply (h.typeExpression hmember).bind
    intro type htype
    exact .pure ⟨htype, by simp⟩
  | interface shape info =>
    have hpinned : (pinnedMember discriminator (⟨.object shape, info⟩, index)).Allowed document allowed := by
      cases discriminator with
      | none => exact hmember
      | some found =>
        dsimp only [pinnedMember]
        cases (found.values[index]?).join with
        | none => exact hmember
        | some value => exact hmember.pin found.property value
    exact h.declaredMember (isAscii_valueMemberName name index _) _ fun part hpart =>
      h.declareInterface hpart hpinned
  | typeAlias =>
    refine h.declaredMember (isAscii_memberName name index) none fun part hpart => ?_
    refine .map ((h.lowerAlias hpart hmember).mono fun declaration hdeclaration other hother => ?_)
    rwa [List.mem_singleton.mp hother]

theorem lowerMembers (name : String) (discriminator : Option ResolvedDiscriminator)
    {members : List Schema} (hmembers : ∀ member ∈ members, member.Allowed document allowed) :
    (lowerMembers (Name.pascal name) discriminator members).Ensures (Declaring document own allowed)
      fun lowered =>
        (∀ member ∈ lowered.1,
          Name.IfIdentifier (fun name => allowed name ∨ name = "Date") member.typeName) ∧
        ∀ declaration ∈ lowered.2, declaration.Attributed allowed := by
  refine Ensures.lowerMembers_each fun item hitem => ?_
  have hallowed := hmembers item.1 (List.fst_mem_of_mem_zipIdx hitem)
  exact (h.lowerMember name discriminator item.2 hallowed).mono fun _ hmember =>
    ⟨hmember.type, hmember.declarations⟩

theorem lowerUnion (name : String) {schema : Schema} (hschema : schema.Allowed document allowed) :
    (lowerUnion name schema).Ensures (Declaring document own allowed) fun lowered =>
      lowered.name = Name.pascal name ∧ lowered.Attributed allowed := by
  have hmembers : ∀ member ∈ unionMembersOf schema, member.Allowed document allowed := by
    intro member hmember
    obtain ⟨kind, info⟩ := schema
    cases kind with
    | oneOf members | anyOf members => exact hschema.child hmember
    | _ => cases hmember
  apply Ensures.lowerUnion Declaring.placeless
  · intro _ options
    exact ⟨rfl, by simp, by simp [bottomAlias], by simp⟩
  · intro _
    apply Ensures.readDocument
    intro source
    apply Ensures.readOptions
    intro options
    apply (Attribution.collectDependencies (h.lowerMembers name _ hmembers)).bind
    rintro ⟨⟨lowered, declarations⟩, dependencies⟩ ⟨⟨htypes, hdeclarations⟩, hdependencies⟩
    refine .pure ⟨rfl, hdeclarations, ?_, ?_⟩
    · intro other hother
      rcases mem_foldl_addName.mp hother with hother | hother
      · exact hdependencies other (List.mem_of_mem_filter hother)
      · obtain ⟨declaration, hdeclaration, rfl⟩ := List.mem_map.mp hother
        exact (hdeclarations declaration hdeclaration).name
    · intro declaration hdeclaration other hother
      rw [UnionDispatch.depends_functions _ hdeclaration, mem_foldl_addName, List.mem_filter] at hother
      rcases hother with hother | ⟨hother, hidentifier⟩
      · exact Or.inl (List.mem_singleton.mp hother)
      · obtain ⟨member, hmember, rfl⟩ := List.mem_map.mp hother
        exact Or.inr (htypes member hmember hidentifier)

end Attribution

end SchemaTypings
