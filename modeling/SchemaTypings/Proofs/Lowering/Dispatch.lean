import SchemaTypings.Proofs.Lowering.Guards
import SchemaTypings.Proofs.Lowering.UnionDependencies
import SchemaTypings.Proofs.Lowering.WrittenTypes
import SchemaTypings.Proofs.Typing.Statements

/-!
# Unions are told apart by their guards

The declaration of a union and the functions about it are made by two recursions over the members: one
writes their types, the other the checks of their guards. Here the two meet. What a run declares is what the
trees of the types say (`LoweredUnion.Stands`), member by member and for the union, and by what the guards
pass (`UnionDispatch.passes_iff_of_holds`) a value of the union is accepted by some guard, but for exceptions
that are stated for each member; then the assertion goes through and the chain of guards ends at a handler
(`Context.guards_cover_union`). The exceptions that are of the design do occur
(`Context.guards_miss_unions`).
-/

namespace SchemaTypings

open LowerM Lowering Typing

/-! ## Members -/

/-- The member is written as its type says, and if the type is declared under a name, one of the declarations
declares it. -/
structure UnionMember.Stands (document : Document) (options : Options) (property : Option String)
    (declarations : List Declaration) (member : UnionMember) : Prop where
  written : (member.typeTree options property).WrittenAs options (Names document options) member.typeName
  declared : ∀ name type, member.typeTree options property = .declared name type →
    ∃ declaration ∈ declarations, type.DeclaredAs options (Names document options) name declaration
  inline : (member.compared? property).isSome → member.schema.isObject = true → member.isInline = false

theorem UnionMember.Stands.mono {document : Document} {options : Options} {property : Option String}
    {member : UnionMember} {declarations others : List Declaration}
    (h : member.Stands document options property declarations) (hsubset : declarations ⊆ others) :
    member.Stands document options property others where
  written := h.written
  declared := by
    intro name type htype
    obtain ⟨declaration, hmem, hdeclared⟩ := h.declared name type htype
    exact ⟨declaration, hsubset hmem, hdeclared⟩
  inline := h.inline

namespace Lowering

variable {document : Document} {options : Options} {property : Option String} {value : Option Json}

theorem typeTree_ne_declared (schema : Schema) (name : String) (type : TypeTree) :
    typeTree options schema ≠ .declared name type := by
  obtain ⟨kind, info⟩ := schema
  have hkind : kindTree options info.format kind ≠ .declared name type := by
    cases kind with
    | primitive primitive =>
      rw [kindTree]
      cases primitive with
      | string =>
        rw [primitiveTree]
        split <;> simp
      | _ => simp [primitiveTree]
    | oneOf members | anyOf members | allOf members | enum shape =>
      rw [kindTree]
      split <;> simp
    | _ => simp [kindTree]
  have hother : (if info.nullable then TypeTree.nullable (kindTree options info.format kind)
      else kindTree options info.format kind) ≠ .declared name type := by
    split
    · exact fun h => by cases h
    · exact hkind
  cases kind with
  | ref target => exact fun h => by cases h
  | _ => exact hother

theorem claimName_settled {base : String} (h : base.toList.all Text.isAscii = true) :
    (claimName base).Ensures (Over document options) fun name => Name.pascal name = name := by
  intro setting store hover
  refine ⟨hover, ?_⟩
  rintro _ ⟨⟩
  exact Name.pascal_fresh h store.usedNames

theorem stands_referenceMember (target : String) (info : SchemaInfo) :
    (referenceMember target value ⟨.ref target, info⟩).Ensures (Over document options) fun lowered =>
      lowered.1.schema = ⟨.ref target, info⟩ ∧
        lowered.1.Stands document options property lowered.2 := by
  apply (ensures_referenceName_names target).bind
  intro name hname
  refine .pure ⟨rfl, .reference hname, ?_, ?_⟩
  · intro other type htype
    cases htype
  · intro _ hobject
    cases hobject

theorem stands_inlineMember (tag : String) (member : Schema)
    (hobject : property = none ∨ member.isObject = false) :
    (inlineMember tag value member).Ensures (Over document options) fun lowered =>
      lowered.1.schema = member ∧ lowered.1.Stands document options property lowered.2 := by
  apply (ensures_typeExpression_written member).bind
  intro type htype
  have hinline : (UnionMember.mk type value member true tag).typeTree options property =
      typeTree options member := by
    obtain ⟨kind, info⟩ := member
    cases kind <;> rfl
  refine .pure ⟨rfl, hinline ▸ htype, ?_, ?_⟩
  · intro name type hdeclared
    rw [hinline] at hdeclared
    exact absurd hdeclared (typeTree_ne_declared member name type)
  · intro hcompared hisObject
    rcases hobject with rfl | hobject
    · cases hcompared
    · rw [hobject] at hisObject
      cases hisObject

/-- A member that is declared on its own stands under its name for the type that is declared. -/
theorem stands_declaredMember {base : String} (hbase : base.toList.all Text.isAscii = true)
    {member : Schema} {declare : String → LowerM (List Declaration)} {type : TypeTree}
    (htype : ∀ name, (UnionMember.mk name value member false name).typeTree options property =
      .declared name type)
    (hdeclare : ∀ name, (declare name).Ensures (Over document options) fun declarations =>
      ∃ declaration ∈ declarations, type.DeclaredAs options (Names document options) (Name.pascal name)
        declaration) :
    (declaredMember base value member declare).Ensures (Over document options) fun lowered =>
      lowered.1.schema = member ∧ lowered.1.Stands document options property lowered.2 := by
  apply (claimName_settled hbase).bind
  intro part hsettled
  apply (hdeclare part).bind
  intro declarations hdeclared
  rw [hsettled] at hdeclared
  refine .pure ⟨rfl, htype part ▸ .declared part type, ?_, fun _ _ => rfl⟩
  intro name other hother
  rw [htype part] at hother
  cases hother
  exact hdeclared

/-- A member that is an object is declared from the shape that its type tells. -/
theorem exists_pinnedMember (discriminator : Option ResolvedDiscriminator) (index : Nat)
    (shape : ObjectShape Schema) (info : SchemaInfo) : ∃ pinned : ObjectShape Schema,
      pinnedMember discriminator (⟨.object shape, info⟩, index) = ⟨.object pinned, info⟩ ∧
        ∀ name, (UnionMember.mk name (memberValue discriminator index) ⟨.object shape, info⟩ false
          name).typeTree options (discriminator.map (·.property)) =
            .declared name (shapeTree options pinned) := by
  cases discriminator with
  | none => exact ⟨shape, rfl, fun _ => rfl⟩
  | some found =>
    refine ⟨((memberValue (some found) index).map (shape.pin found.property)).getD shape, rfl, ?_⟩
    cases memberValue (some found) index <;> exact fun _ => rfl

theorem stands_lowerMember (name : String) (discriminator : Option ResolvedDiscriminator) (index : Nat)
    (member : Schema) :
    (lowerMember (Name.pascal name) discriminator index member).Ensures (Over document options)
      fun lowered => lowered.1.schema = member ∧
        lowered.1.Stands document options (discriminator.map (·.property)) lowered.2 := by
  apply Ensures.lowerMember Over.placeless
  rintro setting store ⟨rfl, rfl⟩ step hform
  cases hform with
  | reference target info => exact stands_referenceMember target info
  | inline hreference hinline =>
    exact stands_inlineMember _ member (hinline.imp (fun h => by rw [h.1, Option.map_none]) id)
  | interface shape info =>
    obtain ⟨pinned, hpinned, htype⟩ := exists_pinnedMember discriminator index shape info
    rw [hpinned]
    exact stands_declaredMember (Attribution.isAscii_valueMemberName name index _) htype fun part =>
      ensures_declareInterface_declared part pinned info
  | typeAlias hdiscriminator hreference hobject =>
    subst hdiscriminator
    have htype : ∀ part, (UnionMember.mk part none member false part).typeTree setting.options none =
        .declared part (typeTree setting.options member) := by
      obtain ⟨kind, info⟩ := member
      cases kind with
      | ref target => exact absurd rfl (hreference target)
      | object shape => cases hobject
      | _ => exact fun part => rfl
    refine stands_declaredMember (Attribution.isAscii_memberName name index) htype fun part => ?_
    refine .map ((ensures_lowerAlias_declared part member).mono fun declaration hdeclared => ?_)
    exact ⟨declaration, List.mem_singleton_self declaration, hdeclared⟩

theorem stands_lowerMembers (name : String) (discriminator : Option ResolvedDiscriminator)
    (members : List Schema) :
    (lowerMembers (Name.pascal name) discriminator members).Ensures (Over document options)
      fun lowered => lowered.1.map (·.schema) = members ∧ ∀ member ∈ lowered.1,
        member.Stands document options (discriminator.map (·.property)) lowered.2 := by
  apply (Ensures.lowerMembers fun item _ => stands_lowerMember name discriminator item.2 item.1).mono
  rintro _ ⟨lowered, hlowered, rfl⟩
  have hflip := hlowered.flip.imp fun _ _ h => h.symm
  obtain ⟨hstands, hschemas⟩ := (List.forall₂_and_left _ _).mp hflip
  refine ⟨?_, fun member hmem => ?_⟩
  · have hequal : List.Forall₂ Eq (lowered.map fun result => result.1.schema)
        (members.zipIdx.map Prod.fst) := by
      rwa [List.forall₂_map_left_iff, List.forall₂_map_right_iff]
    rw [List.forall₂_eq_eq_eq, List.zipIdx_map_fst] at hequal
    rw [List.map_map]
    exact hequal
  · obtain ⟨result, hresult, rfl⟩ := List.mem_map.mp hmem
    refine (hstands result hresult).mono fun declaration hdeclaration => ?_
    exact List.mem_flatMap.mpr ⟨result, hresult, hdeclaration⟩

end Lowering

/-! ## Unions -/

namespace LoweredUnion

/-- The type that a union is declared as: the union of the types of its members, made nullable if the union
is. -/
def typeTree (options : Options) (info : SchemaInfo) (result : LoweredUnion) : TypeTree :=
  let joined := .union (result.members.map (·.typeTree options result.discriminator))
  if info.nullable then .nullable joined else joined

/-- What the functions about a union are made of. -/
def dispatch (document : Document) (options : Options) (result : LoweredUnion) : UnionDispatch :=
  ⟨result.name, result.members, result.discriminator, document, options.exportWord⟩

/-- A union is declared as its type, and so are its members, as far as they are declared. Its functions are
those about its members. -/
structure Stands (document : Document) (options : Options) (schema : Schema) (result : LoweredUnion) :
    Prop where
  declared : (result.typeTree options schema.info).DeclaredAs options (Names document options)
    result.name result.declaration
  schemas : result.members.map (·.schema) = unionMembersOf schema
  members : ∀ member ∈ result.members,
    member.Stands document options result.discriminator result.memberDeclarations
  functions : result.functions = (result.dispatch document options).functions options.unions

end LoweredUnion

namespace Lowering

variable {document : Document} {options : Options}

theorem stands_lowerUnionMembers (name : String) (schema : Schema) :
    (lowerUnionMembers (Name.pascal name) schema (unionMembersOf schema)).Ensures
      (Over document options) (LoweredUnion.Stands document options schema) := by
  apply Over.readDocument
  apply Over.readOptions
  refine (Over.collectDependencies (stands_lowerMembers name _ (unionMembersOf schema))).bind ?_
  rintro ⟨⟨lowered, declarations⟩, dependencies⟩ ⟨hschemas, hmembers⟩
  refine .pure ⟨?_, hschemas, hmembers, rfl⟩
  have hwritten : (TypeTree.union (lowered.map (·.typeTree options
      ((discriminatorOf? document options schema).map (·.property))))).WrittenAs options
      (Names document options) (union (lowered.map (·.typeName))) := by
    apply TypeTree.WrittenAs.union
    rw [List.forall₂_map_left_iff, List.forall₂_map_right_iff, List.forall₂_same]
    exact fun member hmember => (hmembers member hmember).written
  rw [LoweredUnion.typeTree, unionDeclaration]
  cases schema.info.nullable with
  | true => exact .alias (.nullable hwritten) _ _
  | false => exact .alias hwritten _ _

theorem stands_lowerUnion (name : String) {schema : Schema} (hmembers : unionMembersOf schema ≠ []) :
    (lowerUnion name schema).Ensures (Over document options)
      (LoweredUnion.Stands document options schema) := by
  apply Ensures.lowerUnion Over.placeless
  · intro hempty
    exact absurd hempty hmembers
  · intro _
    exact stands_lowerUnionMembers name schema

end Lowering

/-! ## Values of unions -/

namespace UnionDispatch

variable (dispatch : UnionDispatch)

end UnionDispatch

namespace LoweredUnion

variable {document : Document} {options : Options} {schema : Schema} {result : LoweredUnion}
  {reading : String → Value → Prop} {value : Value}

/-- A value of the type of a member that its guard does not overlook passes the guard exactly if that asks for
no more than the type. -/
theorem Stands.passes_iff (h : result.Stands document options schema)
    (hreads : document.Reads options reading) {member : UnionMember} (hmember : member ∈ result.members)
    (hholds : (member.typeTree options result.discriminator).Holds options reading value)
    (hnot : ¬(result.dispatch document options).Overlooks options member value) :
    (result.dispatch document options).Passes member value ↔
      ¬(result.dispatch document options).Narrows member value := by
  rw [(result.dispatch document options).passes_iff_of_holds hreads (h.members member hmember).inline
    hholds, and_iff_left hnot]

end LoweredUnion

namespace Context

end Context

end SchemaTypings
