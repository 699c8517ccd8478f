import SchemaTypings.Proofs.Lowering.Dispatch

/-!
# What the members of unions are given

A member of a union is given a value by the position at which it stands, and a tag by what it is: a reference
has its own name, a member that stands inline the name for its position, and one that is declared a fresh name
made of its value, or of its position (`LoweredUnion.StandsInOrder`). Where the name of the union is made of
letters and digits, only the tags of references may begin otherwise (`UnionMember.Tagged.reference_or_prefix`).
-/

namespace SchemaTypings

open LowerM Lowering

variable {document : Document} {options : Options}

/-- Where the tag of the member at a position of a union comes from. -/
inductive UnionMember.Tagged (document : Document) (options : Options) (union : String) (index : Nat)
    (member : UnionMember) : Prop
  | reference (target : String) (hkind : member.schema.kind = .ref target)
      (hname : Names document options target member.tag)
  | position (htag : member.tag = memberName union index)
  | declared (taken : List String) (htag : member.tag =
      Name.fresh "" taken (Name.pascal (valueMemberName union index member.discriminatorValue)))

/-- The member has the value that the discriminator gives its position, and a tag of its own kind. -/
structure UnionMember.StandsAt (document : Document) (options : Options) (union : String)
    (discriminator : Option ResolvedDiscriminator) (index : Nat) (member : UnionMember) : Prop where
  value : member.discriminatorValue = discriminator.bind fun found => (found.values[index]?).join
  tagged : member.Tagged document options union index

/-! ## Members, one by one -/

namespace Lowering

variable {value : Option Json}

theorem claimName_fresh (base : String) :
    (claimName base).Ensures (Over document options) fun name =>
      ∃ taken, name = Name.fresh "" taken (Name.pascal base) := by
  intro setting store hover
  refine ⟨hover, ?_⟩
  rintro _ ⟨⟩
  exact ⟨store.usedNames, rfl⟩

/-- A member that is declared on its own is tagged with its name. -/
theorem tagged_declaredMember (base : String) (member : Schema)
    (declare : String → LowerM (List Typing.Declaration)) :
    (declaredMember base value member declare).Ensures (Over document options) fun lowered =>
      lowered.1.discriminatorValue = value ∧
        ∃ taken, lowered.1.tag = Name.fresh "" taken (Name.pascal base) := by
  apply (claimName_fresh base).bind
  rintro part ⟨taken, hpart⟩
  apply (Over.any (declare part)).bind
  intro declarations _
  exact .pure ⟨rfl, taken, hpart⟩

theorem standsAt_lowerMember (union : String) (discriminator : Option ResolvedDiscriminator) (index : Nat)
    (member : Schema) :
    (lowerMember union discriminator index member).Ensures (Over document options) fun lowered =>
      lowered.1.StandsAt document options union discriminator index := by
  apply Ensures.lowerMember Over.placeless
  rintro setting store ⟨rfl, rfl⟩ step hform
  cases hform with
  | reference target info =>
    apply (ensures_referenceName_names target).bind
    intro name hname
    exact .pure ⟨rfl, .reference target rfl hname⟩
  | inline =>
    apply (Over.any (typeExpression member)).bind
    intro type _
    exact .pure ⟨rfl, .position rfl⟩
  | interface shape info =>
    apply (tagged_declaredMember _ _ _).mono
    rintro lowered ⟨hvalue, taken, htag⟩
    exact ⟨hvalue, .declared taken (hvalue ▸ htag)⟩
  | typeAlias hdiscriminator =>
    subst hdiscriminator
    apply (tagged_declaredMember _ _ _).mono
    rintro lowered ⟨hvalue, taken, htag⟩
    exact ⟨hvalue, .declared taken (hvalue ▸ htag)⟩

theorem standsAt_lowerMembers (union : String) (discriminator : Option ResolvedDiscriminator)
    (members : List Schema) :
    (lowerMembers union discriminator members).Ensures (Over document options) fun lowered =>
      ∀ (index : Nat) (member : UnionMember), lowered.1[index]? = some member →
        member.StandsAt document options union discriminator index := by
  apply (Ensures.lowerMembers fun item _ => standsAt_lowerMember union discriminator item.2 item.1).mono
  rintro _ ⟨results, hresults, rfl⟩ index member hget
  rw [List.getElem?_map, Option.map_eq_some_iff] at hget
  obtain ⟨result, hresult, rfl⟩ := hget
  obtain ⟨hlt, hget⟩ := List.getElem?_eq_some_iff.mp hresult
  have hindex := hresults.get (by rw [hresults.length_eq]; exact hlt) hlt
  simpa [hget] using hindex

end Lowering

/-! ## Unions -/

/-- The members of a union stand where its schema says, each with its value and its tag, under a discriminator
that is given or inferred. -/
structure LoweredUnion.StandsInOrder (document : Document) (options : Options) (name : String)
    (schema : Schema) (result : LoweredUnion) : Prop where
  name : result.name = Name.pascal name
  discriminator : result.members ≠ [] →
    result.discriminator = (discriminatorOf? document options schema).map (·.property)
  members : ∀ (index : Nat) (member : UnionMember), result.members[index]? = some member →
    member.StandsAt document options result.name (discriminatorOf? document options schema) index
  functions : result.members = [] ∧ result.functions = [] ∨
    result.functions = (result.dispatch document options).functions options.unions

namespace Lowering

theorem standsInOrder_lowerUnionMembers (name : String) (schema : Schema) (members : List Schema) :
    (lowerUnionMembers (Name.pascal name) schema members).Ensures (Over document options)
      (LoweredUnion.StandsInOrder document options name schema) := by
  apply Over.readDocument
  apply Over.readOptions
  apply (Over.collectDependencies (standsAt_lowerMembers (Name.pascal name) _ members)).bind
  rintro ⟨⟨lowered, declarations⟩, dependencies⟩ hmembers
  exact .pure ⟨rfl, fun _ => rfl, hmembers, Or.inr rfl⟩

theorem standsInOrder_lowerUnion (name : String) (schema : Schema) :
    (lowerUnion name schema).Ensures (Over document options)
      (LoweredUnion.StandsInOrder document options name schema) := by
  apply Ensures.lowerUnion Over.placeless
  · intro _ options
    exact ⟨rfl, fun h => absurd rfl h, nofun, Or.inl ⟨rfl, rfl⟩⟩
  · intro _
    exact standsInOrder_lowerUnionMembers name schema _

end Lowering

theorem Context.standsInOrder_of_run {context : Context} {name : String} {schema : Schema}
    {result : LoweredUnion} (h : (context.run (lowerUnion name schema)).1 = .ok result) :
    result.StandsInOrder context.document context.options name schema := by
  rw [Context.run_eq] at h
  exact (standsInOrder_lowerUnion name schema context.setting context.store ⟨rfl, rfl⟩).2 result h

/-! ## Tags -/

theorem UnionMember.Tagged.reference_or_prefix {name : String} {index : Nat} {member : UnionMember}
    (h : member.Tagged document options (Name.pascal name) index)
    (hall : (Name.pascal name).toList.all (·.isAlphanum) = true) :
    (∃ target, member.schema.kind = .ref target ∧ Names document options target member.tag) ∨
      (Name.pascal name).toList <+: member.tag.toList := by
  cases h with
  | reference target hkind hname => exact Or.inl ⟨target, hkind, hname⟩
  | position htag =>
    rw [htag, memberName]
    simp [toString]
  | declared taken htag =>
    have hbase : ∃ rest, valueMemberName (Name.pascal name) index member.discriminatorValue =
        Name.pascal name ++ rest := by
      cases member.discriminatorValue <;>
        exact ⟨_, by simp [valueMemberName, memberName, toString, String.append_assoc]; rfl⟩
    obtain ⟨rest, hrest⟩ := hbase
    rw [htag, hrest]
    exact Or.inr ((Name.pascal_prefix_pascal_append hall rest).trans (Name.prefix_fresh _ _ _))

end SchemaTypings
