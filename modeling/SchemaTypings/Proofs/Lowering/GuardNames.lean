import Mathlib.Data.List.Nodup
import SchemaTypings.Proofs.Lowering.UnionMembers

/-!
# Names of guards

The guard of a member is named after its tag if that begins with the name of the union, else after the union
and the tag. Each of the two is told from others of its kind, but not from the other kind, and what the second
one makes of the tag is a type name, which may leave a part of it behind (`UnionDispatch.guardName_eq_iff`). So
members whose tags differ have guards of their own if and only if no tag that does not begin with the name of
the union is taken for another one (`Context.guards_distinct_iff`). A union `Pet` of `Cat` and `PetCat` has two
guards `isPetCat`.
-/

namespace SchemaTypings

open Lowering

namespace UnionDispatch

variable (dispatch : UnionDispatch) {member other : UnionMember}

/-- The tag begins with the name of the union. -/
def IsOwn (member : UnionMember) : Prop :=
  dispatch.name.toList <+: member.tag.toList

/-- The tag of the other member does not begin with the name of the union, and with that in front it is taken
for the tag of the member, or for another tag that is put behind that name. -/
def Confuses (member other : UnionMember) : Prop :=
  ¬dispatch.IsOwn other ∧ (member.tag = dispatch.name ++ Name.pascal other.tag ∨
    ¬dispatch.IsOwn member ∧ Name.pascal member.tag = Name.pascal other.tag)

theorem guardName_of_isOwn (h : dispatch.IsOwn member) : dispatch.guardName member = "is" ++ member.tag := by
  rw [guardName, if_pos (List.isPrefixOf_iff_prefix.mpr h)]
  rfl

theorem guardName_of_not_isOwn (h : ¬dispatch.IsOwn member) :
    dispatch.guardName member = "is" ++ (dispatch.name ++ Name.pascal member.tag) := by
  rw [guardName, if_neg (mt List.isPrefixOf_iff_prefix.mp h), ← String.append_assoc]
  rfl

theorem isOwn_of_tag_eq {rest : String} (h : member.tag = dispatch.name ++ rest) : dispatch.IsOwn member := by
  rw [IsOwn, h, String.toList_append]
  exact List.prefix_append _ _

/-- A tag that begins with the name of the union is taken for the other one only as a whole. -/
theorem confuses_iff_of_isOwn (h : dispatch.IsOwn member) (hother : ¬dispatch.IsOwn other) :
    dispatch.Confuses member other ↔ member.tag = dispatch.name ++ Name.pascal other.tag := by
  simp [Confuses, h, hother]

theorem guardName_eq_iff_of_isOwn (h : dispatch.IsOwn member) (hother : ¬dispatch.IsOwn other) :
    dispatch.guardName member = dispatch.guardName other ↔ dispatch.Confuses member other := by
  rw [dispatch.guardName_of_isOwn h, dispatch.guardName_of_not_isOwn hother, String.append_right_inj,
    dispatch.confuses_iff_of_isOwn h hother]

/-- Two guards have one name if their members have one tag, or one of the tags is taken for the other. -/
theorem guardName_eq_iff : dispatch.guardName member = dispatch.guardName other ↔
    member.tag = other.tag ∨ dispatch.Confuses member other ∨ dispatch.Confuses other member := by
  have hunlike : ∀ {first second : UnionMember}, dispatch.IsOwn first → ¬dispatch.IsOwn second →
      first.tag ≠ second.tag := by
    intro first second hfirst hsecond htag
    exact hsecond (by rwa [IsOwn, ← htag])
  by_cases hmember : dispatch.IsOwn member <;> by_cases hother : dispatch.IsOwn other
  · rw [dispatch.guardName_of_isOwn hmember, dispatch.guardName_of_isOwn hother, String.append_right_inj]
    simp [Confuses, hmember, hother]
  · rw [dispatch.guardName_eq_iff_of_isOwn hmember hother]
    simp [hunlike hmember hother, Confuses, hmember]
  · rw [eq_comm, dispatch.guardName_eq_iff_of_isOwn hother hmember]
    simp [(hunlike hother hmember).symm, Confuses, hother]
  · have hnot : ∀ rest, member.tag ≠ dispatch.name ++ rest := fun rest htag =>
      hmember (dispatch.isOwn_of_tag_eq htag)
    have hnotOther : ∀ rest, other.tag ≠ dispatch.name ++ rest := fun rest htag =>
      hother (dispatch.isOwn_of_tag_eq htag)
    rw [dispatch.guardName_of_not_isOwn hmember, dispatch.guardName_of_not_isOwn hother,
      String.append_right_inj, String.append_right_inj]
    simp only [Confuses, hmember, hother, hnot, hnotOther, not_false_eq_true, true_and, false_or,
      eq_comm (a := Name.pascal other.tag), or_self]
    exact ⟨Or.inr, fun h => h.elim (congrArg Name.pascal) id⟩

/-- Members whose tags differ have guards whose names differ if and only if no tag is taken for another. -/
theorem nodup_guardNames_iff (htags : (dispatch.members.map (·.tag)).Nodup) :
    (dispatch.members.map dispatch.guardName).Nodup ↔ ∀ member ∈ dispatch.members,
      ∀ other ∈ dispatch.members, member.tag ≠ other.tag → ¬dispatch.Confuses member other := by
  have hmembers : dispatch.members.Nodup := htags.of_map
  have htag : ∀ member ∈ dispatch.members, ∀ other ∈ dispatch.members, member.tag = other.tag →
      member = other := (List.nodup_map_iff_inj_on hmembers).mp htags
  rw [List.nodup_map_iff_inj_on hmembers]
  constructor
  · intro h member hmember other hother hne hconfuses
    have heq := h member hmember other hother (dispatch.guardName_eq_iff.mpr (Or.inr (Or.inl hconfuses)))
    exact hne (congrArg UnionMember.tag heq)
  · intro h member hmember other hother hname
    by_contra hne
    have hunlike : member.tag ≠ other.tag := fun heq => hne (htag member hmember other hother heq)
    rcases dispatch.guardName_eq_iff.mp hname with heq | hconfuses | hconfuses
    · exact hunlike heq
    · exact h member hmember other hother hunlike hconfuses
    · exact h other hother member hmember hunlike.symm hconfuses

/-- The functions that help with a union begin with the guards of its members, and one of the others is the
match. -/
theorem functions_eq_guards_append {options : UnionOptions} (hon : options.generateHelpers = true) :
    ∃ others, dispatch.functions options = dispatch.members.map dispatch.guard ++ others ∧
      dispatch.matcher ∈ others := by
  refine ⟨dispatch.matcher :: dispatch.folder ::
    if options.generateValidation then [dispatch.assertion] else [], ?_, List.mem_cons_self⟩
  simp [functions, hon]

/-- Without a switch, the match asks the guards of the members in their order. -/
theorem matcher_asks_guards (h : dispatch.isSwitchable = false) : ∃ before after,
    dispatch.matcher.content =
      before ++ String.join (dispatch.members.map dispatch.guardStep) ++ after := by
  have hbody : dispatch.matchBody = dispatch.chainBody := by
    rw [matchBody, h]
    cases dispatch.property <;> rfl
  have hcontent : ∃ before after, dispatch.matcher.content = before ++ dispatch.matchBody ++ after :=
    ⟨_, _, rfl⟩
  obtain ⟨before, after, hcontent⟩ := hcontent
  rw [hcontent, hbody, chainBody]
  refine ⟨before, s!"  throw new Error(\"No {dispatch.name} variant matched\");\n" ++ after, ?_⟩
  simp only [String.append_assoc]

end UnionDispatch

namespace Context

/-- Every member of a union has a guard of its own, if the tags of the members differ, unless a tag that does
not begin with the name of the union is taken for another one. If that name is made of letters and digits, only
references have such tags. -/
theorem guards_distinct_iff {context : Context} {name : String} {schema : Schema} {result : LoweredUnion}
    (hrun : (context.run (lowerUnion name schema)).1 = .ok result)
    (hon : context.options.unions.generateHelpers = true) :
    let dispatch := result.dispatch context.document context.options
    (∃ others, result.functions = result.members.map dispatch.guard ++ others ∧
      (result.members ≠ [] → dispatch.matcher ∈ others)) ∧
    (dispatch.isSwitchable = false → ∃ before after, dispatch.matcher.content =
      before ++ String.join (result.members.map dispatch.guardStep) ++ after) ∧
    ((result.members.map (·.tag)).Nodup →
      ((result.members.map fun member => (dispatch.guard member).name).Nodup ↔
        ∀ member ∈ result.members, ∀ other ∈ result.members, member.tag ≠ other.tag →
          ¬dispatch.Confuses member other)) ∧
    (result.name.toList.all (·.isAlphanum) = true → ∀ member ∈ result.members,
      ∀ other ∈ result.members, dispatch.Confuses member other → ∃ target,
        other.schema.kind = .ref target ∧
          Lowering.Names context.document context.options target other.tag) := by
  intro dispatch
  have hstands := standsInOrder_of_run hrun
  refine ⟨?_, dispatch.matcher_asks_guards, dispatch.nodup_guardNames_iff, ?_⟩
  · rcases hstands.functions with ⟨hmembers, hfunctions⟩ | hfunctions
    · exact ⟨[], by rw [hmembers, hfunctions]; rfl, fun h => absurd hmembers h⟩
    · obtain ⟨others, hothers, hmatcher⟩ := dispatch.functions_eq_guards_append hon
      exact ⟨others, hfunctions.trans hothers, fun _ => hmatcher⟩
  · intro hall member _ other hother hconfuses
    obtain ⟨index, hindex⟩ := List.mem_iff_getElem?.mp hother
    have htagged := (hstands.members index other hindex).tagged
    rw [hstands.name] at hall htagged
    refine (htagged.reference_or_prefix hall).resolve_right fun hprefix => hconfuses.1 ?_
    rwa [UnionDispatch.IsOwn, show dispatch.name = Name.pascal name from hstands.name]

/-- A union `Pet` of references to `Cat` and `PetCat`, whose tags differ and whose guards do not. -/
theorem guards_not_distinct_of_pets : ∃ document cat petCat pet result,
    Document.ofJson (.obj [("$defs", .obj [
      ("Cat", .obj [("type", .str "object"), ("required", .arr [.str "meow"])]),
      ("PetCat", .obj [("type", .str "object"), ("required", .arr [.str "purr"])]),
      ("Pet", .obj [("oneOf", .arr [.obj [("$ref", .str "#/$defs/Cat")],
        .obj [("$ref", .str "#/$defs/PetCat")]])])])]) = .ok document ∧
    document.named = [cat, petCat, pet] ∧
    ((fresh document {}).run (lowerUnion pet.name pet.schema)).1 = .ok result ∧
    ({} : Options).unions.generateHelpers = true ∧
    (result.members.map (·.tag)).Nodup ∧
    ¬(result.members.map fun member => ((result.dispatch document {}).guard member).name).Nodup := by
  let cat : Schema := ⟨.object { required := ["meow"] }, {}⟩
  let petCat : Schema := ⟨.object { required := ["purr"] }, {}⟩
  let pet : Schema := ⟨.oneOf [⟨.ref "#/$defs/Cat", {}⟩, ⟨.ref "#/$defs/PetCat", {}⟩], {}⟩
  let raw : Json := .obj [("$defs", .obj [
    ("Cat", .obj [("type", .str "object"), ("required", .arr [.str "meow"])]),
    ("PetCat", .obj [("type", .str "object"), ("required", .arr [.str "purr"])]),
    ("Pet", .obj [("oneOf", .arr [.obj [("$ref", .str "#/$defs/Cat")],
      .obj [("$ref", .str "#/$defs/PetCat")]])])])]
  let document : Document := ⟨raw, [⟨"Cat", "#/$defs/Cat", cat⟩, ⟨"PetCat", "#/$defs/PetCat", petCat⟩,
    ⟨"Pet", "#/$defs/Pet", pet⟩], []⟩
  have hrun : ((fresh document {}).run (lowerUnion "Pet" pet)).1.toOption.any (fun result =>
      result.name == "Pet" && result.members.map (·.tag) == ["Cat", "PetCat"]) = true := by
    decide +kernel
  obtain ⟨result, hresult, hfound⟩ := Decode.exists_ok_of_any hrun
  simp only [Bool.and_eq_true, beq_iff_eq] at hfound
  obtain ⟨hname, htags⟩ := hfound
  have hdistinct : (result.members.map (·.tag)).Nodup := by
    rw [htags]
    decide
  refine ⟨document, _, _, _, result, rfl, rfl, hresult, rfl, hdistinct, fun hguards => ?_⟩
  obtain ⟨petCat, hpetCat, hpetCatTag⟩ : ∃ member ∈ result.members, member.tag = "PetCat" :=
    List.mem_map.mp (htags ▸ by simp)
  obtain ⟨cat, hcat, hcatTag⟩ : ∃ member ∈ result.members, member.tag = "Cat" :=
    List.mem_map.mp (htags ▸ by simp)
  refine ((guards_distinct_iff hresult rfl).2.2.1 hdistinct).mp hguards petCat hpetCat cat hcat ?_ ?_
  · rw [hpetCatTag, hcatTag]
    decide
  · refine ⟨?_, Or.inl ?_⟩
    · show ¬result.name.toList <+: cat.tag.toList
      rw [hname, hcatTag]
      decide
    · show petCat.tag = result.name ++ Name.pascal cat.tag
      rw [hname, hcatTag, hpetCatTag]
      decide +kernel

end Context

end SchemaTypings
