import SchemaTypings.Proofs.Decode.Success
import SchemaTypings.Proofs.Document.Chains
import SchemaTypings.Proofs.Json.Wellformed
import SchemaTypings.Proofs.Schema.Children

/-!
# What schemas have from the values they are read from

Some kinds have data of their own, and some schema within has such a kind (`Schema.Has`) only if the value that
the schema was read from has the data: one keyword adds no more than its value holds (`Traced.of_setKeyword`),
and so on through a run of keywords and down into the schemas among them. What is reached within a document
was read from a part of it (`Traced.of_resolve?`).
-/

namespace SchemaTypings

open Decode (map_eq_ok bind_eq_ok within_eq_ok mem_of_mapM_eq_ok)

/-- The schema, or one below it, has such a kind. -/
def Schema.Has (ofKind : SchemaKind Schema → Prop) (schema : Schema) : Prop :=
  ∃ other, schema.Contains other ∧ ofKind other.kind

theorem Schema.has_iff {ofKind : SchemaKind Schema → Prop} {schema : Schema} :
    schema.Has ofKind ↔ ofKind schema.kind ∨ ∃ child ∈ schema.children, child.Has ofKind := by
  constructor
  · rintro ⟨other, h, hkind⟩
    rcases contains_iff.mp h with rfl | ⟨child, hchild, hbelow⟩
    · exact Or.inl hkind
    · exact Or.inr ⟨child, hchild, other, hbelow, hkind⟩
  · rintro (hkind | ⟨child, hchild, other, hbelow, hkind⟩)
    · exact ⟨schema, .refl _, hkind⟩
    · exact ⟨other, .step hchild hbelow, hkind⟩

/-! ## Keywords -/

namespace Keywords

/-- The schemas among the keywords. -/
def schemas (keywords : Keywords Schema) : List Schema :=
  (keywords.properties.getD []).map (·.2) ++ keywords.additional.schemas ++ keywords.items.toList
    ++ keywords.oneOf.getD [] ++ keywords.anyOf.getD [] ++ keywords.allOf.getD []

/-- Nothing is known of the schema, or only a primitive type. -/
def Plain (schema : Schema) : Prop :=
  schema.kind = .any ∨ ∃ type, schema.kind = .primitive type

/-- The schemas below a kind are among the keywords, or are made up from the types. -/
theorem mem_schemas_of_mem_children {keywords : Keywords Schema} {child : Schema}
    (h : child ∈ Schema.childrenOfKind keywords.kind) : child ∈ keywords.schemas ∨ Plain child := by
  unfold kind at h
  split at h
  · simp [Schema.childrenOfKind] at h
  · exact Or.inl (by simp_all [schemas, Schema.childrenOfKind])
  · exact Or.inl (by simp_all [schemas, Schema.childrenOfKind])
  · exact Or.inl (by simp_all [schemas, Schema.childrenOfKind])
  · split at h
    · obtain rfl : child = keywords.items.getD {} := by simpa [Schema.childrenOfKind] using h
      cases hitems : keywords.items with
      | none => exact Or.inr (Or.inl rfl)
      | some items => exact Or.inl (by simp [schemas, hitems])
    · split at h
      · rw [Schema.childrenOfKind, objectShape, ObjectShape.schemas] at h
        rcases List.mem_append.mp h with h | h
        · exact Or.inl (by simp only [schemas, List.mem_append, h, true_or])
        · exact Or.inl (by simp only [schemas, List.mem_append, h, true_or, or_true])
      · split at h
        · simp [Schema.childrenOfKind] at h
        · unfold kindByTypes at h
          split at h
          · simp [Schema.childrenOfKind] at h
          · simp [Schema.childrenOfKind] at h
          · obtain ⟨name, -, rfl⟩ := List.mem_map.mp h
            exact Or.inr (Or.inr ⟨_, rfl⟩)

theorem schemas_of_setPlain {keywords keywords' : Keywords Schema} {name : String} {value : Json}
    (h : keywords.setPlain name value = .ok keywords') : keywords'.schemas = keywords.schemas := by
  unfold setPlain at h
  split at h
  all_goals first
    | obtain ⟨_, -, rfl⟩ := map_eq_ok.mp h
      rfl
    | cases h
      rfl

end Keywords

/-- What kinds, keywords and values may have, so that it goes from values up to the kinds of schemas: keywords
give it to a kind, and the value of a keyword to keywords, only if they have it; and values have what stands in
them. The schemas among the keywords do not count for this, but the names of properties may. -/
structure Traced (ofKind : SchemaKind Schema → Prop) (ofKeywords : Keywords Schema → Prop)
    (ofValue : Json → Prop) : Prop where
  any : ¬ofKind .any
  primitive : ∀ type, ¬ofKind (.primitive type)
  kind : ∀ {keywords : Keywords Schema}, ofKind keywords.kind → ofKeywords keywords
  blank : ¬ofKeywords {}
  plain : ∀ {keywords keywords' : Keywords Schema} {name : String} {value : Json},
    keywords.setPlain name value = .ok keywords' → ofKeywords keywords' → ofKeywords keywords ∨ ofValue value
  properties : ∀ {keywords : Keywords Schema} {value : Json} {properties : List (String × Schema)},
    Schema.decodeMap value = .ok properties → ofKeywords { keywords with properties := some properties } →
      ofKeywords keywords ∨ ofValue value
  nested : ∀ {keywords keywords' : Keywords Schema}, keywords'.properties = keywords.properties →
    keywords'.reference = keywords.reference → keywords'.values = keywords.values →
    keywords'.constant = keywords.constant → ofKeywords keywords' → ofKeywords keywords
  item : ∀ {items : List Json}, ∀ item ∈ items, ofValue item → ofValue (.arr items)
  member : ∀ {members : List (String × Json)}, ∀ member ∈ members, ofValue member.2 → ofValue (.obj members)

/-- The keywords have it, or some schema among them has such a kind. -/
def Keywords.Shows (ofKind : SchemaKind Schema → Prop) (ofKeywords : Keywords Schema → Prop)
    (keywords : Keywords Schema) : Prop :=
  ofKeywords keywords ∨ ∃ schema ∈ keywords.schemas, schema.Has ofKind

namespace Traced

variable {ofKind : SchemaKind Schema → Prop} {ofKeywords : Keywords Schema → Prop} {ofValue : Json → Prop}

theorem not_has_of_plain (traced : Traced ofKind ofKeywords ofValue) {schema : Schema}
    (h : Keywords.Plain schema) : ¬schema.Has ofKind := by
  obtain ⟨kind, info⟩ := schema
  intro hhas
  rcases Schema.has_iff.mp hhas with hkind | ⟨child, hchild, -⟩
  · rcases h with rfl | ⟨type, rfl⟩
    · exact traced.any hkind
    · exact traced.primitive type hkind
  · rcases h with rfl | ⟨type, rfl⟩ <;> simp [Schema.children, Schema.childrenOfKind] at hchild

theorem of_ofKeywords (traced : Traced ofKind ofKeywords ofValue) {keywords : Keywords Schema}
    (h : (Schema.ofKeywords keywords).Has ofKind) : keywords.Shows ofKind ofKeywords := by
  rcases Schema.has_iff.mp h with hkind | ⟨child, hchild, hhas⟩
  · exact Or.inl (traced.kind hkind)
  · refine Or.inr ⟨child, (Keywords.mem_schemas_of_mem_children hchild).resolve_right ?_, hhas⟩
    exact fun hplain => traced.not_has_of_plain hplain hhas

theorem not_shows_blank (traced : Traced ofKind ofKeywords ofValue) :
    ¬Keywords.Shows ofKind ofKeywords {} := by
  rintro (h | ⟨schema, hschema, -⟩)
  · exact traced.blank h
  · simp [Keywords.schemas, Additional.schemas] at hschema

/-- A keyword adds nothing that its value does not have, if that holds of what its value is read as. -/
theorem of_setKeyword (traced : Traced ofKind ofKeywords ofValue) {keywords keywords' : Keywords Schema}
    {name : String} {value : Json} {one : Unit → Except Decode.Error Schema}
    {list : Unit → Except Decode.Error (List Schema)}
    {map : Unit → Except Decode.Error (List (String × Schema))}
    (hone : ∀ schema, one () = .ok schema → schema.Has ofKind → ofValue value)
    (hlist : ∀ schemas, list () = .ok schemas → ∀ schema ∈ schemas, schema.Has ofKind → ofValue value)
    (hmap : ∀ properties, map () = .ok properties → ∀ property ∈ properties,
      property.2.Has ofKind → ofValue value)
    (hproperties : ∀ properties, map () = .ok properties →
      ofKeywords { keywords with properties := some properties } → ofKeywords keywords ∨ ofValue value)
    (h : keywords.setKeyword name value one list map = .ok keywords')
    (hshows : keywords'.Shows ofKind ofKeywords) :
    keywords.Shows ofKind ofKeywords ∨ ofValue value := by
  -- the schemas are those that were there before and new ones
  have hnew : ∀ new : List Schema, (ofKeywords keywords' → ofKeywords keywords ∨ ofValue value) →
      (∀ schema ∈ keywords'.schemas, schema ∈ keywords.schemas ∨ schema ∈ new) →
      (∀ schema ∈ new, schema.Has ofKind → ofValue value) →
      keywords.Shows ofKind ofKeywords ∨ ofValue value := by
    intro new hkeywords hschemas hvalue
    rcases hshows with h | ⟨schema, hschema, h⟩
    · exact (hkeywords h).imp_left Or.inl
    · rcases hschemas schema hschema with hold | hnew
      · exact Or.inl (Or.inr ⟨schema, hold, h⟩)
      · exact Or.inr (hvalue schema hnew h)
  have hnested : keywords'.properties = keywords.properties → keywords'.reference = keywords.reference →
      keywords'.values = keywords.values → keywords'.constant = keywords.constant →
      ofKeywords keywords' → ofKeywords keywords ∨ ofValue value :=
    fun hproperties hreference hvalues hconstant h =>
      Or.inl (traced.nested hproperties hreference hvalues hconstant h)
  unfold Keywords.setKeyword at h
  split at h
  · cases h
    exact Or.inl hshows
  · obtain ⟨properties, hread, rfl⟩ := map_eq_ok.mp h
    refine hnew (properties.map (·.2)) (hproperties properties hread) (by grind [Keywords.schemas])
      fun schema hschema => ?_
    obtain ⟨property, hproperty, rfl⟩ := List.mem_map.mp hschema
    exact hmap properties hread property hproperty
  · cases h
    exact Or.inl hshows
  · cases h
    exact hnew [] (hnested rfl rfl rfl rfl) (by cases ‹Bool› <;> grind [Keywords.schemas, Additional.schemas])
      (by simp)
  · split at h
    · rename_i schema hschema
      cases h
      refine hnew [schema] (hnested rfl rfl rfl rfl) (by grind [Keywords.schemas, Additional.schemas]) ?_
      simpa using hone schema hschema
    · cases h
  · cases h
    exact Or.inl hshows
  · obtain ⟨schema, hschema, rfl⟩ := map_eq_ok.mp h
    refine hnew [schema] (hnested rfl rfl rfl rfl) (by grind [Keywords.schemas]) ?_
    simpa using hone schema hschema
  · cases h
    exact Or.inl hshows
  · obtain ⟨members, hmembers, rfl⟩ := map_eq_ok.mp h
    exact hnew members (hnested rfl rfl rfl rfl) (by grind [Keywords.schemas]) (hlist members hmembers)
  · cases h
    exact Or.inl hshows
  · obtain ⟨members, hmembers, rfl⟩ := map_eq_ok.mp h
    exact hnew members (hnested rfl rfl rfl rfl) (by grind [Keywords.schemas]) (hlist members hmembers)
  · cases h
    exact Or.inl hshows
  · obtain ⟨members, hmembers, rfl⟩ := map_eq_ok.mp h
    exact hnew members (hnested rfl rfl rfl rfl) (by grind [Keywords.schemas]) (hlist members hmembers)
  · have hschemas : keywords'.schemas = keywords.schemas := Keywords.schemas_of_setPlain h
    rcases hshows with hshows | ⟨schema, hschema, hhas⟩
    · exact (traced.plain h hshows).imp_left Or.inl
    · exact Or.inl (Or.inr ⟨schema, hschemas ▸ hschema, hhas⟩)

/-! ## Schemas -/

mutual

theorem of_decode (traced : Traced ofKind ofKeywords ofValue) {value : Json} {schema : Schema}
    (h : Schema.decode value = .ok schema) (hhas : schema.Has ofKind) : ofValue value := by
  cases value with
  | obj members =>
    rw [Schema.decode] at h
    obtain ⟨keywords, hkeywords, rfl⟩ := map_eq_ok.mp h
    rcases of_decodeMembers traced hkeywords (traced.of_ofKeywords hhas) with h | ⟨member, hmember, h⟩
    · exact absurd h traced.not_shows_blank
    · exact traced.member member hmember h
  | arr items =>
    rw [Schema.decode] at h
    obtain ⟨keywords, hkeywords, rfl⟩ := map_eq_ok.mp h
    rcases of_decodeItems traced hkeywords (traced.of_ofKeywords hhas) with h | ⟨item, hitem, h⟩
    · exact absurd h traced.not_shows_blank
    · exact traced.item item hitem h
  | _ => simp [Schema.decode, Decode.failWrongKind, Decode.fail] at h

theorem of_decodeList (traced : Traced ofKind ofKeywords ofValue) {value : Json} {schemas : List Schema}
    (h : Schema.decodeList value = .ok schemas) {schema : Schema} (hschema : schema ∈ schemas)
    (hhas : schema.Has ofKind) : ofValue value := by
  cases value with
  | arr items =>
    obtain ⟨item, hitem, h⟩ := of_decodeSchemas traced h hschema hhas
    exact traced.item item hitem h
  | _ => simp [Schema.decodeList, Decode.failWrongKind, Decode.fail] at h

theorem of_decodeMap (traced : Traced ofKind ofKeywords ofValue) {value : Json}
    {properties : List (String × Schema)} (h : Schema.decodeMap value = .ok properties)
    {property : String × Schema} (hproperty : property ∈ properties) (hhas : property.2.Has ofKind) :
    ofValue value := by
  cases value with
  | obj members =>
    obtain ⟨member, hmember, h⟩ := of_decodeProperties traced h hproperty hhas
    exact traced.member member hmember h
  | _ => simp [Schema.decodeMap, Decode.failWrongKind, Decode.fail] at h

theorem of_decodeMembers (traced : Traced ofKind ofKeywords ofValue) {keywords keywords' : Keywords Schema}
    {members : List (String × Json)} (h : Schema.decodeMembers keywords members = .ok keywords')
    (hshows : keywords'.Shows ofKind ofKeywords) :
    keywords.Shows ofKind ofKeywords ∨ ∃ member ∈ members, ofValue member.2 := by
  cases members with
  | nil =>
    cases h
    exact Or.inl hshows
  | cons member rest =>
    obtain ⟨name, value⟩ := member
    rw [Schema.decodeMembers] at h
    obtain ⟨between, hfirst, hrest⟩ := bind_eq_ok.mp h
    rcases of_decodeMembers traced hrest hshows with h | ⟨member, hmember, h⟩
    · have := traced.of_setKeyword (fun _ => of_decode traced) (fun _ hok _ => of_decodeList traced hok)
        (fun _ hok _ => of_decodeMap traced hok) (fun _ => traced.properties) (within_eq_ok.mp hfirst) h
      exact this.imp_right fun h => ⟨(name, value), List.mem_cons_self, h⟩
    · exact Or.inr ⟨member, List.mem_cons_of_mem _ hmember, h⟩

theorem of_decodeItems (traced : Traced ofKind ofKeywords ofValue) {count index : Nat} {names : List String}
    {keywords keywords' : Keywords Schema} {items : List Json}
    (h : Schema.decodeItems count index names keywords items = .ok keywords')
    (hshows : keywords'.Shows ofKind ofKeywords) :
    keywords.Shows ofKind ofKeywords ∨ ∃ item ∈ items, ofValue item := by
  cases items with
  | nil =>
    cases h
    exact Or.inl hshows
  | cons value rest =>
    cases names with
    | nil => simp [Schema.decodeItems, Decode.fail] at h
    | cons name names =>
      rw [Schema.decodeItems] at h
      obtain ⟨between, hfirst, hrest⟩ := bind_eq_ok.mp h
      rcases of_decodeItems traced hrest hshows with h | ⟨item, hitem, h⟩
      · have := traced.of_setKeyword (fun _ => of_decode traced) (fun _ hok _ => of_decodeList traced hok)
          (fun _ hok _ => of_decodeMap traced hok) (fun _ => traced.properties) (within_eq_ok.mp hfirst) h
        exact this.imp_right fun h => ⟨value, List.mem_cons_self, h⟩
      · exact Or.inr ⟨item, List.mem_cons_of_mem _ hitem, h⟩

theorem of_decodeProperties (traced : Traced ofKind ofKeywords ofValue) {members : List (String × Json)}
    {properties : List (String × Schema)} (h : Schema.decodeProperties members = .ok properties)
    {property : String × Schema} (hproperty : property ∈ properties) (hhas : property.2.Has ofKind) :
    ∃ member ∈ members, ofValue member.2 := by
  cases members with
  | nil =>
    cases h
    simp at hproperty
  | cons member rest =>
    obtain ⟨name, value⟩ := member
    rw [Schema.decodeProperties] at h
    obtain ⟨schema, hschema, hrest⟩ := bind_eq_ok.mp h
    obtain ⟨others, hothers, h⟩ := bind_eq_ok.mp hrest
    cases h
    rcases List.mem_cons.mp hproperty with rfl | hproperty
    · exact ⟨(name, value), List.mem_cons_self, of_decode traced (within_eq_ok.mp hschema) hhas⟩
    · obtain ⟨member, hmember, h⟩ := of_decodeProperties traced hothers hproperty hhas
      exact ⟨member, List.mem_cons_of_mem _ hmember, h⟩

theorem of_decodeSchemas (traced : Traced ofKind ofKeywords ofValue) {index : Nat} {items : List Json}
    {schemas : List Schema} (h : Schema.decodeSchemas index items = .ok schemas) {schema : Schema}
    (hschema : schema ∈ schemas) (hhas : schema.Has ofKind) : ∃ item ∈ items, ofValue item := by
  cases items with
  | nil =>
    cases h
    simp at hschema
  | cons value rest =>
    rw [Schema.decodeSchemas] at h
    obtain ⟨first, hfirst, hrest⟩ := bind_eq_ok.mp h
    obtain ⟨others, hothers, h⟩ := bind_eq_ok.mp hrest
    cases h
    rcases List.mem_cons.mp hschema with rfl | hschema
    · exact ⟨value, List.mem_cons_self, of_decode traced (within_eq_ok.mp hfirst) hhas⟩
    · obtain ⟨item, hitem, h⟩ := of_decodeSchemas traced hothers hschema hhas
      exact ⟨item, List.mem_cons_of_mem _ hitem, h⟩

end

/-- A schema has nothing that the value it was read from does not have. -/
theorem of_ofJson (traced : Traced ofKind ofKeywords ofValue) {value : Json} {schema : Schema}
    (h : Schema.ofJson value = .ok schema) (hhas : schema.Has ofKind) : ofValue value := by
  cases value with
  | bool b =>
    cases h
    exact absurd hhas (traced.not_has_of_plain (Or.inl rfl))
  | _ => exact traced.of_decode h hhas

theorem of_holds (traced : Traced ofKind ofKeywords ofValue) {value part : Json} (h : value.Holds part)
    (hpart : ofValue part) : ofValue value := by
  induction h with
  | refl value => exact hpart
  | item hitem _ ih => exact traced.item _ hitem (ih hpart)
  | member hmember _ ih => exact traced.member _ hmember (ih hpart)

end Traced

/-! ## Documents -/

namespace Document

variable {raw : Json} {document : Document}

theorem ofJson_eq_ok : ofJson raw = .ok document ↔
    (sections.any fun area => (sectionMembers? raw area).isSome) = true ∧
      namedSchemas raw = .ok document.named ∧ raw = document.raw ∧
        reserveAliases raw document.named = document.aliases := by
  obtain ⟨_, named, aliases⟩ := document
  unfold ofJson
  rw [bind_eq_ok]
  by_cases h : (sections.any fun area => (sectionMembers? raw area).isSome) = true
  · simp only [h, if_true, pure, Except.pure, Except.ok.injEq, Document.mk.injEq, true_and]
    constructor
    · rintro ⟨found, hfound, hraw, rfl, haliases⟩
      exact ⟨hfound, hraw, haliases⟩
    · rintro ⟨hfound, hraw, haliases⟩
      exact ⟨named, hfound, hraw, rfl, haliases⟩
  · simp [h, throw, throwThe, MonadExceptOf.throw]

theorem mem_named (h : ofJson raw = .ok document) {entry : NamedSchema}
    (hentry : entry ∈ document.named) : ∃ area ∈ sections, ∃ members value,
      sectionMembers? raw area = some members ∧ (entry.name, value) ∈ members ∧
        entry.pointer = referenceTo area entry.name ∧ Schema.ofJson value = .ok entry.schema := by
  obtain ⟨-, hnamed, -, -⟩ := ofJson_eq_ok.mp h
  unfold namedSchemas at hnamed
  obtain ⟨found, hfound, hflatten⟩ := bind_eq_ok.mp hnamed
  rw [← show found.flatten = document.named from Except.ok.inj hflatten] at hentry
  obtain ⟨entries, hentries, hentry⟩ := List.mem_flatten.mp hentry
  obtain ⟨area, harea, hentries⟩ := mem_of_mapM_eq_ok hfound hentries
  obtain ⟨⟨name, value⟩, hmember, hentry⟩ := mem_of_mapM_eq_ok hentries hentry
  cases hmembers : sectionMembers? raw area with
  | none => simp [hmembers] at hmember
  | some members =>
    rw [hmembers, Option.getD_some] at hmember
    unfold namedSchema at hentry
    split at hentry
    · rename_i schema hschema
      cases hentry
      exact ⟨area, harea, members, value, hmembers, hmember, rfl, hschema⟩
    · cases hentry

theorem holds_of_mem_section {area key : String} {members : List (String × Json)} {value : Json}
    (hmembers : sectionMembers? raw area = some members) (hmember : (key, value) ∈ members) :
    raw.Holds value := by
  obtain ⟨held, hheld, h⟩ := Option.bind_eq_some_iff.mp hmembers
  obtain rfl : held = .obj members := by
    cases held <;> simp [Json.members?] at h
    rw [h]
  exact (Json.holds_of_atPointer? hheld).trans (.member hmember (.refl value))

/-- What a reference reaches was read from a part of the document. -/
theorem exists_part_of_resolve? (h : ofJson raw = .ok document) {reference : String} {target : Schema}
    (htarget : document.resolve? reference = some target) :
    ∃ value, raw.Holds value ∧ Schema.ofJson value = .ok target := by
  obtain ⟨-, -, rfl, -⟩ := ofJson_eq_ok.mp h
  unfold resolve? at htarget
  split at htarget
  · rename_i entry hentry
    cases htarget
    obtain ⟨_, -, _, value, hmembers, hmember, -, hschema⟩ := mem_named h (List.mem_of_find?_eq_some hentry)
    exact ⟨value, holds_of_mem_section hmembers hmember, hschema⟩
  · obtain ⟨value, hvalue, htarget⟩ := Option.bind_eq_some_iff.mp htarget
    have hschema : Schema.ofJson value = .ok target := by
      split at htarget
      · cases hread : Schema.ofJson value <;> simp [hread, Except.toOption] at htarget
        rw [htarget]
      · cases htarget
    unfold rawAt? at hvalue
    split at hvalue
    · exact ⟨value, Json.holds_of_atPointer? hvalue, hschema⟩
    · cases hvalue

end Document

namespace Traced

variable {ofKind : SchemaKind Schema → Prop} {ofKeywords : Keywords Schema → Prop} {ofValue : Json → Prop}
  {raw : Json} {document : Document}

/-- What a reference reaches has nothing that the document does not have. -/
theorem of_resolve? (traced : Traced ofKind ofKeywords ofValue) (h : Document.ofJson raw = .ok document)
    {reference : String} {target : Schema} (htarget : document.resolve? reference = some target)
    (hhas : target.Has ofKind) : ofValue raw := by
  obtain ⟨value, hvalue, hschema⟩ := Document.exists_part_of_resolve? h htarget
  exact traced.of_holds hvalue (traced.of_ofJson hschema hhas)

/-- So does the schema at the end of a chain of references that begins within a schema. -/
theorem of_resolveDeep? (traced : Traced ofKind ofKeywords ofValue) (h : Document.ofJson raw = .ok document)
    {schema target : Schema} (htarget : document.resolveDeep? schema = some target)
    (hhas : target.Has ofKind) : schema.Has ofKind ∨ ofValue raw := by
  obtain ⟨_, -, hchain⟩ := Document.resolveDeep?_eq_some_iff.mp htarget
  clear htarget
  induction hchain with
  | here _ => exact Or.inl hhas
  | next _ hnext _ ih => exact Or.inr ((ih hhas).elim (traced.of_resolve? h hnext) id)

end Traced

end SchemaTypings
