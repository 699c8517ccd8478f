import SchemaTypings.Proofs.Document.Keys
import SchemaTypings.Proofs.Lookup

/-!
# Named schemas in their places

A reference to a named schema is the way to the member of a section that it was decoded from: the keys
that its text names are those of the section, and after them the name as it was before it was escaped. So
a document has one named schema for each member of its sections, under a reference of its own, and what
the reference resolves to is what is decoded at the end of that way (`forall₂_standsAt`). Following the way
itself leads to the same, unless the schema is written as a list (`standsAt_differs_of_list`).
-/

namespace SchemaTypings

namespace Pointer

/-- One more key is escaped, and named by one more segment. -/
theorem keys?_append_escape {way : String} {keys : List String} (h : keys? way = some keys)
    (key : String) :
    keys? (way ++ "/" ++ String.ofList (escape key.toList)) = some (keys ++ [key]) := by
  have htext : (way ++ "/" ++ String.ofList (escape key.toList)).toList =
      way.toList ++ '/' :: escape key.toList := by simp
  have hsegment : Text.fields '/' (escape key.toList) = [escape key.toList] :=
    Text.fields_eq_singleton (slash_not_mem_escape _)
  have hkey : String.ofList (unescape (escape key.toList)) = key := by
    rw [unescape_escape, String.ofList_toList]
  unfold keys? at h ⊢
  rw [htext]
  split at h
  · rename_i hway
    rw [hway, List.nil_append]
    cases h
    simp only [hsegment, List.map_cons, List.map_nil, hkey, List.nil_append]
  · rename_i rest hway
    rw [hway, List.cons_append]
    cases h
    simp only [Text.fields_append, hsegment, List.map_append, List.map_cons, List.map_nil, hkey]
  · cases h

end Pointer

namespace Json

theorem walk?_append (value : Json) (keys rest : List String) :
    value.walk? (keys ++ rest) = (value.walk? keys).bind (·.walk? rest) := by
  induction keys generalizing value with
  | nil => rfl
  | cons key keys ih =>
    rw [List.cons_append, walk?, walk?, Option.bind_assoc]
    exact Option.bind_congr fun child _ => ih child

end Json

namespace Document

open Decode

variable {raw : Json} {document : Document} {area : String} {member : String × Json}
  {entry : NamedSchema}

/-- The members of the sections that a value has, in order, each with its section. -/
def sectionMembers (raw : Json) : List (String × String × Json) :=
  sections.flatMap fun area => ((sectionMembers? raw area).getD []).map (area, ·)

/-- The named schema of a document is the member of a section, decoded, and its reference leads there
and to no other. -/
structure StandsAt (raw : Json) (document : Document) (area : String) (member : String × Json)
    (entry : NamedSchema) : Prop where
  name : entry.name = member.1
  pointer : entry.pointer = referenceTo area member.1
  only : ∀ other ∈ document.named, other.pointer = entry.pointer → other = entry
  resolves : document.resolve? entry.pointer = some entry.schema
  /-- The member is where the keys of the reference lead, step by step. -/
  walks : ∃ way keys, entry.pointer = "#" ++ way ∧ Pointer.keys? way = some keys ∧
    raw.walk? keys = some member.2
  decodes : Schema.ofJson member.2 = .ok entry.schema
  /-- Without a look at the named schemas, the same is reached. -/
  agrees : (∀ items, member.2 ≠ .arr items) →
    Document.resolve? { document with named := [] } entry.pointer = some entry.schema
  /-- A section may hold a schema that is written as a list; elsewhere a list is no schema. -/
  differs : ∀ items, member.2 = .arr items →
    Document.resolve? { document with named := [] } entry.pointer = none
  typeName : Name.ofReference entry.pointer = Name.pascal entry.name

theorem exists_keys_of_mem_sections (harea : area ∈ sections) : ∃ keys, Pointer.keys? area = some keys := by
  have h : ∀ area ∈ sections, (Pointer.keys? area).isSome = true := by decide +kernel
  exact Option.isSome_iff_exists.mp (h area harea)

theorem forall₂_flatten {α β : Type} {R : α → β → Prop} {lists : List (List α)}
    {found : List (List β)} (h : List.Forall₂ (List.Forall₂ R) lists found) :
    List.Forall₂ R lists.flatten found.flatten := by
  induction h with
  | nil => exact .nil
  | cons hfirst _ ih => exact List.rel_append hfirst ih

/-- The named schemas are the members of the sections, one after another. -/
theorem forall₂_namedSchema (h : ofJson raw = .ok document) :
    List.Forall₂ (fun place entry => namedSchema place.1 place.2 = .ok entry)
      (sectionMembers raw) document.named := by
  obtain ⟨-, hnamed, -, -⟩ := ofJson_eq_ok.mp h
  obtain ⟨found, hfound, hflatten⟩ := bind_eq_ok.mp hnamed
  rw [← show found.flatten = document.named from Except.ok.inj hflatten, sectionMembers,
    List.flatMap_def]
  refine forall₂_flatten ?_
  rw [List.forall₂_map_left_iff]
  refine (forall₂_of_mapM_eq_ok hfound).imp fun area entries hentries => ?_
  rw [List.forall₂_map_left_iff]
  exact forall₂_of_mapM_eq_ok hentries

/-- The way of a reference leads to the member of the section. -/
theorem atPointer?_member (hkeys : KeysDistinct raw) (hplace : (area, member) ∈ sectionMembers raw) :
    ∃ way keys, referenceTo area member.1 = "#" ++ way ∧ Pointer.keys? way = some keys ∧
      raw.walk? keys = some member.2 := by
  obtain ⟨_, harea, hmember⟩ := List.mem_flatMap.mp hplace
  obtain ⟨_, hmember, heq⟩ := List.mem_map.mp hmember
  cases heq
  obtain ⟨keys, hway⟩ := exists_keys_of_mem_sections harea
  refine ⟨area ++ "/" ++ String.ofList (Pointer.escape member.1.toList), keys ++ [member.1], ?_,
    Pointer.keys?_append_escape hway _, ?_⟩
  · simp [referenceTo, String.append_assoc]
  · have hdistinct := hkeys area harea
    cases hmembers : sectionMembers? raw area with
    | none => simp [hmembers] at hmember
    | some members =>
      rw [hmembers, Option.getD_some] at hmember hdistinct
      obtain ⟨held, hheld, hobject⟩ := Option.bind_eq_some_iff.mp hmembers
      obtain rfl : held = .obj members := by
        cases held <;> simp [Json.members?] at hobject
        rw [hobject]
      rw [Json.atPointer?, hway, Option.bind_some] at hheld
      rw [Json.walk?_append, hheld, Option.bind_some, Json.walk?, Json.child?,
        lookup_eq_some_of_mem hdistinct hmember]
      rfl

theorem namedSchema_eq_ok (h : namedSchema area member = .ok entry) :
    entry.name = member.1 ∧ entry.pointer = referenceTo area member.1 ∧
      Schema.ofJson member.2 = .ok entry.schema := by
  unfold namedSchema at h
  split at h
  · rename_i schema hschema
    cases h
    exact ⟨rfl, rfl, hschema⟩
  · cases h

/-- Without named schemas, a reference is resolved by following its keys to an object or a truth value. -/
theorem resolve?_of_walks (h : ofJson raw = .ok document) {way : String} {keys : List String}
    {value : Json} (hkeys : Pointer.keys? way = some keys) (hwalk : raw.walk? keys = some value) :
    Document.resolve? { document with named := [] } ("#" ++ way) =
      if value.isSchemaLike then (Schema.ofJson value).toOption else none := by
  obtain ⟨-, -, rfl, -⟩ := ofJson_eq_ok.mp h
  have hraw : Document.rawAt? { document with named := [] } ("#" ++ way) = some value := by
    simp [rawAt?, Json.atPointer?, hkeys, hwalk]
  simp [resolve?, at?, hraw]

/-- What a schema is decoded from is an object or a truth value, or else a list. -/
theorem isSchemaLike_of_decodes {value : Json} {schema : Schema} (h : Schema.ofJson value = .ok schema)
    (hlist : ∀ items, value ≠ .arr items) : value.isSchemaLike = true := by
  cases value with
  | obj members => rfl
  | bool value => rfl
  | arr items => exact absurd rfl (hlist items)
  | _ => cases h

/-- A document has one named schema for each member of its sections, in order. Each has a reference of
its own, with the type name of the schema, which resolves to the schema that the member decodes to at
the end of the way. -/
theorem forall₂_standsAt (h : ofJson raw = .ok document) (hkeys : KeysDistinct raw) :
    (document.named.map (·.pointer)).Nodup ∧
    List.Forall₂ (fun place entry => StandsAt raw document place.1 place.2 entry)
      (sectionMembers raw) document.named := by
  have hpointers := pointers_nodup h hkeys
  refine ⟨hpointers, ?_⟩
  obtain ⟨hlength, hnamed⟩ := List.forall₂_iff_zip.mp (forall₂_namedSchema h)
  refine List.forall₂_iff_zip.mpr ⟨hlength, fun {place entry} hzip => ?_⟩
  obtain ⟨area, member⟩ := place
  obtain ⟨hplace, hentry⟩ := List.of_mem_zip hzip
  obtain ⟨hname, hpointer, hdecodes⟩ := namedSchema_eq_ok (hnamed hzip)
  obtain ⟨way, keys, hreference, hway, hwalk⟩ := atPointer?_member hkeys hplace
  rw [← hpointer] at hreference
  exact {
    name := hname
    pointer := hpointer
    only := fun other hother hsame => List.inj_on_of_nodup_map hpointers hother hentry hsame
    resolves := resolve?_pointer hpointers hentry
    walks := ⟨way, keys, hreference, hway, hwalk⟩
    decodes := hdecodes
    agrees := fun hlist => by
      rw [hreference, resolve?_of_walks h hway hwalk, if_pos (isSchemaLike_of_decodes hdecodes hlist),
        hdecodes]
      rfl
    differs := fun items hitems => by
      rw [hreference, resolve?_of_walks h hway hwalk, hitems]
      rfl
    typeName := by rw [hpointer, hname, Name.ofReference_referenceTo] }

/-- Two schemas whose names hold the characters that are escaped, in either order. -/
def escapedNames : Json :=
  .obj [("$defs", .obj [("~1", .bool true), ("a~01/b", .obj [("type", .str "string")])]),
    ("definitions", .obj [("~1", .obj [])])]

/-- The keys on the way are read back, whatever stands next to what was escaped. -/
theorem standsAt_escapedNames : ∃ document, ofJson escapedNames = .ok document ∧
    KeysDistinct escapedNames ∧ document.named.map (·.pointer) =
      ["#/definitions/~01", "#/$defs/~01", "#/$defs/a~001~1b"] ∧
    List.Forall₂ (fun place entry => StandsAt escapedNames document place.1 place.2 entry)
      (sectionMembers escapedNames) document.named := by
  have hrun : ((ofJson escapedNames).toOption.any fun document =>
      decide (document.named.map (·.pointer) =
        ["#/definitions/~01", "#/$defs/~01", "#/$defs/a~001~1b"])) = true := by decide +kernel
  have hkeys : KeysDistinct escapedNames := by decide +kernel
  obtain ⟨document, hdocument, hrun⟩ := Decode.exists_ok_of_any hrun
  exact ⟨document, hdocument, hkeys, of_decide_eq_true hrun,
    (forall₂_standsAt hdocument hkeys).2⟩

/-- A schema that is written as a list is found by the reference of its section only. -/
theorem standsAt_differs_of_list : ∃ document entry,
    ofJson (.obj [("$defs", .obj [("A", .arr [])])]) = .ok document ∧
    KeysDistinct (.obj [("$defs", .obj [("A", .arr [])])]) ∧ document.named = [entry] ∧
    entry.pointer = "#/$defs/A" ∧ document.resolve? "#/$defs/A" = some entry.schema ∧
    Document.resolve? { document with named := [] } "#/$defs/A" = none := by
  have hkeys : KeysDistinct (.obj [("$defs", .obj [("A", .arr [])])]) := by decide +kernel
  exact ⟨⟨_, [⟨"A", "#/$defs/A", {}⟩], []⟩, _, rfl, hkeys, rfl, rfl, rfl, rfl⟩

end Document

end SchemaTypings
