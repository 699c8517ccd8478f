import Mathlib.Data.List.Nodup
import Mathlib.Data.List.Perm.Basic
import Mathlib.Logic.Relation
import SchemaTypings.Json.Pointer
import SchemaTypings.Proofs.Decode.Keywords
import SchemaTypings.Proofs.Document.Keys
import SchemaTypings.Proofs.Lookup

/-!
# Documents in another order

Two values may differ only in the order of the members of one object, which some keys lead to
(`Json.Reordered`). Other keys lead to the same in both, or to values that differ in that way
(`Json.Reordered.walk?_eq`).

The members of each section with named schemas may come in another order (`Document.Reordered`). The
named schemas are the same then, and every reference reaches the same schema
(`Document.Reordered.exists_document`), also one that leads through a section: what is read there goes
by the keys, none of which stands twice.
-/

namespace SchemaTypings

open Decode Relation

/-! ## Members in another order -/

namespace Json

/-- `Reordered way value value'`: the object that the keys lead to has its members in another order;
everything else is the same. -/
inductive Reordered : List String → Json → Json → Prop
  | here {members members' : List (String × Json)} (hperm : members.Perm members')
    (hkeys : (members.map (·.1)).Nodup) : Reordered [] (.obj members) (.obj members')
  | member {key : String} {way : List String} {before after : List (String × Json)}
    {value value' : Json} (hkey : key ∉ before.map (·.1)) (h : Reordered way value value') :
    Reordered (key :: way) (.obj (before ++ (key, value) :: after))
      (.obj (before ++ (key, value') :: after))

variable {way : List String} {value value' : Json}

theorem Reordered.isSchemaLike (h : Reordered way value value') :
    value.isSchemaLike = true ∧ value'.isSchemaLike = true := by
  cases h <;> exact ⟨rfl, rfl⟩

/-- A key leads to the same in both values, or it is the first one on the way to the object. -/
theorem Reordered.child?_eq (h : Reordered way value value') (key : String) :
    value.child? key = value'.child? key ∨ ∃ rest child child', way = key :: rest ∧
      value.child? key = some child ∧ value'.child? key = some child' ∧
        Reordered rest child child' := by
  cases h with
  | here hperm hkeys => exact Or.inl (lookup_eq_of_perm hperm hkeys)
  | @member first rest before after child child' hkey h =>
    have hlookup : ∀ child, (before ++ (first, child) :: after).lookup key =
        if key = first then some child else (before ++ after).lookup key := by
      intro child
      rw [List.lookup_append, List.lookup_append, lookup_cons_eq_ite]
      by_cases heq : key = first
      · rw [heq, if_pos rfl, if_pos rfl, lookup_eq_none_of_not_mem hkey, Option.none_or]
      · rw [if_neg heq, if_neg heq]
    by_cases heq : key = first
    · refine Or.inr ⟨rest, child, child', by rw [heq], ?_, ?_, h⟩
      · exact (hlookup child).trans (if_pos heq)
      · exact (hlookup child').trans (if_pos heq)
    · exact Or.inl ((hlookup child).trans ((if_neg heq).trans
        ((hlookup child').trans (if_neg heq)).symm))

theorem Reordered.walk?_eq (h : Reordered way value value') (keys : List String) :
    value.walk? keys = value'.walk? keys ∨ ∃ rest reached reached', way = keys ++ rest ∧
      value.walk? keys = some reached ∧ value'.walk? keys = some reached' ∧
        Reordered rest reached reached' := by
  induction keys generalizing way value value' with
  | nil => exact Or.inr ⟨way, value, value', rfl, rfl, rfl, h⟩
  | cons key keys ih =>
    rw [walk?, walk?]
    rcases h.child?_eq key with hsame | ⟨rest, child, child', rfl, hchild, hchild', hrest⟩
    · exact Or.inl (by rw [hsame])
    · rw [hchild, hchild', Option.bind_some, Option.bind_some]
      refine (ih hrest).imp_right ?_
      rintro ⟨rest, reached, reached', rfl, hreached⟩
      exact ⟨rest, reached, reached', rfl, hreached⟩

end Json

/-! ## Named schemas in another order -/

namespace Document

variable {raw raw' : Json} {document document' : Document}

/-- The members of one section are in another order; everything else is the same. -/
def SectionReordered (raw raw' : Json) : Prop :=
  ∃ area ∈ sections, ∃ way, Pointer.keys? area = some way ∧ Json.Reordered way raw raw'

/-- The named schemas of the sections are in another order; everything else is the same. -/
def Reordered : Json → Json → Prop :=
  ReflTransGen SectionReordered

/-- The documents hold the same named schemas, and references reach the same in both. -/
structure Agrees (document document' : Document) : Prop where
  named : document.named.Perm document'.named
  resolve : document.resolve? = document'.resolve?

theorem Agrees.trans {between : Document} (h : document.Agrees between)
    (h' : between.Agrees document') : document.Agrees document' :=
  ⟨h.named.trans h'.named, h.resolve.trans h'.resolve⟩

/-! ## Sections -/

/-- The keys that lead to a section. -/
theorem way_of_mem_sections {area : String} {way : List String} (harea : area ∈ sections)
    (hway : Pointer.keys? area = some way) :
    way ∈ [["components", "schemas"], ["definitions"], ["$defs"]] := by
  have hkeys : ∀ area ∈ sections,
      Pointer.keys? area ∈ [["components", "schemas"], ["definitions"], ["$defs"]].map some := by
    decide +kernel
  have := hkeys area harea
  rw [hway] at this
  simpa using this

theorem eq_nil_of_way {area area' : String} {way way' rest : List String} (harea : area ∈ sections)
    (harea' : area' ∈ sections) (hway : Pointer.keys? area = some way)
    (hway' : Pointer.keys? area' = some way') (h : way = way' ++ rest) : rest = [] := by
  have hmem := way_of_mem_sections harea hway
  have hmem' := way_of_mem_sections harea' hway'
  simp only [List.mem_cons, List.not_mem_nil, or_false] at hmem hmem'
  rcases hmem with rfl | rfl | rfl <;> rcases hmem' with rfl | rfl | rfl <;>
    first | (simp at h; done) | simpa using h

/-- No key on the way to a section is a keyword. -/
theorem not_mem_order_of_way {area key : String} {way : List String} (harea : area ∈ sections)
    (hway : Pointer.keys? area = some way) (hkey : key ∈ way) : key ∉ Keywords.order := by
  have hkeys : ∀ way ∈ [["components", "schemas"], ["definitions"], ["$defs"]],
      ∀ key ∈ way, key ∉ Keywords.order := by
    decide +kernel
  exact hkeys way (way_of_mem_sections harea hway) key hkey

/-- Two lists of members, if any, are the same but for their order, and no key stands twice if it is
not the same. -/
def SameMembers (found found' : Option (List (String × Json))) : Prop :=
  found = found' ∨ ∃ members members', found = some members ∧ found' = some members' ∧
    members.Perm members' ∧ (members.map (·.1)).Nodup

theorem SectionReordered.sameMembers (h : SectionReordered raw raw') {area : String}
    (harea : area ∈ sections) : SameMembers (sectionMembers? raw area) (sectionMembers? raw' area) := by
  obtain ⟨area', harea', way, hway, hreordered⟩ := h
  unfold sectionMembers? Json.atPointer?
  cases hkeys : Pointer.keys? area with
  | none => exact Or.inl rfl
  | some keys =>
    rw [Option.bind_some, Option.bind_some]
    rcases hreordered.walk?_eq keys with hsame | ⟨rest, reached, reached', hrest, hreached, hreached', h⟩
    · exact Or.inl (by rw [hsame])
    · obtain rfl := eq_nil_of_way harea' harea hway hkeys hrest
      rw [hreached, hreached']
      cases h with
      | here hperm hnodup => exact Or.inr ⟨_, _, rfl, rfl, hperm, hnodup⟩

/-! ## Named schemas -/

/-- Two lists of named schemas are the same but for their order, which makes no difference to
references. -/
structure SameEntries (entries entries' : List NamedSchema) : Prop where
  perm : entries.Perm entries'
  find : ∀ reference, entries.find? (·.pointer == reference) = entries'.find? (·.pointer == reference)

theorem SameEntries.of_perm {entries entries' : List NamedSchema} (hperm : entries.Perm entries')
    (hpointers : (entries.map (·.pointer)).Nodup) : SameEntries entries entries' := by
  refine ⟨hperm, fun reference => ?_⟩
  have huniq : ∀ first ∈ entries, ∀ second ∈ entries, first.pointer = second.pointer →
      first = second := fun first hfirst second hsecond => List.inj_on_of_nodup_map hpointers hfirst hsecond
  cases hfind : entries.find? (·.pointer == reference) with
  | none =>
    rw [List.find?_eq_none] at hfind
    exact (List.find?_eq_none.mpr fun entry hentry => hfind entry (hperm.mem_iff.mpr hentry)).symm
  | some found =>
    cases hfind' : entries'.find? (·.pointer == reference) with
    | none =>
      rw [List.find?_eq_none] at hfind'
      exact absurd (List.find?_some hfind)
        (hfind' found (hperm.mem_iff.mp (List.mem_of_find?_eq_some hfind)))
    | some found' =>
      have hpointer : found.pointer = reference := by simpa using List.find?_some hfind
      have hpointer' : found'.pointer = reference := by simpa using List.find?_some hfind'
      rw [huniq found (List.mem_of_find?_eq_some hfind) found'
        (hperm.mem_iff.mpr (List.mem_of_find?_eq_some hfind')) (hpointer.trans hpointer'.symm)]

theorem SameEntries.flatten {found found' : List (List NamedSchema)}
    (h : List.Forall₂ SameEntries found found') : SameEntries found.flatten found'.flatten := by
  induction h with
  | nil => exact ⟨.nil, fun _ => rfl⟩
  | cons hfirst _ ih =>
    refine ⟨hfirst.perm.append ih.perm, fun reference => ?_⟩
    rw [List.flatten_cons, List.flatten_cons, List.find?_append, List.find?_append,
      hfirst.find reference, ih.find reference]

theorem SameMembers.sameEntries {area : String} (harea : area ∈ sections)
    {found found' : Option (List (String × Json))} (h : SameMembers found found')
    {entries : List NamedSchema} (hentries : (found.getD []).mapM (namedSchema area) = .ok entries) :
    ∃ entries', (found'.getD []).mapM (namedSchema area) = .ok entries' ∧
      SameEntries entries entries' := by
  rcases h with rfl | ⟨members, members', rfl, rfl, hperm, hkeys⟩
  · exact ⟨entries, hentries, .refl _, fun _ => rfl⟩
  · rw [Option.getD_some] at hentries ⊢
    obtain ⟨entries', hentries', hperm'⟩ := mapM_perm hperm hentries
    refine ⟨entries', hentries', .of_perm hperm' ?_⟩
    rw [pointers_of_mapM hentries]
    exact hkeys.map fun _ _ hsame => (referenceTo_inj harea harea hsame).2

theorem SectionReordered.sameEntries (h : SectionReordered raw raw') {entries : List NamedSchema}
    (hentries : namedSchemas raw = .ok entries) :
    ∃ entries', namedSchemas raw' = .ok entries' ∧ SameEntries entries entries' := by
  have hmapM : ∀ areas : List String, areas ⊆ sections → ∀ found,
      areas.mapM (fun area => ((sectionMembers? raw area).getD []).mapM (namedSchema area)) =
        .ok found → ∃ found', areas.mapM (fun area =>
          ((sectionMembers? raw' area).getD []).mapM (namedSchema area)) = .ok found' ∧
            List.Forall₂ SameEntries found found' := by
    intro areas
    induction areas with
    | nil =>
      intro _ found hfound
      rw [mapM_nil_eq_ok.mp hfound]
      exact ⟨[], rfl, .nil⟩
    | cons area rest ih =>
      intro hareas found hfound
      obtain ⟨first, others, hfirst, hothers, rfl⟩ := mapM_cons_eq_ok.mp hfound
      obtain ⟨first', hfirst', hsame⟩ := (h.sameMembers (hareas (by simp))).sameEntries (hareas (by simp)) hfirst
      obtain ⟨others', hothers', hsame'⟩ := ih (fun _ h => hareas (by simp [h])) others hothers
      exact ⟨first' :: others', mapM_cons_eq_ok.mpr ⟨_, _, hfirst', hothers', rfl⟩,
        .cons hsame hsame'⟩
  obtain ⟨found, hfound, hflatten⟩ := bind_eq_ok.mp hentries
  obtain rfl := Except.ok.inj hflatten
  obtain ⟨found', hfound', hsame⟩ := hmapM sections (fun _ => id) found hfound
  exact ⟨found'.flatten, bind_eq_ok.mpr ⟨found', hfound', rfl⟩, .flatten hsame⟩

/-! ## References -/

/-- The order of members on a way of keys that are no keywords makes no difference to schemas. -/
theorem toOption_ofJson_of_reordered {way : List String} {value value' : Json}
    (h : Json.Reordered way value value') (hway : ∀ key ∈ way, key ∉ Keywords.order) :
    (Schema.ofJson value).toOption = (Schema.ofJson value').toOption := by
  cases h with
  | here hperm hkeys => exact Schema.toOption_ofJson_perm hperm hkeys
  | member hkey h => rw [Schema.ofJson_replace (hway _ (by simp))]

/-- What a reference reaches in a value, read as a schema. -/
def schemaIn? (raw : Json) (reference : String) : Option Schema :=
  (rawAt? ⟨raw, [], []⟩ reference).bind fun value =>
    if value.isSchemaLike then (Schema.ofJson value).toOption else none

theorem SectionReordered.schemaIn?_eq (h : SectionReordered raw raw') (reference : String) :
    schemaIn? raw reference = schemaIn? raw' reference := by
  obtain ⟨area, harea, way, hway, hreordered⟩ := h
  unfold schemaIn? rawAt?
  split
  · rename_i text _
    dsimp only
    unfold Json.atPointer?
    cases Pointer.keys? (String.ofList text) with
    | none => rfl
    | some keys =>
      rw [Option.bind_some, Option.bind_some]
      rcases hreordered.walk?_eq keys with hsame | ⟨rest, reached, reached', rfl, hreached, hreached', h⟩
      · rw [hsame]
      · rw [hreached, hreached']
        show (if reached.isSchemaLike then _ else none) = if reached'.isSchemaLike then _ else none
        rw [h.isSchemaLike.1, h.isSchemaLike.2, toOption_ofJson_of_reordered h fun key hkey =>
          not_mem_order_of_way harea hway (List.mem_append_right _ hkey)]
  · rfl

theorem resolve?_eq (h : ofJson raw = .ok document) (reference : String) :
    document.resolve? reference =
      ((document.at? reference).map (·.schema)).or (schemaIn? raw reference) := by
  obtain ⟨-, -, rfl, -⟩ := ofJson_eq_ok.mp h
  unfold resolve?
  cases document.at? reference <;> rfl

/-! ## Documents -/

theorem SectionReordered.exists_document (hreordered : SectionReordered raw raw')
    (h : ofJson raw = .ok document) : ∃ document', ofJson raw' = .ok document' ∧
      document.Agrees document' := by
  obtain ⟨hsome, hnamed, -, -⟩ := ofJson_eq_ok.mp h
  obtain ⟨entries', hentries', hsame⟩ := hreordered.sameEntries hnamed
  have hsome' : (sections.any fun area => (sectionMembers? raw' area).isSome) = true := by
    obtain ⟨area, harea, hfound⟩ := List.any_eq_true.mp hsome
    refine List.any_eq_true.mpr ⟨area, harea, ?_⟩
    rcases hreordered.sameMembers harea with heq | ⟨_, _, _, heq, _⟩
    · exact heq ▸ hfound
    · rw [heq]
      rfl
  have hdocument' : ofJson raw' = .ok ⟨raw', entries', reserveAliases raw' entries'⟩ :=
    ofJson_eq_ok.mpr ⟨hsome', hentries', rfl, rfl⟩
  refine ⟨_, hdocument', hsame.perm, funext fun reference => ?_⟩
  rw [resolve?_eq h, resolve?_eq hdocument', hreordered.schemaIn?_eq reference, at?, at?,
    hsame.find reference]

/-- With the named schemas in another order, there is a document too, and it agrees. -/
theorem Reordered.exists_document (hreordered : Reordered raw raw') (h : ofJson raw = .ok document) :
    ∃ document', ofJson raw' = .ok document' ∧ document.Agrees document' := by
  induction hreordered with
  | refl => exact ⟨document, h, .refl _, rfl⟩
  | tail _ hstep ih =>
    obtain ⟨between, hbetween, hagrees⟩ := ih
    obtain ⟨document', hdocument', hagrees'⟩ := hstep.exists_document hbetween
    exact ⟨document', hdocument', hagrees.trans hagrees'⟩

end Document

end SchemaTypings
