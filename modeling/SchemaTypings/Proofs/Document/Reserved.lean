import SchemaTypings.Proofs.Document.Aliases

/-!
# Reserved aliases

The walk over a document finds the strings that are held under `$ref`, at whatever depth
(`Document.mem_references`). Of these, the local ones that are not those of named schemas get an alias, each
once: a step of the fold adds a key where one is needed and missing (`Document.mem_keys_reserveAlias`), and what a
run of steps adds follows by induction. Each alias is fresh among the type names and the aliases before it, so
that all of them are apart, however the names made of the ways coincide.
-/

namespace SchemaTypings

/-- The text is held under the key, somewhere in the value. -/
inductive Json.HoldsUnder (key text : String) : Json → Prop
  | here {members : List (String × Json)} (h : (key, .str text) ∈ members) : HoldsUnder key text (.obj members)
  | member {members : List (String × Json)} {member : String × Json} (hmember : member ∈ members)
    (h : HoldsUnder key text member.2) : HoldsUnder key text (.obj members)
  | item {items : List Json} {item : Json} (hitem : item ∈ items) (h : HoldsUnder key text item) :
    HoldsUnder key text (.arr items)

namespace Document

variable {raw : Json} {document : Document} {reference text key : String}

/-! ## References in a value -/

theorem mem_referencesOfItems {items : List Json} :
    text ∈ referencesOfItems items ↔ ∃ item ∈ items, text ∈ references item := by
  induction items with
  | nil => simp [referencesOfItems]
  | cons item rest ih => simp [referencesOfItems, ih]

/-- A text under `$ref` counts itself; no text holds references. -/
theorem mem_referencesOfMembers_cons {value : Json} {rest : List (String × Json)} :
    text ∈ referencesOfMembers ((key, value) :: rest) ↔
      ("$ref", .str text) = (key, value) ∨ text ∈ references value ∨ text ∈ referencesOfMembers rest := by
  by_cases h : ∃ target, key = "$ref" ∧ value = .str target
  · obtain ⟨target, rfl, rfl⟩ := h
    simp [referencesOfMembers, references]
  · have hother : ("$ref", .str text) ≠ (key, value) := by
      rintro ⟨⟩
      exact h ⟨text, rfl, rfl⟩
    rw [referencesOfMembers, List.mem_append, or_iff_right hother]
    exact fun target hkey hvalue => h ⟨target, hkey, hvalue⟩

theorem mem_referencesOfMembers {members : List (String × Json)} :
    text ∈ referencesOfMembers members ↔
      ("$ref", .str text) ∈ members ∨ ∃ member ∈ members, text ∈ references member.2 := by
  induction members with
  | nil => simp [referencesOfMembers]
  | cons member rest ih =>
    obtain ⟨key, value⟩ := member
    rw [mem_referencesOfMembers_cons, ih]
    simp only [List.mem_cons, exists_eq_or_imp]
    tauto

mutual

theorem holdsUnder_of_mem_references : (value : Json) → text ∈ references value →
    value.HoldsUnder "$ref" text
  | .arr items, h => by
    rw [references] at h
    obtain ⟨item, hitem, hheld⟩ := holdsUnder_of_mem_referencesOfItems items h
    exact .item hitem hheld
  | .obj members, h => by
    rw [references] at h
    rcases holdsUnder_of_mem_referencesOfMembers members h with hhere | ⟨member, hmember, hheld⟩
    · exact .here hhere
    · exact .member hmember hheld
  | .null, h | .bool _, h | .int _, h | .float _, h | .str _, h => by simp [references] at h

theorem holdsUnder_of_mem_referencesOfItems : (items : List Json) → text ∈ referencesOfItems items →
    ∃ item ∈ items, item.HoldsUnder "$ref" text
  | [], h => by simp [referencesOfItems] at h
  | item :: rest, h => by
    rw [referencesOfItems, List.mem_append] at h
    rcases h with h | h
    · exact ⟨item, List.mem_cons_self, holdsUnder_of_mem_references item h⟩
    · obtain ⟨other, hother, hheld⟩ := holdsUnder_of_mem_referencesOfItems rest h
      exact ⟨other, List.mem_cons_of_mem _ hother, hheld⟩

theorem holdsUnder_of_mem_referencesOfMembers : (members : List (String × Json)) →
    text ∈ referencesOfMembers members →
      ("$ref", .str text) ∈ members ∨ ∃ member ∈ members, member.2.HoldsUnder "$ref" text
  | [], h => by simp [referencesOfMembers] at h
  | (key, value) :: rest, h => by
    rcases mem_referencesOfMembers_cons.mp h with hhere | h | h
    · exact Or.inl (hhere ▸ List.mem_cons_self)
    · exact Or.inr ⟨_, List.mem_cons_self, holdsUnder_of_mem_references value h⟩
    · rcases holdsUnder_of_mem_referencesOfMembers rest h with hhere | ⟨member, hmember, hheld⟩
      · exact Or.inl (List.mem_cons_of_mem _ hhere)
      · exact Or.inr ⟨member, List.mem_cons_of_mem _ hmember, hheld⟩

end

/-- The references in a value are the texts that are held under `$ref` in it. -/
theorem mem_references {value : Json} : text ∈ references value ↔ value.HoldsUnder "$ref" text := by
  refine ⟨holdsUnder_of_mem_references value, fun h => ?_⟩
  induction h with
  | here h =>
    rw [references, mem_referencesOfMembers]
    exact Or.inl h
  | member hmember _ ih =>
    rw [references, mem_referencesOfMembers]
    exact Or.inr ⟨_, hmember, ih⟩
  | item hitem _ ih =>
    rw [references, mem_referencesOfItems]
    exact ⟨_, hitem, ih⟩

/-! ## Keys -/

section

variable {pointers names : List String} {aliases : List (String × String)}

/-- The reference leads to a place below the root of the document that holds it. -/
def IsLocal (reference : String) : Prop :=
  "#/".toList <+: reference.toList

instance : Decidable (IsLocal reference) :=
  inferInstanceAs (Decidable (_ <+: _))

/-- A step adds the key of the reference, if that needs an alias and has none. -/
theorem keys_reserveAlias : (reserveAlias pointers names aliases reference).map (·.1) =
    if (IsLocal reference ∧ reference ∉ pointers) ∧ reference ∉ aliases.map (·.1) then
      aliases.map (·.1) ++ [reference]
    else aliases.map (·.1) := by
  have hneeds : (!"#/".toList.isPrefixOf reference.toList || pointers.contains reference
      || (aliases.lookup reference).isSome) = true ↔
        ¬((IsLocal reference ∧ reference ∉ pointers) ∧ reference ∉ aliases.map (·.1)) := by
    rw [Bool.or_eq_true, Bool.or_eq_true, isSome_lookup_iff, List.contains_iff_mem, Bool.not_eq_true',
      ← Bool.not_eq_true, List.isPrefixOf_iff_prefix, IsLocal]
    tauto
  unfold reserveAlias
  by_cases h : (IsLocal reference ∧ reference ∉ pointers) ∧ reference ∉ aliases.map (·.1)
  · rw [if_neg (fun hskip => hneeds.mp hskip h), if_pos h, List.map_append]
    rfl
  · rw [if_pos (hneeds.mpr h), if_neg h]

theorem mem_keys_reserveAlias : key ∈ (reserveAlias pointers names aliases reference).map (·.1) ↔
    key ∈ aliases.map (·.1) ∨ key = reference ∧ IsLocal key ∧ key ∉ pointers := by
  rw [keys_reserveAlias]
  split
  · rename_i h
    rw [List.mem_append, List.mem_singleton]
    refine or_congr_right (iff_self_and.mpr ?_)
    rintro rfl
    exact h.1
  · rename_i h
    refine (or_iff_left_of_imp ?_).symm
    rintro ⟨rfl, hneeds⟩
    exact not_not.mp fun hnew => h ⟨hneeds, hnew⟩

theorem nodup_keys_reserveAlias (h : (aliases.map (·.1)).Nodup) :
    ((reserveAlias pointers names aliases reference).map (·.1)).Nodup := by
  rw [keys_reserveAlias]
  split
  · rename_i hnew
    rw [← List.concat_eq_append]
    exact h.concat hnew.2
  · exact h

/-- What a run of steps adds: a key for each reference that needs an alias. -/
theorem mem_keys_foldl_reserveAlias {references : List String} :
    key ∈ (references.foldl (reserveAlias pointers names) aliases).map (·.1) ↔
      key ∈ aliases.map (·.1) ∨ key ∈ references ∧ IsLocal key ∧ key ∉ pointers := by
  induction references generalizing aliases with
  | nil => simp
  | cons reference rest ih =>
    rw [List.foldl_cons, ih, mem_keys_reserveAlias, List.mem_cons]
    tauto

theorem nodup_keys_foldl_reserveAlias {references : List String} (h : (aliases.map (·.1)).Nodup) :
    ((references.foldl (reserveAlias pointers names) aliases).map (·.1)).Nodup := by
  induction references generalizing aliases with
  | nil => exact h
  | cons reference rest ih => exact ih (nodup_keys_reserveAlias h)

end

/-! ## Names -/

/-- An alias is the name made of the way of its reference, or that name with a number. -/
theorem exists_candidate_eq_alias (h : ofJson raw = .ok document) {name : String}
    (halias : document.alias? reference = some name) :
    ∃ position, name = Name.candidate "" (Name.ofPointer reference) position := by
  have hall : ∀ entry ∈ document.aliases,
      ∃ position, entry.2 = Name.candidate "" (Name.ofPointer entry.1) position := by
    refine aliases_induction (P := fun aliases => ∀ entry ∈ aliases,
      ∃ position, entry.2 = Name.candidate "" (Name.ofPointer entry.1) position) h (by simp) ?_
    intro aliases other haliases _ entry hentry
    rcases List.mem_append.mp hentry with hentry | hentry
    · exact haliases entry hentry
    · rw [List.mem_singleton.mp hentry]
      obtain ⟨position, hfresh, -⟩ := Name.fresh_eq_candidate "" (Name.ofPointer other)
        (typeNames document.named ++ aliases.map (·.2))
      exact ⟨position, hfresh⟩
  obtain ⟨before, after, hsplit, -⟩ := List.lookup_eq_some_iff.mp halias
  exact hall (reference, name) (by simp [hsplit])

/-- Aliases are reserved for the local references that a document holds under `$ref` at any depth, but for
those of named schemas, once for each. Each alias is made of the way of its reference and is an identifier; no
two of them are equal, and none is the type name of a named schema. -/
theorem aliases_reserved (h : ofJson raw = .ok document) :
    (∀ reference, (document.alias? reference).isSome = true ↔
      raw.HoldsUnder "$ref" reference ∧ IsLocal reference ∧ ¬document.isNamed reference) ∧
    (document.aliases.map (·.1)).Nodup ∧ (document.aliases.map (·.2)).Nodup ∧
    ∀ reference name, document.alias? reference = some name →
      (∃ position, name = Name.candidate "" (Name.ofPointer reference) position) ∧
      Name.isIdentifier name = true ∧ ∀ entry ∈ document.named, Name.pascal entry.name ≠ name := by
  obtain ⟨-, -, -, haliases⟩ := ofJson_eq_ok.mp h
  refine ⟨fun reference => ?_, ?_, nodup_aliases h, fun reference name halias => ⟨?_, ?_, ?_⟩⟩
  · have hnamed : document.isNamed reference ↔ reference ∈ document.named.map (·.pointer) := by
      rw [isNamed_iff, List.mem_map]
    rw [alias?, isSome_lookup_iff, ← haliases, reserveAliases, mem_keys_foldl_reserveAlias,
      mem_references, hnamed]
    simp
  · rw [← haliases]
    exact nodup_keys_foldl_reserveAlias List.nodup_nil
  · exact exists_candidate_eq_alias h halias
  · exact isIdentifier_alias h halias
  · intro entry hentry heq
    exact alias_not_mem_typeNames h halias (heq ▸ List.mem_map_of_mem hentry)

/-- Two addresses of a user are referred to, and the name made of the way of the first one is taken: it gets a
number, which makes it the name made of the way of the second one. -/
def twoAddresses : Json :=
  .obj [("$defs", .obj [
    ("User", .obj [("properties", .obj [("address", .obj []), ("address2", .obj [])])]),
    ("UserAddress", .obj [("items", .obj [("$ref", .str "#/$defs/User")])]),
    ("Home", .obj [("items", .obj [("$ref", .str "#/$defs/User/properties/address")])]),
    ("Work", .obj [("anyOf", .arr [.obj [("$ref", .str "#/$defs/User/properties/address2")],
      .obj [("$ref", .str "#/$defs/User/properties/address")]])])])]

theorem aliases_reserved_of_twoAddresses : ∃ document, ofJson twoAddresses = .ok document ∧
    document.aliases = [("#/$defs/User/properties/address", "UserAddress2"),
      ("#/$defs/User/properties/address2", "UserAddress22")] ∧
    twoAddresses.HoldsUnder "$ref" "#/$defs/User/properties/address2" ∧
    ¬(document.alias? "#/$defs/User").isSome = true ∧
    ∀ entry ∈ document.named, Name.pascal entry.name ≠ "UserAddress2" := by
  have hread : ((ofJson twoAddresses).toOption.any fun document =>
      document.isNamed "#/$defs/User" &&
        document.aliases == [("#/$defs/User/properties/address", "UserAddress2"),
          ("#/$defs/User/properties/address2", "UserAddress22")]) = true := by decide +kernel
  obtain ⟨document, hdocument, hread⟩ := Decode.exists_ok_of_any hread
  rw [Bool.and_eq_true, beq_iff_eq] at hread
  obtain ⟨hnamed, haliases⟩ := hread
  obtain ⟨hdefined, -, -, hnames⟩ := aliases_reserved hdocument
  refine ⟨document, hdocument, haliases, ?_, fun h => ((hdefined _).mp h).2.2 hnamed, ?_⟩
  · exact ((hdefined "#/$defs/User/properties/address2").mp (by simp [alias?, haliases])).1
  · exact (hnames "#/$defs/User/properties/address" "UserAddress2" (by simp [alias?, haliases])).2.2

end Document

end SchemaTypings
