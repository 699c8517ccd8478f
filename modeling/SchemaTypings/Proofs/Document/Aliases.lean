import SchemaTypings.Proofs.Document.Mentions
import SchemaTypings.Proofs.Lookup
import SchemaTypings.Proofs.Name.Identifiers
import SchemaTypings.Proofs.Name.Pointer

/-!
# Names of references

The name of a reference to a named schema is that of its last segment, and no alias is reserved for it.
For other references it is the reserved alias, where there is one. In both cases the name is fixed by the
document (`Document.fixedName`).
-/

namespace SchemaTypings

namespace Document

variable {raw : Json} {document : Document} {reference : String}

/-- The reference is that of a named schema, or an alias is reserved for it. -/
def Fixed (document : Document) (reference : String) : Prop :=
  document.isNamed reference ∨ (document.alias? reference).isSome

/-- The name that the document gives to a reference. -/
def fixedName (document : Document) (reference : String) : String :=
  (document.alias? reference).getD (Name.ofReference reference)

theorem isNamed_iff : document.isNamed reference ↔
    ∃ entry ∈ document.named, entry.pointer = reference := by
  simp [isNamed, at?]

/-- What holds of no aliases, and stays true when one is reserved, holds of those of a document. One is
reserved for a reference that is not that of a named schema, under a name that is fresh among the type
names and the aliases before it. -/
theorem aliases_induction (h : ofJson raw = .ok document) {P : List (String × String) → Prop}
    (hnil : P []) (hadd : ∀ aliases reference, P aliases →
      reference ∉ document.named.map (·.pointer) →
        P (aliases ++ [(reference, Name.fresh "" (typeNames document.named ++ aliases.map (·.2))
          (Name.ofPointer reference))])) : P document.aliases := by
  have hfold : ∀ (references : List String) (aliases : List (String × String)), P aliases →
      P (references.foldl (reserveAlias (document.named.map (·.pointer)) (typeNames document.named))
        aliases) := by
    intro references
    induction references with
    | nil => exact fun _ h => h
    | cons reference rest ih =>
      intro aliases haliases
      apply ih
      unfold reserveAlias
      split
      · exact haliases
      · rename_i hneeds
        apply hadd aliases reference haliases
        intro hmem
        rw [List.contains_iff_mem.mpr hmem, Bool.or_true, Bool.true_or] at hneeds
        exact hneeds rfl
  obtain ⟨-, -, -, haliases⟩ := ofJson_eq_ok.mp h
  rw [← haliases]
  exact hfold (references raw) [] hnil

theorem alias?_eq_none_of_isNamed (h : ofJson raw = .ok document)
    (hnamed : document.isNamed reference) : document.alias? reference = none := by
  obtain ⟨entry, hentry, hpointer⟩ := isNamed_iff.mp hnamed
  have hmem : reference ∈ document.named.map (·.pointer) := List.mem_map.mpr ⟨entry, hentry, hpointer⟩
  refine aliases_induction (P := fun aliases => aliases.lookup reference = none) h rfl ?_
  intro aliases other haliases hother
  have hne : reference ≠ other := ne_of_mem_of_not_mem hmem hother
  rw [List.lookup_append, haliases, lookup_cons_eq_ite, if_neg hne]
  rfl

/-- No alias is reserved twice: each one is fresh among those before it. -/
theorem nodup_aliases (h : ofJson raw = .ok document) : (document.aliases.map (·.2)).Nodup := by
  refine aliases_induction (P := fun aliases => (aliases.map (·.2)).Nodup) h List.nodup_nil ?_
  intro aliases reference hnodup _
  have hfresh := Name.fresh_not_mem "" (Name.ofPointer reference)
    (typeNames document.named ++ aliases.map (·.2))
  rw [List.mem_append, not_or] at hfresh
  rw [List.map_append, List.map_singleton]
  refine List.nodup_append.mpr ⟨hnodup, List.nodup_singleton _, ?_⟩
  intro name hname other hother heq
  rw [List.mem_singleton.mp hother] at heq
  rw [heq] at hname
  exact hfresh.2 hname

/-- An alias is reserved for one reference only. -/
theorem eq_of_alias?_eq (h : ofJson raw = .ok document) {other name : String}
    (hreference : document.alias? reference = some name) (hother : document.alias? other = some name) :
    reference = other := by
  have hmem : ∀ {key}, document.alias? key = some name → (key, name) ∈ document.aliases := by
    intro key hkey
    obtain ⟨before, after, hsplit, -⟩ := List.lookup_eq_some_iff.mp hkey
    rw [hsplit]
    exact List.mem_append_right _ List.mem_cons_self
  have hsame := List.inj_on_of_nodup_map (nodup_aliases h) (hmem hreference) (hmem hother) rfl
  exact congrArg Prod.fst hsame

theorem alias_mem_reservedNames {name : String} (h : document.alias? reference = some name) :
    name ∈ document.reservedNames := by
  obtain ⟨before, after, hsplit, -⟩ := List.lookup_eq_some_iff.mp h
  rw [reservedNames, hsplit]
  simp

/-- A reserved alias is the type name of no named schema. -/
theorem alias_not_mem_typeNames (h : ofJson raw = .ok document) {name : String}
    (halias : document.alias? reference = some name) : name ∉ typeNames document.named := by
  have hall : ∀ name ∈ document.aliases.map (·.2), name ∉ typeNames document.named := by
    refine aliases_induction (P := fun aliases => ∀ name ∈ aliases.map (·.2),
      name ∉ typeNames document.named) h (by simp) ?_
    intro aliases reference haliases _ name hname
    rw [List.map_append, List.map_singleton, List.mem_append, List.mem_singleton] at hname
    rcases hname with hname | rfl
    · exact haliases name hname
    · have hfresh := Name.fresh_not_mem "" (Name.ofPointer reference)
        (typeNames document.named ++ aliases.map (·.2))
      exact fun hmem => hfresh (List.mem_append_left _ hmem)
  obtain ⟨before, after, hsplit, -⟩ := List.lookup_eq_some_iff.mp halias
  apply hall
  rw [hsplit]
  simp

theorem isIdentifier_reserved (h : ofJson raw = .ok document) :
    ∀ name ∈ document.reservedNames, Name.isIdentifier name = true := by
  have haliases : ∀ name ∈ document.aliases.map (·.2), Name.isIdentifier name = true := by
    refine aliases_induction (P := fun aliases => ∀ name ∈ aliases.map (·.2),
      Name.isIdentifier name = true) h (by simp) ?_
    intro aliases reference haliases _ name hname
    rw [List.map_append, List.map_singleton, List.mem_append, List.mem_singleton] at hname
    rcases hname with hname | rfl
    · exact haliases name hname
    · exact Name.isIdentifier_fresh (by decide) (Name.isIdentifier_ofPointer reference) _
  intro name hname
  rcases List.mem_append.mp hname with hname | hname
  · obtain ⟨entry, -, rfl⟩ := List.mem_map.mp hname
    exact Name.isIdentifier_pascal entry.name
  · exact haliases name hname

theorem isIdentifier_alias (h : ofJson raw = .ok document) {name : String}
    (halias : document.alias? reference = some name) : Name.isIdentifier name = true :=
  isIdentifier_reserved h name (alias_mem_reservedNames halias)

theorem fixedName_of_isNamed (h : ofJson raw = .ok document) (hnamed : document.isNamed reference) :
    document.fixedName reference = Name.ofReference reference := by
  rw [fixedName, alias?_eq_none_of_isNamed h hnamed, Option.getD_none]

theorem ofReference_pointer (h : ofJson raw = .ok document) {entry : NamedSchema}
    (hentry : entry ∈ document.named) : Name.ofReference entry.pointer = Name.pascal entry.name := by
  obtain ⟨area, -, _, _, -, -, hpointer, -⟩ := mem_named h hentry
  rw [hpointer, Name.ofReference_referenceTo]

end Document

end SchemaTypings
