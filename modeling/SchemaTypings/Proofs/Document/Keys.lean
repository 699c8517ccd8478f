import Mathlib.Data.List.Nodup
import SchemaTypings.Proofs.Decode.Success
import SchemaTypings.Proofs.Document.Mentions
import SchemaTypings.Proofs.Name.Pointer

/-!
# The references to named schemas

No two named schemas have the same reference, since a section does not repeat a key and no two sections
have a reference in common. So each named schema is the one that its reference reaches.
-/

namespace SchemaTypings.Document

open Decode

variable {raw : Json} {document : Document}

/-- No section repeats a key, as is true of every object. -/
def KeysDistinct (raw : Json) : Prop :=
  ∀ area ∈ sections, (((sectionMembers? raw area).getD []).map (·.1)).Nodup

instance (raw : Json) : Decidable (KeysDistinct raw) :=
  inferInstanceAs (Decidable (∀ area ∈ sections, _))

theorem referenceTo_inj {area area' name name' : String} (harea : area ∈ sections)
    (harea' : area' ∈ sections) (h : referenceTo area name = referenceTo area' name') :
    area = area' ∧ name = name' := by
  constructor
  · -- the third character is different in each section
    have hthird : ∀ area ∈ sections, ∀ name,
        (referenceTo area name).toList[2]? = area.toList[1]? := by
      intro area harea name
      simp only [sections, List.mem_cons, List.not_mem_nil, or_false] at harea
      rcases harea with rfl | rfl | rfl <;> simp [referenceTo]
    have hsections : ∀ area ∈ sections, ∀ area' ∈ sections,
        area.toList[1]? = area'.toList[1]? → area = area' := by
      decide +kernel
    exact hsections area harea area' harea'
      ((hthird area harea name).symm.trans (h ▸ hthird area' harea' name'))
  · have hkey := congrArg Pointer.lastKey h
    rwa [referenceTo, referenceTo, Pointer.lastKey_append_escape, Pointer.lastKey_append_escape] at hkey

theorem pointers_of_mapM {area : String} {members : List (String × Json)} {entries : List NamedSchema}
    (h : members.mapM (namedSchema area) = .ok entries) :
    entries.map (·.pointer) = (members.map (·.1)).map (referenceTo area) := by
  have hentries := forall₂_of_mapM_eq_ok h
  clear h
  induction hentries with
  | nil => rfl
  | @cons member entry _ _ hentry _ ih =>
    have hpointer : entry.pointer = referenceTo area member.1 := by
      unfold namedSchema at hentry
      split at hentry
      · cases hentry
        rfl
      · cases hentry
    rw [List.map_cons, List.map_cons, List.map_cons, hpointer, ih]

theorem pointers_of_sections {areas : List String} {found : List (List NamedSchema)}
    (h : List.Forall₂ (fun area entries =>
      ((sectionMembers? raw area).getD []).mapM (namedSchema area) = .ok entries) areas found) :
    found.flatten.map (·.pointer) = areas.flatMap fun area =>
      (((sectionMembers? raw area).getD []).map (·.1)).map (referenceTo area) := by
  induction h with
  | nil => rfl
  | cons hfirst _ ih =>
    rw [List.flatten_cons, List.map_append, List.flatMap_cons, pointers_of_mapM hfirst, ih]

theorem pointers_nodup (h : ofJson raw = .ok document) (hkeys : KeysDistinct raw) :
    (document.named.map (·.pointer)).Nodup := by
  obtain ⟨-, hnamed, -, -⟩ := ofJson_eq_ok.mp h
  obtain ⟨found, hfound, hflatten⟩ := bind_eq_ok.mp hnamed
  rw [← show found.flatten = document.named from Except.ok.inj hflatten,
    pointers_of_sections (forall₂_of_mapM_eq_ok hfound), List.nodup_flatMap]
  constructor
  · intro area harea
    exact (hkeys area harea).map fun _ _ hsame => (referenceTo_inj harea harea hsame).2
  · have hsections : sections.Nodup := by decide
    refine hsections.imp_of_mem fun {area area'} harea harea' hne pointer hpointer hpointer' => ?_
    obtain ⟨name, -, rfl⟩ := List.mem_map.mp hpointer
    obtain ⟨name', -, hsame⟩ := List.mem_map.mp hpointer'
    exact hne (referenceTo_inj harea' harea hsame).1.symm

theorem resolve?_pointer (hpointers : (document.named.map (·.pointer)).Nodup) {entry : NamedSchema}
    (hentry : entry ∈ document.named) : document.resolve? entry.pointer = some entry.schema := by
  have hat : document.at? entry.pointer = some entry := by
    cases hfind : document.at? entry.pointer with
    | none => simpa using List.find?_eq_none.mp hfind entry hentry
    | some found =>
      have hpointer : found.pointer = entry.pointer := by simpa using List.find?_some hfind
      rw [List.inj_on_of_nodup_map hpointers (List.mem_of_find?_eq_some hfind) hentry hpointer]
  rw [resolve?, hat]

end SchemaTypings.Document
