import SchemaTypings.Proofs.Document.Obstacle
import SchemaTypings.Proofs.Document.Traces

/-!
# References stand in the document

A schema that was read from a value mentions no reference but the strings of the value. A document is
read from one value, so the references in what it reaches are strings of that value (`Document.local_of_ofJson`).
-/

namespace SchemaTypings

open Decode (map_eq_ok)

/-! ## Strings of values -/

namespace Json

theorem stringsOfMembers_eq (members : List (String × Json)) :
    stringsOfMembers members = members.flatMap (·.2.strings) := by
  induction members with
  | nil => rfl
  | cons member rest ih => rw [stringsOfMembers, ih, List.flatMap_cons]

theorem stringsOfItems_eq (items : List Json) : stringsOfItems items = items.flatMap strings := by
  induction items with
  | nil => rfl
  | cons item rest ih => rw [stringsOfItems, ih, List.flatMap_cons]

theorem strings_subset_of_mem_items {items : List Json} {item : Json} (h : item ∈ items) :
    item.strings ⊆ (arr items).strings := by
  intro text htext
  rw [strings, stringsOfItems_eq]
  exact List.mem_flatMap.mpr ⟨item, h, htext⟩

theorem strings_subset_of_mem_members {members : List (String × Json)} {member : String × Json}
    (h : member ∈ members) : member.2.strings ⊆ (obj members).strings := by
  intro text htext
  rw [strings, stringsOfMembers_eq]
  exact List.mem_flatMap.mpr ⟨member, h, htext⟩

end Json

/-! ## References of schemas -/

namespace Keywords

theorem kind_eq_ref {keywords : Keywords Schema} {reference : String}
    (h : keywords.kind = .ref reference) : keywords.reference = some reference := by
  unfold kind at h
  split at h
  · rename_i target hreference _ _
    cases h
    assumption
  · cases h
  · cases h
  · cases h
  · unfold kindByTypes at h
    repeat' split at h
    all_goals cases h

theorem reference_of_setPlain {keywords keywords' : Keywords Schema} {name reference : String}
    {value : Json} (h : keywords.setPlain name value = .ok keywords')
    (hreference : keywords'.reference = some reference) :
    keywords.reference = some reference ∨ reference ∈ value.strings := by
  unfold setPlain at h
  split at h
  · obtain ⟨found, hfound, rfl⟩ := map_eq_ok.mp h
    right
    obtain rfl : found = some reference := hreference
    cases value <;> simp [Decode.optional, Decode.asText, Except.map, Decode.failWrongKind,
      Decode.fail] at hfound
    simp [Json.strings, hfound]
  all_goals first
    | obtain ⟨_, -, rfl⟩ := map_eq_ok.mp h
      exact Or.inl hreference
    | cases h
      exact Or.inl hreference

end Keywords

/-- References go from the strings of values to kinds. -/
theorem traced_reference (reference : String) : Traced (· = .ref reference)
    (fun keywords => keywords.reference = some reference) fun value => reference ∈ value.strings where
  any := nofun
  primitive := nofun
  kind := Keywords.kind_eq_ref
  blank := nofun
  plain := Keywords.reference_of_setPlain
  properties := fun _ h => Or.inl h
  nested := fun _ hreference _ _ h => hreference ▸ h
  item := fun _ hitem h => Json.strings_subset_of_mem_items hitem h
  member := fun _ hmember h => Json.strings_subset_of_mem_members hmember h

/-- The references in what is reached within a document stand in it. -/
theorem Document.local_of_ofJson {raw : Json} {document : Document} (h : ofJson raw = .ok document) :
    document.Local := by
  intro reference target next htarget hmention
  obtain ⟨-, -, rfl, -⟩ := ofJson_eq_ok.mp h
  exact (traced_reference next).of_resolve? h htarget hmention

end SchemaTypings
