import SchemaTypings.Lowering.Memo
import SchemaTypings.Proofs.FirstOccurrences
import SchemaTypings.Proofs.Lookup

/-!
# Many memo tables

A table takes in the names of references and the declarations that are new to it, and all warnings. So it makes
no difference in which groups tables are merged, as long as their order stays, and tables that are merged into
the empty one leave the first name for each reference, the first declaration of each name, and every warning
(`Memo.merges_first`).
-/

namespace SchemaTypings.Memo

open Typing (Declaration)

theorem lookup_foldl_addType (types entries : List (String × String)) (reference : String) :
    (entries.foldl addType types).lookup reference =
      (types.lookup reference).or (entries.lookup reference) := by
  induction entries generalizing types with
  | nil => simp
  | cons entry rest ih =>
    obtain ⟨key, name⟩ := entry
    rw [List.foldl_cons, ih, lookup_cons_eq_ite, addType]
    cases hkey : types.lookup key with
    | some found =>
      by_cases heq : reference = key
      · subst heq
        simp [hkey]
      · simp [heq]
    | none =>
      rw [if_neg (by simp), List.lookup_append, lookup_cons_eq_ite]
      by_cases heq : reference = key
      · subst heq
        simp [hkey]
      · simp [heq]

/-! ## What a table takes in -/

theorem addsFirst_addType : AddsFirst Prod.fst addType := by
  intro types entry
  have hkey : (types.lookup entry.1).isSome = (types.map Prod.fst).contains entry.1 := by
    rw [Bool.eq_iff_iff, List.contains_iff_mem, isSome_lookup_iff]
  rw [addType, hkey]

theorem addsFirst_addDeclaration : AddsFirst Declaration.name addDeclaration := by
  intro declarations declaration
  have hname : declarations.any (·.name == declaration.name) =
      (declarations.map Declaration.name).contains declaration.name := by
    rw [Bool.eq_iff_iff, List.contains_iff_mem, List.mem_map, List.any_eq_true]
    simp
  rw [addDeclaration, hname]

/-! ## Several tables -/

/-- Tables that are merged one by one give their entries one by one. -/
theorem foldl_merge (first : Memo) (tables : List Memo) :
    tables.foldl merge first =
      ⟨(tables.flatMap (·.types)).foldl addType first.types,
        (tables.flatMap (·.declarations)).foldl addDeclaration first.declarations,
        first.warnings ++ tables.flatMap (·.warnings)⟩ := by
  induction tables generalizing first with
  | nil => simp
  | cons table rest ih =>
    rw [List.foldl_cons, ih]
    simp only [merge, List.flatMap_cons, List.foldl_append, List.append_assoc]

theorem lookup_flatMap_types (tables : List Memo) (reference : String) :
    (tables.flatMap (·.types)).lookup reference = tables.findSome? (·.types.lookup reference) := by
  induction tables with
  | nil => rfl
  | cons table rest ih =>
    rw [List.flatMap_cons, List.lookup_append, ih, List.findSome?_cons]
    cases table.types.lookup reference <;> rfl

/-- Tables may be merged in any groups. Merged one by one into the empty table they leave, for each reference,
the name in the first table that has one, and, for each name, the first declaration with it, both in the order
in which they first occur, and all warnings. -/
theorem merges_first (a b c : Memo) (tables : List Memo) :
    (a.merge b).merge c = a.merge (b.merge c) ∧
    let merged := tables.foldl merge {}
    (merged.types.map (·.1) = (tables.flatMap fun table => table.types.map (·.1)).eraseDups ∧
      (merged.types.map (·.1)).Nodup ∧
      ∀ reference, merged.types.lookup reference = tables.findSome? (·.types.lookup reference)) ∧
    (merged.declarations.map (·.name) =
        (tables.flatMap fun table => table.declarations.map (·.name)).eraseDups ∧
      (merged.declarations.map (·.name)).Nodup ∧
      ∀ name, merged.declarations.find? (·.name == name) =
        tables.findSome? (·.declarations.find? (·.name == name))) ∧
    merged.warnings = tables.flatMap (·.warnings) := by
  constructor
  · simp only [merge, addsFirst_addType.foldl_foldl, addsFirst_addDeclaration.foldl_foldl, List.append_assoc]
  · dsimp only
    rw [foldl_merge]
    refine ⟨⟨?_, ?_, fun reference => ?_⟩, ⟨?_, ?_, fun name => ?_⟩, rfl⟩
    · rw [← List.map_flatMap]
      exact addsFirst_addType.keys_foldl_nil
    · exact addsFirst_addType.nodup_keys_foldl List.nodup_nil
    · rw [lookup_foldl_addType, lookup_flatMap_types]
      rfl
    · rw [← List.map_flatMap]
      exact addsFirst_addDeclaration.keys_foldl_nil
    · exact addsFirst_addDeclaration.nodup_keys_foldl List.nodup_nil
    · rw [addsFirst_addDeclaration.find?_foldl, List.find?_flatMap]
      rfl

end SchemaTypings.Memo
