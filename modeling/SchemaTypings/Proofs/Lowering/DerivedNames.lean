import Mathlib.Algebra.GroupWithZero.Nat
import SchemaTypings.Lowering.DerivedTypes
import SchemaTypings.Proofs.Name.Identifiers
import SchemaTypings.Proofs.Typing.Complete

/-!
# Names of derived types

The types derived from one are named by words put before its name, or after it. No two of the words have the
same characters, so the names differ from one another, and from the name of the type (`DerivedTypes.nodup_names`).
-/

namespace SchemaTypings.DerivedTypes

open Typing

variable {name : String}

/-- The names of the types that may be derived from one, in order. -/
def names (name : String) : List String :=
  ["Partial" ++ name, "Required" ++ name, "Readonly" ++ name, name ++ "Keys", "Pick" ++ name, "Omit" ++ name,
    "DeepPartial" ++ name]

/-- The sum of the codes of all characters, which does not depend on their order. -/
def weight (text : String) : Nat :=
  (text.toList.map Char.toNat).sum

theorem weight_append (first second : String) : weight (first ++ second) = weight first + weight second := by
  rw [weight, String.toList_append, List.map_append, List.sum_append]
  rfl

/-- The names of derived types differ from one another, and from the name of the type: their weights do. -/
theorem nodup_names (name : String) : (name :: names name).Nodup := by
  have hwords : weight "Partial" = 717 ∧ weight "Required" = 833 ∧ weight "Readonly" = 830 ∧
      weight "Keys" = 412 ∧ weight "Pick" = 391 ∧ weight "Omit" = 409 ∧ weight "DeepPartial" = 1099 := by
    decide
  obtain ⟨hpartial, hrequired, hreadonly, hkeys, hpick, homit, hdeep⟩ := hwords
  apply List.Nodup.of_map weight
  simp only [names, List.map_cons, List.map_nil, weight_append, hpartial, hrequired, hreadonly, hkeys, hpick,
    homit, hdeep, List.nodup_cons, List.mem_cons, List.not_mem_nil, or_false, not_or, not_false_eq_true,
    List.nodup_nil, and_true]
  omega

variable (options : Options)

/-- The name of a derived type is found in its text. -/
theorem declaredName?_alias {declared content : String} {sign : Char}
    (hname : Name.isIdentifier declared = true) (hsign : sign = ' ' ∨ sign = '<')
    (hcontent : ∃ after, content.toList = options.exportWord.toList ++ ("type ".toList ++ (declared.toList
      ++ sign :: after))) : declaredName? content = some declared := by
  obtain ⟨after, hcontent⟩ := hcontent
  refine declaredName?_keyword options (Or.inl rfl) hname ?_ hcontent
  rcases hsign with rfl | rfl <;> decide

variable (hname : Name.isIdentifier name = true)

include hname

theorem isIdentifier_before {word : String} (hword : Name.isIdentifier word = true) :
    Name.isIdentifier (word ++ name) = true :=
  Name.isIdentifier_append hword (Name.all_continuesIdentifier hname)

theorem declaredNames_plainAliases : (plainAliases options.exportWord name).map declaredName? =
    [some ("Partial" ++ name), some ("Required" ++ name), some ("Readonly" ++ name)] := by
  have halias : ∀ utility, Name.isIdentifier utility = true →
      declaredName? s!"{options.exportWord}type {utility}{name} = {utility}<{name}>;" =
        some (utility ++ name) := by
    intro utility hutility
    refine declaredName?_alias options (isIdentifier_before hname hutility) (Or.inl rfl) ?_
    simp only [Template.toString_text, String.toList_append, List.append_assoc]
    exact ⟨_, rfl⟩
  simp only [plainAliases, List.map_cons, List.map_nil, halias "Partial" (by decide),
    halias "Required" (by decide), halias "Readonly" (by decide)]

theorem declaredNames_keyAliases (shape : FlatShape) : (keyAliases options.exportWord name shape).map declaredName? =
    if shape.properties.isEmpty then []
    else [some (name ++ "Keys"), some ("Pick" ++ name), some ("Omit" ++ name)] := by
  unfold keyAliases
  split
  · rfl
  · have hkeys : ∀ keys : String, declaredName? s!"{options.exportWord}type {name}Keys = {keys};" =
        some (name ++ "Keys") := by
      intro keys
      refine declaredName?_alias options (Name.isIdentifier_append hname (by decide)) (Or.inl rfl) ?_
      simp only [Template.toString_text, String.toList_append, List.append_assoc]
      exact ⟨_, rfl⟩
    have hpick : declaredName? s!"{options.exportWord}type Pick{name}<K extends {name}Keys> = Pick<{name}, K>;" =
        some ("Pick" ++ name) := by
      refine declaredName?_alias options (isIdentifier_before hname (by decide)) (Or.inr rfl) ?_
      simp only [Template.toString_text, String.toList_append, List.append_assoc]
      exact ⟨_, rfl⟩
    have homit : declaredName? s!"{options.exportWord}type Omit{name}<K extends {name}Keys> = Omit<{name}, K>;" =
        some ("Omit" ++ name) := by
      refine declaredName?_alias options (isIdentifier_before hname (by decide)) (Or.inr rfl) ?_
      simp only [Template.toString_text, String.toList_append, List.append_assoc]
      exact ⟨_, rfl⟩
    simp only [List.map_cons, List.map_nil, hkeys, hpick, homit]

theorem declaredName?_deepPartial :
    declaredName? (deepPartial options.exportWord name) = some ("DeepPartial" ++ name) := by
  refine declaredName?_alias options (isIdentifier_before hname (by decide)) (Or.inr rfl) ?_
  simp only [deepPartial, Template.toString_text, String.toList_append, List.append_assoc]
  exact ⟨_, rfl⟩

/-- The names of the types that are derived are among those that may be, each at most once. -/
theorem declaredNames_aliases (document : Document) (schema : Schema) :
    ((aliases document options name schema).map declaredName?).Sublist ((names name).map some) := by
  have hsplit : (names name).map some = [some ("Partial" ++ name), some ("Required" ++ name),
      some ("Readonly" ++ name)] ++ ([some (name ++ "Keys"), some ("Pick" ++ name), some ("Omit" ++ name)]
        ++ [some ("DeepPartial" ++ name)]) := rfl
  rw [hsplit, aliases, List.map_append, declaredNames_plainAliases options hname]
  refine (List.Sublist.refl _).append ?_
  split
  · exact List.nil_sublist _
  · rename_i shape _
    rw [List.map_append, declaredNames_keyAliases options hname]
    refine List.Sublist.append ?_ ?_
    · split
      · exact List.nil_sublist _
      · exact List.Sublist.refl _
    · split
      · rw [List.map_singleton, declaredName?_deepPartial options hname]
      · exact List.nil_sublist _

end SchemaTypings.DerivedTypes
