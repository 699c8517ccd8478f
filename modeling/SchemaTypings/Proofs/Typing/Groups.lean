import Mathlib.Data.List.Induction
import SchemaTypings.Schema.Basic
import SchemaTypings.Typing.Module

/-!
# Declarations by name

The declarations of a module are sorted into groups, one for each name, and a declaration that repeats
name and text of one before it is dropped. So the group of a name holds the first declarations of that
name, in the order in which they were given (`NameGroup.find_ofDeclarations`).
-/

namespace SchemaTypings.Typing

/-- Whether two declarations have the same name and the same text. -/
def Declaration.repeats (declaration other : Declaration) : Bool :=
  declaration.name == other.name && declaration.content == other.content

/-- The declarations that repeat none before them. -/
def firstDeclarations : List Declaration → List Declaration
  | [] => []
  | declaration :: rest =>
    declaration :: (firstDeclarations rest).filter fun other => !other.repeats declaration

variable {declarations : List Declaration} {declaration other : Declaration} {name : String}

theorem mem_firstDeclarations : declaration ∈ firstDeclarations declarations ↔
    ∃ before after, declarations = before ++ declaration :: after ∧
      ∀ other ∈ before, declaration.repeats other = false := by
  induction declarations with
  | nil => simp [firstDeclarations]
  | cons first rest ih =>
    rw [firstDeclarations, List.mem_cons, List.mem_filter, ih]
    constructor
    · rintro (rfl | ⟨⟨before, after, rfl, hbefore⟩, hfirst⟩)
      · exact ⟨[], rest, rfl, by simp⟩
      · exact ⟨first :: before, after, rfl, by simpa using ⟨by simpa using hfirst, hbefore⟩⟩
    · rintro ⟨before, after, hsplit, hbefore⟩
      cases before with
      | nil => exact Or.inl (List.cons.inj hsplit).1.symm
      | cons head before =>
        obtain ⟨rfl, rfl⟩ := List.cons.inj hsplit
        have hhead := hbefore first List.mem_cons_self
        exact Or.inr ⟨⟨before, after, rfl, fun other h => hbefore other (List.mem_cons_of_mem _ h)⟩,
          by simpa using hhead⟩

theorem mem_of_mem_firstDeclarations (h : declaration ∈ firstDeclarations declarations) :
    declaration ∈ declarations := by
  obtain ⟨before, after, rfl, -⟩ := mem_firstDeclarations.mp h
  simp

theorem pairwise_firstDeclarations (declarations : List Declaration) :
    (firstDeclarations declarations).Pairwise fun first second => second.repeats first = false := by
  induction declarations with
  | nil => exact .nil
  | cons first rest ih =>
    refine .cons (fun other hother => ?_) (ih.filter _)
    simpa using (List.mem_filter.mp hother).2

theorem nodup_firstDeclarations (declarations : List Declaration) :
    (firstDeclarations declarations).Nodup := by
  refine (pairwise_firstDeclarations declarations).imp ?_
  rintro first _ hrepeats rfl
  simp [Declaration.repeats] at hrepeats

/-- Of the declarations with one name and one text, the first is kept. -/
theorem filter_repeats_firstDeclarations (declarations : List Declaration)
    (declaration : Declaration) : (firstDeclarations declarations).filter (·.repeats declaration) =
      (declarations.find? (·.repeats declaration)).toList := by
  induction declarations with
  | nil => rfl
  | cons first rest ih =>
    cases hfirst : first.repeats declaration with
    | true =>
      have hnone : ((firstDeclarations rest).filter fun other => !other.repeats first).filter
          (·.repeats declaration) = [] := by
        simp only [Declaration.repeats, Bool.and_eq_true, beq_iff_eq] at hfirst
        simp [Declaration.repeats, hfirst]
      simp [firstDeclarations, hfirst, hnone]
    | false =>
      have hrest : ((firstDeclarations rest).filter fun other => !other.repeats first).filter
          (·.repeats declaration) = (firstDeclarations rest).filter (·.repeats declaration) := by
        rw [List.filter_filter]
        refine List.filter_congr fun other _ => ?_
        simp only [Declaration.repeats, Bool.and_eq_false_iff, beq_eq_false_iff_ne] at hfirst ⊢
        grind
      simp [firstDeclarations, hfirst, hrest, ih]

/-- The last declaration is dropped if it repeats one before it. -/
theorem firstDeclarations_append (declarations : List Declaration) (last : Declaration) :
    firstDeclarations (declarations ++ [last]) =
      if (firstDeclarations declarations).any last.repeats then firstDeclarations declarations
      else firstDeclarations declarations ++ [last] := by
  induction declarations with
  | nil => rfl
  | cons first rest ih =>
    rw [List.cons_append, firstDeclarations, firstDeclarations, ih]
    -- what repeats one that was dropped repeats the first one as well
    have hany : last.repeats first = false →
        ((firstDeclarations rest).filter fun other => !other.repeats first).any last.repeats =
          (firstDeclarations rest).any last.repeats := by
      intro hfirst
      rw [List.any_filter]
      congr 1
      funext other
      simp only [Declaration.repeats, Bool.and_eq_false_iff, beq_eq_false_iff_ne] at hfirst ⊢
      grind
    cases hfirst : last.repeats first with
    | true =>
      have hkept : (firstDeclarations rest ++ [last]).filter (fun other => !other.repeats first) =
          (firstDeclarations rest).filter fun other => !other.repeats first := by
        simp [List.filter_append, hfirst]
      rw [List.any_cons, hfirst, Bool.true_or, if_pos rfl]
      split
      · rfl
      · rw [hkept]
    | false =>
      rw [List.any_cons, hfirst, Bool.false_or, hany hfirst]
      split
      · rfl
      · simp [List.filter_append, hfirst]

namespace NameGroup

variable {groups : List NameGroup}

theorem find_cons {group : NameGroup} :
    find (group :: groups) name =
      if group.name = name then group.declarations else find groups name := by
  by_cases h : group.name = name <;> simp [find, h]

theorem find_insert : find (insert declaration groups) name =
    if declaration.name = name then addDistinct (find groups name) declaration
    else find groups name := by
  induction groups with
  | nil =>
    rw [insert, find_cons]
    split <;> rfl
  | cons group rest ih =>
    rw [insert]
    by_cases hgroup : group.name = declaration.name
    · simp only [hgroup, beq_self_eq_true, if_true, find_cons]
      split <;> rfl
    · have hne : (group.name == declaration.name) = false := by simpa using hgroup
      simp only [hne, Bool.false_eq_true, if_false, find_cons, ih]
      grind

theorem names_insert : (insert declaration groups).map (·.name) =
    addName (groups.map (·.name)) declaration.name := by
  induction groups with
  | nil => rfl
  | cons group rest ih =>
    rw [insert]
    by_cases hgroup : group.name = declaration.name
    · simp [hgroup, addName]
    · have hne : (group.name == declaration.name) = false := by simpa using hgroup
      simp only [hne, Bool.false_eq_true, if_false, List.map_cons, ih]
      by_cases hmem : declaration.name ∈ rest.map (·.name) <;> simp [addName] <;> grind

theorem ofDeclarations_append (declarations : List Declaration) (last : Declaration) :
    ofDeclarations (declarations ++ [last]) = insert last (ofDeclarations declarations) := by
  rw [ofDeclarations, List.foldl_append]
  rfl

/-- The group of a name holds the first declarations of that name. -/
theorem find_ofDeclarations (declarations : List Declaration) (name : String) :
    find (ofDeclarations declarations) name =
      (firstDeclarations declarations).filter (·.name == name) := by
  induction declarations using List.reverseRecOn with
  | nil => rfl
  | append_singleton declarations last ih =>
    have hany : last.name = name →
        ((firstDeclarations declarations).filter (·.name == name)).any (·.content == last.content) =
          (firstDeclarations declarations).any last.repeats := by
      rintro rfl
      rw [List.any_filter]
      congr 1
      funext other
      rw [Declaration.repeats, Bool.beq_comm (a := other.name), Bool.beq_comm (a := other.content)]
    rw [ofDeclarations_append, find_insert, ih, firstDeclarations_append]
    split
    · rename_i hname
      rw [addDistinct, hany hname]
      split
      · rfl
      · simp [List.filter_append, hname]
    · rename_i hname
      split
      · rfl
      · simp [List.filter_append, hname]

theorem mem_names : name ∈ (ofDeclarations declarations).map (·.name) ↔
    ∃ declaration ∈ declarations, declaration.name = name := by
  induction declarations using List.reverseRecOn with
  | nil => simp [ofDeclarations]
  | append_singleton declarations last ih =>
    rw [ofDeclarations_append, names_insert, addName]
    split <;> grind

end NameGroup

end SchemaTypings.Typing
