import Mathlib.Data.List.Induction
import SchemaTypings.Proofs.Lookup
import SchemaTypings.Schema.Basic

/-!
# First occurrences

A list that takes an element in only if it has none with its key keeps, of all that it is given, the first one
with each key, in the order in which the keys first occur (`AddsFirst.keys_foldl_nil`, `AddsFirst.find?_foldl`).
It makes no difference whether what it is given was thinned out in the same way before
(`AddsFirst.foldl_foldl`).
-/

namespace SchemaTypings

variable {α β : Type} [BEq β] [LawfulBEq β]

/-- An element is put at the end of a list, unless the list has one with its key. -/
def AddsFirst (key : α → β) (add : List α → α → List α) : Prop :=
  ∀ list element, add list element =
    if (list.map key).contains (key element) then list else list ++ [element]

namespace AddsFirst

variable {key : α → β} {add : List α → α → List α} {list first second third elements : List α} {element : α}

theorem of_mem (h : AddsFirst key add) (hmem : key element ∈ list.map key) : add list element = list := by
  rw [h, if_pos (List.contains_iff_mem.mpr hmem)]

theorem of_not_mem (h : AddsFirst key add) (hnew : key element ∉ list.map key) :
    add list element = list ++ [element] := by
  rw [h, if_neg (by simpa using hnew)]

/-! ## Keys -/

theorem mem_keys (h : AddsFirst key add) {wanted : β} :
    wanted ∈ (add list element).map key ↔ wanted ∈ list.map key ∨ wanted = key element := by
  by_cases hmem : key element ∈ list.map key
  · rw [h.of_mem hmem]
    refine ⟨Or.inl, ?_⟩
    rintro (h | rfl)
    · exact h
    · exact hmem
  · rw [h.of_not_mem hmem, List.map_append, List.mem_append, List.map_singleton, List.mem_singleton]

theorem mem_keys_foldl (h : AddsFirst key add) {wanted : β} :
    wanted ∈ (elements.foldl add list).map key ↔ wanted ∈ list.map key ∨ wanted ∈ elements.map key := by
  induction elements generalizing list with
  | nil => simp
  | cons element rest ih => rw [List.foldl_cons, ih, h.mem_keys, List.map_cons, List.mem_cons, or_assoc]

theorem nodup_keys_foldl (h : AddsFirst key add) (hlist : (list.map key).Nodup) :
    ((elements.foldl add list).map key).Nodup := by
  induction elements generalizing list with
  | nil => exact hlist
  | cons element rest ih =>
    refine ih ?_
    by_cases hmem : key element ∈ list.map key
    · rwa [h.of_mem hmem]
    · rw [h.of_not_mem hmem, List.map_append, List.map_singleton]
      exact List.nodup_append.mpr ⟨hlist, List.pairwise_singleton _ _, by simpa using hmem⟩

/-- The keys stand in the order in which they first occur. -/
theorem keys_foldl_nil (h : AddsFirst key add) :
    (elements.foldl add []).map key = (elements.map key).eraseDups := by
  -- the next element counts if its key is none of those before
  induction elements using List.reverseRecOn with
  | nil => rfl
  | append_singleton elements element ih =>
    rw [List.foldl_append, List.foldl_cons, List.foldl_nil, List.map_append, List.eraseDups_append, ← ih]
    by_cases hmem : key element ∈ elements.map key
    · have hseen : key element ∈ (elements.foldl add []).map key := h.mem_keys_foldl.mpr (Or.inr hmem)
      rw [h.of_mem hseen]
      simp [List.removeAll, hmem]
    · have hnew : key element ∉ (elements.foldl add []).map key := by
        simpa [h.mem_keys_foldl] using hmem
      rw [h.of_not_mem hnew]
      simp [List.removeAll, hmem, List.eraseDups_cons]

/-! ## Elements -/

/-- The element that counts for a key is the first one. -/
theorem find?_foldl (h : AddsFirst key add) (wanted : β) :
    (elements.foldl add list).find? (key · == wanted) =
      (list.find? (key · == wanted)).or (elements.find? (key · == wanted)) := by
  induction elements generalizing list with
  | nil => simp
  | cons element rest ih =>
    rw [List.foldl_cons, ih]
    by_cases hmem : key element ∈ list.map key
    · rw [h.of_mem hmem]
      by_cases hwanted : key element = wanted
      · obtain ⟨found, hfound, hkey⟩ := List.mem_map.mp hmem
        have hsome : (list.find? (key · == wanted)).isSome = true :=
          List.find?_isSome.mpr ⟨found, hfound, by simp [hkey, hwanted]⟩
        obtain ⟨_, hsome⟩ := Option.isSome_iff_exists.mp hsome
        rw [hsome, Option.some_or, Option.some_or]
      · rw [List.find?_cons_of_neg (by simpa using hwanted)]
    · rw [h.of_not_mem hmem, List.find?_append, Option.or_assoc, ← List.find?_append, List.singleton_append]

/-! ## Thinned out before -/

theorem foldl_add (h : AddsFirst key add) :
    (add second element).foldl add first = add (second.foldl add first) element := by
  by_cases hmem : key element ∈ second.map key
  · rw [h.of_mem hmem, h.of_mem (h.mem_keys_foldl.mpr (Or.inr hmem))]
  · rw [h.of_not_mem hmem, List.foldl_append, List.foldl_cons, List.foldl_nil]

theorem foldl_foldl (h : AddsFirst key add) :
    (third.foldl add second).foldl add first = third.foldl add (second.foldl add first) := by
  induction third generalizing second with
  | nil => rfl
  | cons element rest ih => rw [List.foldl_cons, ih, h.foldl_add, List.foldl_cons]

end AddsFirst

/-! ## Names and properties -/

section Names

variable {name other : String} {names others : List String}

theorem addsFirst_addName : AddsFirst id addName := by
  intro names name
  rw [List.map_id]
  rfl

theorem mem_addName : name ∈ addName names other ↔ name ∈ names ∨ name = other := by
  have hkeys : name ∈ (addName names other).map id ↔ name ∈ names.map id ∨ name = other :=
    addsFirst_addName.mem_keys
  rwa [List.map_id, List.map_id] at hkeys

theorem mem_foldl_addName : name ∈ others.foldl addName names ↔ name ∈ names ∨ name ∈ others := by
  have hkeys : name ∈ (others.foldl addName names).map id ↔ name ∈ names.map id ∨ name ∈ others.map id :=
    addsFirst_addName.mem_keys_foldl
  rwa [List.map_id, List.map_id, List.map_id] at hkeys

theorem nodup_foldl_addName (h : names.Nodup) : (others.foldl addName names).Nodup := by
  rw [← List.map_id names] at h
  have hkeys : ((others.foldl addName names).map id).Nodup := addsFirst_addName.nodup_keys_foldl h
  rwa [List.map_id] at hkeys

theorem nodup_addName (h : names.Nodup) (name : String) : (addName names name).Nodup := by
  have hnames : ([name].foldl addName names).Nodup := nodup_foldl_addName h
  exact hnames

theorem foldl_addName_nil : names.foldl addName [] = names.eraseDups := by
  have hkeys : (names.foldl addName []).map id = (names.map id).eraseDups := addsFirst_addName.keys_foldl_nil
  rwa [List.map_id, List.map_id] at hkeys

theorem nodup_eraseDups : names.eraseDups.Nodup := by
  rw [← foldl_addName_nil]
  exact nodup_foldl_addName List.nodup_nil

theorem eraseDups_of_nodup (h : names.Nodup) : names.eraseDups = names := by
  induction names with
  | nil => rfl
  | cons name rest ih =>
    obtain ⟨hnew, hrest⟩ := List.nodup_cons.mp h
    have hkeep : rest.filter (fun other => !other == name) = rest :=
      List.filter_eq_self.mpr fun other hother => by simpa using ne_of_mem_of_not_mem hother hnew
    rw [List.eraseDups_cons, hkeep, ih hrest]

/-- The names that come after others are put at the end of them, one by one. -/
theorem foldl_addName_eraseDups : others.eraseDups.foldl addName names.eraseDups = (names ++ others).eraseDups := by
  calc others.eraseDups.foldl addName names.eraseDups
      = (others.foldl addName []).foldl addName names.eraseDups := by rw [foldl_addName_nil]
    _ = others.foldl addName names.eraseDups := by rw [addsFirst_addName.foldl_foldl, List.foldl_nil]
    _ = (names ++ others).foldl addName [] := by rw [List.foldl_append, foldl_addName_nil]
    _ = (names ++ others).eraseDups := foldl_addName_nil

theorem eraseDups_foldl_addName : (others.foldl addName names).eraseDups = (names ++ others).eraseDups := by
  rw [← foldl_addName_nil, addsFirst_addName.foldl_foldl, ← List.foldl_append, foldl_addName_nil]

end Names

section Properties

variable {schema : α} {name wanted : String} {properties others : List (String × α)}

theorem keys_setProperty :
    (setProperty name schema properties).map (·.1) = addName (properties.map (·.1)) name := by
  induction properties with
  | nil => rfl
  | cons property rest ih =>
    obtain ⟨key, old⟩ := property
    by_cases hkey : key = name
    · simp [setProperty, addName, hkey]
    · have hother : (key == name) = false := by simpa using hkey
      simp only [setProperty, hother, Bool.false_eq_true, if_false, List.map_cons, ih]
      by_cases hmem : name ∈ rest.map (·.1)
      · simp_all [addName]
      · simp_all [addName, Ne.symm hkey]

theorem lookup_setProperty : (setProperty name schema properties).lookup wanted =
    if wanted = name then some schema else properties.lookup wanted := by
  induction properties with
  | nil => rw [setProperty, lookup_cons_eq_ite]
  | cons property rest ih =>
    obtain ⟨key, old⟩ := property
    by_cases hkey : key = name
    · subst hkey
      simp only [setProperty, beq_self_eq_true, if_true, lookup_cons_eq_ite]
      split <;> rfl
    · have hother : (key == name) = false := by simpa using hkey
      simp only [setProperty, hother, Bool.false_eq_true, if_false, lookup_cons_eq_ite, ih]
      by_cases hwanted : wanted = key
      · rw [if_pos hwanted, if_pos hwanted, if_neg (hwanted ▸ hkey)]
      · rw [if_neg hwanted, if_neg hwanted]

theorem keys_foldl_setProperty :
    (others.foldl (fun properties other => setProperty other.1 other.2 properties) properties).map (·.1) =
      (others.map (·.1)).foldl addName (properties.map (·.1)) := by
  induction others generalizing properties with
  | nil => rfl
  | cons other rest ih => rw [List.foldl_cons, ih, keys_setProperty, List.map_cons, List.foldl_cons]

/-- Properties that do not repeat come before those that were there. -/
theorem lookup_foldl_setProperty (h : (others.map (·.1)).Nodup) :
    (others.foldl (fun properties other => setProperty other.1 other.2 properties) properties).lookup wanted =
      (others.lookup wanted).or (properties.lookup wanted) := by
  induction others generalizing properties with
  | nil => rfl
  | cons other rest ih =>
    obtain ⟨key, found⟩ := other
    obtain ⟨hnew, hrest⟩ := List.nodup_cons.mp h
    rw [List.foldl_cons, ih hrest, lookup_setProperty, lookup_cons_eq_ite]
    by_cases hwanted : wanted = key
    · subst hwanted
      rw [lookup_eq_none_of_not_mem hnew, if_pos rfl, if_pos rfl, Option.none_or, Option.some_or]
    · rw [if_neg hwanted, if_neg hwanted]

end Properties

end SchemaTypings
