/-!
# Looking up

Facts about finding the value of a key in a list of pairs.
-/

namespace SchemaTypings

variable {α β : Type} [BEq α] [LawfulBEq α] [DecidableEq α] {key other : α} {value : β}
  {entries : List (α × β)}

theorem lookup_cons_eq_ite :
    ((other, value) :: entries).lookup key =
      if key = other then some value else entries.lookup key := by
  by_cases h : key = other
  · simp [h]
  · have hne : (key == other) = false := by simpa using h
    simp [List.lookup_cons, hne, h]

theorem lookup_filter_ne :
    (entries.filter (·.1 != other)).lookup key =
      if key = other then none else entries.lookup key := by
  induction entries with
  | nil => simp
  | cons entry rest ih =>
    obtain ⟨name, found⟩ := entry
    by_cases hname : name = other
    · simp only [List.filter_cons, hname, bne_self_eq_false, Bool.false_eq_true, if_false, ih,
        lookup_cons_eq_ite]
      split <;> rfl
    · simp only [List.filter_cons, bne_iff_ne, ne_eq, hname, not_false_eq_true, if_true, ih,
        lookup_cons_eq_ite]
      by_cases h : key = other
      · subst h
        simp [Ne.symm hname]
      · simp [h]

omit [DecidableEq α] in
theorem lookup_eq_none_of_not_mem (h : key ∉ entries.map (·.1)) : entries.lookup key = none := by
  rw [List.lookup_eq_none_iff]
  intro entry hentry
  have hne : key ≠ entry.1 := fun heq => h (heq ▸ List.mem_map_of_mem hentry)
  simpa using hne

omit [DecidableEq α] in
theorem isSome_lookup_iff : (entries.lookup key).isSome = true ↔ key ∈ entries.map (·.1) := by
  constructor
  · intro h
    obtain ⟨value, hvalue⟩ := Option.isSome_iff_exists.mp h
    obtain ⟨before, after, rfl, -⟩ := List.lookup_eq_some_iff.mp hvalue
    simp
  · intro h
    cases hfound : entries.lookup key with
    | some value => rfl
    | none =>
      obtain ⟨entry, hentry, rfl⟩ := List.mem_map.mp h
      have hne := List.lookup_eq_none_iff.mp hfound entry hentry
      simp at hne

omit [DecidableEq α] in
theorem lookup_eq_some_of_mem {entry : α × β} (hkeys : (entries.map (·.1)).Nodup)
    (hentry : entry ∈ entries) : entries.lookup entry.1 = some entry.2 := by
  obtain ⟨before, after, rfl⟩ := List.append_of_mem hentry
  rw [List.map_append, List.nodup_append] at hkeys
  refine List.lookup_eq_some_iff.mpr ⟨before, after, rfl, fun other hother => ?_⟩
  have hne : other.1 ≠ entry.1 := hkeys.2.2 _ (List.mem_map_of_mem hother) _ (by simp)
  simpa using Ne.symm hne

theorem lookup_eq_of_perm {entries' : List (α × β)} (h : entries.Perm entries')
    (hkeys : (entries.map (·.1)).Nodup) : entries.lookup key = entries'.lookup key := by
  induction h with
  | nil => rfl
  | cons entry _ ih =>
    obtain ⟨name, found⟩ := entry
    rw [lookup_cons_eq_ite, lookup_cons_eq_ite, ih (List.nodup_cons.mp hkeys).2]
  | swap first second rest =>
    obtain ⟨name, found⟩ := first
    obtain ⟨name', found'⟩ := second
    have hne : name' ≠ name := by
      simp only [List.map_cons, List.nodup_cons, List.mem_cons, not_or] at hkeys
      exact hkeys.1.1
    simp only [lookup_cons_eq_ite]
    grind
  | trans h _ ih ih' => exact (ih hkeys).trans (ih' ((h.map _).nodup_iff.mp hkeys))

end SchemaTypings
