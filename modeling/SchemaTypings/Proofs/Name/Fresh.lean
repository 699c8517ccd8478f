import Mathlib.Data.List.Nodup
import Std.Data.String.ToNat
import SchemaTypings.Name.Fresh

/-!
# Fresh names are free

A fresh name is the first of its candidates that is not taken: the base, then the numbered names. There
are more candidates than names taken, so one is free. What is taken besides makes no difference unless it
is the name itself (`Name.fresh_eq_of_subset`).
-/

namespace SchemaTypings.Name

variable {mark base : String} {taken taken' : List String}

/-- The candidates for a fresh name, in the order in which they are tried. -/
def candidate (mark base : String) (position : Nat) : String :=
  if position = 0 then base else numbered mark base (position + 1)

theorem toList_numbered (mark base : String) (number : Nat) :
    (numbered mark base number).toList = base.toList ++ (mark.toList ++ number.repr.toList) := by
  simp [numbered, toString, String.append_assoc]

theorem numbered_injective {number number' : Nat}
    (h : numbered mark base number = numbered mark base number') : number = number' := by
  have hlist := congrArg String.toList h
  rw [toList_numbered, toList_numbered, List.append_cancel_left_eq, List.append_cancel_left_eq] at hlist
  exact Nat.repr_injective (String.toList_inj.mp hlist)

theorem numbered_ne (mark base : String) (number : Nat) : numbered mark base number ≠ base := by
  intro h
  have hlist := congrArg String.toList h
  rw [toList_numbered, List.append_right_eq_self, List.append_eq_nil_iff] at hlist
  exact Nat.repr_ne_empty (String.toList_eq_nil_iff.mp hlist.2)

theorem candidate_injective : Function.Injective (candidate mark base) := by
  intro first second h
  unfold candidate at h
  split at h <;> split at h
  · omega
  · exact absurd h.symm (numbered_ne _ _ _)
  · exact absurd h (numbered_ne _ _ _)
  · have := numbered_injective h
    omega

theorem firstFree_eq (mark base : String) (taken : List String) (steps number : Nat) : ∃ skipped ≤ steps,
    firstFree mark taken base steps number = numbered mark base (number + skipped) ∧
      (∀ other < skipped, numbered mark base (number + other) ∈ taken) ∧
        (skipped < steps → numbered mark base (number + skipped) ∉ taken) := by
  induction steps generalizing number with
  | zero => exact ⟨0, Nat.le_refl 0, rfl, by simp, by simp⟩
  | succ steps ih =>
    rw [firstFree]
    by_cases h : numbered mark base number ∈ taken
    · obtain ⟨skipped, hle, heq, htaken, hfree⟩ := ih (number + 1)
      rw [if_pos (List.contains_iff_mem.mpr h)]
      refine ⟨skipped + 1, by omega, by rw [heq]; congr 1; omega, fun other hother => ?_, fun hlt => ?_⟩
      · cases other with
        | zero => exact h
        | succ other =>
          have := htaken other (by omega)
          rwa [show number + 1 + other = number + (other + 1) by omega] at this
      · have := hfree (by omega)
        rwa [show number + 1 + skipped = number + (skipped + 1) by omega] at this
    · rw [if_neg (by simpa using h)]
      exact ⟨0, by omega, rfl, by simp, fun _ => h⟩

/-- A fresh name is the first candidate that is not taken. -/
theorem fresh_eq_candidate (mark base : String) (taken : List String) :
    ∃ position, fresh mark taken base = candidate mark base position ∧
      candidate mark base position ∉ taken ∧
        ∀ other < position, candidate mark base other ∈ taken := by
  unfold fresh
  by_cases h : base ∈ taken
  · obtain ⟨skipped, hle, heq, htaken, hfree⟩ :=
      firstFree_eq mark base taken taken.length 2
    rw [if_pos (List.contains_iff_mem.mpr h), heq]
    have hcandidate : ∀ other, candidate mark base (other + 1) = numbered mark base (2 + other) := by
      intro other
      rw [candidate, if_neg (by omega), show other + 1 + 1 = 2 + other by omega]
    have hbefore : ∀ other < skipped + 1, candidate mark base other ∈ taken := by
      intro other hother
      cases other with
      | zero => exact h
      | succ other =>
        rw [hcandidate]
        exact htaken other (by omega)
    -- the candidates before the last one are taken, so they are too few to use up all steps
    have hlength : ((List.range (skipped + 1)).map (candidate mark base)).length ≤ taken.length := by
      refine (List.nodup_range.map candidate_injective).length_le_of_subset ?_
      intro name hname
      obtain ⟨other, hother, rfl⟩ := List.mem_map.mp hname
      exact hbefore other (List.mem_range.mp hother)
    rw [List.length_map, List.length_range] at hlength
    exact ⟨skipped + 1, (hcandidate skipped).symm, hcandidate skipped ▸ hfree (by omega), hbefore⟩
  · rw [if_neg (by simpa using h)]
    exact ⟨0, rfl, h, by simp⟩

theorem fresh_not_mem (mark base : String) (taken : List String) :
    fresh mark taken base ∉ taken := by
  obtain ⟨position, heq, hfree, -⟩ := fresh_eq_candidate mark base taken
  exact heq ▸ hfree

/-- A fresh name stays the same if more names are taken, but not that one. -/
theorem fresh_eq_of_subset (hsubset : taken ⊆ taken') (h : fresh mark taken base ∉ taken') :
    fresh mark taken' base = fresh mark taken base := by
  obtain ⟨position, heq, hfree, hbefore⟩ := fresh_eq_candidate mark base taken
  obtain ⟨position', heq', hfree', hbefore'⟩ := fresh_eq_candidate mark base taken'
  rw [heq] at h
  have hle : position' ≤ position := Nat.not_lt.mp fun hlt => h (hbefore' position hlt)
  have hge : position ≤ position' := Nat.not_lt.mp fun hlt => hfree' (hsubset (hbefore position' hlt))
  rw [heq, heq', Nat.le_antisymm hle hge]

end SchemaTypings.Name
