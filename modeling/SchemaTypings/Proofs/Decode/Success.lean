import Mathlib.Data.List.Forall2
import SchemaTypings.Decode.Error

/-!
# When decoding succeeds

A decoder that is put together from others succeeds when they do, whatever way the errors would have
named.
-/

namespace SchemaTypings.Decode

variable {α β ε : Type}

/-- What a check holds of is there. -/
theorem exists_ok_of_any {result : Except ε α} {check : α → Bool}
    (h : result.toOption.any check = true) : ∃ value, result = .ok value ∧ check value = true := by
  cases result with
  | error error => cases h
  | ok value => exact ⟨value, rfl, h⟩

theorem map_eq_ok {result : Except ε α} {f : α → β} {value : β} :
    result.map f = .ok value ↔ ∃ first, result = .ok first ∧ f first = value := by
  cases result <;> simp [Except.map]

theorem bind_eq_ok {result : Except ε α} {next : α → Except ε β} {value : β} :
    (result >>= next) = .ok value ↔ ∃ first, result = .ok first ∧ next first = .ok value := by
  cases result <;> simp [bind, Except.bind]

theorem within_eq_ok {step : Step} {result : Except Error α} {value : α} :
    within step result = .ok value ↔ result = .ok value := by
  cases result <;> simp [within, Except.mapError]

theorem mapM_nil_eq_ok {f : α → Except ε β} {values : List β} :
    [].mapM f = .ok values ↔ values = [] := by
  rw [List.mapM_nil]
  exact ⟨fun h => (Except.ok.inj h).symm, fun h => h ▸ rfl⟩

theorem mapM_cons_eq_ok {f : α → Except ε β} {item : α} {rest : List α} {values : List β} :
    (item :: rest).mapM f = .ok values ↔ ∃ first others, f item = .ok first ∧
      rest.mapM f = .ok others ∧ first :: others = values := by
  rw [List.mapM_cons, bind_eq_ok]
  refine exists_congr fun first => ?_
  rw [bind_eq_ok, exists_and_left]
  refine and_congr_right fun _ => exists_congr fun others => and_congr_right fun _ => ?_
  exact ⟨Except.ok.inj, congrArg Except.ok⟩

theorem forall₂_of_mapM_eq_ok {f : α → Except ε β} {items : List α} {values : List β}
    (h : items.mapM f = .ok values) : List.Forall₂ (fun item value => f item = .ok value) items values := by
  induction items generalizing values with
  | nil =>
    rw [mapM_nil_eq_ok.mp h]
    exact .nil
  | cons item rest ih =>
    obtain ⟨first, others, hfirst, hothers, rfl⟩ := mapM_cons_eq_ok.mp h
    exact .cons hfirst (ih hothers)

theorem mem_of_mapM_eq_ok {f : α → Except ε β} {items : List α} {values : List β}
    (h : items.mapM f = .ok values) {value : β} (hvalue : value ∈ values) :
    ∃ item ∈ items, f item = .ok value := by
  induction items generalizing values with
  | nil =>
    rw [mapM_nil_eq_ok.mp h] at hvalue
    simp at hvalue
  | cons item rest ih =>
    obtain ⟨first, others, hfirst, hothers, rfl⟩ := mapM_cons_eq_ok.mp h
    rcases List.mem_cons.mp hvalue with rfl | hvalue
    · exact ⟨item, by simp, hfirst⟩
    · obtain ⟨other, hother, h⟩ := ih hothers hvalue
      exact ⟨other, by simp [hother], h⟩

theorem mapM_perm {f : α → Except ε β} {items items' : List α} {values : List β}
    (hperm : items.Perm items') (h : items.mapM f = .ok values) :
    ∃ values', items'.mapM f = .ok values' ∧ values.Perm values' := by
  induction hperm generalizing values with
  | nil => exact ⟨values, h, .refl values⟩
  | cons item _ ih =>
    obtain ⟨first, others, hfirst, hothers, rfl⟩ := mapM_cons_eq_ok.mp h
    obtain ⟨others', hothers', hperm⟩ := ih hothers
    exact ⟨first :: others', mapM_cons_eq_ok.mpr ⟨_, _, hfirst, hothers', rfl⟩, hperm.cons first⟩
  | swap item item' rest =>
    obtain ⟨first, tail, hfirst, htail, rfl⟩ := mapM_cons_eq_ok.mp h
    obtain ⟨second, others, hsecond, hothers, rfl⟩ := mapM_cons_eq_ok.mp htail
    have hrest := mapM_cons_eq_ok.mpr ⟨first, others, hfirst, hothers, rfl⟩
    exact ⟨second :: first :: others, mapM_cons_eq_ok.mpr ⟨_, _, hsecond, hrest, rfl⟩,
      .swap _ _ _⟩
  | trans _ _ ih ih' =>
    obtain ⟨between, hbetween, hperm⟩ := ih h
    obtain ⟨values', hvalues', hperm'⟩ := ih' hbetween
    exact ⟨values', hvalues', hperm.trans hperm'⟩

end SchemaTypings.Decode
