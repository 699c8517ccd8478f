import Mathlib.Data.List.Nodup
import SchemaTypings.Json.Reader
import SchemaTypings.Proofs.Json.Wellformed
import SchemaTypings.Proofs.Number.Rounding

/-!
# Values that are read are well formed

A text may repeat a key, but a member that is read again takes the place of the one before, and its numbers
are rounded to doubles of the format. So the value that a text starts with is well formed
(`Json.wellformed_of_read?`), by induction on the steps of the reader.
-/

namespace SchemaTypings

namespace Json

theorem keys_setMember (key : String) (value : Json) (members : List (String × Json)) :
    (setMember key value members).map (·.1) =
      if key ∈ members.map (·.1) then members.map (·.1) else members.map (·.1) ++ [key] := by
  induction members with
  | nil => rfl
  | cons member rest ih =>
    obtain ⟨first, found⟩ := member
    by_cases h : first = key
    · simp [setMember, h]
    · have hne : key ≠ first := Ne.symm h
      simp only [setMember, beq_iff_eq, h, if_false, List.map_cons, ih, List.mem_cons, hne, false_or]
      split <;> simp

theorem nodup_keys_setMember {key : String} {value : Json} {members : List (String × Json)}
    (h : (members.map (·.1)).Nodup) : ((setMember key value members).map (·.1)).Nodup := by
  rw [keys_setMember]
  split
  · exact h
  · rename_i hkey
    exact h.append (List.nodup_singleton key) (by simpa using hkey)

theorem mem_setMember {key : String} {value : Json} {members : List (String × Json)}
    {member : String × Json} (h : member ∈ setMember key value members) :
    member = (key, value) ∨ member ∈ members := by
  induction members with
  | nil => exact Or.inl (List.mem_singleton.mp h)
  | cons first rest ih =>
    obtain ⟨name, found⟩ := first
    rw [setMember] at h
    split at h
    · rename_i hname
      rcases List.mem_cons.mp h with rfl | hrest
      · exact Or.inl (by rw [beq_iff_eq.mp hname])
      · exact Or.inr (List.mem_cons_of_mem _ hrest)
    · rcases List.mem_cons.mp h with rfl | hrest
      · exact Or.inr (by simp)
      · exact (ih hrest).imp_right (List.mem_cons_of_mem _)

end Json

namespace Located

/-- Only well-formed values stand where a text has a scalar. -/
inductive Plain : Located → Prop
  | scalar {span : Span} {value : Option Json} (h : ∀ found, value = some found → found.Wellformed) :
    Plain (.scalar span value)
  | list {span : Span} {items : List Located} (h : ∀ item ∈ items, Plain item) :
    Plain (.list span items)
  | object {span : Span} {entries : List (Entry Located)} (h : ∀ entry ∈ entries, Plain entry.value) :
    Plain (.object span entries)

/-- What a nested value comes to is well formed, whatever nesting is left. -/
def StrictlyWellformed (located : Located) : Prop :=
  ∀ depth value, located.strict? depth = some value → value.Wellformed

theorem wellformed_strictItems? {depth : Nat} {items : List Located} {values : List Json}
    (hitems : ∀ item ∈ items, item.StrictlyWellformed) (h : strictItems? depth items = some values) :
    ∀ value ∈ values, value.Wellformed := by
  induction items generalizing values with
  | nil =>
    cases h
    simp
  | cons item rest ih =>
    rw [strictItems?] at h
    obtain ⟨first, hfirst, hrest⟩ := Option.bind_eq_some_iff.mp h
    obtain ⟨others, hothers, rfl⟩ := Option.map_eq_some_iff.mp hrest
    intro value hvalue
    rcases List.mem_cons.mp hvalue with rfl | hvalue
    · exact hitems item (by simp) depth _ hfirst
    · exact ih (fun item hitem => hitems item (List.mem_cons_of_mem _ hitem)) hothers value hvalue

/-- Each entry sets a member, which keeps the keys distinct. -/
theorem wellformed_strictEntries? {depth : Nat} {entries : List (Entry Located)}
    {members values : List (String × Json)}
    (hentries : ∀ entry ∈ entries, entry.value.StrictlyWellformed)
    (hkeys : (members.map (·.1)).Nodup) (hmembers : ∀ member ∈ members, member.2.Wellformed)
    (h : strictEntries? depth members entries = some values) :
    (values.map (·.1)).Nodup ∧ ∀ member ∈ values, member.2.Wellformed := by
  induction entries generalizing members with
  | nil =>
    cases h
    exact ⟨hkeys, hmembers⟩
  | cons entry rest ih =>
    obtain ⟨key?, keyStop, colon, item, next⟩ := entry
    rw [strictEntries?] at h
    obtain ⟨key, -, h⟩ := Option.bind_eq_some_iff.mp h
    obtain ⟨value, hvalue, h⟩ := Option.bind_eq_some_iff.mp h
    refine ih (fun entry hentry => hentries entry (List.mem_cons_of_mem _ hentry))
      (Json.nodup_keys_setMember hkeys) (fun member hmember => ?_) h
    rcases Json.mem_setMember hmember with rfl | hmember
    · exact hentries _ List.mem_cons_self depth _ hvalue
    · exact hmembers member hmember

theorem Plain.strictlyWellformed {located : Located} (h : located.Plain) : located.StrictlyWellformed := by
  induction h with
  | scalar hscalar => exact fun _ value hvalue => hscalar value hvalue
  | list _ ih =>
    intro depth value hvalue
    cases depth with
    | zero => cases hvalue
    | succ depth =>
      obtain ⟨values, hvalues, rfl⟩ := Option.map_eq_some_iff.mp hvalue
      exact .arr (wellformed_strictItems? ih hvalues)
  | object _ ih =>
    intro depth value hvalue
    cases depth with
    | zero => cases hvalue
    | succ depth =>
      obtain ⟨values, hvalues, rfl⟩ := Option.map_eq_some_iff.mp hvalue
      obtain ⟨hkeys, hmembers⟩ := wellformed_strictEntries? ih (by simp) (by simp) hvalues
      exact .obj hkeys hmembers

end Located

namespace JsonText

theorem plain_scalarTo {cursor : Cursor} {rest : List Char} {bytes : Nat} {value : Option Json}
    (h : ∀ found, value = some found → found.Wellformed) :
    (scalarTo cursor rest bytes value).1.Plain :=
  .scalar h

theorem wellformed_toJson {spelling : NumberSpelling} {number : SpelledNumber}
    (h : spelling.value? = some number) : number.toJson.Wellformed := by
  cases number with
  | whole n => exact .int n
  | double x => exact .float (NumberSpelling.canonical_of_value? h)

theorem plain_numberAt? {cursor : Cursor} {negative : Bool} {signBytes : Nat} {digits : List Char}
    {found : Located × Cursor} (h : numberAt? cursor negative signBytes digits = some found) :
    found.1.Plain := by
  obtain ⟨⟨spelling, rest, bytes⟩, -, rfl⟩ := Option.map_eq_some_iff.mp h
  refine plain_scalarTo fun value hvalue => ?_
  obtain ⟨number, hnumber, rfl⟩ := Option.map_eq_some_iff.mp hvalue
  exact wellformed_toJson hnumber

theorem plain_scalar? {cursor : Cursor} {found : Located × Cursor} (h : scalar? cursor = some found) :
    found.1.Plain := by
  unfold scalar? at h
  split at h
  case h_4 | h_5 => exact plain_numberAt? h
  all_goals
    cases h
    refine plain_scalarTo fun value hvalue => ?_
    cases hvalue
    constructor

/-- What is read within the steps is plain, for each of the readers. -/
structure ReadsPlain (steps : Nat) : Prop where
  value : ∀ cursor found, value? steps cursor = some found → found.1.Plain
  items : ∀ opening cursor found, items? steps opening cursor = some found →
    ∀ item ∈ found.1, item.Plain
  itemThen : ∀ cursor found, itemThen? steps cursor = some found → ∀ item ∈ found.1, item.Plain
  entries : ∀ opening cursor found, entries? steps opening cursor = some found →
    ∀ entry ∈ found.1, entry.value.Plain
  entryThen : ∀ cursor found, entryThen? steps cursor = some found →
    ∀ entry ∈ found.1, entry.value.Plain

namespace ReadsPlain

variable {steps : Nat} (ih : ReadsPlain steps)

include ih

/-! One step more is read as the remaining ones are. -/

theorem value_succ {cursor : Cursor} {found : Located × Cursor}
    (h : value? (steps + 1) cursor = some found) : found.1.Plain := by
  unfold value? at h
  simp only at h
  split at h
  · cases h
  · split at h
    · obtain ⟨⟨text, next⟩, -, h⟩ := Option.bind_eq_some_iff.mp h
      cases h
      refine .scalar fun value hvalue => ?_
      obtain ⟨text, -, rfl⟩ := Option.map_eq_some_iff.mp hvalue
      exact .str text
    · split at h
      · obtain ⟨⟨items, next⟩, hitems, h⟩ := Option.bind_eq_some_iff.mp h
        cases h
        exact .list (ih.items _ _ _ hitems)
      · split at h
        · obtain ⟨⟨entries, next⟩, hentries, h⟩ := Option.bind_eq_some_iff.mp h
          cases h
          exact .object (ih.entries _ _ _ hentries)
        · exact plain_scalar? h

theorem items_succ {opening : Bool} {cursor : Cursor} {found : List Located × Cursor}
    (h : items? (steps + 1) opening cursor = some found) : ∀ item ∈ found.1, item.Plain := by
  unfold items? at h
  simp only at h
  split at h
  · cases h
    simp
  · exact ih.itemThen _ _ h
  · exact ih.itemThen _ _ h
  · cases h

theorem itemThen_succ {cursor : Cursor} {found : List Located × Cursor}
    (h : itemThen? (steps + 1) cursor = some found) : ∀ item ∈ found.1, item.Plain := by
  obtain ⟨⟨item, next⟩, hitem, h⟩ := Option.bind_eq_some_iff.mp h
  obtain ⟨⟨items, last⟩, hitems, h⟩ := Option.bind_eq_some_iff.mp h
  cases h
  intro other hother
  rcases List.mem_cons.mp hother with rfl | hother
  · exact ih.value _ _ hitem
  · exact ih.items _ _ _ hitems other hother

theorem entries_succ {opening : Bool} {cursor : Cursor} {found : List (Entry Located) × Cursor}
    (h : entries? (steps + 1) opening cursor = some found) : ∀ entry ∈ found.1, entry.value.Plain := by
  unfold entries? at h
  simp only at h
  split at h
  · cases h
    simp
  · exact ih.entryThen _ _ h
  · exact ih.entryThen _ _ h
  · cases h

theorem entryThen_succ {cursor : Cursor} {found : List (Entry Located) × Cursor}
    (h : entryThen? (steps + 1) cursor = some found) : ∀ entry ∈ found.1, entry.value.Plain := by
  unfold entryThen? at h
  simp only at h
  split at h
  · cases h
  · split at h
    · obtain ⟨⟨key, next⟩, -, h⟩ := Option.bind_eq_some_iff.mp h
      simp only at h
      split at h
      · obtain ⟨⟨value, next⟩, hvalue, h⟩ := Option.bind_eq_some_iff.mp h
        obtain ⟨⟨entries, last⟩, hentries, h⟩ := Option.bind_eq_some_iff.mp h
        cases h
        intro other hother
        rcases List.mem_cons.mp hother with rfl | hother
        · exact ih.value _ _ hvalue
        · exact ih.entries _ _ _ hentries other hother
      · cases h
    · cases h

end ReadsPlain

theorem readsPlain (steps : Nat) : ReadsPlain steps := by
  induction steps with
  | zero =>
    exact ⟨fun _ _ => nofun, fun _ _ _ => nofun, fun _ _ => nofun, fun _ _ _ => nofun, fun _ _ => nofun⟩
  | succ steps ih =>
    exact ⟨fun _ _ => ih.value_succ, fun _ _ _ => ih.items_succ, fun _ _ => ih.itemThen_succ,
      fun _ _ _ => ih.entries_succ, fun _ _ => ih.entryThen_succ⟩

end JsonText

/-- The value that a text starts with is well formed. -/
theorem Json.wellformed_of_read? {text : String} {value : Json} (h : Json.read? text = some value) :
    value.Wellformed := by
  obtain ⟨located, hlocated, hvalue⟩ := Option.bind_eq_some_iff.mp h
  obtain ⟨found, hfound, rfl⟩ := Option.map_eq_some_iff.mp hlocated
  have hplain : found.1.Plain := (JsonText.readsPlain _).value _ _ hfound
  exact hplain.strictlyWellformed _ _ hvalue

end SchemaTypings
