import SchemaTypings.Json.Pointer
import SchemaTypings.Proofs.Lookup
import SchemaTypings.Proofs.Number.Intervals

/-!
# Well-formed values

The numbers of a well-formed value are doubles of the format, and its objects do not repeat keys. So are its
parts, and it equals itself: under each key of an object there is one value to compare.
-/

namespace SchemaTypings.Json

/-- The doubles in the value are canonical, and its objects have distinct keys. -/
inductive Wellformed : Json → Prop
  | null : Wellformed .null
  | bool (value : Bool) : Wellformed (.bool value)
  | int (value : Int) : Wellformed (.int value)
  | float {value : Binary64} (h : value.Canonical) : Wellformed (.float value)
  | str (value : String) : Wellformed (.str value)
  | arr {items : List Json} (h : ∀ item ∈ items, Wellformed item) : Wellformed (.arr items)
  | obj {members : List (String × Json)} (hkeys : (members.map (·.1)).Nodup)
      (h : ∀ member ∈ members, Wellformed member.2) : Wellformed (.obj members)

theorem wellformed_arr_iff {items : List Json} : (arr items).Wellformed ↔ ∀ item ∈ items, item.Wellformed :=
  ⟨fun | .arr h => h, .arr⟩

theorem wellformed_obj_iff {members : List (String × Json)} :
    (obj members).Wellformed ↔ (members.map (·.1)).Nodup ∧ ∀ member ∈ members, member.2.Wellformed :=
  ⟨fun | .obj hkeys h => ⟨hkeys, h⟩, fun ⟨hkeys, h⟩ => .obj hkeys h⟩

/-! ## Parts -/

/-- The part is the value, or stands somewhere in it. -/
inductive Holds : Json → Json → Prop
  | refl (value : Json) : Holds value value
  | item {items : List Json} {item part : Json} (hitem : item ∈ items) (h : Holds item part) :
    Holds (.arr items) part
  | member {members : List (String × Json)} {member : String × Json} {part : Json}
    (hmember : member ∈ members) (h : Holds member.2 part) : Holds (.obj members) part

theorem Holds.trans {value between part : Json} (h : value.Holds between) (hpart : between.Holds part) :
    value.Holds part := by
  induction h with
  | refl value => exact hpart
  | item hitem _ ih => exact .item hitem (ih hpart)
  | member hmember _ ih => exact .member hmember (ih hpart)

theorem holds_of_child? {value child : Json} {key : String} (h : value.child? key = some child) :
    value.Holds child := by
  cases value with
  | obj members =>
    obtain ⟨before, after, rfl, -⟩ := List.lookup_eq_some_iff.mp h
    have hmember : (key, child) ∈ before ++ (key, child) :: after := by simp
    exact .member hmember (.refl child)
  | arr items =>
    obtain ⟨position, -, hposition⟩ := Option.bind_eq_some_iff.mp h
    exact .item (List.mem_of_getElem? hposition) (.refl child)
  | _ => cases h

theorem holds_of_walk? {way : List String} {value part : Json} (h : value.walk? way = some part) :
    value.Holds part := by
  induction way generalizing value with
  | nil =>
    obtain rfl := Option.some.inj h
    exact .refl value
  | cons key rest ih =>
    obtain ⟨child, hchild, hrest⟩ := Option.bind_eq_some_iff.mp h
    exact (holds_of_child? hchild).trans (ih hrest)

theorem holds_of_atPointer? {pointer : String} {value part : Json} (h : value.atPointer? pointer = some part) :
    value.Holds part := by
  obtain ⟨way, -, hway⟩ := Option.bind_eq_some_iff.mp h
  exact holds_of_walk? hway

theorem Wellformed.of_holds {value part : Json} (h : value.Wellformed) (hpart : value.Holds part) :
    part.Wellformed := by
  induction hpart with
  | refl value => exact h
  | item hitem _ ih =>
    cases h with
    | arr hitems => exact ih (hitems _ hitem)
  | member hmember _ ih =>
    cases h with
    | obj hkeys hmembers => exact ih (hmembers _ hmember)

/-! ## Equality as data -/

theorem equalItems_self {items : List Json} (h : ∀ item ∈ items, item.equals item = true) :
    equalItems items items = true := by
  induction items with
  | nil => rfl
  | cons item rest ih =>
    rw [equalItems, h item List.mem_cons_self, ih fun other hother => h other (List.mem_cons_of_mem _ hother)]
    rfl

theorem equalMembers_of_subset {members others : List (String × Json)} (hkeys : (others.map (·.1)).Nodup)
    (hsubset : members ⊆ others) (h : ∀ member ∈ members, member.2.equals member.2 = true) :
    equalMembers members others = true := by
  induction members with
  | nil => rfl
  | cons member rest ih =>
    obtain ⟨key, value⟩ := member
    have hmember : (key, value) ∈ others := hsubset List.mem_cons_self
    have hlookup : others.lookup key = some value := lookup_eq_some_of_mem hkeys hmember
    have hvalue : value.equals value = true := h (key, value) List.mem_cons_self
    rw [equalMembers, hlookup, ih (fun other hother => hsubset (List.mem_cons_of_mem _ hother))
      fun other hother => h other (List.mem_cons_of_mem _ hother), Bool.and_true]
    exact hvalue

/-- A well-formed value equals itself. -/
theorem Wellformed.equals_self {value : Json} (h : value.Wellformed) : value.equals value = true := by
  induction h with
  | null => rfl
  | bool b => cases b <;> rfl
  | int n => simp [equals]
  | float hx => simp [equals, Binary64.numEq]
  | str s => simp [equals]
  | arr _ ih =>
    rw [equals]
    exact equalItems_self ih
  | obj hkeys _ ih =>
    rw [equals, beq_self_eq_true, Bool.true_and]
    exact equalMembers_of_subset hkeys (fun _ => id) ih

end SchemaTypings.Json
