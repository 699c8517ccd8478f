import SchemaTypings.Lowering.Union
import SchemaTypings.Proofs.Document.Chains
import SchemaTypings.Proofs.FirstOccurrences
import SchemaTypings.Proofs.Typing.Checks

/-!
# What checks pass

A value of the type of a schema passes the check that a guard makes for the schema
(`UnionDispatch.passes_checkOf`), but for values that the type has by the options and that the check does not
allow for (`Schema.Overlooks`): `undefined`, dates, and what an enumeration writes out.
-/

namespace SchemaTypings

open Lowering Typing

variable {options : Options} {reading : String → Value → Prop} {value : Value}

/-! ## Types of references -/

/-- Whatever a reference stands for is a value of the type of its target. -/
def Document.Reads (document : Document) (options : Options) (reading : String → Value → Prop) :
    Prop :=
  ∀ reference target value, document.resolve? reference = some target → reading reference value →
    (typeTree options target).Holds options reading value

namespace Lowering

/-- A value of a type has the type of its kind, or is spelled out beside that. -/
theorem holds_typeTree {schema : Schema} (h : (typeTree options schema).Holds options reading value) :
    (kindTree options schema.info.format schema.kind).Holds options reading value ∨
      schema.info.nullable = true ∧ value ∈ alternatives options := by
  obtain ⟨kind, info⟩ := schema
  have hother : (if info.nullable then TypeTree.nullable (kindTree options info.format kind)
      else kindTree options info.format kind).Holds options reading value →
      (kindTree options info.format kind).Holds options reading value ∨
        info.nullable = true ∧ value ∈ alternatives options := by
    intro h
    split at h
    · rename_i hnullable
      exact (TypeTree.holds_nullable.mp h).imp_right fun h => ⟨hnullable, h⟩
    · exact Or.inl h
  cases kind with
  | ref target =>
    rw [typeTree] at h
    rw [kindTree]
    exact Or.inl h
  | _ => exact hother h

/-- A value of a type is one of the type at the end of its chain of references. -/
theorem holds_of_resolveDeep? {document : Document} (hreads : document.Reads options reading)
    {schema resolved : Schema} (hresolved : document.resolveDeep? schema = some resolved)
    (h : (typeTree options schema).Holds options reading value) :
    (typeTree options resolved).Holds options reading value := by
  obtain ⟨_, -, hchain⟩ := Document.resolveDeep?_eq_some_iff.mp hresolved
  clear hresolved
  induction hchain with
  | here _ => exact h
  | @next _ schema _ _ _ hkind hnext _ ih =>
    obtain ⟨_, info⟩ := schema
    obtain rfl := hkind
    rw [typeTree] at h
    cases h with
    | reference h => exact ih (hreads _ _ value hnext h)

/-- A schema with a single value has no other one, unless it is nullable. -/
theorem fits_of_singleValue {schema : Schema} {literal : Json}
    (h : (typeTree options schema).Holds options reading value)
    (hsingle : schema.singleValue? = some literal) (hnullable : schema.info.nullable = false) :
    value.Fits literal := by
  rcases holds_typeTree h with h | ⟨hother, -⟩
  · unfold Schema.singleValue? at hsingle
    split at hsingle
    · rename_i hkind
      cases hsingle
      rw [hkind, kindTree, if_neg (by simp)] at h
      obtain ⟨part, hpart, h⟩ := TypeTree.holds_union.mp h
      obtain rfl := List.mem_singleton.mp hpart
      cases h with
      | literal hfits => exact hfits
    · cases hsingle
  · rw [hnullable] at hother
    cases hother

/-! ## Properties of shapes -/

theorem eq_object_of_holds {shape : ObjectShape Schema}
    (h : (shapeTree options shape).Holds options reading value) :
    ∃ properties, value = .object properties := by
  rw [shapeTree_eq] at h
  cases h with
  | object => exact ⟨_, rfl⟩

theorem exists_resolved_of_memberShape? {document : Document} {schema : Schema}
    {shape : ObjectShape Schema} (h : Discriminator.memberShape? document schema = some shape) :
    ∃ info, document.resolveDeep? schema = some ⟨.object shape, info⟩ := by
  obtain ⟨⟨kind, info⟩, hresolved, hshape⟩ := Option.bind_eq_some_iff.mp h
  cases kind with
  | object found =>
    cases hshape
    exact ⟨info, hresolved⟩
  | _ => cases hshape

/-- A value of the type of a schema with the shape of an object at the end of its chain of references is such
an object, or spelled out beside it. -/
theorem holds_of_resolved_object {document : Document} (hreads : document.Reads options reading)
    {schema : Schema} {shape : ObjectShape Schema} {info : SchemaInfo}
    (hresolved : document.resolveDeep? schema = some ⟨.object shape, info⟩)
    (h : (typeTree options schema).Holds options reading value) :
    (shapeTree options shape).Holds options reading value ∨
      info.nullable = true ∧ value ∈ alternatives options :=
  holds_typeTree (holds_of_resolveDeep? hreads hresolved h)

/-- An object type that is nullable besides has the values of the object type. -/
theorem holds_typeTree_of_shape {schema : Schema} {shape : ObjectShape Schema}
    (hkind : schema.kind = .object shape) (h : (shapeTree options shape).Holds options reading value) :
    (typeTree options schema).Holds options reading value := by
  obtain ⟨kind, info⟩ := schema
  obtain rfl : kind = .object shape := hkind
  show (if info.nullable then TypeTree.nullable (shapeTree options shape)
    else shapeTree options shape).Holds options reading value
  split
  · exact .base h
  · exact h

/-- A value of an object type has the properties that are required, of their types. -/
theorem holds_property_of_shape {shape : ObjectShape Schema} {key : String} {schema : Schema}
    (h : (shapeTree options shape).Holds options reading value) (hrequires : key ∈ shape.required)
    (hproperty : shape.property? key = some schema) : value.has key = true ∧
      (typeTree options schema).Holds options reading (value.property key) := by
  obtain ⟨before, after, hsplit, -⟩ := List.lookup_eq_some_iff.mp hproperty
  have hfield : fieldOf options true key schema.info (typeTree options schema) ∈
      fieldTrees options shape.required shape.properties := by
    rw [fieldTrees_eq_map, hsplit, List.mem_map]
    exact ⟨(key, schema), by simp, by rw [List.contains_iff_mem.mpr hrequires]⟩
  rw [shapeTree_eq] at h
  exact TypeTree.holds_property h hfield rfl

/-- A value of a closed object type without properties has none. -/
theorem passes_of_mem_checksOfClosed {shape : ObjectShape Schema} {check : Check}
    (h : (shapeTree options shape).Holds options reading value)
    (hcheck : check ∈ UnionDispatch.checksOfClosed shape) : check.passes value = true := by
  obtain ⟨properties, required, additional⟩ := shape
  cases additional with
  | closed =>
    cases properties with
    | nil =>
      obtain rfl : check = .isEmpty := by simpa [UnionDispatch.checksOfClosed] using hcheck
      rw [shapeTree_eq] at h
      cases h with
      | @object _ _ properties _ _ hothers =>
        cases properties with
        | nil => rfl
        | cons property rest =>
          have hnever := hothers .never rfl property List.mem_cons_self List.not_mem_nil
          cases hnever
    | cons property rest => cases hcheck
  | _ => cases hcheck

/-- A value of the type of an object in which a property is pinned has the literal there. -/
theorem fits_of_pin {shape : ObjectShape Schema} {key : String} {literal : Json}
    (h : (shapeTree options (shape.pin key literal)).Holds options reading value) :
    (value.property key).Fits literal := by
  have hrequires : key ∈ (shape.pin key literal).required := by
    simp only [ObjectShape.pin, addName]
    split
    · exact List.contains_iff_mem.mp ‹_›
    · exact List.mem_append_right _ List.mem_cons_self
  have hproperty : (shape.pin key literal).property? key = some (.constant literal) := by
    show (setProperty key (.constant literal) shape.properties).lookup key = _
    rw [lookup_setProperty, if_pos rfl]
  obtain ⟨-, hconstant⟩ := holds_property_of_shape h hrequires hproperty
  exact fits_of_singleValue hconstant rfl rfl

end Lowering

/-! ## Checks of values -/

/-- Whether values of the schema are checked: there is no check for some kinds. -/
def Schema.isChecked (schema : Schema) : Bool :=
  match schema.kind with
  | .primitive (.unknown _) => false
  | .primitive _ | .array _ => true
  | .enum shape => !shape.values.isEmpty
  | _ => false

/-- The check of the schema does not allow for the value, although the options put it into the type: it is the
`undefined` of a nullable schema that is checked, the date that a text is read as, or one of the lists and
objects that an enumeration writes out. -/
inductive Schema.Overlooks (options : Options) (schema : Schema) : Value → Prop
  | undefined (hchecked : schema.isChecked = true) (hnullable : schema.info.nullable = true)
    (h : Value.undefined ∈ alternatives options) : Overlooks options schema .undefined
  | date (time : Int) (hkind : schema.kind = .primitive .string) (hdate : options.dateType = .date)
    (hformat : schema.info.format = some "date" ∨ schema.info.format = some "date-time") :
    Overlooks options schema (.date time)
  | structured {shape : EnumShape} {literal : Json} {value : Value} (hkind : schema.kind = .enum shape)
    (hmem : literal ∈ shape.values) (hstructured : literal.isScalar = false)
    (h : value.Fits literal) : Overlooks options schema value

theorem Schema.Overlooks.isChecked {schema : Schema} (h : schema.Overlooks options value) :
    schema.isChecked = true := by
  obtain ⟨kind, info⟩ := schema
  cases h with
  | undefined hchecked => exact hchecked
  | date time hkind =>
    obtain rfl : kind = .primitive .string := hkind
    rfl
  | @structured shape literal _ hkind hmem =>
    obtain rfl : kind = .enum shape := hkind
    show (!shape.values.isEmpty) = true
    rw [List.isEmpty_eq_false_iff.mpr (List.ne_nil_of_mem hmem), Bool.not_false]

namespace UnionDispatch

variable {subject : Subject} {schema : Schema} {check : Check}

theorem isSome_checkOf? (subject : Subject) (schema : Schema) :
    (checkOf? subject schema).isSome = schema.isChecked := by
  obtain ⟨kind, info⟩ := schema
  rw [checkOf?, Option.isSome_map]
  cases kind with
  | primitive type => cases type <;> rfl
  | enum shape =>
    simp only [checkOfKind?, Schema.isChecked]
    cases shape.values.isEmpty <;> rfl
  | _ => rfl

theorem exists_checkOf? (subject : Subject) (h : schema.isChecked = true) :
    ∃ check, checkOf? subject schema = some check :=
  Option.isSome_iff_exists.mp ((isSome_checkOf? subject schema).trans h)

theorem passes_checkOfPrimitive {info : SchemaInfo} {type : Primitive}
    (hcheck : checkOfKind? subject (.primitive type) = some check)
    (h : (primitiveTree options info.format type).Holds options reading (subject.of value)) :
    check.passes value = true ∨
      Schema.Overlooks options ⟨.primitive type, info⟩ (subject.of value) := by
  generalize hsubject : subject.of value = inner at h ⊢
  cases type with
  | string =>
    cases hcheck
    rw [primitiveTree] at h
    split at h
    · rename_i hdate
      simp only [Bool.and_eq_true, Bool.or_eq_true, beq_iff_eq] at hdate
      cases h
      exact Or.inr (.date _ rfl hdate.1 hdate.2)
    · cases h
      exact Or.inl (by rw [Check.passes, hsubject]; rfl)
  | unknown name => cases hcheck
  | _ =>
    cases hcheck
    cases h
    exact Or.inl (by rw [Check.passes, hsubject]; rfl)

theorem passes_checkOfKind (hcheck : checkOfKind? subject schema.kind = some check)
    (h : (kindTree options schema.info.format schema.kind).Holds options reading (subject.of value)) :
    check.passes value = true ∨ schema.Overlooks options (subject.of value) := by
  obtain ⟨kind, info⟩ := schema
  cases kind with
  | primitive type =>
    rw [kindTree] at h
    exact passes_checkOfPrimitive hcheck h
  | array items =>
    cases hcheck
    rw [kindTree] at h
    generalize hsubject : subject.of value = inner at h
    cases h
    exact Or.inl (by rw [Check.passes, hsubject]; rfl)
  | enum shape =>
    dsimp only at hcheck h
    rw [checkOfKind?] at hcheck
    rw [kindTree] at h
    split at hcheck
    · cases hcheck
    · rename_i hempty
      cases hcheck
      rw [if_neg hempty] at h
      obtain ⟨part, hpart, h⟩ := TypeTree.holds_union.mp h
      obtain ⟨literal, hmem, rfl⟩ := List.mem_map.mp hpart
      cases h with
      | literal hfits =>
        cases hscalar : literal.isScalar with
        | true => exact Or.inl (List.any_eq_true.mpr ⟨literal, hmem, Value.equals_of_fits hfits hscalar⟩)
        | false => exact Or.inr (.structured rfl hmem hscalar hfits)
  | _ => cases hcheck

/-- A value of the type of a schema passes the check of the schema, unless that overlooks it. -/
theorem passes_checkOf (hcheck : checkOf? subject schema = some check)
    (h : (typeTree options schema).Holds options reading (subject.of value)) :
    check.passes value = true ∨ schema.Overlooks options (subject.of value) := by
  have hchecked : schema.isChecked = true := by
    rw [← isSome_checkOf? subject, hcheck, Option.isSome_some]
  obtain ⟨base, hbase, rfl⟩ := Option.map_eq_some_iff.mp hcheck
  rcases holds_typeTree h with h | ⟨hnullable, h⟩
  · refine (passes_checkOfKind hbase h).imp_left fun hpasses => ?_
    split
    · simp [Check.passes, hpasses]
    · exact hpasses
  · rw [if_pos hnullable]
    rcases eq_of_mem_alternatives h with hnull | hundefined
    · exact Or.inl (by simp [Check.passes, hnull, Value.isNull])
    · rw [hundefined] at h ⊢
      exact Or.inr (.undefined hchecked hnullable h)

/-- What the check of a kind overlooks is no null, and fails the check. -/
theorem fails_checkOfKind (hcheck : checkOfKind? subject schema.kind = some check)
    (h : schema.Overlooks options (subject.of value)) :
    (subject.of value).isNull = false ∧ check.passes value = false := by
  obtain ⟨kind, info⟩ := schema
  generalize hsubject : subject.of value = inner at h ⊢
  cases h with
  | undefined hchecked hnullable h =>
    refine ⟨rfl, ?_⟩
    cases kind with
    | primitive type => cases type <;> cases hcheck <;> rw [Check.passes, hsubject] <;> rfl
    | array items =>
      cases hcheck
      rw [Check.passes, hsubject]
      rfl
    | enum shape =>
      obtain ⟨-, hcheck⟩ := Option.ite_none_left_eq_some.mp hcheck
      cases hcheck
      rw [Check.passes, hsubject]
      exact List.any_eq_false.mpr fun literal _ => by cases literal <;> exact Bool.false_ne_true
    | _ => cases hcheck
  | date time hkind hdate hformat =>
    obtain rfl : kind = .primitive .string := hkind
    cases hcheck
    exact ⟨rfl, by rw [Check.passes, hsubject]; rfl⟩
  | @structured shape literal value hkind hmem hstructured hfits =>
    obtain rfl : kind = .enum shape := hkind
    obtain ⟨-, hcheck⟩ := Option.ite_none_left_eq_some.mp hcheck
    cases hcheck
    obtain ⟨hnull, hequals⟩ := Value.equals_of_structured hfits hstructured
    refine ⟨hnull, ?_⟩
    rw [Check.passes, hsubject]
    exact List.any_eq_false.mpr fun other _ => by rw [hequals other]; exact Bool.false_ne_true

/-- What the check of a schema overlooks fails the check. -/
theorem fails_checkOf (hcheck : checkOf? subject schema = some check)
    (h : schema.Overlooks options (subject.of value)) : check.passes value = false := by
  obtain ⟨base, hbase, rfl⟩ := Option.map_eq_some_iff.mp hcheck
  obtain ⟨hnull, hfails⟩ := fails_checkOfKind hbase h
  split
  · rw [Check.passes, hnull, hfails]
    rfl
  · exact hfails

end UnionDispatch

end SchemaTypings
