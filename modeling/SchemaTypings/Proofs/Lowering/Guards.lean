import SchemaTypings.Proofs.Lowering.CheckedValues

/-!
# What guards pass

The guard of a member of a union passes the values of the type of the member, but for exceptions
(`UnionDispatch.passes_iff_of_holds`). Some are of the design: a guard that compares the discriminator holds
the value to it, whether or not the type of the member does, and a guard that goes by the structure looks
for every name that is required, whether or not it is a property. Others are values that types have by the
options, and that checks do not allow for: `undefined`, dates, and the null of an object.
-/

namespace SchemaTypings

open Lowering Typing

variable {options : Options} {reading : String → Value → Prop} {value : Value} {schema : Schema}
  {check : Check}

namespace UnionDispatch

/-! ## Objects -/

variable (dispatch : UnionDispatch) {shape : ObjectShape Schema}

/-- A value of the type of an object has its required properties, of the types at the ends of their chains
of references. -/
theorem holds_propertySchema (hreads : dispatch.document.Reads options reading)
    (h : (shapeTree options shape).Holds options reading value) {key : String}
    (hrequired : key ∈ shape.required) (hschema : dispatch.propertySchema? shape key = some schema) :
    (typeTree options schema).Holds options reading (value.property key) := by
  obtain ⟨named, hproperty, hresolved⟩ := Option.bind_eq_some_iff.mp hschema
  exact holds_of_resolveDeep? hreads hresolved (holds_property_of_shape h hrequired hproperty).2

/-- A value of the type of an object passes the checks of the object, unless one of the required names is no
property and the value does not have it, or the check of a property overlooks the value. -/
theorem passes_checksOfShape (hreads : dispatch.document.Reads options reading)
    (h : (shapeTree options shape).Holds options reading value)
    (hcheck : check ∈ dispatch.checksOfShape shape) : check.passes value = true ∨
      ∃ key ∈ shape.required, shape.property? key = none ∧ value.has key = false ∨
        ∃ schema, dispatch.propertySchema? shape key = some schema ∧
          schema.Overlooks options (value.property key) := by
  rw [checksOfShape, List.mem_append, List.mem_append, List.mem_flatMap] at hcheck
  rcases hcheck with (hcheck | ⟨key, hkey, hcheck⟩) | hcheck
  · obtain ⟨properties, rfl⟩ := eq_object_of_holds h
    simp only [List.mem_cons, List.not_mem_nil, or_false] at hcheck
    rcases hcheck with rfl | rfl | rfl <;> exact Or.inl rfl
  · rw [checksOfProperty, List.mem_cons, Option.mem_toList] at hcheck
    rcases hcheck with rfl | hcheck
    · cases hproperty : shape.property? key with
      | some schema => exact Or.inl (holds_property_of_shape h hkey hproperty).1
      | none =>
        cases hhas : value.has key with
        | true => exact Or.inl hhas
        | false => exact Or.inr ⟨key, hkey, Or.inl ⟨hproperty, hhas⟩⟩
    · obtain ⟨schema, hschema, hcheck⟩ := Option.bind_eq_some_iff.mp hcheck
      have hholds := dispatch.holds_propertySchema hreads h hkey hschema
      exact (passes_checkOf hcheck hholds).imp_right fun h => ⟨key, hkey, Or.inr ⟨schema, hschema, h⟩⟩
  · exact Or.inl (passes_of_mem_checksOfClosed h hcheck)

end UnionDispatch

/-! ## Members -/

/-- The shape with which a member that is an object is declared: its discriminator is pinned, if its value
is known. -/
def UnionMember.declaredShape (member : UnionMember) (property : Option String)
    (shape : ObjectShape Schema) : ObjectShape Schema :=
  match member.compared? property with
  | some (key, literal) => shape.pin key literal
  | none => shape

/-- The type of a member in the type of the union: that of its schema if it is a reference or stands inline,
else one that is declared under the name of the member. -/
def UnionMember.typeTree (options : Options) (property : Option String) (member : UnionMember) :
    TypeTree :=
  let inline := Lowering.typeTree options member.schema
  match member.schema.kind, member.isInline with
  | .ref _, _ | _, true => inline
  | .object shape, false =>
    .declared member.typeName (shapeTree options (member.declaredShape property shape))
  | _, false => .declared member.typeName inline

namespace UnionDispatch

variable (dispatch : UnionDispatch)

/-- The literal is all that the type of the member has at the discriminator, and can be compared. A member
that is an object is declared so. -/
def Pins (member : UnionMember) (key : String) (literal : Json) : Prop :=
  literal.isScalar = true ∧ (member.schema.isObject = true ∨
    ∃ shape schema, Discriminator.memberShape? dispatch.document member.schema = some shape ∧
      key ∈ shape.required ∧ dispatch.propertySchema? shape key = some schema ∧
      schema.singleValue? = some literal ∧ schema.info.nullable = false)

/-- The guard of the member asks for more than its type says: for a value of the discriminator that the type
does not pin, or for a required name that is no property. -/
inductive Narrows (member : UnionMember) (value : Value) : Prop
  | discriminator {key : String} {literal : Json}
    (hcompared : member.compared? dispatch.property = some (key, literal))
    (hpins : ¬dispatch.Pins member key literal)
    (h : (value.property key).equals literal = false) : Narrows member value
  | required {shape : ObjectShape Schema} {key : String}
    (hcompared : member.compared? dispatch.property = none)
    (hshape : Discriminator.memberShape? dispatch.document member.schema = some shape)
    (hrequired : key ∈ shape.required) (hproperty : shape.property? key = none)
    (h : value.has key = false) : Narrows member value

/-- The guard of the member does not allow for the value, although the options put it into the type: what
they make of a nullable object beside the object, or, in a guard that goes by the structure, what the check
of the schema or of a required property overlooks. -/
inductive Overlooks (options : Options) (member : UnionMember) (value : Value) : Prop
  | alternative {shape : ObjectShape Schema} {info : SchemaInfo}
    (hresolved : dispatch.document.resolveDeep? member.schema = some ⟨.object shape, info⟩)
    (hnullable : info.nullable = true) (h : value ∈ alternatives options) :
    Overlooks options member value
  | whole {schema : Schema} (hcompared : member.compared? dispatch.property = none)
    (hresolved : dispatch.document.resolveDeep? member.schema = some schema)
    (h : schema.Overlooks options value) : Overlooks options member value
  | property {shape : ObjectShape Schema} {schema : Schema} {key : String}
    (hcompared : member.compared? dispatch.property = none)
    (hshape : Discriminator.memberShape? dispatch.document member.schema = some shape)
    (hrequired : key ∈ shape.required) (hschema : dispatch.propertySchema? shape key = some schema)
    (h : schema.Overlooks options (value.property key)) : Overlooks options member value

variable {member : UnionMember}

/-- A value of the type of a member that is no object, or has no literal to compare, is one of the type of
its schema. -/
theorem holds_schema_of_member (hmember : member.schema.isObject = false ∨
      member.compared? dispatch.property = none)
    (h : (member.typeTree options dispatch.property).Holds options reading value) :
    (typeTree options member.schema).Holds options reading value := by
  unfold UnionMember.typeTree at h
  dsimp only at h
  split at h
  · exact h
  · exact h
  · rename_i shape hkind hinline
    rcases hmember with hobject | hcompared
    · simp [Schema.isObject, hkind] at hobject
    · cases h with
      | declared h =>
        rw [UnionMember.declaredShape, hcompared] at h
        exact holds_typeTree_of_shape hkind h
  · cases h with
    | declared h => exact h

/-- A value of the type of an object that is declared with a literal to compare has the literal. -/
theorem fits_of_declared {key : String} {literal : Json}
    (hcompared : member.compared? dispatch.property = some (key, literal))
    (hobject : member.schema.isObject = true) (hinline : member.isInline = false)
    (h : (member.typeTree options dispatch.property).Holds options reading value) :
    (value.property key).Fits literal := by
  unfold Schema.isObject at hobject
  split at hobject
  · rename_i shape hkind
    rw [UnionMember.typeTree, hkind, hinline] at h
    cases h with
    | declared h =>
      rw [UnionMember.declaredShape, hcompared] at h
      exact fits_of_pin h
  · cases hobject

theorem passes_of_compared (hreads : dispatch.document.Reads options reading) {key : String}
    {literal : Json} (hcompared : member.compared? dispatch.property = some (key, literal))
    (hinline : member.schema.isObject = true → member.isInline = false)
    (h : (member.typeTree options dispatch.property).Holds options reading value) :
    dispatch.Passes member value ∨ dispatch.Narrows member value ∨
      dispatch.Overlooks options member value := by
  cases hequals : (value.property key).equals literal with
  | true =>
    obtain ⟨properties, rfl⟩ := Value.eq_object_of_equals hequals
    refine Or.inl fun check hcheck => ?_
    rw [checks, hcompared] at hcheck
    simp only [List.mem_cons, List.not_mem_nil, or_false] at hcheck
    rcases hcheck with rfl | rfl | rfl
    · rfl
    · rfl
    · exact hequals
  | false =>
    by_cases hpins : dispatch.Pins member key literal
    · obtain ⟨hscalar, hpinned⟩ := hpins
      have hunfit : ¬(value.property key).Fits literal := fun hfits => by
        rw [Value.equals_of_fits hfits hscalar] at hequals
        cases hequals
      cases hobject : member.schema.isObject with
      | true => exact absurd (dispatch.fits_of_declared hcompared hobject (hinline hobject) h) hunfit
      | false =>
        rw [hobject] at hpinned
        obtain ⟨shape, schema, hshape, hrequired, hschema, hsingle, hnullable⟩ :=
          hpinned.resolve_left Bool.false_ne_true
        have hholds := dispatch.holds_schema_of_member (Or.inl hobject) h
        obtain ⟨info, hresolved⟩ := exists_resolved_of_memberShape? hshape
        rcases holds_of_resolved_object hreads hresolved hholds with hholds | ⟨hnullable, halternative⟩
        · have hproperty := dispatch.holds_propertySchema hreads hholds hrequired hschema
          exact absurd (fits_of_singleValue hproperty hsingle hnullable) hunfit
        · exact Or.inr (Or.inr (.alternative hresolved hnullable halternative))
    · exact Or.inr (Or.inl (.discriminator hcompared hpins hequals))

theorem passes_of_structure (hreads : dispatch.document.Reads options reading)
    (hcompared : member.compared? dispatch.property = none)
    (h : (member.typeTree options dispatch.property).Holds options reading value) :
    dispatch.Passes member value ∨ dispatch.Narrows member value ∨
      dispatch.Overlooks options member value := by
  have hholds := dispatch.holds_schema_of_member (Or.inr hcompared) h
  have hchecks : dispatch.checks member = dispatch.checksOfSchema member.schema := by
    rw [checks, hcompared]
  rw [Passes, hchecks, checksOfSchema]
  cases hresolved : dispatch.document.resolveDeep? member.schema with
  | none => exact Or.inl (by simp [Check.passes])
  | some resolved =>
    obtain ⟨kind, info⟩ := resolved
    have hother : (∀ check ∈ [(checkOf? .whole ⟨kind, info⟩).getD .always], check.passes value = true) ∨
        dispatch.Narrows member value ∨ dispatch.Overlooks options member value := by
      cases hcheck : checkOf? .whole ⟨kind, info⟩ with
      | none => exact Or.inl (by simp [Check.passes])
      | some check =>
        have hpasses := passes_checkOf hcheck (holds_of_resolveDeep? hreads hresolved hholds)
        exact hpasses.imp (by simp) fun h => Or.inr (.whole hcompared hresolved h)
    cases kind with
    | object shape =>
      have hshape : Discriminator.memberShape? dispatch.document member.schema = some shape := by
        rw [Discriminator.memberShape?, hresolved]
        rfl
      rcases holds_of_resolved_object hreads hresolved hholds with hholds | ⟨hnullable, halternative⟩
      · refine or_iff_not_imp_right.mpr fun hnot check hcheck => ?_
        refine (dispatch.passes_checksOfShape hreads hholds hcheck).resolve_right ?_
        rintro ⟨key, hkey, ⟨hproperty, hhas⟩ | ⟨schema, hschema, hoverlooked⟩⟩
        · exact hnot (Or.inl (.required hcompared hshape hkey hproperty hhas))
        · exact hnot (Or.inr (.property hcompared hshape hkey hschema hoverlooked))
      · exact Or.inr (Or.inr (.alternative hresolved hnullable halternative))
    | _ => exact hother

/-- A guard that goes by the structure makes the checks of every property that is required. -/
theorem mem_checks_of_required {shape : ObjectShape Schema} {key : String} {check : Check}
    (hcompared : member.compared? dispatch.property = none)
    (hshape : Discriminator.memberShape? dispatch.document member.schema = some shape)
    (hrequired : key ∈ shape.required) (hcheck : check ∈ dispatch.checksOfProperty shape key) :
    check ∈ dispatch.checks member := by
  obtain ⟨info, hresolved⟩ := exists_resolved_of_memberShape? hshape
  rw [checks, hcompared, checksOfSchema, hresolved]
  exact List.mem_append_left _ (List.mem_append_right _ (List.mem_flatMap.mpr ⟨key, hrequired, hcheck⟩))

/-- A schema that is checked is no object, and its check is the only one. -/
theorem checksOfSchema_of_check {schema resolved : Schema} {check : Check}
    (hresolved : dispatch.document.resolveDeep? schema = some resolved)
    (hcheck : checkOf? .whole resolved = some check) : dispatch.checksOfSchema schema = [check] := by
  rw [checksOfSchema, hresolved]
  dsimp only
  split
  · rename_i shape hkind
    rw [checkOf?, hkind] at hcheck
    cases hcheck
  · rw [hcheck, Option.getD_some]

/-- The guard of an object passes neither null nor `undefined`. -/
theorem not_passes_of_alternative {shape : ObjectShape Schema} {info : SchemaInfo}
    (hresolved : dispatch.document.resolveDeep? member.schema = some ⟨.object shape, info⟩)
    (h : value ∈ alternatives options) : ¬dispatch.Passes member value := by
  intro hpasses
  have hobject : Check.typeIs .whole "object" ∈ dispatch.checks member ∧
      Check.notNull ∈ dispatch.checks member := by
    rw [checks]
    cases member.compared? dispatch.property with
    | some compared => simp
    | none =>
      dsimp only
      rw [checksOfSchema, hresolved]
      simp [checksOfShape]
  rcases eq_of_mem_alternatives h with rfl | rfl
  · exact Bool.false_ne_true (hpasses _ hobject.2)
  · exact Bool.false_ne_true (hpasses _ hobject.1)

/-- What a guard asks for beyond the type of the member, it checks. -/
theorem not_passes_of_narrows (h : dispatch.Narrows member value) : ¬dispatch.Passes member value := by
  intro hpasses
  cases h with
  | @discriminator key literal hcompared hpins hequals =>
    have hcheck : Check.equals (.property key) literal ∈ dispatch.checks member := by
      rw [checks, hcompared]
      simp
    have hpassed := hpasses _ hcheck
    rw [Check.passes, Subject.of, hequals] at hpassed
    cases hpassed
  | @required shape key hcompared hshape hrequired hproperty hhas =>
    have hpassed := hpasses _ (dispatch.mem_checks_of_required hcompared hshape hrequired
      List.mem_cons_self)
    rw [Check.passes, hhas] at hpassed
    cases hpassed

/-- What a guard overlooks fails the guard. -/
theorem not_passes_of_overlooks (h : dispatch.Overlooks options member value) :
    ¬dispatch.Passes member value := by
  intro hpasses
  cases h with
  | @alternative shape info hresolved hnullable h => exact dispatch.not_passes_of_alternative hresolved h hpasses
  | @whole schema hcompared hresolved h =>
    obtain ⟨check, hcheck⟩ := exists_checkOf? .whole h.isChecked
    have hmem : check ∈ dispatch.checks member := by
      rw [checks, hcompared]
      dsimp only
      rw [dispatch.checksOfSchema_of_check hresolved hcheck]
      exact List.mem_cons_self
    have hpassed := hpasses _ hmem
    rw [fails_checkOf hcheck h] at hpassed
    cases hpassed
  | @property shape schema key hcompared hshape hrequired hschema h =>
    obtain ⟨check, hcheck⟩ := exists_checkOf? (.property key) h.isChecked
    have hmem : check ∈ dispatch.checksOfProperty shape key := by
      rw [checksOfProperty, hschema, Option.bind_some, hcheck]
      exact List.mem_cons_of_mem _ List.mem_cons_self
    have hpassed := hpasses _ (dispatch.mem_checks_of_required hcompared hshape hrequired hmem)
    rw [fails_checkOf hcheck h] at hpassed
    cases hpassed

section Primitives

variable {type : Primitive} {info : SchemaInfo}
  (hresolved : dispatch.document.resolveDeep? member.schema = some ⟨.primitive type, info⟩)

include hresolved

end Primitives

/-- A value of the type of a member passes the guard of the member, unless the guard asks for more or
overlooks the value. -/
theorem passes_or (hreads : dispatch.document.Reads options reading)
    (hinline : (member.compared? dispatch.property).isSome → member.schema.isObject = true →
      member.isInline = false)
    (h : (member.typeTree options dispatch.property).Holds options reading value) :
    dispatch.Passes member value ∨ dispatch.Narrows member value ∨
      dispatch.Overlooks options member value := by
  cases hcompared : member.compared? dispatch.property with
  | none => exact dispatch.passes_of_structure hreads hcompared h
  | some compared =>
    rw [hcompared] at hinline
    exact dispatch.passes_of_compared hreads hcompared (hinline rfl) h

/-- A value of the type of a member passes the guard of the member exactly if the guard neither asks for more
nor overlooks the value. -/
theorem passes_iff_of_holds (hreads : dispatch.document.Reads options reading)
    (hinline : (member.compared? dispatch.property).isSome → member.schema.isObject = true →
      member.isInline = false)
    (h : (member.typeTree options dispatch.property).Holds options reading value) :
    dispatch.Passes member value ↔
      ¬dispatch.Narrows member value ∧ ¬dispatch.Overlooks options member value := by
  refine ⟨fun hpasses => ⟨fun hnarrows => dispatch.not_passes_of_narrows hnarrows hpasses,
    fun hoverlooks => dispatch.not_passes_of_overlooks hoverlooks hpasses⟩, ?_⟩
  rintro ⟨hnarrows, hoverlooks⟩
  rcases dispatch.passes_or hreads hinline h with hpasses | h | h
  · exact hpasses
  · exact absurd h hnarrows
  · exact absurd h hoverlooks

end UnionDispatch

end SchemaTypings
