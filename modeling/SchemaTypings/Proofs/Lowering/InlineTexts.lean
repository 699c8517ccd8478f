import SchemaTypings.Proofs.Lowering.Ensures
import SchemaTypings.Proofs.Schema.Children
import SchemaTypings.Proofs.Typing.Identifiers

/-!
# Type expressions of schemas

A property of texts holds of the type expression of a schema if it holds of the names of the references in
the schema and of the words that type expressions begin with, and is kept by what joins them
(`Lowering.ensures_typeOf`).

If a type expression is an identifier, then it is the name of a reference in the schema, a word that begins
with a small letter (a built-in type or a literal), or `Date`. So a property of names holds of it if it holds
of these (`HoldsOfWords.closed`).
-/

namespace SchemaTypings.Lowering

open LowerM Typing Name

/-- The property `P` of type expressions holds of words and literals, and is kept by what joins them; `Q`
holds of the signatures within object types then. -/
structure Closed (P Q : String → Prop) : Prop where
  top : P topType
  bottom : P bottomType
  primitive (options : Options) (format : Option String) (type : Primitive) :
    P (primitiveType options format type)
  literal (value : Json) : P value.literal
  union {parts : List String} (h : ∀ part ∈ parts, P part) : P (union parts)
  intersection {parts : List String} (h : ∀ part ∈ parts, P part) : P (intersection parts)
  arrayOf (options : Options) {element : String} (h : P element) : P (arrayOf options element)
  mapOf (options : Options) {value : String} (h : P value) : P (mapOf options value)
  signature (options : Options) (name : String) {type : String} (info : SchemaInfo) (required : Bool)
    (h : P type) : Q (inlineSignature options name type info required)
  index {value : String} (h : P value) : Q (indexSignatureText value)
  object {signatures : List String} (h : ∀ signature ∈ signatures, Q signature) :
    let members := String.intercalate "; " signatures
    P s!"\x7b {members} \x7d"
  nullable (options : Options) {base : String} (h : P base) : P (makeNullable options base)

theorem closed_true : Closed (fun _ => True) fun _ => True where
  top := trivial
  bottom := trivial
  primitive _ _ _ := trivial
  literal _ := trivial
  union _ := trivial
  intersection _ := trivial
  arrayOf _ _ _ := trivial
  mapOf _ _ _ := trivial
  signature _ _ _ _ _ _ := trivial
  index _ := trivial
  object _ := trivial
  nullable _ _ _ := trivial

variable {inv : Setting → Store → Prop} {P Q : String → Prop} {resolve : String → LowerM String}

/-! ## Runs -/

theorem ensures_degenerateThen (hplaceless : Placeless inv) (policy : Options → DegeneratePolicy)
    (reason : String) (h : P bottomType) :
    Ensures inv (do
      LowerM.degenerate (policy (← LowerM.options)) reason
      return bottomType) P := by
  apply Ensures.readOptions
  intro options
  apply (Ensures.degenerate hplaceless (policy options) reason).bind
  intro _ _
  exact .pure h

section

variable (hplaceless : Placeless inv)

include hplaceless

theorem ensures_typesOfMembers {members : List Schema} (index : Nat)
    (h : ∀ member ∈ members, (typeOf resolve member).Ensures inv P) :
    (typesOfMembers resolve index members).Ensures inv fun types => ∀ type ∈ types, P type := by
  induction members generalizing index with
  | nil => exact .pure (by simp)
  | cons member rest ih =>
    have hmember := Ensures.descend hplaceless (memberSegment index) (h member List.mem_cons_self)
    have hrest := ih (index + 1) fun other hother => h other (List.mem_cons_of_mem _ hother)
    rw [typesOfMembers]
    apply hmember.bind
    intro type htype
    apply hrest.bind
    intro types htypes
    apply Ensures.pure
    intro other hother
    rcases List.mem_cons.mp hother with rfl | hother
    · exact htype
    · exact htypes other hother

variable (hclosed : Closed P Q)

include hclosed

theorem ensures_indexValue {propertyless : Bool} {additional : Additional Schema}
    (h : ∀ schema ∈ additional.schemas, (typeOf resolve schema).Ensures inv P) :
    (indexValue resolve propertyless additional).Ensures inv fun index => ∀ value ∈ index, P value := by
  cases additional with
  | schema value =>
    have hvalue := h value (by simp [Additional.schemas])
    have hsegment := Ensures.withSegment hplaceless additionalSegment hvalue
    rw [indexValue]
    exact .map (hsegment.mono fun type htype => by simpa using htype)
  | opened => exact .pure (by simpa using hclosed.top)
  | closed =>
    rw [indexValue]
    split
    · exact .pure (by simpa using hclosed.bottom)
    · exact .pure (by simp)
  | unspecified =>
    rw [indexValue]
    split
    · exact .pure (by simpa using hclosed.top)
    · exact .pure (by simp)

theorem ensures_signaturesOf {required : List String} {properties : List (String × Schema)}
    (h : ∀ property ∈ properties, (typeOf resolve property.2).Ensures inv P) :
    (signaturesOf resolve required properties).Ensures inv fun signatures =>
      ∀ signature ∈ signatures, Q signature := by
  induction properties with
  | nil => exact .pure (by simp)
  | cons property rest ih =>
    obtain ⟨name, schema⟩ := property
    have hproperty := Ensures.withSegment hplaceless name (h (name, schema) List.mem_cons_self)
    have hrest := ih fun other hother => h other (List.mem_cons_of_mem _ hother)
    rw [signaturesOf]
    apply hproperty.bind
    intro type htype
    apply Ensures.readOptions
    intro options
    refine .map (hrest.mono fun signatures hsignatures => ?_)
    simp only [List.forall_mem_cons]
    exact ⟨hclosed.signature options name schema.info _ htype, hsignatures⟩

theorem ensures_objectType {shape : ObjectShape Schema} {format : Option String}
    (h : ∀ schema ∈ shape.schemas, (typeOf resolve schema).Ensures inv P) :
    (typeOfKind resolve format (.object shape)).Ensures inv P := by
  obtain ⟨properties, required, additional⟩ := shape
  have hindex : (indexValue resolve properties.isEmpty additional).Ensures inv fun index =>
      ∀ value ∈ index, P value :=
    ensures_indexValue hplaceless hclosed fun schema hschema => h schema (List.mem_append_right _ hschema)
  have hsignatures : (signaturesOf resolve required properties).Ensures inv fun signatures =>
      ∀ signature ∈ signatures, Q signature :=
    ensures_signaturesOf hplaceless hclosed fun property hproperty =>
      h property.2 (List.mem_append_left _ (List.mem_map_of_mem hproperty))
  rw [typeOfKind]
  apply hindex.bind
  intro index hindex
  split
  · apply Ensures.readOptions
    intro options
    refine .pure (hclosed.mapOf options ?_)
    cases index with
    | none => exact hclosed.top
    | some value => exact hindex value rfl
  · apply hsignatures.bind
    intro signatures hsignatures
    refine .pure (hclosed.object fun signature hsignature => ?_)
    rcases List.mem_append.mp hsignature with hsignature | hsignature
    · exact hsignatures signature hsignature
    · obtain ⟨value, hvalue, rfl⟩ := Option.map_eq_some_iff.mp (Option.mem_toList.mp hsignature)
      exact hclosed.index (hindex value hvalue)

theorem ensures_typeOfKind {format : Option String} {kind : SchemaKind Schema}
    (hresolve : ∀ reference, kind = .ref reference → (resolve reference).Ensures inv P)
    (hchildren : ∀ child ∈ Schema.childrenOfKind kind, (typeOf resolve child).Ensures inv P) :
    (typeOfKind resolve format kind).Ensures inv P := by
  cases kind with
  | any =>
    rw [typeOfKind]
    exact .pure hclosed.top
  | ref target =>
    rw [typeOfKind]
    exact hresolve target rfl
  | oneOf members | anyOf members =>
    have htypes := ensures_typesOfMembers hplaceless 0 hchildren
    rw [typeOfKind]
    cases members with
    | nil => exact ensures_degenerateThen hplaceless (·.unions.emptyUnion) noMembersReason hclosed.bottom
    | cons member rest => exact .map (htypes.mono fun types => hclosed.union)
  | allOf members =>
    have htypes := ensures_typesOfMembers hplaceless 0 hchildren
    rw [typeOfKind]
    cases members with
    | nil => exact .pure hclosed.top
    | cons member rest => exact .map (htypes.mono fun types => hclosed.intersection)
  | array items =>
    have hitems := hchildren items (by simp [Schema.childrenOfKind])
    rw [typeOfKind]
    apply Ensures.readOptions
    intro options
    exact .map (hitems.mono fun element => hclosed.arrayOf options)
  | object shape => exact ensures_objectType hplaceless hclosed hchildren
  | enum shape =>
    rw [typeOfKind, enumType]
    split
    · exact ensures_degenerateThen hplaceless (·.enums.emptyEnum) noValuesReason hclosed.bottom
    · refine .pure (hclosed.union fun literal hliteral => ?_)
      obtain ⟨value, -, rfl⟩ := List.mem_map.mp hliteral
      exact hclosed.literal value
  | primitive type =>
    rw [typeOfKind]
    apply Ensures.readOptions
    intro options
    exact .pure (hclosed.primitive options format type)

/-- What is closed, and holds of the names of the references in a schema, holds of the type expression of the
schema. -/
theorem ensures_typeOf {schema : Schema}
    (hresolve : ∀ reference, schema.Mentions reference → (resolve reference).Ensures inv P) :
    (typeOf resolve schema).Ensures inv P := by
  induction schema using Schema.inductionOn with
  | step schema ih =>
    have hchildren : ∀ child ∈ schema.children, (typeOf resolve child).Ensures inv P := by
      intro child hchild
      exact ih child hchild fun reference hmention => hresolve reference (.of_child hchild hmention)
    obtain ⟨kind, info⟩ := schema
    have hkind : (typeOfKind resolve info.format kind).Ensures inv P :=
      ensures_typeOfKind hplaceless hclosed (fun reference hkind => hresolve reference ⟨_, .refl _, hkind⟩)
        hchildren
    have hnullable : Ensures inv (do
        let base ← typeOfKind resolve info.format kind
        if info.nullable then return makeNullable (← LowerM.options) base else return base) P := by
      apply hkind.bind
      intro base hbase
      split
      · apply Ensures.readOptions
        intro options
        exact .pure (hclosed.nullable options hbase)
      · exact .pure hbase
    cases kind with
    | ref target => exact hkind
    | _ => exact hnullable

end

/-! ## Identifiers -/

/-- The property holds of the identifiers among type expressions that are no names of references. -/
structure HoldsOfWords (P : String → Prop) : Prop where
  small : ∀ word, beginsSmall word = true → P word
  date : P "Date"

namespace HoldsOfWords

variable (hwords : HoldsOfWords P)

include hwords

theorem ifIdentifier_primitiveType (options : Options) (format : Option String) (type : Primitive) :
    IfIdentifier P (primitiveType options format type) := by
  intro _
  cases type with
  | string =>
    rw [primitiveType]
    split
    · exact hwords.date
    · exact hwords.small "string" (by decide)
  | number => exact hwords.small "number" (by decide)
  | integer => exact hwords.small "number" (by decide)
  | boolean => exact hwords.small "boolean" (by decide)
  | null => exact hwords.small "null" (by decide)
  | unknown name => exact hwords.small topType (by decide)

/-- An object type holds a bracket or a blank. -/
theorem closed : Closed (IfIdentifier P) fun _ => True where
  top _ := hwords.small topType (by decide)
  bottom _ := hwords.small bottomType (by decide)
  primitive := hwords.ifIdentifier_primitiveType
  literal := ifIdentifier_literal hwords.small
  union := ifIdentifier_union
  intersection := ifIdentifier_intersection
  arrayOf options _ _ := ifIdentifier_arrayOf options _
  mapOf options _ _ := ifIdentifier_mapOf options _
  signature _ _ _ _ _ _ := trivial
  index _ := trivial
  object _ := ifIdentifier_of_mem (c := ' ') (by decide) (by simp [toString])
  nullable options _ := ifIdentifier_makeNullable options

end HoldsOfWords

end SchemaTypings.Lowering
