import SchemaTypings.Proofs.Document.Literals
import SchemaTypings.Proofs.Json.Texts
import SchemaTypings.Proofs.Lowering.UnionMembers
import SchemaTypings.Proofs.Schema.InferredDiscriminators

/-!
# Unions whose discriminator is inferred

The values that are inferred for the members of a union are unequal as data. The keys of the handlers are the
plain texts of the values, and at run time numbers are doubles, so that values which are unequal may still have
one key or be one literal: a string that spells another value has its key
(`UnionDispatch.Switches.nodup_handlerKeys_iff`), and what equals one of two numbers that round to one double
passes both guards (`UnionDispatch.Switches.pairwise_guards_iff`). There is no other way for two members to meet
(`Context.inferred_members_apart_iff`).
-/

namespace SchemaTypings

open Lowering Typing

namespace Name

theorem propertyKey_injective : Function.Injective propertyKey := by
  have hquoted : ∀ name text : String, isIdentifier name = true → name ≠ quoted text := by
    rintro name text hname rfl
    rw [isIdentifier, Quoted.toList_quoted, isIdentifierChars] at hname
    exact absurd (Bool.and_eq_true_iff.mp hname).1 (by decide)
  intro name other h
  unfold propertyKey at h
  split at h <;> split at h
  · exact h
  · exact absurd h (hquoted _ _ ‹_›)
  · exact absurd h.symm (hquoted _ _ ‹_›)
  · have hchars : (quoted name).toList ++ [] = (quoted other).toList ++ [] := by rw [h]
    exact (Quoted.quoted_append_inj hchars).1

end Name

/-! ## Literals at run time -/

namespace Json

/-- The double that a number is at run time. -/
def double? : Json → Option Binary64
  | .int n => some (Binary64.ofInt n)
  | .float x => some x
  | _ => none

/-- The values are numbers that are one double. -/
def SameDouble (value other : Json) : Prop :=
  ∃ x y, value.double? = some x ∧ other.double? = some y ∧ x.numEq y = true

end Json

namespace Binary64

theorem numEq_iff {x y : Binary64} : x.numEq y = true ↔ x = y ∨ x.isZero = true ∧ y.isZero = true := by
  simp [numEq]

theorem numEq_self (x : Binary64) : x.numEq x = true :=
  numEq_iff.mpr (Or.inl rfl)

theorem numEq_comm (x y : Binary64) : x.numEq y = y.numEq x := by
  rw [Bool.eq_iff_iff, numEq_iff, numEq_iff, eq_comm, and_comm]

theorem numEq_trans {x y z : Binary64} (hxy : x.numEq y = true) (hyz : y.numEq z = true) : x.numEq z = true := by
  rcases numEq_iff.mp hxy with rfl | ⟨hx, hy⟩
  · exact hyz
  · rcases numEq_iff.mp hyz with rfl | ⟨-, hz⟩
    · exact hxy
    · exact numEq_iff.mpr (Or.inr ⟨hx, hz⟩)

end Binary64

namespace Typing.Value

theorem null_equals_iff {literal : Json} : null.equals literal = true ↔ .null = literal := by
  cases literal <;> simp [equals]

theorem bool_equals_iff {b : Bool} {literal : Json} : (bool b).equals literal = true ↔ .bool b = literal := by
  cases literal <;> simp [equals]

theorem string_equals_iff {text : String} {literal : Json} :
    (string text).equals literal = true ↔ .str text = literal := by
  cases literal <;> simp [equals]

/-- A number equals the literals that are its double. -/
theorem number_equals_iff {x : Binary64} {literal : Json} :
    (number (.finite x)).equals literal = true ↔ ∃ y, literal.double? = some y ∧ y.numEq x = true := by
  cases literal <;> simp [equals, Json.double?]

/-- Of unequal values, some value at run time equals both if and only if they are numbers that are one double. -/
theorem exists_equals_both_iff {value other : Json} (hunequal : value.equals other = false) :
    (∃ found : Value, found.equals value = true ∧ found.equals other = true) ↔ value.SameDouble other := by
  constructor
  · rintro ⟨found, hvalue, hother⟩
    cases found with
    | number numeral =>
      cases numeral with
      | finite x =>
        obtain ⟨y, hy, hyx⟩ := number_equals_iff.mp hvalue
        obtain ⟨z, hz, hzx⟩ := number_equals_iff.mp hother
        exact ⟨y, z, hy, hz, Binary64.numEq_trans hyx (by rwa [Binary64.numEq_comm])⟩
      | _ => cases value <;> cases hvalue
    | null =>
      rw [← null_equals_iff.mp hvalue, ← null_equals_iff.mp hother] at hunequal
      cases hunequal
    | bool b =>
      rw [← bool_equals_iff.mp hvalue, ← bool_equals_iff.mp hother] at hunequal
      simp [Json.equals] at hunequal
    | string text =>
      rw [← string_equals_iff.mp hvalue, ← string_equals_iff.mp hother] at hunequal
      simp [Json.equals] at hunequal
    | _ => cases value <;> cases hvalue
  · rintro ⟨x, y, hx, hy, hxy⟩
    refine ⟨number (.finite x), number_equals_iff.mpr ⟨x, hx, Binary64.numEq_self x⟩, ?_⟩
    exact number_equals_iff.mpr ⟨y, hy, by rwa [Binary64.numEq_comm]⟩

end Typing.Value

/-! ## Members of a union that is switched on -/

theorem pairwise_iff_pairwise {α : Type} {items : List α} {R S : α → α → Prop}
    (h : items.Pairwise fun item other => R item other ↔ S item other) : items.Pairwise R ↔ items.Pairwise S :=
  ⟨fun hpairs => (hpairs.and h).imp fun ⟨hpair, hiff⟩ => hiff.mp hpair,
    fun hpairs => (hpairs.and h).imp fun ⟨hpair, hiff⟩ => hiff.mpr hpair⟩

namespace UnionDispatch

/-- The members are told by a property, of which each has one of the values. -/
structure Switches (dispatch : UnionDispatch) (property : String) (values : List Json) : Prop where
  property : dispatch.property = some property
  values : dispatch.members.map (·.discriminatorValue) = values.map some

namespace Switches

variable {dispatch : UnionDispatch} {property : String} {values : List Json}

theorem exists_value (h : dispatch.Switches property values) {member : UnionMember}
    (hmember : member ∈ dispatch.members) : ∃ value ∈ values, member.discriminatorValue = some value := by
  have hmem : member.discriminatorValue ∈ values.map some := h.values ▸ List.mem_map_of_mem hmember
  obtain ⟨value, hvalue, heq⟩ := List.mem_map.mp hmem
  exact ⟨value, hvalue, heq.symm⟩

theorem isSwitchable (h : dispatch.Switches property values) : dispatch.isSwitchable = true := by
  simp only [UnionDispatch.isSwitchable, h.property, Option.isSome_some, Bool.true_and, List.all_eq_true]
  intro member hmember
  obtain ⟨value, -, hvalue⟩ := h.exists_value hmember
  simp [hvalue]

theorem matchBody (h : dispatch.Switches property values) :
    dispatch.matchBody = dispatch.switchBody property := by
  rw [UnionDispatch.matchBody, h.property, h.isSwitchable]

/-- What is asked of two members is asked of their values. -/
theorem pairwise_members_iff (h : dispatch.Switches property values) {apart : UnionMember → UnionMember → Prop}
    {unlike : Json → Json → Prop}
    (hiff : ∀ {member other : UnionMember} {value literal : Json}, member.discriminatorValue = some value →
      other.discriminatorValue = some literal → (apart member other ↔ unlike value literal)) :
    dispatch.members.Pairwise apart ↔ values.Pairwise unlike := by
  have hvalues : dispatch.members.Pairwise apart ↔
      (dispatch.members.map (·.discriminatorValue)).Pairwise fun found other =>
        ∀ value literal, found = some value → other = some literal → unlike value literal := by
    rw [List.pairwise_map]
    refine List.Pairwise.iff_of_mem fun hmember hother => ?_
    obtain ⟨value, -, hvalue⟩ := h.exists_value hmember
    obtain ⟨literal, -, hliteral⟩ := h.exists_value hother
    simp [hiff hvalue hliteral, hvalue, hliteral]
  rw [hvalues, h.values, List.pairwise_map]
  simp

theorem handlerKey_eq (h : dispatch.Switches property values) {member : UnionMember} {value : Json}
    (hvalue : member.discriminatorValue = some value) :
    dispatch.handlerKey member = Name.propertyKey value.plainText := by
  rw [handlerKey, h.isSwitchable, hvalue]

/-- A guard passes the objects whose property equals the value. -/
theorem passes_iff (h : dispatch.Switches property values) {member : UnionMember} {literal : Json}
    (hliteral : member.discriminatorValue = some literal) {value : Value} :
    dispatch.Passes member value ↔ (value.property property).equals literal = true := by
  have hchecks : dispatch.checks member =
      [.typeIs .whole "object", .notNull, .equals (.property property) literal] := by
    simp [checks, UnionMember.compared?, h.property, hliteral]
  rw [Passes, hchecks]
  refine ⟨fun hall => hall (.equals (.property property) literal) (by simp), fun hequals => ?_⟩
  obtain ⟨properties, rfl⟩ := Value.eq_object_of_equals hequals
  simp only [List.forall_mem_cons]
  exact ⟨rfl, rfl, hequals, List.forall_mem_nil _⟩

/-- The handlers of members with unequal values have keys of their own if and only if no value is a string that
spells another one. -/
theorem nodup_handlerKeys_iff (h : dispatch.Switches property values)
    (hwellformed : ∀ value ∈ values, value.Wellformed)
    (hunequal : values.Pairwise fun value other => value.equals other = false) :
    (dispatch.members.map dispatch.handlerKey).Nodup ↔
      values.Pairwise fun value other => ¬(value.SpelledBy other ∨ other.SpelledBy value) := by
  have hkeys : (dispatch.members.map dispatch.handlerKey).Nodup ↔
      values.Pairwise fun value other => ¬value.plainText = other.plainText := by
    rw [List.nodup_iff_pairwise_ne, List.pairwise_map]
    refine h.pairwise_members_iff fun hvalue hother => ?_
    rw [h.handlerKey_eq hvalue, h.handlerKey_eq hother, Name.propertyKey_injective.ne_iff]
  rw [hkeys]
  refine pairwise_iff_pairwise (hunequal.imp_of_mem fun hvalue hother hunequal => not_congr ?_)
  exact Json.plainText_eq_iff (hwellformed _ hvalue) (hwellformed _ hother) hunequal

/-- No value at run time equals two of the unequal values if and only if no two of them are one double. -/
theorem pairwise_literals_iff
    (hunequal : values.Pairwise fun value other => value.equals other = false) :
    (values.Pairwise fun value other => ¬∃ found : Value, found.equals value = true ∧ found.equals other = true) ↔
      values.Pairwise fun value other => ¬value.SameDouble other :=
  pairwise_iff_pairwise (hunequal.imp fun hunequal => not_congr (Value.exists_equals_both_iff hunequal))

/-- No value passes the guards of two members with unequal values if and only if no two of these are one
double. -/
theorem pairwise_guards_iff (h : dispatch.Switches property values)
    (hunequal : values.Pairwise fun value other => value.equals other = false) :
    (dispatch.members.Pairwise fun member other =>
      ¬∃ value, dispatch.Passes member value ∧ dispatch.Passes other value) ↔
      values.Pairwise fun value other => ¬value.SameDouble other := by
  rw [← pairwise_literals_iff hunequal]
  refine h.pairwise_members_iff fun hvalue hother => not_congr ?_
  simp only [h.passes_iff hvalue, h.passes_iff hother]
  constructor
  · rintro ⟨value, hboth⟩
    exact ⟨_, hboth⟩
  · rintro ⟨found, hboth⟩
    refine ⟨.object [(property, found)], ?_⟩
    rwa [Value.property_eq_of_lookup List.lookup_cons_self]

end Switches

end UnionDispatch

/-! ## Inferred values -/

namespace Discriminator

variable {raw : Json} {document : Document} {property : String}

/-- The value of a property stands in the schema of the member, or in the document. -/
theorem Pins.lists_or_holds (hdocument : Document.ofJson raw = .ok document) {member : Schema}
    {shape : ObjectShape Schema} {value : Json} (hshape : HasShape document member shape)
    (hpins : Pins document property shape value) : member.Lists value ∨ raw.Holds value := by
  obtain ⟨target, htarget, hobject⟩ := hshape
  obtain ⟨schema, reached, listed, hproperty, hreached, henum, hvalues⟩ := hpins
  have hchild : schema ∈ target.children := by
    obtain ⟨before, after, hproperties, -⟩ := List.lookup_eq_some_iff.mp hproperty
    simp [Schema.children, Schema.childrenOfKind, hobject, ObjectShape.schemas, hproperties]
  have hlists : reached.Lists value := ⟨reached, .refl _, listed, henum, by simp [hvalues]⟩
  rcases Schema.lists_of_resolveDeep? hdocument hreached hlists with h | h
  · exact Schema.lists_of_resolveDeep? hdocument htarget (h.of_child hchild)
  · exact Or.inr h

theorem TellsApart.wellformed {strict : Bool} {members : List Schema} {shapes : List (ObjectShape Schema)}
    {values : List Json} (h : TellsApart document strict property shapes values)
    (hshapes : List.Forall₂ (HasShape document) members shapes)
    (hdocument : Document.ofJson raw = .ok document) (hraw : raw.Wellformed)
    (hmembers : ∀ member ∈ members, ∀ value, member.Lists value → value.Wellformed) :
    ∀ value ∈ values, value.Wellformed := by
  intro value hvalue
  obtain ⟨index, hindex, rfl⟩ := List.mem_iff_getElem.mp hvalue
  have hlength := h.pinned.length_eq
  have hpins := h.pinned.get (i := index) (by omega) hindex
  have hshape := hshapes.get (i := index) (by rw [hshapes.length_eq]; omega) (by omega)
  rcases hpins.lists_or_holds hdocument hshape with hlists | hholds
  · exact hmembers _ (List.get_mem _ _) _ hlists
  · exact hraw.of_holds hholds

end Discriminator

/-! ## Unions -/

theorem Lowering.mem_children_of_mem_unionMembersOf {schema member : Schema}
    (h : member ∈ unionMembersOf schema) : member ∈ schema.children := by
  obtain ⟨kind, info⟩ := schema
  cases kind with
  | oneOf members | anyOf members => exact h
  | _ => cases h

/-- A discriminator that is not given tells the members apart. -/
theorem Lowering.tellsApart_of_discriminatorOf? {document : Document} {options : Options} {schema : Schema}
    {found : ResolvedDiscriminator} (hgiven : schema.info.discriminator = none)
    (hfound : discriminatorOf? document options schema = some found) :
    unionMembersOf schema ≠ [] ∧ ∃ shapes values,
      List.Forall₂ (Discriminator.HasShape document) (unionMembersOf schema) shapes ∧
      Discriminator.TellsApart document options.unions.strictDiscrimination found.property shapes values ∧
      found.values = values.map some := by
  have hinfer : Discriminator.infer? document (unionMembersOf schema)
      options.unions.strictDiscrimination = some found := by
    simp only [discriminatorOf?, hgiven] at hfound
    split at hfound
    · exact hfound
    · cases hfound
  obtain ⟨hmany, first, rest, hshapes, before, after, values, -, hapart, hvalues, -⟩ :=
    Discriminator.infer?_eq_some_iff.mp hinfer
  refine ⟨fun hnil => ?_, first :: rest, values, hshapes, hapart, hvalues⟩
  rw [hnil] at hmany
  cases hmany

namespace LoweredUnion.StandsInOrder

variable {document : Document} {options : Options} {name : String} {schema : Schema} {result : LoweredUnion}
  {found : ResolvedDiscriminator} {values : List Json}

/-- Members of which each has a value are switched on. -/
theorem switches (h : result.StandsInOrder document options name schema) (hmembers : result.members ≠ [])
    (hfound : discriminatorOf? document options schema = some found) (hvalues : found.values = values.map some)
    (hlength : result.members.length = values.length) :
    (result.dispatch document options).Switches found.property values := by
  have hall : result.members.map (·.discriminatorValue) = values.map some := by
    refine List.ext_getElem (by simpa using hlength) fun index hindex hindex' => ?_
    have hmember : index < result.members.length := by simpa using hindex
    have hvalue := (h.members index _ (List.getElem?_eq_getElem hmember)).value
    rw [hfound, Option.bind_some, hvalues, List.getElem?_eq_getElem hindex'] at hvalue
    simpa using hvalue
  refine ⟨?_, hall⟩
  show result.discriminator = some found.property
  rw [h.discriminator hmembers, hfound]
  rfl

end LoweredUnion.StandsInOrder

namespace Context

/-- Where a discriminator is inferred, no two values are equal as data, and the match and the fold go by them.
The handlers have keys of their own if and only if no value is a string that spells another one, and the cases of
the switch and the guards are for values of their own if and only if no two values are numbers that are one
double. -/
theorem inferred_members_apart_iff {raw : Json} {context : Context} {name : String} {schema : Schema}
    {result : LoweredUnion} {found : ResolvedDiscriminator}
    (hdocument : Document.ofJson raw = .ok context.document) (hraw : raw.Wellformed)
    (hschema : ∀ value, schema.Lists value → value.Wellformed)
    (hgiven : schema.info.discriminator = none)
    (hfound : discriminatorOf? context.document context.options schema = some found)
    (hrun : (context.run (lowerUnion name schema)).1 = .ok result)
    (hon : context.options.unions.generateHelpers = true) :
    let dispatch := result.dispatch context.document context.options
    ∃ values : List Json, found.values = values.map some ∧
      values.Pairwise (fun value other => value.equals other = false) ∧
      dispatch.Switches found.property values ∧
      (dispatch.matcher ∈ result.functions ∧ dispatch.folder ∈ result.functions ∧
        dispatch.matchBody = dispatch.switchBody found.property) ∧
      ((result.members.map dispatch.handlerKey).Nodup ↔
        values.Pairwise fun value other => ¬(value.SpelledBy other ∨ other.SpelledBy value)) ∧
      ((values.Pairwise fun value other =>
        ¬∃ runtime : Value, runtime.equals value = true ∧ runtime.equals other = true) ↔
        values.Pairwise fun value other => ¬value.SameDouble other) ∧
      ((result.members.Pairwise fun member other =>
        ¬∃ runtime, dispatch.Passes member runtime ∧ dispatch.Passes other runtime) ↔
        values.Pairwise fun value other => ¬value.SameDouble other) := by
  intro dispatch
  obtain ⟨hnonempty, shapes, values, hshapes, hapart, hvalues⟩ := tellsApart_of_discriminatorOf? hgiven hfound
  have hinorder := standsInOrder_of_run hrun
  have hstands : result.Stands context.document context.options schema := by
    rw [run_eq] at hrun
    exact (stands_lowerUnion name hnonempty context.setting context.store ⟨rfl, rfl⟩).2 result hrun
  have hlength : result.members.length = values.length := by
    rw [← List.length_map (·.schema), hstands.schemas, hshapes.length_eq, hapart.pinned.length_eq]
  have hmembers : result.members ≠ [] := by
    intro hnil
    have hschemas := hstands.schemas
    rw [hnil] at hschemas
    exact hnonempty hschemas.symm
  have hswitches : dispatch.Switches found.property values :=
    hinorder.switches hmembers hfound hvalues hlength
  have hwellformed : ∀ value ∈ values, value.Wellformed := by
    refine hapart.wellformed hshapes hdocument hraw fun member hmember value hlists => ?_
    exact hschema value (hlists.of_child (mem_children_of_mem_unionMembersOf hmember))
  have hfunctions : result.functions = dispatch.functions context.options.unions := hstands.functions
  refine ⟨values, hvalues, hapart.unequal, hswitches, ⟨?_, ?_, hswitches.matchBody⟩,
    hswitches.nodup_handlerKeys_iff hwellformed hapart.unequal,
    UnionDispatch.Switches.pairwise_literals_iff hapart.unequal, hswitches.pairwise_guards_iff hapart.unequal⟩
  · simp [hfunctions, UnionDispatch.functions, hon]
  · simp [hfunctions, UnionDispatch.functions, hon]

/-- A union of members that hold a property to one of the values each. -/
def unionHolding (values : List Json) : Json :=
  .obj [("oneOf", .arr (values.map fun value => .obj [("properties", .obj [("v", .obj [("const", value)])])]))]

/-- What it is read as. -/
def schemaHolding (values : List Json) : Schema where
  kind := .oneOf (values.map fun value => ⟨.object
    { properties := [("v", ⟨.enum { values := [value], descriptions := [none] }, {}⟩)] }, {}⟩)

/-- The number `1`, the double `1.0` and the text of the number. -/
def ones : List Json := [.int 1, .float (Binary64.ofInt 1), .str "1"]

theorem wellformed_obj_singleton {key : String} {value : Json} (h : value.Wellformed) :
    (Json.obj [(key, value)]).Wellformed := by
  refine .obj (by simp) fun member hmember => ?_
  obtain rfl := List.mem_singleton.mp hmember
  exact h

theorem wellformed_unionHolding {values : List Json} (h : ∀ value ∈ values, value.Wellformed) :
    (unionHolding values).Wellformed := by
  refine wellformed_obj_singleton (.arr fun member hmember => ?_)
  obtain ⟨value, hvalue, rfl⟩ := List.mem_map.mp hmember
  exact wellformed_obj_singleton (wellformed_obj_singleton (wellformed_obj_singleton (h value hvalue)))

/-- In a union of members that hold a property to these, the first two guards pass one value, and the handlers
of the first and the last member have one key. -/
theorem inferred_members_meet_of_ones : ∃ document union found result,
    Document.ofJson (.obj [("$defs", .obj [("Num", unionHolding ones)])]) = .ok document ∧
    document.raw.Wellformed ∧ document.named = [union] ∧
    (∀ value, union.schema.Lists value → value.Wellformed) ∧
    union.schema.info.discriminator = none ∧ discriminatorOf? document {} union.schema = some found ∧
    ((fresh document {}).run (lowerUnion union.name union.schema)).1 = .ok result ∧
    ({} : Options).unions.generateHelpers = true ∧
    ¬(result.members.map (result.dispatch document {}).handlerKey).Nodup ∧
    ¬result.members.Pairwise fun member other => ¬∃ runtime,
      (result.dispatch document {}).Passes member runtime ∧
        (result.dispatch document {}).Passes other runtime := by
  let document : Document := ⟨.obj [("$defs", .obj [("Num", unionHolding ones)])],
    [⟨"Num", "#/$defs/Num", schemaHolding ones⟩], []⟩
  have hdocument : Document.ofJson document.raw = .ok document := rfl
  have hones : ∀ value ∈ ones, value.Wellformed := by
    simp only [ones, List.forall_mem_cons]
    exact ⟨.int 1, .float (Binary64.canonical_ofInt 1), .str "1", nofun⟩
  have hraw : document.raw.Wellformed :=
    wellformed_obj_singleton (wellformed_obj_singleton (wellformed_unionHolding hones))
  have hschema : ∀ value, (schemaHolding ones).Lists value → value.Wellformed := fun value hvalue =>
    (wellformed_unionHolding hones).of_holds (Schema.lists_of_ofJson rfl hvalue)
  have hfound : discriminatorOf? document {} (schemaHolding ones) = some ⟨"v", ones.map some⟩ := rfl
  have hrun : ((fresh document {}).run (lowerUnion "Num" (schemaHolding ones))).1.toOption.any
      (·.discriminator == some "v") = true := by
    decide +kernel
  obtain ⟨result, hresult, -⟩ := Decode.exists_ok_of_any hrun
  obtain ⟨values, hvalues, -, -, -, hkeys, -, hguards⟩ :=
    inferred_members_apart_iff hdocument hraw hschema rfl hfound hresult rfl
  obtain rfl : ones = values := List.map_injective_iff.mpr (Option.some_injective _) hvalues
  refine ⟨document, _, _, result, hdocument, hraw, rfl, hschema, rfl, hfound, hresult, rfl,
    fun hdistinct => ?_, fun hguarded => ?_⟩
  · have hspelled := (List.pairwise_cons.mp (hkeys.mp hdistinct)).1 (.str "1") (by simp)
    exact hspelled (Or.inr ⟨rfl, rfl⟩)
  · have hdoubles := (List.pairwise_cons.mp (hguards.mp hguarded)).1 (.float (Binary64.ofInt 1)) (by simp)
    exact hdoubles ⟨_, _, rfl, rfl, Binary64.numEq_self _⟩

end Context

end SchemaTypings
