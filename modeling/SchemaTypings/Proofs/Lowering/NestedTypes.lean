import Mathlib.Data.List.Infix
import SchemaTypings.Proofs.Lowering.WrittenTypes
import SchemaTypings.Proofs.Typing.Balanced
import SchemaTypings.Proofs.Typing.Trees

/-!
# Types within types

The text of a type holds the texts of the types of the schemas within (`Writes.within`), and is balanced if the
references stand under identifiers (`Writes.balanced`). What is quoted in it are the strings and keys of
enumerated values, and the names of properties that are no identifiers (`Schema.Quotes`). Both follow the
schema, from what each kind of schema is written as.
-/

namespace SchemaTypings

open Typing

/-! ## Texts within texts -/

namespace Typing

/-- The part stands somewhere in the text. -/
def Within (part text : String) : Prop :=
  part.toList <:+: text.toList

namespace Within

variable {part text type : String} {parts : List String}

theorem refl (text : String) : Within text text :=
  List.infix_rfl

theorem trans {other : String} (h : Within part text) (h' : Within text other) : Within part other :=
  List.IsInfix.trans h h'

theorem before (text after : String) : Within text (text ++ after) := by
  rw [Within, String.toList_append]
  exact (List.prefix_append _ _).isInfix

theorem after (before text : String) : Within text (before ++ text) := by
  rw [Within, String.toList_append]
  exact (List.suffix_append _ _).isInfix

theorem between (before text after : String) : Within text (before ++ text ++ after) :=
  (Within.after before text).trans (Within.before _ after)

theorem intercalate {separator : String} (h : part ∈ parts) :
    Within part (String.intercalate separator parts) := by
  induction parts with
  | nil => cases h
  | cons first rest ih =>
    cases rest with
    | nil =>
      rw [List.mem_singleton.mp h]
      exact refl first
    | cons second others =>
      rw [String.intercalate_cons_cons]
      rcases List.mem_cons.mp h with rfl | h
      · exact (before part separator).trans (before _ _)
      · exact (ih h).trans (after _ _)

theorem union (h : part ∈ parts) : Within part (union parts) :=
  intercalate (List.mem_eraseDups.mpr h)

theorem parenthesize (type : String) : Within type (parenthesize type) := by
  unfold Typing.parenthesize
  split
  · exact between "(" type ")"
  · exact refl type

theorem intersectionPart (part : String) : Within part (intersectionPart part) := by
  unfold Typing.intersectionPart
  split
  · exact parenthesize part
  · exact refl part

theorem intersection (h : part ∈ parts) : Within part (intersection parts) := by
  unfold Typing.intersection
  split
  · rw [List.mem_singleton.mp h]
    exact refl _
  · exact (intersectionPart part).trans (intercalate (List.mem_map_of_mem h))

theorem arrayOf (options : Options) (element : String) : Within element (arrayOf options element) := by
  unfold Typing.arrayOf
  split
  · exact between "Array<" element ">"
  · exact (parenthesize element).trans (before _ "[]")

theorem indexSignatureText (type : String) : Within type (indexSignatureText type) :=
  after "[key: string]: " type

theorem mapOf (options : Options) (type : String) : Within type (mapOf options type) := by
  unfold Typing.mapOf
  split
  · exact between "Record<string, " type ">"
  · exact (indexSignatureText type).trans (between "\x7b " _ " \x7d")

theorem signatureText (name type : String) (required readonly : Bool) :
    Within type (Property.signatureText true name type required readonly) := by
  cases required <;> exact after _ type

theorem objectText (h : part ∈ parts) : Within part (objectText parts) :=
  (intercalate h).trans (between "\x7b " _ " \x7d")

theorem makeNullable (options : Options) (type : String) : Within type (makeNullable options type) := by
  unfold Typing.makeNullable
  dsimp only
  split_ifs
  · exact refl type
  · exact refl type
  · exact (before type " | ").trans (before _ _)

end Within

end Typing

/-! ## Quoted texts -/

/-- The text stands quoted in the type of the schema. -/
inductive Schema.Quotes (text : String) : Schema → Prop
  | literal {shape : EnumShape} {info : SchemaInfo} {value : Json} (hvalue : value ∈ shape.values)
    (h : value.Quotes text) : Quotes text ⟨.enum shape, info⟩
  | key {shape : ObjectShape Schema} {info : SchemaInfo} {property : String × Schema}
    (hproperty : property ∈ shape.properties) (hname : property.1 = text)
    (hquoted : Name.isIdentifier text = false) : Quotes text ⟨.object shape, info⟩
  | child {schema child : Schema} (hchild : child ∈ schema.children) (h : Quotes text child) :
    Quotes text schema

namespace Lowering

variable {options : Options} {names : String → String → Prop} {text base : String} {info : SchemaInfo}
  {kind : SchemaKind Schema} {format : Option String}

/-! ## What each kind is written as -/

/-- The type of a schema is written as that of its kind, which may be made nullable. -/
theorem exists_written_base (h : Writes options names ⟨kind, info⟩ text) :
    ∃ base, (kindTree options info.format kind).WrittenAs options names base ∧
      (text = base ∨ text = makeNullable options base) := by
  have hnullable : (if info.nullable then TypeTree.nullable (kindTree options info.format kind)
      else kindTree options info.format kind).WrittenAs options names text →
      ∃ base, (kindTree options info.format kind).WrittenAs options names base ∧
        (text = base ∨ text = makeNullable options base) := by
    intro hwritten
    split at hwritten
    · cases hwritten with
      | nullable hbase => exact ⟨_, hbase, Or.inr rfl⟩
    · exact ⟨text, hwritten, Or.inl rfl⟩
  cases kind with
  | ref target => exact ⟨text, h, Or.inl rfl⟩
  | _ => exact hnullable h

theorem memberTrees_eq_map (members : List Schema) :
    memberTrees options members = members.map (typeTree options) := by
  induction members with
  | nil => rfl
  | cons member rest ih => rw [memberTrees, ih, List.map_cons]

theorem written_union {members : List Schema} (hmembers : members ≠ [])
    (hkind : kind = .oneOf members ∨ kind = .anyOf members)
    (h : (kindTree options format kind).WrittenAs options names base) :
    ∃ texts, List.Forall₂ (Writes options names) members texts ∧ base = union texts := by
  have htree : kindTree options format kind = .union (members.map (typeTree options)) := by
    rcases hkind with rfl | rfl <;>
      rw [kindTree, if_neg (by simpa using hmembers), memberTrees_eq_map]
  rw [htree] at h
  cases h with
  | union hparts =>
    rw [List.forall₂_map_left_iff] at hparts
    exact ⟨_, hparts, rfl⟩

theorem written_intersection {members : List Schema} (hmembers : members ≠ [])
    (h : (kindTree options format (.allOf members)).WrittenAs options names base) :
    ∃ texts, List.Forall₂ (Writes options names) members texts ∧ base = intersection texts := by
  rw [kindTree, if_neg (by simpa using hmembers), memberTrees_eq_map] at h
  cases h with
  | intersection hparts =>
    rw [List.forall₂_map_left_iff] at hparts
    exact ⟨_, hparts, rfl⟩

theorem written_array {items : Schema}
    (h : (kindTree options format (.array items)).WrittenAs options names base) :
    ∃ element, Writes options names items element ∧ base = arrayOf options element := by
  rw [kindTree] at h
  cases h with
  | array hitems => exact ⟨_, hitems, rfl⟩

/-- The signature of a property within an object type, which is written with the type of its schema. -/
def Signs (options : Options) (names : String → String → Prop) (property : String × Schema)
    (signature : String) : Prop :=
  ∃ type required readonly, Writes options names property.2 type ∧
    (signature = Property.signatureText true property.1 type required readonly ∨
      signature = Property.signatureText true property.1 (union [type, absentType]) required readonly)

theorem signs_fieldOf {property : String × Schema} {required : Bool}
    (h : (fieldOf options required property.1 property.2.info (typeTree options property.2)).type.WrittenAs
      options names text) :
    Signs options names property ((fieldOf options required property.1 property.2.info
      (typeTree options property.2)).signature text) := by
  unfold fieldOf at h ⊢
  cases required with
  | true => exact ⟨text, _, _, h, Or.inl rfl⟩
  | false =>
    cases hmarkers : options.optionalMarkers with
    | true =>
      rw [hmarkers] at h
      exact ⟨text, _, _, h, Or.inl rfl⟩
    | false =>
      rw [hmarkers] at h
      cases h with
      | union hparts =>
        obtain ⟨type, _, htype, habsent, rfl⟩ := List.forall₂_cons_left_iff.mp hparts
        obtain ⟨_, _, hundefined, hnil, rfl⟩ := List.forall₂_cons_left_iff.mp habsent
        cases hundefined
        obtain rfl := List.forall₂_nil_left_iff.mp hnil
        exact ⟨type, _, _, htype, Or.inr rfl⟩

theorem forall₂_signs {required : List String} {properties : List (String × Schema)} {texts : List String}
    (h : List.Forall₂ (TypeTree.WrittenAs options names)
      ((fieldTrees options required properties).map (·.type)) texts) :
    List.Forall₂ (Signs options names) properties
      (List.zipWith FieldTree.signature (fieldTrees options required properties) texts) := by
  induction properties generalizing texts with
  | nil => exact .nil
  | cons property rest ih =>
    rw [fieldTrees, List.map_cons] at h
    obtain ⟨text, others, htext, hothers, rfl⟩ := List.forall₂_cons_left_iff.mp h
    exact .cons (signs_fieldOf htext) (ih hothers)

/-- The type of what stands under arbitrary keys is written with the schema for it, if there is one. -/
def Indexes (options : Options) (names : String → String → Prop) (additional : Additional Schema)
    (type : String) : Prop :=
  (additional.schemas = [] ∧ (type = topType ∨ type = bottomType)) ∨
    ∃ schema, additional.schemas = [schema] ∧ Writes options names schema type

theorem indexes_indexTree {propertyless : Bool} {additional : Additional Schema} {index : TypeTree}
    (hindex : indexTree options propertyless additional = some index)
    (h : index.WrittenAs options names text) : Indexes options names additional text := by
  cases additional with
  | opened =>
    cases hindex
    cases h
    exact Or.inl ⟨rfl, Or.inl rfl⟩
  | schema value =>
    cases hindex
    exact Or.inr ⟨value, rfl, h⟩
  | closed =>
    cases propertyless <;> cases hindex
    cases h
    exact Or.inl ⟨rfl, Or.inr rfl⟩
  | unspecified =>
    cases propertyless <;> cases hindex
    cases h
    exact Or.inl ⟨rfl, Or.inl rfl⟩

theorem schemas_of_indexTree_eq_none {propertyless : Bool} {additional : Additional Schema}
    (h : indexTree options propertyless additional = none) : additional.schemas = [] := by
  cases additional with
  | schema value => cases h
  | _ => rfl

/-- An object type is written with the signatures of its properties and one for arbitrary keys, or, without
properties, as a type of arbitrary keys. -/
theorem written_object_cases {shape : ObjectShape Schema}
    (h : (kindTree options format (.object shape)).WrittenAs options names base) :
    (shape.properties = [] ∧ ∃ type, Indexes options names shape.additional type ∧
      base = mapOf options type) ∨
    ∃ signatures index, List.Forall₂ (Signs options names) shape.properties signatures ∧
      (index = [] ∧ shape.additional.schemas = [] ∨
        ∃ type, Indexes options names shape.additional type ∧ index = [indexSignatureText type]) ∧
      base = objectText (signatures ++ index) := by
  obtain ⟨properties, required, additional⟩ := shape
  rw [kindTree] at h
  generalize hfields : fieldTrees options required properties = fields at h
  generalize hindex : indexTree options properties.isEmpty additional = index at h
  cases h with
  | map hvalue =>
    refine Or.inl ⟨?_, _, indexes_indexTree hindex hvalue, rfl⟩
    rw [fieldTrees_eq_map] at hfields
    exact List.map_eq_nil_iff.mp hfields
  | closed _ htexts =>
    refine Or.inr ⟨_, [], forall₂_signs (hfields ▸ htexts), ?_, ?_⟩
    · exact Or.inl ⟨rfl, schemas_of_indexTree_eq_none hindex⟩
    · rw [hfields, List.append_nil]
  | @opened _ texts _ text _ htexts hvalue =>
    refine Or.inr ⟨_, [indexSignatureText text], forall₂_signs (hfields ▸ htexts), ?_, ?_⟩
    · exact Or.inr ⟨text, indexes_indexTree hindex hvalue, rfl⟩
    · rw [hfields]

theorem written_enum {shape : EnumShape} (hvalues : shape.values ≠ [])
    (h : (kindTree options format (.enum shape)).WrittenAs options names base) :
    base = union (shape.values.map Json.literal) := by
  rw [kindTree, if_neg (by simpa using hvalues)] at h
  cases h with
  | union hparts =>
    rw [List.forall₂_map_left_iff] at hparts
    have hliterals : ∀ {values : List Json} {texts : List String},
        List.Forall₂ (fun value => (TypeTree.literal value).WrittenAs options names) values texts →
          texts = values.map Json.literal := by
      intro values texts htexts
      induction htexts with
      | nil => rfl
      | cons hvalue _ ih =>
        cases hvalue
        rw [ih, List.map_cons]
    rw [hliterals hparts]

/-! ## Balanced types -/

section

variable {quotes : String → Prop}

theorem balanced_texts {schemas : List Schema} {texts : List String}
    (h : List.Forall₂ (Writes options names) schemas texts)
    (hschemas : ∀ schema ∈ schemas, ∀ type, Writes options names schema type → Balanced quotes type) :
    ∀ type ∈ texts, Balanced quotes type := by
  intro type htype
  obtain ⟨schema, hschema, hwrites⟩ := exists_left_of_forall₂ h htype
  exact hschemas schema hschema type hwrites

theorem balanced_topType : Balanced quotes topType :=
  .of_isIdentifier (by decide)

theorem balanced_bottomType : Balanced quotes bottomType :=
  .of_isIdentifier (by decide)

theorem balanced_primitive {type : Primitive}
    (h : (primitiveTree options format type).WrittenAs options names base) : Balanced quotes base := by
  cases type with
  | string =>
    rw [primitiveTree] at h
    split at h <;> cases h <;> exact .of_isIdentifier (by decide)
  | _ =>
    cases h
    exact .of_isIdentifier (by decide)

theorem balanced_indexes {additional : Additional Schema} {type : String}
    (h : Indexes options names additional type)
    (hschemas : ∀ schema ∈ additional.schemas, ∀ type, Writes options names schema type →
      Balanced quotes type) : Balanced quotes type := by
  rcases h with ⟨-, rfl | rfl⟩ | ⟨schema, hschema, hwrites⟩
  · exact balanced_topType
  · exact balanced_bottomType
  · exact hschemas schema (by simp [hschema]) type hwrites

theorem balanced_signs {property : String × Schema} {signature : String}
    (h : Signs options names property signature)
    (hname : Name.isIdentifier property.1 = false → quotes property.1)
    (hschema : ∀ type, Writes options names property.2 type → Balanced quotes type) :
    Balanced quotes signature := by
  obtain ⟨type, required, readonly, hwrites, hsignature⟩ := h
  have htype := hschema type hwrites
  rcases hsignature with rfl | rfl
  · exact balanced_signatureText true required readonly hname htype
  · refine balanced_signatureText true required readonly hname (balanced_union ?_)
    simpa using ⟨htype, .of_isIdentifier (by decide)⟩

theorem balanced_object {shape : ObjectShape Schema}
    (h : (kindTree options format (.object shape)).WrittenAs options names base)
    (hkeys : ∀ property ∈ shape.properties, Name.isIdentifier property.1 = false → quotes property.1)
    (hschemas : ∀ schema ∈ shape.schemas, ∀ type, Writes options names schema type →
      Balanced quotes type) : Balanced quotes base := by
  have hindexes : ∀ type, Indexes options names shape.additional type → Balanced quotes type := by
    intro type htype
    exact balanced_indexes htype fun schema hschema => hschemas schema (List.mem_append_right _ hschema)
  rcases written_object_cases h with ⟨-, type, htype, rfl⟩ | ⟨signatures, index, hsigns, hindex, rfl⟩
  · exact balanced_mapOf options (hindexes type htype)
  · refine balanced_braces (.intercalate (.of_bare (by decide)) fun member hmember => ?_)
    rcases List.mem_append.mp hmember with hmember | hmember
    · obtain ⟨property, hproperty, hsign⟩ := exists_left_of_forall₂ hsigns hmember
      exact balanced_signs hsign (hkeys property hproperty) fun type =>
        hschemas property.2 (List.mem_append_left _ (List.mem_map_of_mem hproperty)) type
    · rcases hindex with ⟨rfl, -⟩ | ⟨type, htype, rfl⟩
      · cases hmember
      · rw [List.mem_singleton.mp hmember]
        exact balanced_indexSignatureText (hindexes type htype)

end

/-- A type expression is balanced, and quotes what the schema says. -/
theorem Writes.balanced {schema : Schema} (hnames : ∀ reference name, names reference name →
      Name.isIdentifier name = true) (h : Writes options names schema text) :
    Balanced (Schema.Quotes · schema) text := by
  induction schema using Schema.inductionOn generalizing text with
  | step schema ih =>
    obtain ⟨kind, info⟩ := schema
    obtain ⟨base, hbase, htext⟩ := exists_written_base h
    have hchildren : ∀ child ∈ Schema.childrenOfKind kind, ∀ type, Writes options names child type →
        Balanced (Schema.Quotes · ⟨kind, info⟩) type := by
      intro child hchild type htype
      exact (ih child hchild htype).mono fun _ => .child hchild
    have hkind : Balanced (Schema.Quotes · ⟨kind, info⟩) base := by
      cases kind with
      | any =>
        cases hbase
        exact balanced_topType
      | ref target =>
        cases hbase with
        | reference hname => exact .of_isIdentifier (hnames _ _ hname)
      | oneOf members | anyOf members =>
        by_cases hmembers : members = []
        · subst hmembers
          cases hbase
          exact balanced_bottomType
        · obtain ⟨texts, htexts, rfl⟩ := written_union hmembers (by simp) hbase
          exact balanced_union (balanced_texts htexts hchildren)
      | allOf members =>
        by_cases hmembers : members = []
        · subst hmembers
          cases hbase
          exact balanced_topType
        · obtain ⟨texts, htexts, rfl⟩ := written_intersection hmembers hbase
          exact balanced_intersection (balanced_texts htexts hchildren)
      | array items =>
        obtain ⟨element, helement, rfl⟩ := written_array hbase
        exact balanced_arrayOf options (hchildren items (by simp [Schema.childrenOfKind]) element helement)
      | object shape =>
        exact balanced_object hbase (fun property hproperty => .key hproperty rfl) hchildren
      | enum shape =>
        by_cases hvalues : shape.values = []
        · rw [kindTree, hvalues] at hbase
          cases hbase
          exact balanced_bottomType
        · obtain rfl := written_enum hvalues hbase
          refine balanced_union fun literal hliteral => ?_
          obtain ⟨value, hvalue, rfl⟩ := List.mem_map.mp hliteral
          exact (balanced_compact value).mono fun _ => .literal hvalue
      | primitive type => exact balanced_primitive hbase
    rcases htext with rfl | rfl
    · exact hkind
    · exact balanced_makeNullable options hkind

/-! ## Types within -/

theorem Indexes.writes {additional : Additional Schema} {type : String} {schema : Schema}
    (h : Indexes options names additional type) (hschema : schema ∈ additional.schemas) :
    Writes options names schema type := by
  rcases h with ⟨hnone, -⟩ | ⟨other, hother, hwrites⟩
  · rw [hnone] at hschema
    cases hschema
  · rw [hother] at hschema
    exact List.mem_singleton.mp hschema ▸ hwrites

theorem Signs.within {property : String × Schema} {signature : String}
    (h : Signs options names property signature) :
    ∃ type, Writes options names property.2 type ∧ Within type signature := by
  obtain ⟨type, required, readonly, hwrites, rfl | rfl⟩ := h
  · exact ⟨type, hwrites, .signatureText property.1 type required readonly⟩
  · have hunion : Within type (union [type, absentType]) := .union List.mem_cons_self
    exact ⟨type, hwrites, hunion.trans (.signatureText property.1 _ required readonly)⟩

theorem child_object {shape : ObjectShape Schema} {child : Schema}
    (h : (kindTree options format (.object shape)).WrittenAs options names base)
    (hchild : child ∈ shape.schemas) : ∃ type, Writes options names child type ∧ Within type base := by
  rcases written_object_cases h with ⟨hnone, type, htype, rfl⟩ | ⟨signatures, index, hsigns, hindex, rfl⟩
  · have hadditional : child ∈ shape.additional.schemas := by
      rw [ObjectShape.schemas, hnone] at hchild
      exact hchild
    exact ⟨type, htype.writes hadditional, .mapOf options type⟩
  · rcases List.mem_append.mp hchild with hproperty | hadditional
    · obtain ⟨property, hmem, rfl⟩ := List.mem_map.mp hproperty
      obtain ⟨signature, hsignature, hsign⟩ := exists_right_of_forall₂ hsigns hmem
      obtain ⟨type, hwrites, hwithin⟩ := hsign.within
      exact ⟨type, hwrites, hwithin.trans (.objectText (List.mem_append_left _ hsignature))⟩
    · rcases hindex with ⟨-, hnone⟩ | ⟨type, htype, rfl⟩
      · rw [hnone] at hadditional
        cases hadditional
      · refine ⟨type, htype.writes hadditional, (Within.indexSignatureText type).trans ?_⟩
        exact .objectText (List.mem_append_right _ List.mem_cons_self)

/-- The text of a type holds that of its kind. -/
theorem exists_within_base (h : Writes options names ⟨kind, info⟩ text) :
    ∃ base, (kindTree options info.format kind).WrittenAs options names base ∧ Within base text := by
  obtain ⟨base, hbase, rfl | rfl⟩ := exists_written_base h
  · exact ⟨_, hbase, .refl _⟩
  · exact ⟨base, hbase, .makeNullable options base⟩

/-- The text of a type holds that of every schema right below. -/
theorem Writes.child {schema child : Schema} (h : Writes options names schema text)
    (hchild : child ∈ schema.children) : ∃ type, Writes options names child type ∧ Within type text := by
  obtain ⟨kind, info⟩ := schema
  obtain ⟨base, hbase, hbaseText⟩ := exists_within_base h
  have hkind : ∃ type, Writes options names child type ∧ Within type base := by
    cases kind with
    | oneOf members | anyOf members =>
      have hmembers : members ≠ [] := List.ne_nil_of_mem hchild
      obtain ⟨texts, htexts, rfl⟩ := written_union hmembers (by simp) hbase
      obtain ⟨type, htype, hwrites⟩ := exists_right_of_forall₂ htexts hchild
      exact ⟨type, hwrites, .union htype⟩
    | allOf members =>
      have hmembers : members ≠ [] := List.ne_nil_of_mem hchild
      obtain ⟨texts, htexts, rfl⟩ := written_intersection hmembers hbase
      obtain ⟨type, htype, hwrites⟩ := exists_right_of_forall₂ htexts hchild
      exact ⟨type, hwrites, .intersection htype⟩
    | array items =>
      obtain ⟨element, helement, rfl⟩ := written_array hbase
      obtain rfl := List.mem_singleton.mp hchild
      exact ⟨element, helement, .arrayOf options element⟩
    | object shape => exact child_object hbase hchild
    | _ => cases hchild
  obtain ⟨type, hwrites, hwithin⟩ := hkind
  exact ⟨type, hwrites, hwithin.trans hbaseText⟩

/-- The text of a type holds those of the schemas within. -/
theorem Writes.within {schema other : Schema} (h : Writes options names schema text)
    (hcontains : schema.Contains other) : ∃ type, Writes options names other type ∧ Within type text := by
  induction hcontains generalizing text with
  | refl schema => exact ⟨text, h, .refl text⟩
  | step hchild _ ih =>
    obtain ⟨inner, hinner, hwithin⟩ := h.child hchild
    obtain ⟨type, hwrites, htype⟩ := ih hinner
    exact ⟨type, hwrites, htype.trans hwithin⟩

end Lowering

end SchemaTypings
