import SchemaTypings.Proofs.Lowering.EnsuredCompositions
import SchemaTypings.Proofs.Lowering.ObjectForms
import SchemaTypings.Proofs.Typing.Complete

/-!
# Validators of objects

A schema may declare many objects under names of their own: itself, members of unions, and what it is composed
of, at any depth (`ownObjects`). If validators are asked for, each of them that is declared as an interface and
has rules comes with its validator, which checks each rule of each property in order
(`Context.interfaces_validated`). A nullable object that is composed is declared as an alias, which has none;
and an object in a union has no rules for the property that is pinned
(`Context.validator_missing_of_null_or_pin`).
-/

namespace SchemaTypings

open LowerM Lowering Typing

/-! ## Objects with names of their own -/

/-- An object that is declared under a name of its own. -/
structure OwnObject where
  shape : ObjectShape Schema
  info : SchemaInfo
  isComposed : Bool

namespace OwnObject

/-- Whether the object is declared as an interface. One without properties may be a map instead, and one that
admits null is an alias where it is composed. -/
def isInterface (object : OwnObject) : Bool :=
  !object.shape.properties.isEmpty && !(object.isComposed && object.info.nullable)

/-- How a validator comes to the value of a property. -/
def access (name : String) : String :=
  if Name.isIdentifier name then "value." ++ name else "value[" ++ quoted name ++ "]"

/-- What a validator asks of the value of a property, and what it says otherwise: one condition for each
constraint that can be checked. -/
def conditions (name : String) (constraints : Constraints) : List (String × String) :=
  (constraints.minLength.map fun n => (access name ++ ".length >= " ++ (Json.int n).compact,
      s!"{name} must be at least {n} characters")).toList
    ++ (constraints.maxLength.map fun n => (access name ++ ".length <= " ++ (Json.int n).compact,
      s!"{name} must be at most {n} characters")).toList
    ++ (constraints.minimum.map fun x => (access name ++ " >= " ++ (Json.float x).compact,
      s!"{name} must be greater than or equal to {boundText x}")).toList
    ++ (constraints.maximum.map fun x => (access name ++ " <= " ++ (Json.float x).compact,
      s!"{name} must be less than or equal to {boundText x}")).toList
    ++ (constraints.pattern.map fun p => ("new RegExp(" ++ quoted p ++ ").test(" ++ access name ++ ")",
      s!"{name} must match pattern {p}")).toList
    ++ if constraints.format = some "email" then
        [("/^[^\\s@]+@[^\\s@]+\\.[^\\s@]+$/" ++ ".test(" ++ access name ++ ")",
          s!"{name} must be a valid email address")]
      else if constraints.format = some "uri" ∨ constraints.format = some "url" then
        [("/^[a-zA-Z][a-zA-Z\\d+.-]*:\\/\\/[^\\s]+$/" ++ ".test(" ++ access name ++ ")",
          s!"{name} must be a valid URL")]
      else []

def hasRules (object : OwnObject) : Bool :=
  object.shape.properties.any fun property => !(conditions property.1 property.2.info.constraints).isEmpty

/-- Whether a property is described as nullable. A reference is not, unless it is composed. -/
def admitsNull (object : OwnObject) (schema : Schema) : Bool :=
  schema.info.nullable && (object.isComposed || match schema.kind with
    | .ref _ => false
    | _ => true)

/-- The checks of the conditions on the properties, in order. A property that may be absent or null is checked
only if it is there. -/
def checks (object : OwnObject) : List String :=
  object.shape.properties.flatMap fun property =>
    let guarded := !object.shape.requires property.1 || object.admitsNull property.2
    let lead := if guarded then access property.1 ++ " != null && " else ""
    (conditions property.1 property.2.info.constraints).map fun condition =>
      "  if (" ++ lead ++ "!(" ++ condition.1 ++ ")) \x7b\n    errors.push(" ++ quoted condition.2 ++ ");\n  \x7d\n"

end OwnObject

namespace Lowering

variable (document : Document) (options : Options)

/-- The object as which a member of a union is declared, if it is an object and does not stand inline: the
discriminator is pinned in it. -/
def memberObjects (discriminator : Option ResolvedDiscriminator) (member : Schema × Nat) : List OwnObject :=
  if discriminator.isNone && isInline options member.1 then []
  else
    let pinned := pinnedMember discriminator member
    (pinned.objectShape?.map fun shape => ⟨shape, pinned.info, false⟩).toList

/-- The objects that a union declares. -/
def unionObjects (schema : Schema) : List OwnObject :=
  (unionMembersOf schema).zipIdx.flatMap (memberObjects options (discriminatorOf? document options schema))

/-- The objects that a schema declares to which a composition comes. -/
def siteObjects (site : Schema) : List OwnObject :=
  match site.kind with
  | .oneOf _ | .anyOf _ => unionObjects document options site
  | .object shape => [⟨shape, site.info, true⟩]
  | _ => []

/-- The objects that a named schema declares, by the operation that its kind selects. -/
def ownObjects (schema : Schema) : List OwnObject :=
  match Operation.select schema with
  | .interface => (schema.objectShape?.map fun shape => ⟨shape, schema.info, false⟩).toList
  | .union => unionObjects document options schema
  | .compose => (schema.compositionSites options).flatMap (siteObjects document options)
  | _ => []

end Lowering

/-! ## What is declared for an object -/

namespace Validation

/-- The validator of a type: the function that collects the messages of the checks. -/
def validator (exportWord typeName : String) (checks : List String) : Declaration :=
  let name := s!"validate{typeName}"
  let body := String.join checks
  { name
    kind := .function
    content := s!"{exportWord}function {name}(value: {typeName}): string[] \x7b\n  const errors: string[] = [];\n{body}  return errors;\n\x7d"
    dependencies := [typeName] }

theorem join_propertyChecks (properties : List Property) :
    String.join (properties.map propertyChecks) =
      String.join (properties.flatMap fun property => property.rules.map (ruleCheck property)) := by
  apply String.toList_injective
  simp only [String.toList_join, List.flatMap_map, List.flatMap_assoc, propertyChecks]

theorem validator?_eq (exportWord typeName : String) (properties : List Property) :
    validator? exportWord typeName properties =
      if properties.all (·.rules.isEmpty) then none
      else some (validator exportWord typeName
        (properties.flatMap fun property => property.rules.map (ruleCheck property))) := by
  rw [validator?, validator, ← join_propertyChecks]

end Validation

namespace OwnObject

/-- The property is that of the object: it is checked by its rules, and only if it is there where it may be
absent or null. -/
structure Lowers (object : OwnObject) (property : String × Schema) (lowered : Property) : Prop where
  name : lowered.name = property.1
  required : lowered.required = object.shape.requires property.1
  nullable : lowered.descriptor.isNullable = object.admitsNull property.2
  rules : lowered.rules = Validation.rules property.1 property.2.info.constraints

/-- The object is declared as an interface, and if it has rules then with the validator that checks each of
them, in order. -/
def Declares (options : Options) (object : OwnObject) (declarations : List Declaration) : Prop :=
  ∃ name doc properties index dependencies,
    List.Forall₂ object.Lowers object.shape.properties properties ∧
      declarations = ⟨name, .interface,
        interfaceText options doc name (membersText options properties index), dependencies⟩ ::
          if object.hasRules then [Validation.validator options.exportWord name object.checks] else []

end OwnObject

/-! ## Objects that are declared one after another -/

namespace OwnObject

variable {options : Options} {objects others : List OwnObject} {declarations more : List Declaration}

/-- The interfaces among the objects stand among the declarations in order, each with its validator. -/
def AllDeclared (options : Options) (objects : List OwnObject) (declarations : List Declaration) : Prop :=
  ∃ pieces, List.Forall₂ (Declares options) (objects.filter isInterface) pieces ∧
    pieces.flatten.Sublist declarations

namespace AllDeclared

theorem none (declarations : List Declaration) : AllDeclared options [] declarations :=
  ⟨[], .nil, List.nil_sublist _⟩

/-- An object is declared that is an interface, if it is one. -/
theorem single {object : OwnObject} (h : object.isInterface = true → ∃ piece, object.Declares options piece ∧
    piece.Sublist declarations) : AllDeclared options [object] declarations := by
  cases hinterface : object.isInterface with
  | false => exact ⟨[], by simp [hinterface], List.nil_sublist _⟩
  | true =>
    obtain ⟨piece, hpiece, hsublist⟩ := h hinterface
    exact ⟨[piece], by simp [hinterface, hpiece], by simpa using hsublist⟩

theorem sublist (h : AllDeclared options objects declarations) (hsublist : declarations.Sublist more) :
    AllDeclared options objects more := by
  obtain ⟨pieces, hpieces, hflatten⟩ := h
  exact ⟨pieces, hpieces, hflatten.trans hsublist⟩

theorem append (h : AllDeclared options objects declarations) (h' : AllDeclared options others more) :
    AllDeclared options (objects ++ others) (declarations ++ more) := by
  obtain ⟨pieces, hpieces, hflatten⟩ := h
  obtain ⟨pieces', hpieces', hflatten'⟩ := h'
  refine ⟨pieces ++ pieces', ?_, ?_⟩
  · rw [List.filter_append]
    exact List.rel_append hpieces hpieces'
  · rw [List.flatten_append]
    exact hflatten.append hflatten'

theorem flatMap {α β : Type} {f : α → List OwnObject} {g : β → List Declaration} {items : List α}
    {results : List β} (h : List.Forall₂ (fun item result => AllDeclared options (f item) (g result)) items
      results) : AllDeclared options (items.flatMap f) (results.flatMap g) := by
  induction h with
  | nil => exact none _
  | cons hfirst _ ih => exact hfirst.append ih

end AllDeclared

/-- The rules of a property ask for its conditions. -/
theorem map_rules (name : String) (constraints : Constraints) :
    (Validation.rules name constraints).map (fun rule =>
        (Validation.checkExpression rule (access name), rule.message)) =
      conditions name constraints := by
  simp only [Validation.rules, conditions, List.map_append]
  congr 1
  · cases constraints.minLength <;> cases constraints.maxLength <;> cases constraints.minimum <;>
      cases constraints.maximum <;> cases constraints.pattern <;> rfl
  · unfold Validation.formatRules
    split
    · rename_i hemail
      rw [if_pos hemail]
      rfl
    · rename_i huri
      rw [if_neg (by simp [huri]), if_pos (Or.inl huri)]
      rfl
    · rename_i hurl
      rw [if_neg (by simp [hurl]), if_pos (Or.inr hurl)]
      rfl
    · rename_i hemail huri hurl
      rw [if_neg hemail, if_neg (not_or.mpr ⟨huri, hurl⟩), List.map_nil]

theorem isEmpty_rules (name : String) (constraints : Constraints) :
    (Validation.rules name constraints).isEmpty = (conditions name constraints).isEmpty := by
  rw [← map_rules, List.isEmpty_map]

/-- The check of a rule of a lowered property is that of its condition. -/
theorem Lowers.checks {object : OwnObject} {property : String × Schema} {lowered : Property}
    (h : object.Lowers property lowered) : lowered.rules.map (Validation.ruleCheck lowered) =
      let guarded := !object.shape.requires property.1 || object.admitsNull property.2
      let lead := if guarded then access property.1 ++ " != null && " else ""
      (conditions property.1 property.2.info.constraints).map fun condition =>
        "  if (" ++ lead ++ "!(" ++ condition.1 ++ ")) \x7b\n    errors.push(" ++ quoted condition.2 ++
          ");\n  \x7d\n" := by
  rw [h.rules, ← map_rules, List.map_map]
  refine List.map_congr_left fun rule _ => ?_
  rw [Validation.ruleCheck, h.name, h.required, h.nullable]
  rfl

section

variable {object : OwnObject} {properties : List Property}
  (h : List.Forall₂ object.Lowers object.shape.properties properties)

include h

theorem hasRules_eq : object.hasRules = !properties.all (·.rules.isEmpty) := by
  rw [hasRules, List.not_all_eq_any_not]
  generalize object.shape.properties = declared at h
  induction h with
  | nil => rfl
  | cons hfirst _ ih => rw [List.any_cons, List.any_cons, hfirst.rules, isEmpty_rules, ih]

theorem checks_eq : object.checks = properties.flatMap fun property =>
    property.rules.map (Validation.ruleCheck property) := by
  rw [checks]
  generalize object.shape.properties = declared at h
  induction h with
  | nil => rfl
  | cons hfirst _ ih => rw [List.flatMap_cons, List.flatMap_cons, hfirst.checks, ih]

/-- The validator that the rules of an object call for is the one made of its lowered properties. -/
theorem validator_of_hasRules {name : String} :
    (if object.hasRules then [Validation.validator options.exportWord name object.checks] else []) =
      (Validation.validator? options.exportWord name properties).toList := by
  rw [Validation.validator?_eq, hasRules_eq h, checks_eq h]
  cases properties.all (·.rules.isEmpty) <;> rfl

end

end OwnObject

namespace Lowering

variable {document : Document} {options : Options} (hvalidation : options.interfaces.generateValidation = true)

/-! ## Objects as interfaces -/

theorem rules_of_isEmpty (name : String) {constraints : Constraints} (h : constraints.isEmpty = true) :
    Validation.rules name constraints = [] := by
  simp only [Constraints.isEmpty, Bool.and_eq_true, Option.isNone_iff_eq_none] at h
  obtain ⟨⟨⟨⟨⟨⟨hminLength, hmaxLength⟩, hminimum⟩, hmaximum⟩, hpattern⟩, hformat⟩, -⟩ := h
  rw [Validation.rules, hminLength, hmaxLength, hminimum, hmaximum, hpattern, hformat]
  rfl

include hvalidation

/-- A property that is described by its schema has the rules of its constraints. -/
theorem lowers_ofDescriptor (object : OwnObject) (property : String × Schema) (type : String) :
    object.Lowers property (.ofDescriptor options property.1
      (.ofSchema type (object.admitsNull property.2) property.2.info) property.2.info
      (object.shape.requires property.1)) where
  name := rfl
  required := rfl
  nullable := rfl
  rules := by
    rw [Property.ofDescriptor, hvalidation, if_pos rfl, TypeDescriptor.ofSchema, someConstraints]
    split
    · rename_i hempty
      exact (rules_of_isEmpty property.1 hempty).symm
    · rfl

omit hvalidation in
theorem admitsNull_describe (shape : ObjectShape Schema) (info : SchemaInfo) (schema : Schema) :
    (describe schema).Ensures (Over document options) fun descriptor => ∃ type,
      descriptor = .ofSchema type (OwnObject.admitsNull ⟨shape, info, false⟩ schema) schema.info := by
  refine (Over.any _).bind fun type _ => .pure ⟨type, ?_⟩
  obtain ⟨kind, own⟩ := schema
  cases kind <;> rfl

theorem lowers_lowerProperty (shape : ObjectShape Schema) (info : SchemaInfo) (property : String × Schema) :
    (lowerProperty shape property.1 property.2).Ensures (Over document options)
      (OwnObject.Lowers ⟨shape, info, false⟩ property) := by
  refine ((admitsNull_describe shape info property.2).withSegment Over.placeless property.1).bind ?_
  rintro _ ⟨type, rfl⟩
  exact Over.readOptions (.pure (lowers_ofDescriptor hvalidation ⟨shape, info, false⟩ property type))

theorem lowers_lowerShape (shape : ObjectShape Schema) (info : SchemaInfo) :
    (lowerShape shape).Ensures (Over document options) fun lowered =>
      List.Forall₂ (OwnObject.Lowers ⟨shape, info, false⟩) shape.properties lowered.1 := by
  have hproperties : (shape.properties.mapM fun property =>
      lowerProperty shape property.1 property.2).Ensures (Over document options)
        (List.Forall₂ (OwnObject.Lowers ⟨shape, info, false⟩) shape.properties) :=
    Ensures.mapM_forall₂ fun property _ => lowers_lowerProperty hvalidation shape info property
  exact hproperties.bind fun properties hproperties => (Over.any _).bind fun index _ => .pure hproperties

/-- An object is declared as an interface, with its validator. -/
theorem declared_declareInterface (name : String) (shape : ObjectShape Schema) (info : SchemaInfo) :
    (declareInterface name ⟨.object shape, info⟩).Ensures (Over document options)
      (OwnObject.AllDeclared options [⟨shape, info, false⟩]) := by
  have hlowered : (lowerInterface name ⟨.object shape, info⟩).Ensures (Over document options) fun lowered =>
      ∃ index dependencies, List.Forall₂ (OwnObject.Lowers ⟨shape, info, false⟩) shape.properties
          lowered.properties ∧
        lowered.declaration = interfaceDeclaration options lowered.name info lowered.properties index
          dependencies := by
    refine ((Over.collectDependencies (lowers_lowerShape hvalidation shape info)).withSegment Over.placeless
      _).bind ?_
    rintro ⟨⟨properties, index⟩, dependencies⟩ hproperties
    exact Over.readOptions (.pure ⟨index, _, hproperties, rfl⟩)
  refine hlowered.bind ?_
  rintro lowered ⟨index, dependencies, hproperties, hdeclaration⟩
  refine Over.readOptions (.pure (.single fun hinterface => ?_))
  have hlisted : lowered.properties.isEmpty = false := by
    rw [List.isEmpty_eq_false_iff]
    rintro hnil
    rw [hnil, List.forall₂_nil_right_iff] at hproperties
    simp [OwnObject.isInterface, hproperties] at hinterface
  refine ⟨_, ⟨lowered.name, interfaceDoc options lowered.name info, lowered.properties, index, dependencies,
    hproperties, rfl⟩, ?_⟩
  rw [OwnObject.validator_of_hasRules hproperties, LoweredInterface.declarations, hdeclaration,
    interfaceDeclaration, hlisted, memberLines_eq]
  exact .refl _

/-! ## Members of unions -/

omit hvalidation in
/-- What is no object declares none. -/
theorem memberObjects_of_isObject {discriminator : Option ResolvedDiscriminator} {member : Schema × Nat}
    (h : discriminator = none ∧ isInline options member.1 = true ∨ member.1.isObject = false) :
    memberObjects options discriminator member = [] := by
  rw [memberObjects]
  rcases h with ⟨rfl, hinline⟩ | hobject
  · rw [hinline]
    rfl
  · obtain ⟨⟨kind, info⟩, index⟩ := member
    have hpinned : (pinnedMember discriminator (⟨kind, info⟩, index)).objectShape? = none := by
      cases kind with
      | object shape => cases hobject
      | _ => cases discriminator <;> rfl
    simp [hpinned]

theorem declared_lowerMember (union : String) (discriminator : Option ResolvedDiscriminator)
    (member : Schema × Nat) :
    (lowerMember union discriminator member.2 member.1).Ensures (Over document options) fun lowered =>
      OwnObject.AllDeclared options (memberObjects options discriminator member) lowered.2 := by
  obtain ⟨member, index⟩ := member
  apply Ensures.lowerMember Over.placeless
  rintro setting store ⟨rfl, rfl⟩ step hform
  cases hform with
  | reference target info =>
    rw [memberObjects_of_isObject (Or.inr rfl)]
    exact (Over.any _).bind fun name _ => .pure (.none _)
  | inline hreference hinline =>
    rw [memberObjects_of_isObject hinline]
    exact (Over.any _).bind fun type _ => .pure (.none _)
  | interface shape info hinline =>
    refine (Over.any _).bind fun name _ => ?_
    cases discriminator with
    | none =>
      rw [memberObjects, Option.isNone_none, Bool.true_and, hinline rfl]
      exact (declared_declareInterface hvalidation name shape info).bind fun declarations h => .pure h
    | some found =>
      exact (declared_declareInterface hvalidation name _ info).bind fun declarations h => .pure h
  | typeAlias hdiscriminator hreference hobject =>
    rw [memberObjects_of_isObject (Or.inr hobject)]
    exact (Over.any _).bind fun name _ => (Over.any _).bind fun declarations _ => .pure (.none _)

theorem declared_lowerMembers (union : String) (discriminator : Option ResolvedDiscriminator)
    (members : List Schema) :
    (lowerMembers union discriminator members).Ensures (Over document options) fun lowered =>
      OwnObject.AllDeclared options (members.zipIdx.flatMap (memberObjects options discriminator))
        lowered.2 := by
  apply (Ensures.lowerMembers fun item _ => declared_lowerMember hvalidation union discriminator item).mono
  rintro _ ⟨lowered, hlowered, rfl⟩
  exact .flatMap hlowered

theorem declared_lowerUnion (name : String) (schema : Schema) :
    (lowerUnion name schema).Ensures (Over document options) fun lowered =>
      OwnObject.AllDeclared options (unionObjects document options schema) lowered.memberDeclarations := by
  apply Ensures.lowerUnion Over.placeless
  · intro hempty asked
    rw [unionObjects, hempty]
    exact .none _
  · intro _
    refine Over.readDocument (Over.readOptions ?_)
    refine (Over.collectDependencies (declared_lowerMembers hvalidation _ _ _)).bind fun collected h => ?_
    exact .pure h

end Lowering

/-! ## Compositions -/

theorem Text.occursIn_append (before needle after : List Char) :
    Text.occursIn needle (before ++ (needle ++ after)) = true := by
  induction before with
  | nil =>
    cases needle with
    | nil => cases after <;> rfl
    | cons c rest => simp [Text.occursIn]
  | cons c rest ih => rw [List.cons_append, Text.occursIn, ih, Bool.or_true]

/-- A text that declares an interface is that of one. -/
theorem Composition.mainKind_of_interfaceText {composed : Composition} {options : Options} {doc : List String}
    {lines : String} (h : composed.content = interfaceText options doc composed.typeName lines) :
    composed.mainKind = .interface := by
  have hcontent : ∃ before after, composed.content.toList =
      before ++ (s!"interface {composed.typeName} ".toList ++ after) := by
    refine ⟨(docComment doc "" ++ options.exportWord).toList, ("\x7b\n" ++ lines ++ "\x7d").toList, ?_⟩
    rw [h, interfaceText]
    simp [toString]
  obtain ⟨before, after, hcontent⟩ := hcontent
  rw [mainKind, hcontent, Text.occursIn_append, if_pos rfl]

/-- A validator is declared again from its text. -/
theorem Composition.derived_validator (composed : Composition) {options : Options} {properties : List Property}
    {validator : Declaration} (hname : Name.isIdentifier composed.typeName = true)
    (h : Validation.validator? options.exportWord composed.typeName properties = some validator) :
    composed.derived .function validator.content = validator := by
  have hidentifier : Name.isIdentifier ("validate" ++ composed.typeName) = true :=
    Name.isIdentifier_append (by decide) (Name.all_continuesIdentifier hname)
  rw [Validation.validator?_eq] at h
  split at h
  · cases h
  · cases h
    have hdeclared : ∀ checks, declaredName? (Validation.validator options.exportWord composed.typeName
        checks).content = some ("validate" ++ composed.typeName) := fun checks => by
      refine declaredName?_function options hidentifier (Or.inl rfl) ?_
      simp [DeclaresFunction, Validation.validator, toString]
    rw [derived, hdeclared]
    rfl

/-- The parts are continued by declarations of the objects. -/
def CompositionParts.Adds (options : Options) (objects : List OwnObject) (start final : CompositionParts) :
    Prop :=
  ∃ new, final.intermediates = start.intermediates ++ new ∧ OwnObject.AllDeclared options objects new

namespace CompositionParts.Adds

variable {options : Options} {objects others : List OwnObject} {start between final : CompositionParts}

theorem refl (parts : CompositionParts) : Adds options [] parts parts :=
  ⟨[], (List.append_nil _).symm, .none _⟩

theorem trans (h : Adds options objects start between) (h' : Adds options others between final) :
    Adds options (objects ++ others) start final := by
  obtain ⟨new, hbetween, hnew⟩ := h
  obtain ⟨new', hfinal, hnew'⟩ := h'
  exact ⟨new ++ new', by rw [hfinal, hbetween, List.append_assoc], hnew.append hnew'⟩

/-- What is added to no parts is declared for all of them. -/
theorem declared (h : Adds options objects {} final) :
    OwnObject.AllDeclared options objects final.intermediates := by
  obtain ⟨new, hfinal, hnew⟩ := h
  exact hfinal ▸ hnew

end CompositionParts.Adds

namespace Lowering

variable {document : Document} {options : Options} (hvalidation : options.interfaces.generateValidation = true)

theorem adds_composeReference (target : String) (parts : CompositionParts) :
    (composeReference target parts).Ensures (Over document options) fun named =>
      parts.Adds options [] named.2 := by
  refine (Over.any _).bind fun resolution _ => ?_
  split
  · exact .pure (.refl parts)
  · refine Over.readOptions ?_
    cases options.composition.circularRefs with
    | error => exact .readScope fun scope => .throw _
    | marker => exact .pure (.refl parts)

/-- A composed object is declared after its parts, with its validator. -/
theorem declared_assemble_members {objects : List OwnObject} {parts : CompositionParts}
    {shape : ObjectShape Schema} {info : SchemaInfo} {properties : List Property}
    (h : ({} : CompositionParts).Adds options objects parts)
    (hlowers : List.Forall₂ (OwnObject.Lowers ⟨shape, info, true⟩) shape.properties properties)
    (derive : Bool) (name : String) (index : Option String) (dependencies : List String) :
    OwnObject.AllDeclared options (objects ++ [⟨shape, info, true⟩])
      (assemble document options derive (Name.pascal name) ⟨.object shape, info⟩
        (.members (memberLines options properties index) properties) parts dependencies).declarations := by
  refine h.declared.append (.single fun hinterface => ?_)
  have hnull : info.nullable = false := by
    simpa [OwnObject.isInterface] using (Bool.and_eq_true_iff.mp hinterface).2
  obtain ⟨composed, hcomposed⟩ : ∃ composed, composed = assemble document options derive (Name.pascal name)
    ⟨.object shape, info⟩ (.members (memberLines options properties index) properties) parts dependencies :=
      ⟨_, rfl⟩
  have hcontent : composed.content = interfaceText options (compositionDoc options info parts.circularRefs)
      composed.typeName (memberLines options properties index) := by
    rw [hcomposed, assemble, compositionContent_members, hnull]
    rfl
  have hhelpers : composed.helpers = structuralHelpersFor document options derive (Name.pascal name)
      ⟨.object shape, info⟩ ++ ((Validation.validator? options.exportWord (Name.pascal name) properties).map
        (·.content)).toList := by
    rw [hcomposed, assemble, compositionValidator?]
    exact hnull
  have hname : composed.typeName = Name.pascal name := congrArg Composition.typeName hcomposed
  rw [← hcomposed]
  refine ⟨_, ⟨composed.typeName, compositionDoc options info parts.circularRefs, properties, index,
    composed.dependencies, hlowers, rfl⟩, ?_⟩
  rw [OwnObject.validator_of_hasRules hlowers, composed.mainKind_of_interfaceText hcontent, hcontent,
    memberLines_eq]
  refine .cons_cons _ (.trans ?_ (List.sublist_append_right _ _))
  rw [hhelpers, List.map_append, hname]
  refine .trans ?_ (List.sublist_append_right _ _)
  cases hvalidator : Validation.validator? options.exportWord (Name.pascal name) properties with
  | none => exact List.nil_sublist _
  | some validator => rw [Option.map_some, Option.toList_some, Option.toList_some, List.map_singleton,
      composed.derived_validator (hname ▸ Name.isIdentifier_pascal name) (hname ▸ hvalidator)]

include hvalidation in
theorem lowers_of_composed {shape : ObjectShape Schema} (info : SchemaInfo) {property : String × Schema}
    {lowered : Property} (h : Composed options shape property lowered) :
    OwnObject.Lowers ⟨shape, info, true⟩ property lowered := by
  obtain ⟨type, rfl⟩ := h
  have hnull : OwnObject.admitsNull ⟨shape, info, true⟩ property.2 = property.2.info.nullable := by
    simp [OwnObject.admitsNull]
  exact hnull ▸ lowers_ofDescriptor hvalidation ⟨shape, info, true⟩ property type

include hvalidation in
/-- A composition declares the objects of its sites, one after another. -/
theorem objectRules : CompositionRules document options (Over document options)
    (fun sites => CompositionParts.Adds options (sites.flatMap (siteObjects document options)))
    fun sites composed => OwnObject.AllDeclared options (sites.flatMap (siteObjects document options))
      composed.declarations where
  toTells := Over.tells
  source h := h.1
  claimName _ := Over.any _
  typeExpression _ := Over.any _
  collectDependencies := Over.collectDependencies
  refl := .refl
  trans h h' := List.flatMap_append ▸ h.trans h'
  absorb _ h := ⟨_, rfl, h⟩
  reference target _ parts := adds_composeReference target parts
  union derive name {schema} hunion := by
    have hobjects : [schema].flatMap (siteObjects document options) = unionObjects document options schema := by
      obtain ⟨members, hkind | hkind⟩ := Operation.kind_of_select_union hunion <;>
        simp [siteObjects, hkind]
    rw [hobjects]
    refine (declared_lowerUnion hvalidation (Name.pascal name) schema).bind fun union hdeclared => ?_
    refine (Over.any _).bind fun _ _ => (Over.any _).bind fun _ _ => .pure (hdeclared.sublist ?_)
    exact List.sublist_append_left _ _
  assemble derive name {kind info sites body parts} dependencies hunion hadds hbody := by
    rw [List.flatMap_append]
    cases kind with
    | oneOf members | anyOf members => exact absurd rfl hunion
    | object shape =>
      rw [Schema.ownSites, List.flatMap_singleton]
      by_cases hproperties : shape.properties = []
      · exact hadds.declared.append (.single (by simp [OwnObject.isInterface, hproperties]))
      · obtain ⟨properties, index, rfl, hcomposed⟩ := hbody shape rfl hproperties
        have hlowers := hcomposed.imp fun _ _ => lowers_of_composed hvalidation info
        exact declared_assemble_members hadds hlowers derive name index dependencies
    | _ => exact hadds.declared.append (.none _)

/-! ## Named schemas -/

/-- What is declared for a named schema is what is declared while its reference is being resolved. -/
theorem Over.lowerNamed {entry : NamedSchema} {post : List Declaration → Prop}
    (h : (declare (Name.pascal entry.name) entry.schema).Ensures (Over document options) post) :
    (lowerNamed entry).Ensures (Over document options) post := by
  intro setting store hover
  refine ⟨hover, fun declarations hdeclarations => ?_⟩
  obtain ⟨inner, hrun, -⟩ := runWith_lowerNamed_eq_ok.mp (Prod.ext hdeclarations rfl)
  exact (h { setting with scope := setting.scope.visit entry.pointer } store hover).2 declarations
    (congrArg Prod.fst hrun)

include hvalidation in
theorem declared_declare (typeName : String) (schema : Schema) :
    (declare typeName schema).Ensures (Over document options)
      (OwnObject.AllDeclared options (ownObjects document options schema)) := by
  unfold declare ownObjects
  cases hoperation : Operation.select schema with
  | union =>
    refine .map ((declared_lowerUnion hvalidation typeName schema).mono fun lowered hlowered => ?_)
    exact hlowered.sublist (List.sublist_append_left _ _)
  | compose =>
    exact .map ((objectRules hvalidation).compose true typeName schema)
  | interface =>
    obtain ⟨kind, info⟩ := schema
    cases kind with
    | object shape => exact declared_declareInterface hvalidation typeName shape info
    | _ => exact (Over.any _).mono fun declarations _ => .none _
  | _ => exact (Over.any _).mono fun declarations _ => .none _

end Lowering

namespace Context

variable {context : Context} {entry : NamedSchema} {declarations : List Declaration}

/-- If validators are asked for, all objects that a named schema declares as interfaces under names of their own
are declared in order, and each one that has rules with its validator, which makes one check for each rule,
property by property. -/
theorem interfaces_validated (hvalidation : context.options.interfaces.generateValidation = true)
    (h : (context.run (lowerNamed entry)).1 = .ok declarations) :
    OwnObject.AllDeclared context.options (ownObjects context.document context.options entry.schema)
      declarations := by
  rw [run_eq] at h
  exact (Over.lowerNamed (declared_declare hvalidation _ _) context.setting context.store ⟨rfl, rfl⟩).2 _ h

/-- An order with an identifier, which is paid by a token or from an account. -/
def order (nullable : Bool) : Json :=
  .obj [("$defs", .obj [("Order", .obj [("nullable", .bool nullable), ("properties", .obj [
    ("id", .obj [("type", .str "string"), ("minLength", .int 3)]),
    ("payment", .obj [("oneOf", .arr [.obj [("type", .str "string")], .obj [("properties", .obj [
      ("bank", .obj []), ("iban", .obj [("pattern", .str "[A-Z0-9]+")]), ("owner", .obj [])])]])])])])])]

/-- Options that ask for validators. -/
def validating : Options := { interfaces := { generateValidation := true } }

/-- The account and the order are declared with their validators. -/
theorem interfaces_validated_of_order : ∃ document entry declarations,
    Document.ofJson (order false) = .ok document ∧ validating.interfaces.generateValidation = true ∧
      ((fresh document validating).run (lowerNamed entry)).1 = .ok declarations ∧
        (ownObjects document validating entry.schema).map (fun object =>
          (object.isInterface, object.hasRules)) = [(true, true), (true, true)] ∧
          OwnObject.AllDeclared validating (ownObjects document validating entry.schema) declarations := by
  have hrun : ((Document.ofJson (order false)).toOption.any fun document =>
      document.named.head?.any fun entry =>
        (ownObjects document validating entry.schema).map (fun object =>
          (object.isInterface, object.hasRules)) == [(true, true), (true, true)] &&
          ((fresh document validating).run (lowerNamed entry)).1.toOption.any fun _ => true) = true := by
    decide +kernel
  obtain ⟨document, hdocument, hrun⟩ := Decode.exists_ok_of_any hrun
  obtain ⟨entry, -, hentry⟩ := (Option.any_eq_true _ _).mp hrun
  rw [Bool.and_eq_true, beq_iff_eq] at hentry
  obtain ⟨declarations, hlowered, -⟩ := Decode.exists_ok_of_any hentry.2
  have hvalidation : (fresh document validating).options.interfaces.generateValidation = true := rfl
  have hdeclared := interfaces_validated hvalidation hlowered
  exact ⟨document, entry, declarations, hdocument, rfl, hlowered, hentry.1, hdeclared⟩

/-- Whether the schema is an object with rules. -/
def isRuled (schema : Schema) : Bool :=
  schema.objectShape?.any fun shape => OwnObject.hasRules ⟨shape, schema.info, false⟩

/-- Whether a type is declared under the name, but no validator of it. -/
def isUnvalidated (declarations : List Declaration) (name : String) : Bool :=
  declarations.any (fun declaration => declaration.name == name && declaration.kind.isType)
    && declarations.all (·.name != s!"validate{name}")

/-- Two kinds of events, one of which constrains the property that tells them apart. -/
def event : Json :=
  .obj [("$defs", .obj [("Event", .obj [("oneOf", .arr [
    .obj [("properties", .obj [("kind", .obj [("const", .str "a"), ("minLength", .int 1)])])],
    .obj [("properties", .obj [("kind", .obj [("const", .str "b")])])]])])])]

/-- A nullable object that is composed has rules but no validator, and so has a member of a union whose only
rules are those of the property that is pinned. -/
theorem validator_missing_of_null_or_pin :
    (∃ document entry declarations, Document.ofJson (order true) = .ok document ∧
      isRuled entry.schema = true ∧ ((fresh document validating).run (lowerNamed entry)).1 = .ok declarations ∧
        isUnvalidated declarations "Order" = true) ∧
    ∃ document entry declarations, Document.ofJson event = .ok document ∧
      (unionMembersOf entry.schema).head?.any isRuled = true ∧
        ((fresh document validating).run (lowerNamed entry)).1 = .ok declarations ∧
          isUnvalidated declarations "EventA" = true := by
  have hmissing : ∀ (raw : Json) (ruled : Schema → Bool) (name : String),
      ((Document.ofJson raw).toOption.any fun document => document.named.head?.any fun entry =>
        ruled entry.schema && ((fresh document validating).run (lowerNamed entry)).1.toOption.any
          (isUnvalidated · name)) = true →
      ∃ document entry declarations, Document.ofJson raw = .ok document ∧ ruled entry.schema = true ∧
        ((fresh document validating).run (lowerNamed entry)).1 = .ok declarations ∧
          isUnvalidated declarations name = true := by
    intro raw ruled name hrun
    obtain ⟨document, hdocument, hrun⟩ := Decode.exists_ok_of_any hrun
    obtain ⟨entry, -, hentry⟩ := (Option.any_eq_true _ _).mp hrun
    rw [Bool.and_eq_true] at hentry
    obtain ⟨declarations, hlowered, hmissing⟩ := Decode.exists_ok_of_any hentry.2
    exact ⟨document, entry, declarations, hdocument, hentry.1, hlowered, hmissing⟩
  constructor
  · exact hmissing (order true) isRuled "Order" (by decide +kernel)
  · exact hmissing event (fun schema => (unionMembersOf schema).head?.any isRuled) "EventA" (by decide +kernel)

end Context

end SchemaTypings
