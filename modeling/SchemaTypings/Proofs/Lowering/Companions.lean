import SchemaTypings.Proofs.Lowering.Calls
import SchemaTypings.Proofs.Lowering.EnsuredCompositions
import SchemaTypings.Proofs.Lowering.Spelled
import SchemaTypings.Proofs.Lowering.TypeCompanions
import SchemaTypings.Proofs.Lowering.UnionCompanions
import SchemaTypings.Proofs.Typing.Complete
import SchemaTypings.Proofs.Typing.EnumCompanions

/-!
# Companions are declared

The text of a declaration may call or read a companion: the guard `is…`, the parser `parse…`, the match `match…`
of a type, or the array `…Values` of an enumeration (`Declaration.companions`). A companion belongs to the same
result as what calls it (`Context.companions_declared`).

What a schema brings into a text is silent, as names, literals, and comments call nothing; so a type or an
interface is silent, whatever it consists of. Only the functions, and the companions of an enumeration, call
others, and these are written together with what they call: the proof shows by the recursion of the lowering
that the declarations of a result are `Complete`. There is one exception. An enumeration whose options ask for
validation but for no helpers has an assertion, but not the guard that the assertion calls
(`Context.companion_undeclared_of_status`), whereas a union then has its guards (`UnionDispatch.functions`).
-/

namespace SchemaTypings

open LowerM Lowering Typing

/-! ## Calls -/

/-- What a call declares. -/
def Call.declarations : (call : Call) → call.Result → List Declaration
  | describe _, _ | resolveReference _, _ => []
  | lowerAlias _ _, declaration => [declaration]
  | lowerInterface _ _, lowered => lowered.declarations
  | lowerEnum _ _, lowered => lowered.declarations
  | lowerUnion _ _, lowered => lowered.declarations
  | compose _ _, composed => composed.declarations
  | lowerNamed _, declarations => declarations

/-- The type name of the enumeration that a call lowers, if it lowers one. -/
def Call.enumName? : Call → Option String
  | lowerEnum name _ => some (Name.pascal name)
  | lowerNamed entry =>
    if Operation.select entry.schema = .enum then some (Name.pascal (Name.pascal entry.name)) else none
  | _ => none

/-- The declarations are complete, but for the assertion about an enumeration of the name, if there is one. Where
the options ask for no helpers, its guard is not declared. -/
structure CompleteBut (options : Options) (enumName? : Option String) (declarations : List Declaration) :
    Prop where
  rests : ∀ declaration ∈ declarations, Rests (Declares declarations) .closed declaration.content ∨
    options.enums.generateHelpers = false ∧ options.enums.generateValidation = true ∧
      ∃ typeName, enumName? = some typeName ∧ declaration.name = "assert" ++ typeName ∧
        Rests (fun name => Declares declarations name ∨ name = ("is" ++ typeName).toList) .closed
          declaration.content
  guard : options.enums.generateHelpers = false → ∀ typeName, enumName? = some typeName →
    "is" ++ typeName ∉ declarations.map (·.name)

namespace CompleteBut

variable {options : Options} {declarations : List Declaration}

theorem of_complete (h : Complete declarations declarations) : CompleteBut options none declarations where
  rests declaration hdeclaration := Or.inl (h declaration hdeclaration)
  guard := by rintro _ _ ⟨⟩

end CompleteBut

theorem completeBut_bottomAlias (options : Options) {name : String} (hname : IsWord name) :
    CompleteBut options (some name) [bottomAlias options name] where
  rests declaration hdeclaration := by
    rw [List.mem_singleton.mp hdeclaration]
    exact Or.inl (rests_bottomAlias options hname)
  guard := by
    rintro - _ ⟨⟩ hmem
    have hlength := congrArg String.length (List.mem_singleton.mp hmem)
    simp [bottomAlias] at hlength

theorem Typing.EnumText.Wellformed.completeBut {options : Options} {text : EnumText} (h : text.Wellformed)
    (hsmall : Name.beginsSmall text.name = false) (strategy : EnumStrategy) (info : SchemaInfo) :
    CompleteBut options (some text.name) (text.all options.enums strategy info) where
  rests declaration hdeclaration := by
    rcases text.complete_all options.enums strategy info h declaration hdeclaration with
      hrests | ⟨hhelpers, hvalidation, rfl⟩
    · exact Or.inl hrests
    · refine Or.inr ⟨hhelpers, hvalidation, text.name, rfl, rfl, ?_⟩
      exact h.rests_assertion fun _ => Or.inr rfl
  guard := by
    rintro hhelpers _ ⟨⟩
    exact text.not_declares_guard options.enums strategy info hhelpers h.name hsmall

/-! ## Results -/

/-- The type of the member is silent and its tag an identifier, and what it declares is silent. -/
structure UnionMember.Spelled (lowered : UnionMember × List Declaration) : Prop where
  type : Silent lowered.1.typeName
  tag : Name.isIdentifier lowered.1.tag = true
  declarations : ∀ declaration ∈ lowered.2, declaration.Silent

/-- The types that are declared are silent. The functions refer to one another only, and their texts declare
their names. -/
structure LoweredUnion.Spelled (lowered : LoweredUnion) : Prop where
  members : ∀ declaration ∈ lowered.memberDeclarations, declaration.Silent
  union : lowered.declaration.Silent
  functions : Complete lowered.functions lowered.functions
  names : ∀ declaration ∈ lowered.functions, declaredName? declaration.content = some declaration.name

theorem LoweredUnion.Spelled.complete {lowered : LoweredUnion} (h : lowered.Spelled) :
    Complete lowered.declarations lowered.declarations := by
  refine (Complete.of_silent h.members).append ?_
  rw [← List.singleton_append]
  refine Complete.append (.of_silent (by simpa using h.union)) (h.functions.mono fun declaration hmem => ?_)
  exact List.mem_append_right _ (List.mem_cons_of_mem _ hmem)

/-- One of the texts declares a companion of the name. -/
def DeclaresText (texts : List String) (name : List Char) : Prop :=
  ∃ text ∈ texts, declaredName? text = some (String.ofList name)

/-- The composed type and its parts are silent, and so are the texts derived from it, but for the functions
derived at the top, which refer to one another. -/
structure Composition.Spelled (derive : Bool) (composed : Composition) : Prop where
  content : Rests (fun _ => False) .closed composed.content
  intermediates : ∀ declaration ∈ composed.intermediates, declaration.Silent
  utilityTypes : ∀ text ∈ composed.utilityTypes, Rests (fun _ => False) .closed text
  helpers : ∀ text ∈ composed.helpers, Rests (DeclaresText composed.helpers) .closed text
  plain : derive = false → ∀ text ∈ composed.helpers, Rests (fun _ => False) .closed text

namespace Composition.Spelled

variable {derive : Bool} {composed : Composition} (h : composed.Spelled derive)

include h

theorem complete : Complete composed.declarations composed.declarations := by
  intro declaration hdeclaration
  have hmem := hdeclaration
  simp only [declarations, List.mem_append, List.mem_cons, List.mem_map] at hmem
  rcases hmem with hmem | rfl | ⟨text, htext, rfl⟩ | ⟨text, htext, rfl⟩
  · exact (h.intermediates declaration hmem).rests
  · exact h.content.mono fun _ => False.elim
  · exact (h.utilityTypes text htext).mono fun _ => False.elim
  · refine (h.helpers text htext).mono ?_
    rintro name ⟨other, hother, hname⟩
    refine List.mem_map.mpr ⟨composed.derived .function other, ?_, ?_⟩
    · simp only [declarations, List.mem_append, List.mem_cons, List.mem_map]
      exact Or.inr (Or.inr (Or.inr ⟨other, hother, rfl⟩))
    · simp [derived, hname]

theorem silent (hderive : derive = false) : ∀ declaration ∈ composed.declarations, declaration.Silent := by
  intro declaration hmem
  simp only [declarations, List.mem_append, List.mem_cons, List.mem_map] at hmem
  rcases hmem with hmem | rfl | ⟨text, htext, rfl⟩ | ⟨text, htext, rfl⟩
  · exact h.intermediates declaration hmem
  · exact h.content
  · exact h.utilityTypes text htext
  · exact h.plain hderive text htext

end Composition.Spelled

/-- The parts are silent. -/
def CompositionParts.Silent (parts : CompositionParts) : Prop :=
  ∀ declaration ∈ parts.intermediates, declaration.Silent

/-! ## Runs -/

namespace Lowering.Spelled

variable {raw : Json} {document : Document} {options : Options} (h : Document.ofJson raw = .ok document)

include h

/-! ### Objects and aliases -/

theorem lowerShape (shape : ObjectShape Schema) :
    (lowerShape shape).Ensures (Spelled document options) fun lowered =>
      RestsIn (fun _ => False) lowered.1 ∧ ∀ value ∈ lowered.2, Silent value := by
  have hproperty : ∀ property ∈ shape.properties,
      (lowerProperty shape property.1 property.2).Ensures (Spelled document options)
        fun lowered => Silent lowered.descriptor.typeName := by
    intro property _
    apply (Ensures.withSegment placeless property.1 (Spelled.describe h property.2)).bind
    intro descriptor hdescriptor
    exact .readOptions fun options => .pure hdescriptor
  apply (Ensures.mapM hproperty).bind
  intro properties hproperties
  apply (Spelled.indexValue h shape.properties.isEmpty shape.additional).bind
  intro index hindex
  exact .pure ⟨hproperties, hindex⟩

theorem lowerInterface (name : String) (schema : Schema) :
    (lowerInterface name schema).Ensures (Spelled document options) fun lowered =>
      lowered.name = Name.pascal name ∧ lowered.declaration.Silent := by
  apply (Ensures.withSegment placeless _ (Spelled.collectDependencies
    (lowerShape h (objectShapeOf schema)))).bind
  rintro ⟨⟨properties, index⟩, dependencies⟩ ⟨hproperties, hindex⟩
  apply Ensures.readOptions
  intro options
  exact .pure ⟨rfl, rests_interfaceDeclaration options schema.info _ (IsWord.pascal name) hproperties hindex⟩

theorem declareInterface (name : String) (schema : Schema) :
    (declareInterface name schema).Ensures (Spelled document options) fun declarations =>
      ∀ declaration ∈ declarations, declaration.Silent := by
  apply (lowerInterface h name schema).bind
  rintro lowered ⟨hlowered, hsilent⟩
  apply Ensures.readOptions
  intro options
  apply Ensures.pure
  intro declaration hdeclaration
  rcases List.mem_append.mp hdeclaration with hmem | hmem
  · rw [List.mem_singleton.mp hmem]
    exact hsilent
  · exact Validation.rests_validator (hlowered ▸ IsWord.pascal name) (Option.mem_toList.mp hmem)

theorem lowerAlias (name : String) (schema : Schema) :
    (lowerAlias name schema).Ensures (Spelled document options) fun declaration => declaration.Silent := by
  apply (Ensures.withSegment placeless _ (Spelled.collectDependencies (Spelled.describe h schema))).bind
  rintro ⟨descriptor, dependencies⟩ hdescriptor
  apply Ensures.readOptions
  intro options
  exact .pure (rests_typeDeclaration (aliasDoc options descriptor schema.info) options (IsWord.pascal name)
    hdescriptor (by simp))

/-! ### Unions -/

omit h in
theorem isIdentifier_memberName (name : String) (index : Nat) :
    Name.isIdentifier (memberName (Name.pascal name) index) = true :=
  Name.isIdentifier_numbered (by decide) (Name.isIdentifier_pascal name) (index + 1)

omit h in
theorem declaredMember (base : String) (value : Option Json) (member : Schema)
    {declare : String → LowerM (List Declaration)} (hdeclare : ∀ name,
      (declare name).Ensures (Spelled document options) fun declarations =>
        ∀ declaration ∈ declarations, declaration.Silent) :
    (declaredMember base value member declare).Ensures (Spelled document options) UnionMember.Spelled := by
  apply (Spelled.claimName base).bind
  intro part hpart
  apply (hdeclare part).bind
  intro declarations hdeclarations
  exact .pure ⟨(IsWord.of_isIdentifier hpart).rests, hpart, hdeclarations⟩

theorem lowerMember (name : String) (discriminator : Option ResolvedDiscriminator) (index : Nat)
    (member : Schema) :
    (lowerMember (Name.pascal name) discriminator index member).Ensures (Spelled document options)
      UnionMember.Spelled := by
  refine Ensures.lowerMember placeless fun _ _ _ step hform => ?_
  cases hform with
  | reference target info =>
    apply (Spelled.referenceName h target).bind
    intro part hpart
    exact .pure ⟨(IsWord.of_isIdentifier hpart).rests, hpart, by simp⟩
  | inline =>
    apply (Spelled.typeExpression h member).bind
    intro type htype
    exact .pure ⟨htype, isIdentifier_memberName name index, by simp⟩
  | interface shape info => exact declaredMember _ _ _ fun part => declareInterface h part _
  | typeAlias =>
    refine declaredMember _ none member fun part => .map ((lowerAlias h part member).mono ?_)
    intro declaration hdeclaration
    simpa using hdeclaration

theorem lowerMembers (name : String) (discriminator : Option ResolvedDiscriminator)
    (members : List Schema) :
    (lowerMembers (Name.pascal name) discriminator members).Ensures (Spelled document options)
      fun lowered => (∀ member ∈ lowered.1,
        Silent member.typeName ∧ Name.isIdentifier member.tag = true) ∧
          ∀ declaration ∈ lowered.2, declaration.Silent := by
  refine Ensures.lowerMembers_each fun item _ => ?_
  exact (lowerMember h name discriminator item.2 item.1).mono fun _ hmember =>
    ⟨⟨hmember.type, hmember.tag⟩, hmember.declarations⟩

theorem lowerUnion (name : String) (schema : Schema) :
    (lowerUnion name schema).Ensures (Spelled document options) LoweredUnion.Spelled := by
  apply Ensures.lowerUnion placeless
  · intro _ asked
    exact ⟨by simp, rests_bottomAlias asked (IsWord.pascal name), by rintro _ ⟨⟩, by simp⟩
  · intro _
    apply Ensures.readDocument
    intro source
    apply Ensures.readOptions
    intro asked
    apply (Spelled.collectDependencies (lowerMembers h name _ (unionMembersOf schema))).bind
    rintro ⟨⟨lowered, declarations⟩, dependencies⟩ ⟨hmembers, hdeclarations⟩
    have hdispatch : ∀ allowed property, UnionDispatch.Wellformed allowed
        ⟨Name.pascal name, lowered, property, source, asked.exportWord⟩ := fun allowed property => {
      name := Name.isIdentifier_pascal name
      exportWord := ⟨asked, rfl⟩
      types := fun member hmember => (hmembers member hmember).1.rests
      tags := fun member hmember => (hmembers member hmember).2 }
    refine .pure ⟨hdeclarations, ?_, ?_, ?_⟩
    · exact rests_unionDeclaration asked schema.info _ (IsWord.pascal name) fun member hmember =>
        (hmembers member hmember).1
    · exact UnionDispatch.complete_functions (fun allowed => hdispatch allowed _) asked.unions
    · exact UnionDispatch.declaredName?_functions (hdispatch (fun _ => False) _) asked.unions

/-! ### Compositions -/

theorem composeReference (target : String) (parts : CompositionParts) :
    (composeReference target parts).Ensures (Spelled document options) fun named =>
      Silent named.1 ∧ (parts.Silent → named.2.Silent) :=
  .composeReference (Spelled.resolveReference h target)
    (fun _ hname => ⟨(IsWord.of_isIdentifier hname).rests, id⟩)
    fun _ hname => ⟨(IsWord.of_isIdentifier hname).rests, id⟩

omit h in
theorem rests_body {body : CompositionBody} (hbody : BodyWrites options Silent body) :
    body.Rests fun _ => False := by
  rcases body with expr | ⟨lines, properties⟩
  · exact hbody
  · obtain ⟨index, rfl, hproperties, hindex⟩ := hbody
    exact rests_memberLines options hproperties hindex

omit h in
/-- What is derived from a composed type beside its validator: at the top, the guard is declared by its own
text. -/
theorem spelled_assemble (source : Document) (asked : Options) (derive : Bool) (name : String)
    (schema : Schema) {body : CompositionBody} {parts : CompositionParts} (dependencies : List String)
    (hbody : body.Rests fun _ => False) (hparts : parts.Silent) :
    (assemble source asked derive (Name.pascal name) schema body parts dependencies).Spelled derive := by
  have hname : IsWord (Name.pascal name) := .pascal name
  have hvalidator : ∀ text ∈ ((compositionValidator? asked (Name.pascal name) schema.info body).map
      (·.content)).toList, Rests (fun _ => False) .closed text := by
    intro text htext
    obtain ⟨validator, hvalidator, rfl⟩ := Option.map_eq_some_iff.mp (Option.mem_toList.mp htext)
    unfold compositionValidator? at hvalidator
    split at hvalidator
    · exact Validation.rests_validator hname hvalidator
    · cases hvalidator
  refine ⟨rests_compositionContent asked schema.info parts.circularRefs hname hbody, hparts, ?_, ?_, ?_⟩
  · intro text htext
    simp only [assemble, utilityTypesFor] at htext
    split at htext
    · exact DerivedTypes.rests_aliases asked hname source schema text htext
    · cases htext
  · intro text htext
    have hmem := htext
    simp only [assemble, List.mem_append] at hmem
    rcases hmem with hmem | hmem
    · have hhelpers := hmem
      unfold structuralHelpersFor at hhelpers
      split at hhelpers
      · rename_i hderive
        refine DerivedTypes.rests_functions asked hname source schema (fun hflat _ => ?_) text hhelpers
        obtain ⟨shape, hshape⟩ := Option.ne_none_iff_exists'.mp hflat
        refine ⟨DerivedTypes.guard asked.exportWord (Name.pascal name) shape, ?_, ?_⟩
        · simp [assemble, structuralHelpersFor, hderive, DerivedTypes.functions, hshape]
        · rw [String.ofList_toList]
          exact declaredName?_function asked (Name.isIdentifier_append (by decide)
            (Name.all_continuesIdentifier (Name.isIdentifier_pascal name))) (Or.inl rfl)
            (by simp [DeclaresFunction, DerivedTypes.guard])
      · cases hhelpers
    · exact (hvalidator text hmem).mono fun _ => False.elim
  · rintro rfl text htext
    simp only [assemble, structuralHelpersFor, Bool.false_and, Bool.false_eq_true, if_false,
      List.nil_append] at htext
    exact hvalidator text htext

theorem composeUnion (derive : Bool) (name : String) (schema : Schema) :
    (composeUnion derive (Name.pascal name) schema).Ensures (Spelled document options)
      (Composition.Spelled derive) := by
  apply (lowerUnion h (Name.pascal name) schema).bind
  intro lowered hlowered
  apply Ensures.readDocument
  intro source
  apply Ensures.readOptions
  intro asked
  apply Ensures.pure
  refine ⟨hlowered.union, hlowered.members, ?_, ?_, ?_⟩
  · intro text htext
    simp only [utilityTypesFor] at htext
    split at htext
    · exact DerivedTypes.rests_aliases asked (.pascal name) source schema text htext
    · cases htext
  · intro text htext
    split at htext
    · obtain ⟨declaration, hdeclaration, rfl⟩ := List.mem_map.mp htext
      refine (hlowered.functions declaration hdeclaration).mono fun found hfound => ?_
      obtain ⟨other, hother, hname⟩ := List.mem_map.mp hfound
      rename_i hderive
      refine ⟨other.content, ?_, ?_⟩
      · simpa [hderive] using ⟨other, hother, rfl⟩
      · rw [hlowered.names other hother, hname]
    · cases htext
  · rintro rfl text htext
    cases htext

/-- What is composed is silent at every site, but for the functions derived at the top. -/
theorem compositionSound : CompositionInvariant.Sound
    { inv := Spelled document options
      writes := Silent
      adds := fun _ start final => start.Silent → final.Silent
      declares := fun derive _ => Composition.Spelled derive } options where
  toTells := tells
  closed := ⟨Silent, closed_silent⟩
  child _ _ := trivial
  claimName _ := (Spelled.claimName _).mono fun _ hname => ⟨trivial, (IsWord.of_isIdentifier hname).rests⟩
  typeExpression _ := Spelled.typeExpression h _
  collectDependencies hstep := (Spelled.collectDependencies hstep).mono fun _ hpost => ⟨hpost, trivial⟩
  refl _ := id
  trans hbetween hfinal hstart := hfinal (hbetween hstart)
  absorb _ hnested hparts declaration hdeclaration :=
    (List.mem_append.mp hdeclaration).elim (hparts declaration) (hnested.silent rfl declaration)
  reference {target _} parts _ := composeReference h target parts
  union derive {name schema} _ _ _ := composeUnion h derive name schema
  assemble derive {name kind info _ _ _ dependencies setting _} _ _ _ hparts _ hbody _ :=
    spelled_assemble setting.document options derive name ⟨kind, info⟩ dependencies (rests_body hbody)
      (hparts (by rintro _ ⟨⟩))

theorem compose (derive : Bool) (name : String) (schema : Schema) :
    (compose derive name schema).Ensures (Spelled document options) (Composition.Spelled derive) :=
  (compositionSound h).compose derive trivial trivial

/-! ### Enumerations and named schemas -/

omit h in
theorem lowerEnum (name : String) (schema : Schema) :
    (lowerEnum name schema).Ensures (Spelled document options) fun lowered =>
      CompleteBut options (some (Name.pascal name)) lowered.declarations := by
  apply Ensures.lowerEnum placeless
  · rintro setting store ⟨-, rfl, -⟩
    exact completeBut_bottomAlias setting.options (IsWord.pascal name)
  · rintro setting store ⟨-, rfl, -⟩ strategy
    have htext : EnumText.Wellformed ⟨Name.pascal name, EnumValue.all setting.options.enums (enumShapeOf schema),
        setting.options.exportWord, setting.options.generateComments⟩ := {
      name := Name.isIdentifier_pascal name
      values := EnumValue.wellformed_all
      exportWord := ⟨setting.options, rfl⟩ }
    exact htext.completeBut (Name.not_beginsSmall_pascal name) strategy schema.info

theorem declare (typeName : String) (schema : Schema) :
    (declare typeName schema).Ensures (Spelled document options) fun declarations =>
      CompleteBut options
        (if Operation.select schema = .enum then some (Name.pascal typeName) else none) declarations := by
  unfold Lowering.declare
  cases hoperation : Operation.select schema with
  | enum => exact .map (lowerEnum typeName schema)
  | union =>
    refine .map ((lowerUnion h typeName schema).mono fun lowered hlowered => ?_)
    exact .of_complete hlowered.complete
  | compose =>
    refine .map ((compose h true typeName schema).mono fun composed hcomposed => ?_)
    exact .of_complete hcomposed.complete
  | interface =>
    refine (declareInterface h typeName schema).mono fun declarations hdeclarations => ?_
    exact .of_complete (.of_silent hdeclarations)
  | _ =>
    refine .map ((lowerAlias h typeName schema).mono fun declaration hdeclaration => ?_)
    exact .of_complete (.of_silent (by simpa using hdeclaration))

theorem lowerNamed (entry : NamedSchema) :
    (lowerNamed entry).Ensures (Spelled document options) fun declarations =>
      CompleteBut options (Call.lowerNamed entry).enumName? declarations := by
  intro setting store hinv
  have hvisit : Spelled document options { setting with scope := setting.scope.visit entry.pointer } store :=
    ⟨hinv.source, hinv.asked, hinv.store⟩
  obtain ⟨hafter, hpost⟩ := declare h (Name.pascal entry.name) entry.schema _ store hvisit
  rw [runWith_lowerNamed, runWith_withVisited]
  rcases hrun : (Lowering.declare (Name.pascal entry.name) entry.schema).runWith
    { setting with scope := setting.scope.visit entry.pointer } store with ⟨error | declarations, inner⟩ <;>
      rw [hrun] at hafter hpost
  · refine ⟨⟨hinv.source, hinv.asked, hafter.store.forget entry.pointer⟩, ?_⟩
    rintro _ ⟨⟩
  · refine ⟨⟨hinv.source, hinv.asked, hafter.store.record (Name.isIdentifier_pascal entry.name)⟩, ?_⟩
    rintro _ ⟨⟩
    exact hpost declarations rfl

/-- Every call leaves recorded names identifiers, and what it declares is complete, but for the assertion. -/
theorem call (call : Call) : call.step.Ensures (Spelled document options) fun result =>
    CompleteBut options call.enumName? (call.declarations result) := by
  have hnone : CompleteBut options none [] := .of_complete (by rintro _ ⟨⟩)
  cases call with
  | describe schema => exact (Spelled.describe h schema).mono fun _ _ => hnone
  | resolveReference reference => exact (Spelled.resolveReference h reference).mono fun _ _ => hnone
  | lowerAlias name schema =>
    refine (lowerAlias h name schema).mono fun declaration hdeclaration => ?_
    exact .of_complete (.of_silent (by simpa [Call.declarations] using hdeclaration))
  | lowerInterface name schema =>
    refine (lowerInterface h name schema).mono fun lowered hlowered => ?_
    exact .of_complete (.of_silent (by
      simpa [Call.declarations, LoweredInterface.declarations] using hlowered.2))
  | lowerEnum name schema => exact lowerEnum name schema
  | lowerUnion name schema =>
    exact (lowerUnion h name schema).mono fun lowered hlowered => .of_complete hlowered.complete
  | compose name schema =>
    exact (compose h true name schema).mono fun composed hcomposed => .of_complete hcomposed.complete
  | lowerNamed entry => exact lowerNamed h entry

end Lowering.Spelled

/-! ## Contexts -/

namespace Context

variable {raw : Json} {document : Document} {options : Options} {context : Context}

/-- The contexts from which calls are made: a fresh one, those after calls, whether these succeed or fail, and
the same with any other scope. -/
inductive Called (document : Document) (options : Options) : Context → Prop
  | fresh : Called document options (.fresh document options)
  | elsewhere {context : Context} (h : Called document options context) (scope : Scope) :
    Called document options { context with scope }
  | after {context : Context} (h : Called document options context) (call : Call) :
    Called document options (context.run call.step).2

theorem Called.spelled (h : Document.ofJson raw = .ok document) (hcalled : Called document options context) :
    Spelled document options context.setting context.store := by
  induction hcalled with
  | fresh => exact ⟨rfl, rfl, Store.spelled_fresh⟩
  | elsewhere _ scope ih => exact ⟨ih.source, ih.asked, ih.store⟩
  | after _ call ih =>
    rw [run_eq]
    obtain ⟨hsource, hasked, hstore⟩ := (Spelled.call h call _ _ ih).1
    exact ⟨hsource, hasked, hstore⟩

/-- A companion that a declaration of a call refers to is one of its declarations, unless the options ask for
assertions about enumerations without asking for helpers: then the guard that the assertion calls is none. -/
theorem companions_declared (h : Document.ofJson raw = .ok document)
    (hcalled : Called document options context) (call : Call) {result : call.Result}
    (hrun : (context.run call.step).1 = .ok result) :
    ∀ declaration ∈ call.declarations result, ∀ companion ∈ declaration.companions,
      companion ∈ (call.declarations result).map (·.name) ↔
        ¬(options.enums.generateHelpers = false ∧ options.enums.generateValidation = true ∧
          ∃ typeName, call.enumName? = some typeName ∧ declaration.name = "assert" ++ typeName ∧
            companion = "is" ++ typeName) := by
  rw [run_eq] at hrun
  have hcomplete := (Spelled.call h call _ _ (hcalled.spelled h)).2 result hrun
  intro declaration hdeclaration companion hcompanion
  constructor
  · rintro hdeclared ⟨hhelpers, -, typeName, htypeName, -, rfl⟩
    exact hcomplete.guard hhelpers typeName htypeName hdeclared
  · intro hnone
    rcases hcomplete.rests declaration hdeclaration with hrests |
      ⟨hhelpers, hvalidation, typeName, htypeName, hname, hrests⟩
    · exact declares_toList.mp (declaration.allowed_companion hrests hcompanion)
    · rcases declaration.allowed_companion hrests hcompanion with hdeclared | hguard
      · exact declares_toList.mp hdeclared
      · exact absurd ⟨hhelpers, hvalidation, typeName, htypeName, hname, String.toList_inj.mp hguard⟩ hnone

/-- An identifier is a text or a number. -/
def idUnion : Json :=
  .obj [("$defs", .obj [("Id", .obj [("oneOf", .arr [.obj [("type", .str "string")],
    .obj [("type", .str "integer")]])])])]

/-- The fold over such a union calls the match, which is declared beside it. -/
theorem companions_declared_of_union : ∃ document entry declarations,
    Document.ofJson idUnion = .ok document ∧ Called document {} (fresh document {}) ∧
    ((fresh document {}).run (lowerNamed entry)).1 = .ok declarations ∧
    ∃ declaration ∈ declarations, "matchId" ∈ declaration.companions ∧
      "matchId" ∈ declarations.map (·.name) := by
  have hrun : ((Document.ofJson idUnion).toOption.any fun document =>
      document.named.head?.any fun entry =>
        ((fresh document {}).run (lowerNamed entry)).1.toOption.any fun declarations =>
          declarations.any fun declaration =>
            declaration.name == "foldId" && declaration.companions.contains "matchId") = true := by
    decide +kernel
  obtain ⟨document, hdocument, hrun⟩ := Decode.exists_ok_of_any hrun
  obtain ⟨entry, -, hentry⟩ := (Option.any_eq_true _ _).mp hrun
  obtain ⟨declarations, hlowered, hany⟩ := Decode.exists_ok_of_any hentry
  obtain ⟨declaration, hdeclaration, hcalls⟩ := List.any_eq_true.mp hany
  rw [Bool.and_eq_true, List.contains_iff_mem] at hcalls
  refine ⟨document, entry, declarations, hdocument, .fresh, hlowered, declaration, hdeclaration, hcalls.2, ?_⟩
  refine (companions_declared hdocument .fresh (.lowerNamed entry) hlowered declaration hdeclaration _
    hcalls.2).mpr ?_
  rintro ⟨hhelpers, -⟩
  cases hhelpers

/-- The assertion about an enumeration calls a guard that is not declared, if the options ask for no helpers. -/
theorem companion_undeclared_of_status : ∃ document entry declarations,
    Document.ofJson (.obj [("$defs", .obj [("Status", .obj [("enum", .arr [.str "a"])])])]) = .ok document ∧
    ((fresh document { enums := { generateHelpers := false, generateValidation := true } }).run
      (lowerNamed entry)).1 = .ok declarations ∧
    ∃ declaration ∈ declarations, "isStatus" ∈ declaration.companions ∧
      "isStatus" ∉ declarations.map (·.name) := by
  have hrun : ((Document.ofJson (.obj [("$defs", .obj [("Status", .obj [("enum",
      .arr [.str "a"])])])])).toOption.any fun document => document.named.head?.any fun entry =>
        ((fresh document { enums := { generateHelpers := false, generateValidation := true } }).run
          (lowerNamed entry)).1.toOption.any fun declarations => declarations.any fun declaration =>
            declaration.companions.contains "isStatus" &&
              !(declarations.map (·.name)).contains "isStatus") = true := by decide +kernel
  obtain ⟨document, hdocument, hrun⟩ := Decode.exists_ok_of_any hrun
  obtain ⟨entry, -, hentry⟩ := (Option.any_eq_true _ _).mp hrun
  obtain ⟨declarations, hlowered, hany⟩ := Decode.exists_ok_of_any hentry
  obtain ⟨declaration, hdeclaration, hcalls⟩ := List.any_eq_true.mp hany
  rw [Bool.and_eq_true, List.contains_iff_mem, Bool.not_eq_true', ← Bool.not_eq_true,
    List.contains_iff_mem] at hcalls
  exact ⟨document, entry, declarations, hdocument, hlowered, declaration, hdeclaration, hcalls⟩

end Context

end SchemaTypings
