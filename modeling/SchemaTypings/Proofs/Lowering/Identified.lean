import SchemaTypings.Proofs.Lowering.Companions
import SchemaTypings.Proofs.Lowering.EnumStrategies
import SchemaTypings.Proofs.Lowering.ObjectValidators

/-!
# Declarations are named by identifiers

A declaration has a type name for its name, or one that is made of it by putting words before or after it, or the
one that is recovered from its text. All of these are identifiers, whatever the schema is named, and whatever its
descriptions and literals hold (`Spelled.identified_declare`). Only the guards of a union take over names from
elsewhere: those of the references that are its members.
-/

namespace SchemaTypings

open LowerM Lowering Typing

/-! ## Names of declarations -/

namespace Typing

variable {declarations others : List Declaration} {text name : String} {cs found : List Char}

/-- All declarations are named by identifiers. -/
def Identified (declarations : List Declaration) : Prop :=
  ∀ declaration ∈ declarations, Name.isIdentifier declaration.name = true

namespace Identified

theorem nil : Identified [] := by
  rintro _ ⟨⟩

theorem cons {declaration : Declaration} (hname : Name.isIdentifier declaration.name = true)
    (h : Identified declarations) : Identified (declaration :: declarations) :=
  List.forall_mem_cons.mpr ⟨hname, h⟩

theorem append (h : Identified declarations) (h' : Identified others) : Identified (declarations ++ others) :=
  List.forall_mem_append.mpr ⟨h, h'⟩

end Identified

theorem isIdentifierChars_leadingIdentifier? (h : leadingIdentifier? cs = some found) :
    Name.isIdentifierChars found = true := by
  cases cs with
  | nil => cases h
  | cons first rest =>
    rw [leadingIdentifier?] at h
    split at h
    · rename_i hstarts
      cases h
      rw [Name.isIdentifierChars, hstarts, List.all_takeWhile]
      rfl
    · cases h

/-- A name that is recovered from a text is an identifier. -/
theorem isIdentifier_declaredName? (h : declaredName? text = some name) : Name.isIdentifier name = true := by
  have hkeyword : ∀ cs found, nameAfterKeyword? cs = some found → Name.isIdentifierChars found = true := by
    intro cs found hfound
    obtain ⟨keyword, -, hbehind⟩ := List.exists_of_findSome?_eq_some hfound
    obtain ⟨rest, -, hrest⟩ := Option.bind_eq_some_iff.mp hbehind
    exact isIdentifierChars_leadingIdentifier? hrest
  have hfrom : ∀ withinWord found, declaredNameFrom withinWord text.toList = some found →
      Name.isIdentifierChars found = true := by
    generalize text.toList = cs
    induction cs with
    | nil => rintro _ _ ⟨⟩
    | cons c rest ih =>
      intro withinWord found hfound
      rw [declaredNameFrom] at hfound
      cases hhere : (if withinWord then none else nameAfterKeyword? (c :: rest)) with
      | none => exact ih _ found (by simpa [hhere] using hfound)
      | some here =>
        obtain rfl : here = found := by simpa [hhere] using hfound
        cases withinWord with
        | true => cases hhere
        | false => exact hkeyword _ _ hhere
  obtain ⟨found, hfound, rfl⟩ := Option.map_eq_some_iff.mp h
  rw [Name.isIdentifier, String.toList_ofList]
  exact hfrom false found hfound

/-! ### Enumerations -/

theorem EnumText.identified_all (text : EnumText) (options : EnumOptions) (strategy : EnumStrategy)
    (info : SchemaInfo) (hname : Name.isIdentifier text.name = true) :
    Identified (text.all options strategy info) := by
  have hbefore : ∀ word, Name.isIdentifier word = true → Name.isIdentifier (word ++ text.name) = true :=
    fun _ => DerivedTypes.isIdentifier_before hname
  have hvalues : Name.isIdentifier text.valuesName = true := Name.isIdentifier_append hname (by decide)
  have htype : Identified ((text.declarations strategy info).1 :: (text.declarations strategy info).2) := by
    cases strategy with
    | union | branded => exact .cons hname (.cons hname .nil)
    | enum => exact .cons hname .nil
    | const => exact .cons hname (.cons hvalues (.cons hname .nil))
  have hhelpers : Identified (text.helpers options strategy info.default?) := by
    have hguard : Name.isIdentifier text.guard.name = true := hbefore "is" (by decide)
    have hreader : Name.isIdentifier text.reader.name = true := hbefore "parse" (by decide)
    have hdefault : Name.isIdentifier (text.readerWithDefault info.default?).name = true :=
      Name.isIdentifier_append hreader (by decide)
    have hlookup : Name.isIdentifier text.descriptionLookup.name = true :=
      Name.isIdentifier_append (hbefore "get" (by decide)) (by decide)
    have hassertion : Name.isIdentifier text.assertion.name = true := hbefore "assert" (by decide)
    intro declaration hdeclaration
    simp only [EnumText.helpers, List.mem_append, List.mem_ite_nil_left, List.mem_ite_nil_right, List.mem_cons,
      List.not_mem_nil, or_false] at hdeclaration
    rcases hdeclaration with ⟨-, (⟨-, rfl⟩ | rfl | rfl | rfl) | ⟨-, rfl⟩⟩ | ⟨-, rfl⟩ <;> assumption
  have hmappings : Identified text.mappings :=
    .cons (Name.isIdentifier_append hname (by decide)) (.cons (Name.isIdentifier_append hname (by decide)) .nil)
  rw [EnumText.all, ← List.cons_append, ← List.cons_append]
  refine (htype.append hhelpers).append ?_
  split
  · exact hmappings
  · exact .nil

end Typing

/-! ### Composed types -/

/-- What a composed type declares is named by identifiers if its parts are. -/
theorem Composition.identified {composed : Composition} (hname : Name.isIdentifier composed.typeName = true)
    (h : Identified composed.intermediates) : Identified composed.declarations := by
  have hderived : ∀ kind text, Name.isIdentifier (composed.derived kind text).name = true := by
    intro kind text
    rw [derived]
    dsimp only
    cases hfound : declaredName? text with
    | none => exact hname
    | some found => exact isIdentifier_declaredName? hfound
  refine h.append (.cons hname (.append ?_ ?_)) <;>
  · rw [Identified, List.forall_mem_map]
    exact fun text _ => hderived _ text

/-! ## Steps -/

namespace LowerM.Ensures

variable {inv weaker : Setting → Store → Prop} {α : Type} {step : LowerM α} {post result : α → Prop}

/-- What a step gives under a weaker invariant may be added. -/
theorem adding (h : step.Ensures inv post) (hweaker : ∀ {setting store}, inv setting store → weaker setting store)
    (h' : step.Ensures weaker result) : step.Ensures inv fun value => post value ∧ result value := by
  intro setting store hinv
  obtain ⟨hafter, hpost⟩ := h setting store hinv
  exact ⟨hafter, fun value hvalue => ⟨hpost value hvalue, (h' setting store (hweaker hinv)).2 value hvalue⟩⟩

end LowerM.Ensures

namespace Lowering

variable {document : Document} {options : Options}

/-! ### Objects and aliases -/

theorem identified_declareInterface (name : String) (schema : Schema) :
    (declareInterface name schema).Ensures (Over document options) Identified := by
  have hlowered : (lowerInterface name schema).Ensures (Over document options) fun lowered =>
      Name.isIdentifier lowered.name = true ∧ Name.isIdentifier lowered.declaration.name = true := by
    refine (Over.any _).bind fun lowered _ => Over.readOptions (.pure ⟨Name.isIdentifier_pascal name, ?_⟩)
    rw [(introduces_interfaceDeclaration _ _ _ _ _ _).1]
    exact Name.isIdentifier_pascal name
  refine hlowered.bind ?_
  rintro lowered ⟨hname, hdeclaration⟩
  refine Over.readOptions (.pure (.append (.cons hdeclaration .nil) ?_))
  intro validator hvalidator
  rw [Option.mem_toList, LoweredInterface.validator?, Validation.validator?_eq] at hvalidator
  split at hvalidator
  · cases hvalidator
  · cases hvalidator
    have hword : Name.isIdentifier "validate" = true := by decide
    exact DerivedTypes.isIdentifier_before hname hword

theorem identified_lowerAlias (name : String) (schema : Schema) :
    (lowerAlias name schema).Ensures (Over document options) fun declaration => Identified [declaration] :=
  (Over.any _).bind fun _ _ => Over.readOptions (.pure (.cons (Name.isIdentifier_pascal name) .nil))

/-! ### Enumerations -/

theorem identified_lowerEnum (name : String) (schema : Schema) :
    (lowerEnum name schema).Ensures (Over document options) fun lowered => Identified lowered.declarations := by
  apply Ensures.lowerEnum Over.placeless
  · exact fun _ _ _ => .cons (Name.isIdentifier_pascal name) .nil
  · rintro setting store ⟨-, rfl⟩ strategy
    exact EnumText.identified_all _ setting.options.enums strategy schema.info (Name.isIdentifier_pascal name)

/-! ### Unions -/

theorem identified_lowerMember (union : String) (discriminator : Option ResolvedDiscriminator) (index : Nat)
    (member : Schema) : (lowerMember union discriminator index member).Ensures (Over document options)
      fun lowered => Identified lowered.2 := by
  apply Ensures.lowerMember Over.placeless
  rintro setting store ⟨rfl, rfl⟩ step hform
  cases hform with
  | interface shape info =>
    refine (Over.any _).bind fun part _ => ?_
    exact (identified_declareInterface part _).bind fun _ hdeclarations => .pure hdeclarations
  | typeAlias =>
    refine (Over.any _).bind fun part _ => ?_
    exact (Ensures.map (identified_lowerAlias part _)).bind fun _ hdeclarations => .pure hdeclarations
  | _ => exact (Over.any _).bind fun _ _ => .pure .nil

theorem identified_lowerMembers (union : String) (discriminator : Option ResolvedDiscriminator)
    (members : List Schema) : (lowerMembers union discriminator members).Ensures (Over document options)
      fun lowered => Identified lowered.2 := by
  refine Ensures.mono (Ensures.lowerMembers_each (P := fun _ => True) fun item _ => ?_) fun _ => And.right
  exact (identified_lowerMember union discriminator item.2 item.1).mono fun _ hdeclarations =>
    ⟨trivial, hdeclarations⟩

/-- The types that a union declares; its functions are named with the tags of the members. -/
theorem identified_lowerUnion (name : String) (schema : Schema) :
    (lowerUnion name schema).Ensures (Over document options) fun lowered =>
      Identified lowered.memberDeclarations ∧ Name.isIdentifier lowered.declaration.name = true := by
  apply Ensures.lowerUnion Over.placeless
  · intro _ asked
    exact ⟨.nil, Name.isIdentifier_pascal name⟩
  · intro _
    apply Over.readDocument
    apply Over.readOptions
    have hmembers : (lowerMembers (Name.pascal name) (discriminatorOf? document options schema)
        (unionMembersOf schema)).Ensures (Over document options) fun lowered => Identified lowered.2 :=
      identified_lowerMembers _ _ _
    refine (Over.collectDependencies hmembers).bind fun collected hdeclarations => .pure ?_
    exact ⟨hdeclarations, Name.isIdentifier_pascal name⟩

/-! ### Compositions -/

theorem intermediates_composeReference (target : String) (parts : CompositionParts) :
    (composeReference target parts).Ensures (Over document options) fun named =>
      named.2.intermediates = parts.intermediates :=
  .composeReference (Over.any _) (fun _ _ => rfl) fun _ _ => rfl

/-- Names are identifiers at every site of a composition. -/
theorem identifiedRules : CompositionRules document options (Over document options)
    (fun _ start final => Identified start.intermediates → Identified final.intermediates)
    fun _ composed => Identified composed.declarations where
  toTells := Over.tells
  source h := h.1
  claimName _ := Over.any _
  typeExpression _ := Over.any _
  collectDependencies := Over.collectDependencies
  refl _ := id
  trans h h' hstart := h' (h hstart)
  absorb _ h hstart := hstart.append h
  reference target _ parts :=
    (intermediates_composeReference target parts).mono fun _ hsame hstart => hsame ▸ hstart
  union derive name {schema} _ := by
    refine (identified_lowerUnion (Name.pascal name) schema).bind fun union hunion => ?_
    refine Over.readDocument (Over.readOptions (.pure ?_))
    exact Composition.identified (Name.isIdentifier_pascal name) hunion.1
  assemble derive name {_ _ _ _ _} _ _ hparts _ :=
    Composition.identified (Name.isIdentifier_pascal name) (hparts .nil)

/-! ### Named schemas -/

theorem identified_declare (typeName : String) {schema : Schema} (hunion : Operation.select schema ≠ .union) :
    (declare typeName schema).Ensures (Over document options) Identified := by
  unfold declare
  cases hoperation : Operation.select schema with
  | enum => exact .map (identified_lowerEnum typeName schema)
  | union => exact absurd hoperation hunion
  | compose => exact .map (identifiedRules.compose true typeName schema)
  | interface => exact identified_declareInterface typeName schema
  | _ => exact .map (identified_lowerAlias typeName schema)

/-- Whatever is declared for a schema is named by identifiers, if the recorded names are identifiers. -/
theorem Spelled.identified_declare {raw : Json} (h : Document.ofJson raw = .ok document) (typeName : String)
    (schema : Schema) : (Lowering.declare typeName schema).Ensures (Spelled document options) Identified := by
  have hover : ∀ {setting store}, Spelled document options setting store → Over document options setting store :=
    fun hspelled => ⟨hspelled.source, hspelled.asked⟩
  by_cases hunion : Operation.select schema = .union
  · unfold Lowering.declare
    rw [hunion]
    refine .map (((Spelled.lowerUnion h typeName schema).adding hover
      (identified_lowerUnion typeName schema)).mono ?_)
    rintro lowered ⟨hspelled, hmembers, hname⟩
    refine hmembers.append (.cons hname fun declaration hdeclaration => ?_)
    exact isIdentifier_declaredName? (hspelled.names declaration hdeclaration)
  · exact ((Spelled.declare h typeName schema).adding hover (Lowering.identified_declare typeName hunion)).mono
      fun _ => And.right

end Lowering

end SchemaTypings
