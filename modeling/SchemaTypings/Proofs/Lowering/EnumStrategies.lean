import SchemaTypings.Lowering.Enum
import SchemaTypings.Proofs.Lowering.DerivedNames
import SchemaTypings.Proofs.Lowering.Ensures
import SchemaTypings.Proofs.Lowering.Moments
import SchemaTypings.Proofs.Typing.EnumCompanions
import SchemaTypings.Proofs.Typing.EnumValues

/-!
# Strategies of enumerations

The strategy decides how the type of an enumeration is declared and what stands beside it, and nothing else. The
array of the values is a companion of the constant tuple and one of the helpers of every other strategy, so that,
with helpers, all strategies declare the same names, and the array once (`Context.strategies_agree`).
-/

namespace SchemaTypings

open Typing

namespace Typing.EnumText

variable (text : EnumText) (options : EnumOptions) (strategy : EnumStrategy) (info : SchemaInfo)
  (default? : Option Json)

/-! ## Helpers -/

/-- The functions over the values, which all strategies have in common. -/
def functions : List Declaration :=
  (if options.generateHelpers then [text.guard, text.reader, text.readerWithDefault default?]
    ++ (if text.values.any (·.description.isSome) then [text.descriptionLookup] else [])
  else [])
    ++ (if options.generateValidation then [text.assertion] else [])

theorem helpers_eq : text.helpers options strategy default? =
    (if options.generateHelpers && strategy != .const then [text.valuesArray] else [])
      ++ text.functions options default? := by
  cases hhelpers : options.generateHelpers <;> cases strategy <;> simp [helpers, functions, hhelpers]

/-- A name made of that of the enumeration is not that of the array if the codes of the characters that are added
have another sum. -/
theorem ne_valuesName {name : String} (before after : String) (hname : name = before ++ text.name ++ after)
    (h : DerivedTypes.weight before + DerivedTypes.weight after ≠ DerivedTypes.weight "Values") :
    name ≠ text.valuesName := by
  intro hvalues
  have hweight := congrArg DerivedTypes.weight
    (hname.symm.trans (hvalues.trans (show text.valuesName = text.name ++ "Values" from rfl)))
  simp only [DerivedTypes.weight_append] at hweight
  omega

theorem name_ne_valuesName : text.name ≠ text.valuesName :=
  text.ne_valuesName "" "" (by simp) (by decide)

theorem name_functions : ∀ declaration ∈ text.functions options default?, declaration.name ≠ text.valuesName := by
  have hguard : text.guard.name ≠ text.valuesName :=
    text.ne_valuesName "is" "" String.append_empty.symm (by decide)
  have hreader : text.reader.name ≠ text.valuesName :=
    text.ne_valuesName "parse" "" String.append_empty.symm (by decide)
  have hdefault : (text.readerWithDefault default?).name ≠ text.valuesName :=
    text.ne_valuesName "parse" "OrDefault" rfl (by decide)
  have hlookup : text.descriptionLookup.name ≠ text.valuesName :=
    text.ne_valuesName "get" "Description" rfl (by decide)
  have hassertion : text.assertion.name ≠ text.valuesName :=
    text.ne_valuesName "assert" "" String.append_empty.symm (by decide)
  intro declaration hdeclaration
  simp only [functions, List.mem_append, List.mem_ite_nil_right, List.mem_cons, List.not_mem_nil, or_false]
    at hdeclaration
  rcases hdeclaration with ⟨-, (rfl | rfl | rfl) | ⟨-, rfl⟩⟩ | ⟨-, rfl⟩ <;> assumption

theorem name_mappings : ∀ declaration ∈ text.mappings, declaration.name ≠ text.valuesName := by
  intro declaration hdeclaration
  simp only [mappings, List.mem_cons, List.not_mem_nil, or_false] at hdeclaration
  rcases hdeclaration with rfl | rfl
  · exact text.ne_valuesName "" "DisplayNames" (by rw [String.empty_append]; rfl) (by decide)
  · exact text.ne_valuesName "" "Keys" (by rw [String.empty_append]; rfl) (by decide)

theorem filter_helpers : (text.helpers options strategy default?).filter (·.name != text.valuesName) =
    text.functions options default? := by
  have hfunctions : (text.functions options default?).filter (·.name != text.valuesName) =
      text.functions options default? :=
    List.filter_eq_self.mpr fun declaration hdeclaration =>
      bne_iff_ne.mpr (text.name_functions options default? declaration hdeclaration)
  rw [helpers_eq, List.filter_append, hfunctions]
  split
  · simp [show text.valuesArray.name = text.valuesName from rfl]
  · rfl

/-! ## Names -/

/-- What is declared under other names than those of the enumeration and of the array. -/
def others : List Declaration :=
  text.functions options info.default? ++ if options.generateMapping then text.mappings else []

/-- With helpers, each strategy declares the name of the enumeration once or twice, that of the array, and the
others. -/
theorem perm_names_all (hhelpers : options.generateHelpers = true) : ∃ own : List String, own ⊆ [text.name] ∧
    ((text.all options strategy info).map (·.name)).Perm
      (text.name :: own ++ text.valuesName :: (text.others options info).map (·.name)) := by
  have hall : text.all options strategy info = (text.declarations strategy info).1 ::
      ((text.declarations strategy info).2 ++ (if strategy != .const then [text.valuesArray] else [])
        ++ text.others options info) := by
    simp only [all, others, helpers_eq, hhelpers, Bool.true_and, List.append_assoc]
  rw [hall]
  cases strategy with
  | union => exact ⟨[text.name], List.Subset.refl _, .refl _⟩
  | enum => exact ⟨[], List.nil_subset _, .refl _⟩
  | const => exact ⟨[text.name], List.Subset.refl _, .cons _ (.swap _ _ _)⟩
  | branded => exact ⟨[text.name], List.Subset.refl _, .refl _⟩

theorem mem_names_all (hhelpers : options.generateHelpers = true) {name : String} :
    name ∈ (text.all options strategy info).map (·.name) ↔
      name = text.name ∨ name = text.valuesName ∨ name ∈ (text.others options info).map (·.name) := by
  obtain ⟨own, hown, hperm⟩ := text.perm_names_all options strategy info hhelpers
  have howned : name ∈ own → name = text.name := fun hmem => List.mem_singleton.mp (hown hmem)
  rw [hperm.mem_iff, List.mem_append, List.mem_cons, List.mem_cons, or_iff_left_of_imp howned]

theorem count_valuesName (hhelpers : options.generateHelpers = true) :
    ((text.all options strategy info).map (·.name)).count text.valuesName = 1 := by
  obtain ⟨own, hown, hperm⟩ := text.perm_names_all options strategy info hhelpers
  have hbefore : text.valuesName ∉ text.name :: own := by
    intro hmem
    have hname : text.valuesName ∈ [text.name] := List.cons_subset.mpr ⟨List.mem_cons_self, hown⟩ hmem
    exact text.name_ne_valuesName (List.mem_singleton.mp hname).symm
  have hafter : text.valuesName ∉ (text.others options info).map (·.name) := by
    intro hmem
    obtain ⟨declaration, hdeclaration, hname⟩ := List.mem_map.mp hmem
    rcases List.mem_append.mp hdeclaration with hfunction | hmapping
    · exact text.name_functions options info.default? declaration hfunction hname
    · exact text.name_mappings declaration (List.mem_ite_nil_right.mp hmapping).2 hname
  rw [hperm.count_eq, List.count_append, List.count_eq_zero.mpr hbefore, List.count_cons_self,
    List.count_eq_zero.mpr hafter]

end Typing.EnumText

namespace Context

open LowerM Lowering

variable {context other : Context} {schema : Schema} {shape : EnumShape} {strategy : EnumStrategy}

/-- What is written about an enumeration, whatever the strategy. -/
def enumText (options : Options) (name : String) (shape : EnumShape) : EnumText :=
  ⟨Name.pascal name, EnumValue.all options.enums shape, options.exportWord, options.generateComments⟩

/-- Values are lowered by some strategy. -/
theorem exists_lowered_values (name : String) (values : List EnumValue) (info : SchemaInfo) (setting : Setting)
    (store : Store) : ∃ strategy, ((lowerEnumValues name values info).runWith setting store).1 = .ok
      (EnumText.lowered ⟨name, values, setting.options.exportWord, setting.options.generateComments⟩
        setting.options.enums strategy info) := by
  obtain ⟨strategy, after, hchoice⟩ : ∃ strategy after,
      (chooseStrategy name values).runWith setting store = (.ok strategy, after) := by
    simp only [chooseStrategy, runWith_bind, runWith_options]
    split <;> exact ⟨_, _, rfl⟩
  refine ⟨strategy, ?_⟩
  rw [lowerEnumValues, runWith_bind, hchoice]
  rfl

/-- An enumeration with a value is lowered by some strategy. -/
theorem exists_lowered (context : Context) (name : String) (hkind : schema.kind = .enum shape)
    (hvalues : shape.values ≠ []) : ∃ strategy, (context.run (lowerEnum name schema)).1 =
      .ok ((enumText context.options name shape).lowered context.options.enums strategy schema.info) := by
  have hshape : enumShapeOf schema = shape := by rw [enumShapeOf, hkind]
  have hall : (EnumValue.all context.options.enums shape).isEmpty = false := by
    rw [List.isEmpty_eq_false_iff, ← List.length_pos_iff, EnumValue.length_all]
    exact List.length_pos_iff.mpr hvalues
  have hlower : (lowerEnum name schema).runWith context.setting context.store =
      (lowerEnumValues (Name.pascal name) (EnumValue.all context.options.enums shape) schema.info).runWith
        { context.setting with scope := context.scope.push (Name.pascal name) } context.store := by
    simp only [lowerEnum, runWith_withSegment, runWith_bind, runWith_options, setting, hshape, hall]
    rfl
  rw [run_eq, hlower]
  exact exists_lowered_values _ _ _ _ _

/-- Two contexts whose options differ in the strategy lower an enumeration with a value to the same values and
mappings, and to the same helpers but for the array of the values. With helpers, they declare the same names, and
the array once. -/
theorem strategies_agree (name : String)
    (hoptions : other.options = { context.options with enumType := strategy })
    (hkind : schema.kind = .enum shape) (hvalues : shape.values ≠ []) : ∃ result result',
    (context.run (lowerEnum name schema)).1 = .ok result ∧
    (other.run (lowerEnum name schema)).1 = .ok result' ∧
    result'.values = result.values ∧ result'.mappings = result.mappings ∧
    result'.helpers.filter (·.name != Name.pascal name ++ "Values") =
      result.helpers.filter (·.name != Name.pascal name ++ "Values") ∧
    (context.options.enums.generateHelpers = true →
      (∀ declared, declared ∈ result'.declarations.map (·.name) ↔ declared ∈ result.declarations.map (·.name)) ∧
      (result.declarations.map (·.name)).count (Name.pascal name ++ "Values") = 1 ∧
      (result'.declarations.map (·.name)).count (Name.pascal name ++ "Values") = 1) := by
  obtain ⟨used, hrun⟩ := exists_lowered context name hkind hvalues
  obtain ⟨used', hrun'⟩ := exists_lowered other name hkind hvalues
  -- what is written about the enumeration does not depend on the strategy of the options
  have htext : enumText other.options name shape = enumText context.options name shape := by
    rw [hoptions]
    rfl
  have henums : other.options.enums = context.options.enums := by rw [hoptions]
  rw [htext, henums] at hrun'
  have hname : Name.pascal name ++ "Values" = (enumText context.options name shape).valuesName := rfl
  rw [hname]
  generalize enumText context.options name shape = text at hrun hrun'
  refine ⟨_, _, hrun, hrun', rfl, rfl, ?_, fun hhelpers => ?_⟩
  · exact (text.filter_helpers _ used' _).trans (text.filter_helpers _ used _).symm
  · have hdeclarations : ∀ used, (text.lowered context.options.enums used schema.info).declarations =
        text.all context.options.enums used schema.info := fun _ => rfl
    rw [hdeclarations, hdeclarations]
    exact ⟨fun declared => (text.mem_names_all _ _ _ hhelpers).trans (text.mem_names_all _ _ _ hhelpers).symm,
      text.count_valuesName _ _ _ hhelpers, text.count_valuesName _ _ _ hhelpers⟩

/-- An enumeration of a text and a truth value as a constant tuple, and by the strategy `enum`, which gives way to a
union of literals. -/
theorem strategies_agree_of_mixed : ∃ document flag shape,
    Document.ofJson (.obj [("$defs", .obj [("flag", .obj [("enum", .arr [.str "on", .bool true])])])]) = .ok document ∧
    document.named = [flag] ∧ flag.schema.kind = .enum shape ∧ shape.values ≠ [] ∧
    ({ enumType := .enum } : Options) = { ({ enumType := .const } : Options) with enumType := .enum } ∧
    ∃ result result',
      ((fresh document { enumType := .const }).run (lowerEnum flag.name flag.schema)).1 = .ok result ∧
      ((fresh document { enumType := .enum }).run (lowerEnum flag.name flag.schema)).1 = .ok result' ∧
      result'.values = result.values ∧ result'.mappings = result.mappings ∧
      result'.helpers.filter (·.name != Name.pascal "flag" ++ "Values") =
        result.helpers.filter (·.name != Name.pascal "flag" ++ "Values") ∧
      (∀ declared, declared ∈ result'.declarations.map (·.name) ↔ declared ∈ result.declarations.map (·.name)) ∧
      (result.declarations.map (·.name)).count (Name.pascal "flag" ++ "Values") = 1 ∧
      (result'.declarations.map (·.name)).count (Name.pascal "flag" ++ "Values") = 1 := by
  let shape : EnumShape := { values := [.str "on", .bool true], descriptions := [none, none] }
  let flag : Schema := ⟨.enum shape, { constraints := { allowed := some shape.values } }⟩
  let document : Document := ⟨.obj [("$defs", .obj [("flag", .obj [("enum", .arr [.str "on", .bool true])])])],
    [⟨"flag", "#/$defs/flag", flag⟩], []⟩
  have hoptions : (fresh document { enumType := .enum }).options =
      { (fresh document { enumType := .const }).options with enumType := .enum } := rfl
  have hkind : flag.kind = .enum shape := rfl
  obtain ⟨result, result', hrun, hrun', hvalues, hmappings, hhelpers, hnames⟩ :=
    strategies_agree "flag" hoptions hkind (by simp [shape])
  exact ⟨document, _, shape, rfl, rfl, rfl, by simp [shape], rfl, result, result', hrun, hrun', hvalues, hmappings,
    hhelpers, hnames rfl⟩

end Context

end SchemaTypings
