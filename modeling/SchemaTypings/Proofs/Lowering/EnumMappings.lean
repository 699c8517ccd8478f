import Mathlib.Data.List.Nodup
import SchemaTypings.Proofs.Json.Texts
import SchemaTypings.Proofs.Lowering.EnumStrategies
import SchemaTypings.Proofs.Lowering.InferredUnions

/-!
# Maps of enumerations

The maps that are written about an enumeration, to the keys of its values and to names for display, have an entry
for each value under its plain text. Values that are not equal have one plain text where a string spells the other
value, and there the maps have a property twice. Otherwise they are functions of the values
(`Context.mappings_apart_iff`).
-/

namespace SchemaTypings

open Typing

namespace Typing

/-- The line of an entry: the property as it is written, and the text that it is mapped to. -/
def entryLine (entry : String × String) : String :=
  s!"  {entry.1}: {quoted entry.2},\n"

/-- The text of a constant object that has the entries, each on a line of its own. -/
def mapText (exportWord name valueType : String) (entries : List (String × String)) : String :=
  s!"{exportWord}const {name}: Readonly<Record<string, {valueType}>> = \x7b\n"
    ++ String.join (entries.map entryLine) ++ "\x7d;"

/-- The declaration is that of a constant object with the entries. -/
structure Declaration.Maps (declaration : Declaration) (exportWord declared valueType : String)
    (entries : List (String × String)) : Prop where
  name : declaration.name = declared
  kind : declaration.kind = .const
  content : declaration.content = mapText exportWord declared valueType entries

namespace EnumValue

variable {options : EnumOptions} {shape : EnumShape} {values : List EnumValue}

/-- The property under which a value is entered. -/
def property (value : EnumValue) : String :=
  Name.propertyKey value.json.plainText

/-- The entries of the values, each mapped to what is made of it. -/
def entries (made : EnumValue → String) (values : List EnumValue) : List (String × String) :=
  values.map fun value => (value.property, made value)

theorem map_fst_entries (made : EnumValue → String) : (entries made values).map Prod.fst = values.map property := by
  rw [entries, List.map_map]
  rfl

theorem perm_json_all : ((all options shape).map (·.json)).Perm shape.values := by
  have hjson : (all options shape).map (·.json) = (places options shape).map Prod.fst := by
    rw [← List.forall₂_eq_eq_eq, List.forall₂_map_left_iff, List.forall₂_map_right_iff]
    exact forall₂_isAt.flip.imp fun _ _ hat => hat.json
  have hplaces : (places options shape).Perm shape.values.zipIdx := perm_places
  rw [hjson]
  simpa using hplaces.map Prod.fst

theorem nodup_keys_all : ((all options shape).map (·.key)).Nodup := by
  rw [all_eq]
  exact nodup_keys_distinguish List.nodup_nil

/-- Each value has a property of its own unless a string spells another value. -/
theorem nodup_properties_iff (hwellformed : ∀ value ∈ shape.values, value.Wellformed)
    (hunequal : shape.values.Pairwise fun value other => value.equals other = false) :
    ((all options shape).map property).Nodup ↔
      shape.values.Pairwise fun value other => ¬(value.SpelledBy other ∨ other.SpelledBy value) := by
  have htexts : ((all options shape).map property).Perm
      (shape.values.map fun value => Name.propertyKey value.plainText) := by
    have hjson : ((all options shape).map (·.json)).Perm shape.values := perm_json_all
    have hmapped := hjson.map fun value => Name.propertyKey value.plainText
    rwa [List.map_map] at hmapped
  rw [htexts.nodup_iff, List.Nodup, List.pairwise_map]
  refine pairwise_iff_pairwise (List.Pairwise.imp_of_mem (fun hvalue hother hpair => ?_) hunequal)
  rw [Name.propertyKey_injective.ne_iff]
  exact not_congr (Json.plainText_eq_iff (hwellformed _ hvalue) (hwellformed _ hother) hpair)

/-- Of values that have keys of their own, the entries map each to its key if no two have one property. -/
theorem keys_entered_iff (hkeys : (values.map (·.key)).Nodup) :
    (∀ value ∈ values, ∀ key, (value.property, key) ∈ entries (·.key) values → key = value.key) ↔
      (values.map property).Nodup := by
  have hvalues : values.Nodup := hkeys.of_map
  rw [List.nodup_map_iff_inj_on hvalues]
  constructor
  · intro hentered value hvalue other hother hproperty
    have hentry : (value.property, other.key) ∈ entries (·.key) values :=
      List.mem_map.mpr ⟨other, hother, by rw [hproperty]⟩
    have hkey : other.key = value.key := hentered value hvalue other.key hentry
    exact List.inj_on_of_nodup_map hkeys hvalue hother hkey.symm
  · intro hinj value hvalue key hentry
    obtain ⟨other, hother, heq⟩ := List.mem_map.mp hentry
    obtain ⟨hproperty, rfl⟩ := Prod.mk.inj heq
    rw [hinj other hother value hvalue hproperty]

end EnumValue

namespace EnumText

variable (text : EnumText)

theorem maps_mapping (name valueType : String) (made : EnumValue → String) :
    (text.mapping name valueType made).Maps text.exportWord name valueType (EnumValue.entries made text.values) where
  name := rfl
  kind := rfl
  content := by
    have hlines : (EnumValue.entries made text.values).map entryLine = text.values.map fun value =>
        s!"  {Name.propertyKey value.json.plainText}: {quoted (made value)},\n" := by
      rw [EnumValue.entries, List.map_map]
      rfl
    rw [mapText, hlines]
    simp only [mapping, about, toString, String.append_assoc]

end EnumText

end Typing

namespace Context

open Lowering

variable {schema : Schema} {shape : EnumShape}

/-- Of unequal values, the maps have each under a property of its own, and to its own key, if and only if no value
is a string that spells another. -/
theorem mappings_apart_iff (context : Context) (name : String) (hkind : schema.kind = .enum shape)
    (hvalues : shape.values ≠ []) (hwellformed : ∀ value ∈ shape.values, value.Wellformed)
    (hunequal : shape.values.Pairwise fun value other => value.equals other = false)
    (hmapping : context.options.enums.generateMapping = true) : ∃ result displayNames keys,
    (context.run (lowerEnum name schema)).1 = .ok result ∧
    result.mappings = [displayNames, keys] ∧
    (result.values.map (·.json)).Perm shape.values ∧
    (result.values.map (·.key)).Nodup ∧
    let typeName := Name.pascal name
    let titles := EnumValue.entries (fun value => Name.title value.json.plainText) result.values
    let keyed := EnumValue.entries (·.key) result.values
    let apart := shape.values.Pairwise fun value other => ¬(value.SpelledBy other ∨ other.SpelledBy value)
    displayNames.Maps context.options.exportWord (typeName ++ "DisplayNames") "string" titles ∧
    keys.Maps context.options.exportWord (typeName ++ "Keys") s!"keyof typeof {typeName}" keyed ∧
    ((titles.map Prod.fst).Nodup ↔ apart) ∧ ((keyed.map Prod.fst).Nodup ↔ apart) ∧
    ((∀ value ∈ result.values, ∀ key, (value.property, key) ∈ keyed → key = value.key) ↔ apart) := by
  obtain ⟨strategy, hrun⟩ := exists_lowered context name hkind hvalues
  let text := enumText context.options name shape
  have hmappings : (text.lowered context.options.enums strategy schema.info).mappings = text.mappings := by
    rw [EnumText.lowered, hmapping, if_pos rfl]
  have hproperties : (text.values.map EnumValue.property).Nodup ↔ _ :=
    EnumValue.nodup_properties_iff hwellformed hunequal
  refine ⟨_, _, _, hrun, hmappings, EnumValue.perm_json_all, EnumValue.nodup_keys_all, ?_⟩
  intro typeName titles keyed apart
  refine ⟨text.maps_mapping _ _ _, text.maps_mapping _ _ _, ?_, ?_, ?_⟩
  · rw [EnumValue.map_fst_entries]
    exact hproperties
  · rw [EnumValue.map_fst_entries]
    exact hproperties
  · exact (EnumValue.keys_entered_iff EnumValue.nodup_keys_all).trans hproperties

/-- The number one and the text `1` are entered under one property, in both maps, and not both to their own keys. -/
theorem mappings_meet_of_ones : ∃ document code shape,
    Document.ofJson (.obj [("$defs", .obj [("Code", .obj [("enum", .arr [.int 1, .str "1"])])])]) = .ok document ∧
    document.named = [code] ∧ code.schema.kind = .enum shape ∧ shape.values = [.int 1, .str "1"] ∧
    shape.values.Pairwise (fun value other => value.equals other = false) ∧ ∃ result displayNames keys,
      ((fresh document { enums := { generateMapping := true } }).run (lowerEnum code.name code.schema)).1 =
        .ok result ∧
      result.mappings = [displayNames, keys] ∧
      let titles := EnumValue.entries (fun value => Name.title value.json.plainText) result.values
      let keyed := EnumValue.entries (·.key) result.values
      displayNames.Maps "export " "CodeDisplayNames" "string" titles ∧
      keys.Maps "export " "CodeKeys" "keyof typeof Code" keyed ∧
      ¬(titles.map Prod.fst).Nodup ∧ ¬(keyed.map Prod.fst).Nodup ∧
      ¬∀ value ∈ result.values, ∀ key, (value.property, key) ∈ keyed → key = value.key := by
  let shape : EnumShape := { values := [.int 1, .str "1"], descriptions := [none, none] }
  let code : Schema := ⟨.enum shape, { constraints := { allowed := some shape.values } }⟩
  let document : Document := ⟨.obj [("$defs", .obj [("Code", .obj [("enum", .arr [.int 1, .str "1"])])])],
    [⟨"Code", "#/$defs/Code", code⟩], []⟩
  let context : Context := fresh document { enums := { generateMapping := true } }
  have hunequal : shape.values.Pairwise fun value other => value.equals other = false := by decide +kernel
  have hwellformed : ∀ value ∈ shape.values, value.Wellformed := by
    simp only [shape, List.forall_mem_cons, List.not_mem_nil, false_implies, implies_true, and_true]
    exact ⟨.int 1, .str "1"⟩
  have hkind : code.kind = .enum shape := rfl
  obtain ⟨result, displayNames, keys, hrun, hmappings, -, -, hdisplay, hkeyed, htitles, hkeys, hentered⟩ :=
    mappings_apart_iff context "Code" hkind (by simp [shape]) hwellformed hunequal rfl
  have hspelled : ¬shape.values.Pairwise fun value other => ¬(value.SpelledBy other ∨ other.SpelledBy value) := by
    intro hapart
    have hpair := (List.pairwise_cons.mp hapart).1 (.str "1") List.mem_cons_self
    exact hpair (Or.inr ⟨rfl, congrArg Json.str (by decide +kernel)⟩)
  have hname : Name.pascal "Code" = "Code" := by decide +kernel
  rw [hname] at hdisplay hkeyed
  exact ⟨document, _, shape, rfl, rfl, rfl, rfl, hunequal, result, displayNames, keys, hrun, hmappings, hdisplay,
    hkeyed, mt htitles.mp hspelled, mt hkeys.mp hspelled, mt hentered.mp hspelled⟩

end Context

end SchemaTypings
