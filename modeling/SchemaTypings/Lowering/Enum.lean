import SchemaTypings.Lowering.Inline
import SchemaTypings.Typing.EnumText

/-!
# Enumerations

An enumeration is declared by the strategy of the options. A strategy that needs texts or numbers gives
way to a union of literals, with a warning, where a value is neither.
-/

namespace SchemaTypings

open Typing

/-- The result of lowering an enumeration. -/
structure LoweredEnum where
  name : String
  values : List EnumValue
  declaration : Declaration
  companions : List Declaration := []
  helpers : List Declaration := []
  mappings : List Declaration := []

def LoweredEnum.declarations (result : LoweredEnum) : List Declaration :=
  result.declaration :: (result.companions ++ result.helpers ++ result.mappings)

namespace Lowering

open LowerM

/-- The shape of an enumeration; another schema has no values. -/
def enumShapeOf (schema : Schema) : EnumShape :=
  match schema.kind with
  | .enum shape => shape
  | _ => {}

def bottomAlias (options : Options) (name : String) : Declaration where
  name := name
  kind := .typeAlias
  content := s!"{options.exportWord}type {name} = {bottomType};"

/-- The strategy that is used for the values: an `enum` holds texts and numbers only. -/
def chooseStrategy (name : String) (values : List EnumValue) : LowerM EnumStrategy := do
  let strategy := (← options).enumType
  let fits := values.all fun value => value.json.isString || value.json.isNumber
  if strategy == .enum && !fits then
    warn s!"\x60{name}\x60 has non string/number values; lowered as a literal union"
    return .union
  else return strategy

/-- An enumeration with at least one value, declared under a type name. -/
def lowerEnumValues (name : String) (values : List EnumValue) (info : SchemaInfo) :
    LowerM LoweredEnum := do
  let strategy ← chooseStrategy name values
  let options ← options
  let text : EnumText := ⟨name, values, options.exportWord, options.generateComments⟩
  let (declaration, companions) := text.declarations strategy info
  return {
    name, values, declaration, companions
    helpers := text.helpers options.enums strategy info.default?
    mappings := if options.enums.generateMapping then text.mappings else [] }

/-- An enumeration, declared under the type name made of `name`. -/
def lowerEnum (name : String) (schema : Schema) : LowerM LoweredEnum := do
  let typeName := Name.pascal name
  withSegment typeName do
    let options ← options
    let values := EnumValue.all options.enums (enumShapeOf schema)
    if values.isEmpty then
      degenerate options.enums.emptyEnum noValuesReason
      return { name := typeName, values := [], declaration := bottomAlias options typeName }
    else lowerEnumValues typeName values schema.info

end Lowering

end SchemaTypings
