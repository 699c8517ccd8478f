import SchemaTypings.Name.Fresh
import SchemaTypings.Name.Style
import SchemaTypings.Options.Basic
import SchemaTypings.Schema.Basic
import SchemaTypings.Json.Writer
import SchemaTypings.Typing.Declaration
import SchemaTypings.Typing.DocComment
import SchemaTypings.Typing.Expression

/-!
# Texts of enumerations

The values of an enumeration with their keys, and the declarations about them. The strategy decides
the declaration of the type and what stands beside it; the keys and all helpers are the same for
every strategy.
-/

namespace SchemaTypings.Typing

/-- A value of an enumeration: its key, its literal, and what is said about it. -/
structure EnumValue where
  key : String
  literal : String
  json : Json
  description : Option String
  deprecated : Bool

namespace EnumValue

/-- What the key of a value is made of: its given name, or its text. -/
def keyBase (options : EnumOptions) (given : Option String) (value : Json) : String :=
  match given, options.keyCase with
  | some name, _ => name
  | none, .upperSnake => Name.upperSnake value.plainText
  | none, .preserve => value.plainText

/-- The value at a position of an enumeration. -/
def ofPosition (options : EnumOptions) (shape : EnumShape) (index : Nat) (value : Json) :
    EnumValue where
  key := Name.sanitize
    (options.keyPrefix ++ keyBase options (shape.names[index]?) value ++ options.keySuffix)
  literal := value.literal
  json := value
  description := (shape.descriptions[index]?).join
  deprecated := value.isIn shape.deprecated

/-- Whether the text of the first value does not come after that of the second. -/
def textLe (a b : EnumValue) : Bool :=
  !(b.json.plainText < a.json.plainText)

/-- The values with a number at the keys that are taken, `taken` being the keys so far. -/
def distinguish (taken : List String) : List EnumValue → List EnumValue
  | [] => []
  | value :: rest =>
    let key := Name.fresh "_" taken value.key
    { value with key } :: distinguish (taken ++ [key]) rest

/-- The values of an enumeration, in order or sorted by their texts, with distinct keys. -/
def all (options : EnumOptions) (shape : EnumShape) : List EnumValue :=
  let values := shape.values.mapIdx (ofPosition options shape)
  distinguish [] (if options.sortValues then values.mergeSort textLe else values)

def docLines (value : EnumValue) : List String :=
  value.description.toList ++ (if value.deprecated then ["@deprecated"] else [])

end EnumValue

/-- What the texts about an enumeration are made of. -/
structure EnumText where
  name : String
  values : List EnumValue
  exportWord : String
  comments : Bool

namespace EnumText

variable (text : EnumText)

def header (info : SchemaInfo) : String :=
  if text.comments then
    docComment (info.description.toList ++ (if info.deprecated then ["@deprecated"] else [])) ""
  else ""

def valueDoc (value : EnumValue) : String :=
  if text.comments then docComment value.docLines "  " else ""

def literals : List String :=
  text.values.map (·.literal)

/-- A declaration that refers to the type. -/
def about (kind : DeclarationKind) (name content : String) : Declaration where
  name := name
  kind := kind
  content := content
  dependencies := [text.name]

def valuesName : String := s!"{text.name}Values"

/-- The map from keys to values, which are cast to the type if it is branded. -/
def valueMap (cast : Bool) : Declaration :=
  let suffix := if cast then s!" as {text.name}" else ""
  let body := String.join (text.values.map fun value =>
    s!"{text.valueDoc value}  {value.key}: {value.literal}{suffix},\n")
  text.about .const text.name
    s!"{text.exportWord}const {text.name} = \x7b\n{body}\x7d as const;"

/-- The type as a union of literals. -/
def literalUnion (info : SchemaInfo) : Declaration × List Declaration :=
  ({ name := text.name
     kind := .typeAlias
     content := s!"{text.header info}{text.exportWord}type {text.name} = {union text.literals};" },
    [text.valueMap false])

/-- The type as an `enum`. -/
def enumBlock (info : SchemaInfo) : Declaration × List Declaration :=
  let body := String.join (text.values.map fun value =>
    s!"{text.valueDoc value}  {value.key} = {value.literal},\n")
  ({ name := text.name
     kind := .enum
     content := s!"{text.header info}{text.exportWord}enum {text.name} \x7b\n{body}\x7d" }, [])

/-- The type as that of the elements of a constant tuple. -/
def constTuple (info : SchemaInfo) : Declaration × List Declaration :=
  let elements := String.intercalate ", " text.literals
  ({ name := text.name
     kind := .typeAlias
     content :=
       s!"{text.header info}{text.exportWord}type {text.name} = (typeof {text.valuesName})[number];"
     dependencies := [text.valuesName] },
    [{ name := text.valuesName
       kind := .const
       content := s!"{text.exportWord}const {text.valuesName} = [{elements}] as const;" },
      text.valueMap false])

/-- The type as a union of literals with a brand. -/
def branded (info : SchemaInfo) : Declaration × List Declaration :=
  let brand := s!"{Name.camel text.name}Brand"
  ({ name := text.name
     kind := .typeAlias
     content := s!"declare const {brand}: unique symbol;\n{text.header info}{text.exportWord}type {text.name} = ({union text.literals}) & \x7b readonly [{brand}]: {quoted text.name} \x7d;" },
    [text.valueMap true])

def declarations (strategy : EnumStrategy) (info : SchemaInfo) : Declaration × List Declaration :=
  match strategy with
  | .union => text.literalUnion info
  | .enum => text.enumBlock info
  | .const => text.constTuple info
  | .branded => text.branded info

def valuesArray : Declaration :=
  let members := String.intercalate ", " (text.values.map fun value => s!"{text.name}.{value.key}")
  text.about .const text.valuesName
    s!"{text.exportWord}const {text.valuesName}: readonly {text.name}[] = [{members}];"

/-- The test whether something is a value. -/
def guard : Declaration :=
  let name := s!"is{text.name}"
  text.about .function name
    s!"{text.exportWord}function {name}(value: unknown): value is {text.name} \x7b\n  return ({text.valuesName} as readonly unknown[]).includes(value);\n\x7d"

/-- The function that gives a value back, or null. -/
def reader : Declaration :=
  let name := s!"parse{text.name}"
  text.about .function name
    s!"{text.exportWord}function {name}(value: unknown): {text.name} | null \x7b\n  return is{text.name}(value) ? value : null;\n\x7d"

/-- The key of the value to fall back on: the default if it is one of the values, else the first. -/
def fallbackKey (default? : Option Json) : String :=
  let chosen := default?.bind fun wanted => text.values.find? fun value => value.json.equals wanted
  ((chosen <|> text.values.head?).map (·.key)).getD ""

/-- The function that gives a value back, or a fallback. -/
def readerWithDefault (default? : Option Json) : Declaration :=
  let name := s!"parse{text.name}OrDefault"
  let key := text.fallbackKey default?
  text.about .function name
    s!"{text.exportWord}function {name}(value: unknown, fallback: {text.name} = {text.name}.{key}): {text.name} \x7b\n  return is{text.name}(value) ? value : fallback;\n\x7d"

/-- The case of a value in the function that looks up descriptions. -/
def descriptionCase (value : EnumValue) : String :=
  match value.description with
  | some description =>
    s!"    case {text.name}.{value.key}:\n      return {quoted description};\n"
  | none => ""

/-- The function that looks up descriptions. -/
def descriptionLookup : Declaration :=
  let name := s!"get{text.name}Description"
  let cases := String.join (text.values.map text.descriptionCase)
  text.about .function name
    s!"{text.exportWord}function {name}(value: {text.name}): string | undefined \x7b\n  switch (value) \x7b\n{cases}    default:\n      return undefined;\n  \x7d\n\x7d"

def assertion : Declaration :=
  let name := s!"assert{text.name}"
  text.about .function name
    s!"{text.exportWord}function {name}(value: unknown): asserts value is {text.name} \x7b\n  if (!is{text.name}(value)) \x7b\n    throw new TypeError(\x60Invalid {text.name}: $\x7bString(value)\x7d\x60);\n  \x7d\n\x7d"

/-- The helpers that the options ask for. -/
def helpers (options : EnumOptions) (strategy : EnumStrategy) (default? : Option Json) :
    List Declaration :=
  (if options.generateHelpers then
    (if strategy == .const then [] else [text.valuesArray])
      ++ [text.guard, text.reader, text.readerWithDefault default?]
      ++ (if text.values.any (·.description.isSome) then [text.descriptionLookup] else [])
  else [])
    ++ (if options.generateValidation then [text.assertion] else [])

/-- A map from the texts of the values. -/
def mapping (name valueType : String) (entry : EnumValue → String) : Declaration :=
  let body := String.join (text.values.map fun value =>
    s!"  {Name.propertyKey value.json.plainText}: {quoted (entry value)},\n")
  text.about .const name
    s!"{text.exportWord}const {name}: Readonly<Record<string, {valueType}>> = \x7b\n{body}\x7d;"

def mappings : List Declaration :=
  [text.mapping s!"{text.name}DisplayNames" "string" fun value => Name.title value.json.plainText,
    text.mapping s!"{text.name}Keys" s!"keyof typeof {text.name}" fun value => value.key]

end EnumText

end SchemaTypings.Typing
