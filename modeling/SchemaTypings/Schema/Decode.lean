import SchemaTypings.Decode.Value
import SchemaTypings.Schema.Keywords

/-!
# Schemas from JSON

A schema is decoded from an object of keywords, unknown ones being passed over, or from a list that
holds the values of the keywords in a fixed order. At the root a truth value is the schema about
which nothing is known.
-/

namespace SchemaTypings

open Decode (asBoolean asText asWord asDouble asList asMap optional choice within fail failWrongKind)

namespace Discriminator

/-- The discriminator with one field more. -/
def setField (discriminator : Discriminator) (name : String) (value : Json) :
    Except Decode.Error Discriminator :=
  match name with
  | "propertyName" => (asText value).map fun v => { discriminator with propertyName := v }
  | "mapping" => (asMap asText value).map fun v => { discriminator with mapping := v }
  | _ => .ok discriminator

/-- The fields of a discriminator, in the order in which a list holds them. -/
def fieldOrder : List String := ["propertyName", "mapping"]

def ofJson : Json → Except Decode.Error Discriminator
  | .obj members => members.foldlM (fun discriminator (name, value) =>
      within (.key name) (discriminator.setField name value)) {}
  | .arr items => do
    let discriminator ← (fieldOrder.zip items).zipIdx.foldlM (fun discriminator ((name, value), i) =>
      within (.index i) (discriminator.setField name value)) {}
    if items.length > fieldOrder.length then fail (.tooManyItems items.length)
    else return discriminator
  | value => failWrongKind value (.record "RawDiscriminator")

end Discriminator

namespace Keywords

/-- The keywords in the order in which a list holds their values. -/
def order : List String :=
  ["$ref", "type", "format", "title", "description", "example", "default", "nullable", "readOnly",
    "deprecated", "properties", "required", "additionalProperties", "items", "enum", "const", "oneOf",
    "anyOf", "allOf", "discriminator", "minLength", "maxLength", "minimum", "maximum", "pattern",
    "x-enum-varnames", "x-enum-descriptions", "x-enum-deprecated"]

/-- Any value, unless it is null. -/
def present : Json → Option Json
  | .null => none
  | value => some value

/-- The types of a schema: one, or a list. -/
def typesOf : Json → Except Decode.Error (Option (List String)) :=
  optional (choice "RawType" [fun value => (asText value).map ([·]), asList asText])

/-- The descriptions of enumerated values: a list, or a map. -/
def descriptionsFrom : Json → Except Decode.Error (Option EnumDescriptions) :=
  optional (choice "RawEnumDescriptions"
    [fun value => (asList (optional asText) value).map .byPosition,
      fun value => (asMap asText value).map .byText])

/-- The keywords with the value of a keyword that holds no schemas. -/
def setPlain {α : Type} (keywords : Keywords α) (name : String) (value : Json) :
    Except Decode.Error (Keywords α) :=
  match name with
  | "$ref" => (optional asText value).map fun v => { keywords with reference := v }
  | "type" => (typesOf value).map fun v => { keywords with types := v.getD [] }
  | "format" => (optional asText value).map fun v => { keywords with format := v }
  | "title" => (optional asText value).map fun v => { keywords with title := v }
  | "description" => (optional asText value).map fun v => { keywords with description := v }
  | "example" => .ok { keywords with example? := present value }
  | "default" => .ok { keywords with default? := present value }
  | "nullable" => (asBoolean value).map fun v => { keywords with nullable := v }
  | "readOnly" => (asBoolean value).map fun v => { keywords with readOnly := v }
  | "deprecated" => (asBoolean value).map fun v => { keywords with deprecated := v }
  | "required" => (asList asText value).map fun v => { keywords with required := v }
  | "enum" => (optional (asList .ok) value).map fun v => { keywords with values := v }
  | "const" => .ok { keywords with constant := present value }
  | "discriminator" =>
    (optional Discriminator.ofJson value).map fun v => { keywords with discriminator := v }
  | "minLength" => (optional asWord value).map fun v => { keywords with minLength := v }
  | "maxLength" => (optional asWord value).map fun v => { keywords with maxLength := v }
  | "minimum" => (optional asDouble value).map fun v => { keywords with minimum := v }
  | "maximum" => (optional asDouble value).map fun v => { keywords with maximum := v }
  | "pattern" => (optional asText value).map fun v => { keywords with pattern := v }
  | "x-enum-varnames" =>
    (optional (asList asText) value).map fun v => { keywords with valueNames := v.getD [] }
  | "x-enum-descriptions" =>
    (descriptionsFrom value).map fun v => { keywords with valueDescriptions := v }
  | "x-enum-deprecated" =>
    (optional (asList .ok) value).map fun v => { keywords with deprecatedValues := v.getD [] }
  | _ => .ok keywords

/-- The keywords with the value of a keyword, which may be read as one schema, as a list of schemas
or as a map to schemas. -/
def setKeyword (keywords : Keywords Schema) (name : String) (value : Json)
    (one : Unit → Except Decode.Error Schema) (list : Unit → Except Decode.Error (List Schema))
    (map : Unit → Except Decode.Error (List (String × Schema))) :
    Except Decode.Error (Keywords Schema) :=
  match name, value with
  | "properties", .null => .ok keywords
  | "properties", _ => (map ()).map fun v => { keywords with properties := some v }
  | "additionalProperties", .null => .ok keywords
  | "additionalProperties", .bool b =>
    .ok { keywords with additional := if b then .opened else .closed }
  | "additionalProperties", _ =>
    match one () with
    | .ok schema => .ok { keywords with additional := .schema schema }
    | .error _ => fail (.noAlternative "RawAdditional")
  | "items", .null => .ok keywords
  | "items", _ => (one ()).map fun v => { keywords with items := some v }
  | "oneOf", .null => .ok keywords
  | "oneOf", _ => (list ()).map fun v => { keywords with oneOf := some v }
  | "anyOf", .null => .ok keywords
  | "anyOf", _ => (list ()).map fun v => { keywords with anyOf := some v }
  | "allOf", .null => .ok keywords
  | "allOf", _ => (list ()).map fun v => { keywords with allOf := some v }
  | _, _ => keywords.setPlain name value

end Keywords

namespace Schema

mutual

def decode : Json → Except Decode.Error Schema
  | .obj members => (decodeMembers {} members).map ofKeywords
  | .arr items => (decodeItems items.length 0 Keywords.order {} items).map ofKeywords
  | value => failWrongKind value (.record "RawSchema")

def decodeList : Json → Except Decode.Error (List Schema)
  | .arr items => decodeSchemas 0 items
  | value => failWrongKind value .list

def decodeMap : Json → Except Decode.Error (List (String × Schema))
  | .obj members => decodeProperties members
  | value => failWrongKind value .object

/-- The keywords after those of the members. -/
def decodeMembers (keywords : Keywords Schema) :
    List (String × Json) → Except Decode.Error (Keywords Schema)
  | [] => .ok keywords
  | (name, value) :: rest => do
    let keywords ← within (.key name) <| keywords.setKeyword name value
      (fun _ => decode value) (fun _ => decodeList value) (fun _ => decodeMap value)
    decodeMembers keywords rest

/-- The keywords after the items, which hold the values of `names` from position `index` on;
`count` is the number of items of the whole list. -/
def decodeItems (count index : Nat) (names : List String) (keywords : Keywords Schema) :
    List Json → Except Decode.Error (Keywords Schema)
  | [] => .ok keywords
  | value :: rest =>
    match names with
    | [] => fail (.tooManyItems count)
    | name :: names => do
      let keywords ← within (.index index) <| keywords.setKeyword name value
        (fun _ => decode value) (fun _ => decodeList value) (fun _ => decodeMap value)
      decodeItems count (index + 1) names keywords rest

def decodeProperties : List (String × Json) → Except Decode.Error (List (String × Schema))
  | [] => .ok []
  | (name, value) :: rest => do
    let schema ← within (.key name) (decode value)
    let others ← decodeProperties rest
    return (name, schema) :: others

/-- A list of schemas from position `index` on. -/
def decodeSchemas (index : Nat) : List Json → Except Decode.Error (List Schema)
  | [] => .ok []
  | value :: rest => do
    let schema ← within (.index index) (decode value)
    let others ← decodeSchemas (index + 1) rest
    return schema :: others

end

def ofJson : Json → Except Decode.Error Schema
  | .bool _ => .ok {}
  | value => decode value

end Schema

end SchemaTypings
