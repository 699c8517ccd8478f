import SchemaTypings.Json.Reader
import SchemaTypings.Name.Fresh
import SchemaTypings.Name.Pointer
import SchemaTypings.Schema.Decode

/-!
# Schema documents

A document holds named schemas in up to three sections, and the JSON value it was made from, in which
references to other places are followed. Every reference below a named schema has an alias reserved
for it, so that its name does not depend on where it is met first.
-/

namespace SchemaTypings

/-- A schema with its name, and the reference by which others reach it. -/
structure NamedSchema where
  name : String
  pointer : String
  schema : Schema

/-- A schema document. -/
structure Document where
  raw : Json
  named : List NamedSchema
  aliases : List (String × String)

/-- Why a value is no schema document. -/
inductive DocumentError where
  /-- A schema does not decode. It is named by its section and its name, unless it stands alone. -/
  | malformed (place : Option (String × String)) (error : Decode.Error)
  /-- There is no section with schemas. -/
  | noSchemas

namespace DocumentError

def message : DocumentError → String
  | malformed none error => s!"malformed schema document: {error.message}"
  | malformed (some (area, name)) error =>
    s!"malformed schema document: {area}/{name}: {error.message}"
  | noSchemas => "document has no \x60components/schemas\x60, \x60definitions\x60 or \x60$defs\x60 section"

end DocumentError

namespace Document

/-- The pointers of the sections that may hold named schemas. -/
def sections : List String := ["/components/schemas", "/definitions", "/$defs"]

/-- The reference to the schema of a section under a name. -/
def referenceTo (area name : String) : String :=
  "#" ++ area ++ "/" ++ String.ofList (Pointer.escape name.toList)

/-- The named schema that a member of a section is. -/
def namedSchema (area : String) (member : String × Json) : Except DocumentError NamedSchema :=
  match Schema.ofJson member.2 with
  | .ok schema => .ok ⟨member.1, referenceTo area member.1, schema⟩
  | .error error => .error (.malformed (some (area, member.1)) error)

/-- The members of a section, if the document has it as an object. -/
def sectionMembers? (raw : Json) (area : String) : Option (List (String × Json)) :=
  (raw.atPointer? area).bind Json.members?

/-- The named schemas of the sections that the document has. -/
def namedSchemas (raw : Json) : Except DocumentError (List NamedSchema) := do
  let found ← sections.mapM fun area =>
    ((sectionMembers? raw area).getD []).mapM (namedSchema area)
  return found.flatten

mutual

/-- The strings held under a `$ref` key anywhere in a value, in order. -/
def references : Json → List String
  | .arr items => referencesOfItems items
  | .obj members => referencesOfMembers members
  | _ => []

def referencesOfItems : List Json → List String
  | [] => []
  | item :: rest => references item ++ referencesOfItems rest

def referencesOfMembers : List (String × Json) → List String
  | [] => []
  | (key, value) :: rest =>
    (match key, value with
      | "$ref", .str target => [target]
      | _, _ => references value) ++ referencesOfMembers rest

end

/-- The aliases with one more for the reference, if it needs one: it is local, is not that of a named
schema, and has none yet. -/
def reserveAlias (pointers names : List String) (aliases : List (String × String))
    (reference : String) : List (String × String) :=
  if !"#/".toList.isPrefixOf reference.toList || pointers.contains reference
      || (aliases.lookup reference).isSome then aliases
  else
    aliases ++ [(reference, Name.fresh "" (names ++ aliases.map (·.2)) (Name.ofPointer reference))]

/-- The type names of named schemas. -/
def typeNames (named : List NamedSchema) : List String :=
  named.map fun entry => Name.pascal entry.name

/-- A name for each reference below a named schema, in the order in which they first occur. -/
def reserveAliases (raw : Json) (named : List NamedSchema) : List (String × String) :=
  (references raw).foldl (reserveAlias (named.map (·.pointer)) (typeNames named)) []

/-- The document that a JSON value is. -/
def ofJson (raw : Json) : Except DocumentError Document := do
  let named ← namedSchemas raw
  if sections.any fun area => (sectionMembers? raw area).isSome then
    return { raw, named, aliases := reserveAliases raw named }
  else throw .noSchemas

/-- The named schema with the name; the first, if several sections have it. -/
def find? (document : Document) (name : String) : Option NamedSchema :=
  document.named.find? (·.name == name)

/-- The named schema that a reference reaches. -/
def at? (document : Document) (reference : String) : Option NamedSchema :=
  document.named.find? (·.pointer == reference)

/-- Whether the reference is that of a named schema. -/
def isNamed (document : Document) (reference : String) : Bool :=
  (document.at? reference).isSome

def alias? (document : Document) (reference : String) : Option String :=
  document.aliases.lookup reference

/-- The value that a local reference reaches in the document. -/
def rawAt? (document : Document) (reference : String) : Option Json :=
  match reference.toList with
  | '#' :: way => document.raw.atPointer? (String.ofList way)
  | _ => none

/-- The schema that a reference reaches. -/
def resolve? (document : Document) (reference : String) : Option Schema :=
  match document.at? reference with
  | some entry => some entry.schema
  | none => do
    let value ← document.rawAt? reference
    if value.isSchemaLike then (Schema.ofJson value).toOption else none

/-- The schema reached by following references, `steps` schemas being looked at on the way. -/
def follow? (document : Document) : Nat → Schema → Option Schema
  | 0, _ => none
  | steps + 1, schema =>
    match schema.kind with
    | .ref target => (document.resolve? target).bind (document.follow? steps)
    | _ => some schema

/-- How many schemas are looked at before a chain of references counts as endless. -/
def chainLimit : Nat := 32

/-- The schema at the end of a chain of references. -/
def resolveDeep? (document : Document) (schema : Schema) : Option Schema :=
  document.follow? chainLimit schema

/-- The names that no generated type may take: those of named schemas and reserved aliases. -/
def reservedNames (document : Document) : List String :=
  typeNames document.named ++ document.aliases.map (·.2)

/-- A number that the references being resolved within each other never exceed: those but the
outermost one stand in the document, and no two are equal. -/
def referenceBound (document : Document) : Nat :=
  document.raw.strings.length + 1

end Document

end SchemaTypings
