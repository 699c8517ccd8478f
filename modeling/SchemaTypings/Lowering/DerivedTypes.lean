import SchemaTypings.Json.Quoted
import SchemaTypings.Options.Basic
import SchemaTypings.Schema.FlatShape

/-!
# Derived types and functions

What can be derived from a composed type: aliases over it, and, where it is an object, the union of its
keys and functions that test, copy and merge its values.
-/

namespace SchemaTypings

namespace DerivedTypes

/-- The aliases that every type has. -/
def plainAliases (exportWord name : String) : List String :=
  ["Partial", "Required", "Readonly"].map fun utility =>
    s!"{exportWord}type {utility}{name} = {utility}<{name}>;"

/-- The union of the keys, and the aliases constrained to it. -/
def keyAliases (exportWord name : String) (shape : FlatShape) : List String :=
  if shape.properties.isEmpty then []
  else
    let keys := String.intercalate " | " (shape.properties.map fun property => quoted property.1)
    [s!"{exportWord}type {name}Keys = {keys};",
      s!"{exportWord}type Pick{name}<K extends {name}Keys> = Pick<{name}, K>;",
      s!"{exportWord}type Omit{name}<K extends {name}Keys> = Omit<{name}, K>;"]

/-- The alias in which everything is optional at every depth. -/
def deepPartial (exportWord name : String) : String :=
  s!"{exportWord}type DeepPartial{name}<T = {name}> = \x7b\n  [P in keyof T]?: T[P] extends object ? DeepPartial{name}<T[P]> : T[P];\n\x7d;"

def aliases (document : Document) (options : Options) (name : String) (schema : Schema) :
    List String :=
  let word := options.exportWord
  plainAliases word name ++ match document.flatten? schema with
    | none => []
    | some shape => keyAliases word name shape
        ++ (if shape.hasNestedObjects document then [deepPartial word name] else [])

/-- The test whether something has the required properties. -/
def guard (exportWord name : String) (shape : FlatShape) : String :=
  let checks := String.intercalate " && "
    (["typeof value === \"object\"", "value !== null", "!Array.isArray(value)"]
      ++ shape.required.map fun property => s!"{quoted property} in value")
  s!"{exportWord}function is{name}(value: unknown): value is {name} \x7b\n  return {checks};\n\x7d"

/-- The function that copies a value at every depth. -/
def clone (exportWord name : String) : String :=
  s!"{exportWord}function clone{name}(value: {name}): {name} \x7b\n  return structuredClone(value);\n\x7d"

def merge (exportWord name : String) : String :=
  s!"{exportWord}function merge{name}(base: {name}, patch: Partial<{name}>): {name} \x7b\n  return \x7b ...base, ...patch \x7d;\n\x7d"

def functions (document : Document) (options : Options) (name : String) (schema : Schema) :
    List String :=
  let word := options.exportWord
  match document.flatten? schema with
  | none => []
  | some shape => guard word name shape
      :: (if shape.hasNestedObjects document then [clone word name] else []) ++ [merge word name]

end DerivedTypes

end SchemaTypings
