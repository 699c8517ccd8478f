import SchemaTypings.Lowering.Reference
import SchemaTypings.Schema.Discriminator

/-!
# Telling the members of a union apart

The functions about a union: a guard for each member, a match and a fold that call one handler for each
member, and an assertion. A discriminator whose value is known for every member is switched on;
otherwise the guards are tried in order.
-/

namespace SchemaTypings

open Typing

/-- A member of a union. The tag stands for it in the names of guards and handlers. -/
structure UnionMember where
  typeName : String
  discriminatorValue : Option Json
  schema : Schema
  isInline : Bool
  tag : String

def UnionMember.complexity (member : UnionMember) : Nat :=
  member.schema.complexity

/-- What the functions about a union are made of. -/
structure UnionDispatch where
  name : String
  members : List UnionMember
  property : Option String
  document : Document
  exportWord : String

namespace UnionDispatch

/-! ## Checks of values -/

/-- The check of a kind of value against an expression, where there is one. -/
def kindCheck? (expr : String) : SchemaKind Schema → Option String
  | .primitive .string => some s!"typeof {expr} === \"string\""
  | .primitive .number | .primitive .integer => some s!"typeof {expr} === \"number\""
  | .primitive .boolean => some s!"typeof {expr} === \"boolean\""
  | .primitive .null => some s!"{expr} === null"
  | .array _ => some s!"Array.isArray({expr})"
  | .enum shape =>
    if shape.values.isEmpty then none
    else
      let literals := String.intercalate ", " (shape.values.map Json.literal)
      some s!"([{literals}] as readonly unknown[]).includes({expr})"
  | _ => none

/-- The check of a schema against an expression, where there is one. -/
def valueCheck? (schema : Schema) (expr : String) : Option String :=
  (kindCheck? expr schema.kind).map fun check =>
    if schema.info.nullable then s!"({expr} === null || {check})" else check

/-- The expression for a property of `value`. -/
def propertyOf (key : String) : String :=
  s!"(value as Record<string, unknown>)[{quoted key}]"

/-- The checks that begin the check of an object. -/
def objectChecks : List String :=
  ["typeof value === \"object\"", "value !== null", "!Array.isArray(value)"]

variable (dispatch : UnionDispatch)

/-- The checks of a required property: that it is there, and of its value. -/
def requiredChecks (shape : ObjectShape Schema) (property : String) : List String :=
  let typed := ((shape.property? property).bind dispatch.document.resolveDeep?).bind fun schema =>
    valueCheck? schema (propertyOf property)
  s!"{quoted property} in value" :: typed.toList

/-- The check that a closed object without properties has none. -/
def emptyCheck (shape : ObjectShape Schema) : List String :=
  match shape.additional with
  | .closed => if shape.properties.isEmpty then ["Object.keys(value).length === 0"] else []
  | _ => []

/-- The check of `value` by the structure of a schema. -/
def structuralCheck (schema : Schema) : String :=
  match dispatch.document.resolveDeep? schema with
  | none => "true"
  | some resolved =>
    match resolved.kind with
    | .object shape => String.intercalate " && "
        (objectChecks ++ shape.required.flatMap (dispatch.requiredChecks shape) ++ emptyCheck shape)
    | _ => (valueCheck? resolved "value").getD "true"

/-! ## Functions -/

/-- The declaration of a function about the union, which refers to it and to its members. -/
def function (name content : String) : Declaration where
  name := name
  kind := .function
  content := content
  dependencies :=
    ((dispatch.members.map (·.typeName)).filter Name.isIdentifier).foldl addName [dispatch.name]

def guardName (member : UnionMember) : String :=
  if dispatch.name.toList.isPrefixOf member.tag.toList then s!"is{member.tag}"
  else s!"is{dispatch.name}{Name.pascal member.tag}"

/-- Whether the discriminator has a known value for every member. -/
def isSwitchable : Bool :=
  dispatch.property.isSome && dispatch.members.all (·.discriminatorValue.isSome)

/-- The check of a member: by its discriminator, else by its structure. -/
def memberCheck (member : UnionMember) : String :=
  match dispatch.property, member.discriminatorValue with
  | some property, some value =>
    s!"typeof value === \"object\" && value !== null && {propertyOf property} === {value.literal}"
  | _, _ => dispatch.structuralCheck member.schema

def guard (member : UnionMember) : Declaration :=
  let name := dispatch.guardName member
  dispatch.function name
    s!"{dispatch.exportWord}function {name}(value: unknown): value is {member.typeName} \x7b\n  return {dispatch.memberCheck member};\n\x7d"

def handlerKey (member : UnionMember) : String :=
  match dispatch.isSwitchable, member.discriminatorValue with
  | true, some value => Name.propertyKey value.plainText
  | _, _ => Name.camel member.tag

/-- The expression for the handler of a member. -/
def handlerOf (member : UnionMember) (handlers : String) : String :=
  let key := dispatch.handlerKey member
  if Name.isIdentifier key then s!"{handlers}.{key}" else s!"{handlers}[{key}]"

/-- The case of a member in a switch. -/
def switchCase (member : UnionMember) : String :=
  match member.discriminatorValue with
  | some value =>
    let handler := dispatch.handlerOf member "handlers"
    s!"    case {value.literal}:\n      return {handler}(value as {member.typeName});\n"
  | none => ""

/-- The body of the match that switches on a property. -/
def switchBody (property : String) : String :=
  let access := propertyOf property
  let cases := String.join (dispatch.members.map dispatch.switchCase)
  s!"  switch ({access}) \x7b\n{cases}    default:\n      throw new Error(\x60Unhandled {dispatch.name} variant: $\x7bString({access})\x7d\x60);\n  \x7d\n"

/-- The step of a member in a chain of guards. -/
def guardStep (member : UnionMember) : String :=
  let handler := dispatch.handlerOf member "handlers"
  s!"  if ({dispatch.guardName member}(value)) \x7b\n    return {handler}(value);\n  \x7d\n"

/-- The body of the match that tries the guards. -/
def chainBody : String :=
  String.join (dispatch.members.map dispatch.guardStep)
    ++ s!"  throw new Error(\"No {dispatch.name} variant matched\");\n"

def matchBody : String :=
  match dispatch.property, dispatch.isSwitchable with
  | some property, true => dispatch.switchBody property
  | _, _ => dispatch.chainBody

/-- The type of the handlers of all members, each with the given parameters before the value. -/
def handlersType (lead : String) : String :=
  String.intercalate "; " (dispatch.members.map fun member =>
    s!"{dispatch.handlerKey member}: ({lead}value: {member.typeName}) => R")

def matcher : Declaration :=
  let name := s!"match{dispatch.name}"
  let handlers := dispatch.handlersType ""
  dispatch.function name
    s!"{dispatch.exportWord}function {name}<R>(\n  value: {dispatch.name},\n  handlers: \x7b {handlers} \x7d,\n): R \x7b\n{dispatch.matchBody}\x7d"

/-- The handler of a member that hands the accumulator on to its reducer. -/
def foldCall (member : UnionMember) : String :=
  let reducer := dispatch.handlerOf member "reducers"
  s!"      {dispatch.handlerKey member}: (v) => {reducer}(acc, v),\n"

def folder : Declaration :=
  let name := s!"fold{dispatch.name}"
  let reducers := dispatch.handlersType "acc: R, "
  let calls := String.join (dispatch.members.map dispatch.foldCall)
  dispatch.function name
    s!"{dispatch.exportWord}function {name}<R>(\n  values: readonly {dispatch.name}[],\n  initial: R,\n  reducers: \x7b {reducers} \x7d,\n): R \x7b\n  let acc = initial;\n  for (const value of values) \x7b\n    acc = match{dispatch.name}<R>(value, \x7b\n{calls}    \x7d);\n  \x7d\n  return acc;\n\x7d"

def assertion : Declaration :=
  let name := s!"assert{dispatch.name}"
  let guards := String.intercalate " || " (dispatch.members.map fun member =>
    s!"{dispatch.guardName member}(value)")
  dispatch.function name
    s!"{dispatch.exportWord}function {name}(value: unknown): asserts value is {dispatch.name} \x7b\n  if (!({guards})) \x7b\n    throw new TypeError(\"Value is not a valid {dispatch.name}\");\n  \x7d\n\x7d"

/-- The functions that the options ask for. Both kinds of them need the guards. -/
def functions (options : UnionOptions) : List Declaration :=
  (if options.generateHelpers || options.generateValidation then
      dispatch.members.map dispatch.guard else [])
    ++ (if options.generateHelpers then [dispatch.matcher, dispatch.folder] else [])
    ++ (if options.generateValidation then [dispatch.assertion] else [])

end UnionDispatch

end SchemaTypings
