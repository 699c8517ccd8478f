import SchemaTypings.Lowering.UnionDispatch
import SchemaTypings.Proofs.Typing.Trees

/-!
# Checks of values as trees

The check in a guard is text, an expression that is true or false of the variable `value`. `Check` is what
the text says: `Check.text` is how it is written, `Check.passes` whether it is true of a value. A guard makes
several checks one after another, and the text of its check is that of `UnionDispatch.checks`
(`UnionDispatch.memberCheck_eq`).
-/

namespace SchemaTypings

open Typing

namespace Typing

/-- What a check is about. -/
inductive Subject where
  | whole
  | property (key : String)

/-- One check of a value. -/
inductive Check where
  | always
  | typeIs (subject : Subject) (name : String)
  | isNull (subject : Subject)
  | notNull
  | isArray (subject : Subject)
  | notArray
  | equals (subject : Subject) (literal : Json)
  | isOneOf (subject : Subject) (literals : List Json)
  | orNull (subject : Subject) (check : Check)
  | has (key : String)
  | isEmpty

/-- The expression for what a check is about. -/
def Subject.text : Subject → String
  | whole => "value"
  | property key => UnionDispatch.propertyOf key

/-- What a check is about, in a value. -/
def Subject.of (value : Value) : Subject → Value
  | whole => value
  | property key => value.property key

namespace Check

def text : Check → String
  | always => "true"
  | typeIs subject name => s!"typeof {subject.text} === \"{name}\""
  | isNull subject => s!"{subject.text} === null"
  | notNull => "value !== null"
  | isArray subject => s!"Array.isArray({subject.text})"
  | notArray => "!Array.isArray(value)"
  | equals subject literal => s!"{subject.text} === {literal.literal}"
  | isOneOf subject literals =>
    let listed := String.intercalate ", " (literals.map Json.literal)
    s!"([{listed}] as readonly unknown[]).includes({subject.text})"
  | orNull subject check => s!"({subject.text} === null || {check.text})"
  | has key => s!"{quoted key} in value"
  | isEmpty => "Object.keys(value).length === 0"

def passes (value : Value) : Check → Bool
  | always => true
  | typeIs subject name => (subject.of value).typeName == name
  | isNull subject => (subject.of value).isNull
  | notNull => !value.isNull
  | isArray subject => (subject.of value).isArray
  | notArray => !value.isArray
  | equals subject literal => (subject.of value).equals literal
  | isOneOf subject literals => literals.any (subject.of value).equals
  | orNull subject check => (subject.of value).isNull || check.passes value
  | has key => value.has key
  | isEmpty => value.isEmpty

/-- The text of several checks. -/
def joined (checks : List Check) : String :=
  String.intercalate " && " (checks.map text)

end Check

end Typing

/-- The discriminator and the literal that it is compared with in the guard of the member, if it is. -/
def UnionMember.compared? (member : UnionMember) (property : Option String) :
    Option (String × Json) :=
  property.bind fun key => member.discriminatorValue.map fun literal => (key, literal)

namespace UnionDispatch

/-- The check of a kind of value, where there is one. -/
def checkOfKind? (subject : Subject) : SchemaKind Schema → Option Check
  | .primitive .string => some (.typeIs subject "string")
  | .primitive .number | .primitive .integer => some (.typeIs subject "number")
  | .primitive .boolean => some (.typeIs subject "boolean")
  | .primitive .null => some (.isNull subject)
  | .array _ => some (.isArray subject)
  | .enum shape => if shape.values.isEmpty then none else some (.isOneOf subject shape.values)
  | _ => none

/-- The check of a schema, where there is one. -/
def checkOf? (subject : Subject) (schema : Schema) : Option Check :=
  (checkOfKind? subject schema.kind).map fun check =>
    if schema.info.nullable then .orNull subject check else check

variable (dispatch : UnionDispatch)

/-- The schema of a property, at the end of a chain of references. -/
def propertySchema? (shape : ObjectShape Schema) (key : String) : Option Schema :=
  (shape.property? key).bind dispatch.document.resolveDeep?

/-- The checks of a required property. -/
def checksOfProperty (shape : ObjectShape Schema) (key : String) : List Check :=
  .has key :: ((dispatch.propertySchema? shape key).bind (checkOf? (.property key))).toList

/-- The check that a closed object without properties has none. -/
def checksOfClosed (shape : ObjectShape Schema) : List Check :=
  match shape.additional with
  | .closed => if shape.properties.isEmpty then [.isEmpty] else []
  | _ => []

/-- The checks of an object. -/
def checksOfShape (shape : ObjectShape Schema) : List Check :=
  [.typeIs .whole "object", .notNull, .notArray]
    ++ shape.required.flatMap (dispatch.checksOfProperty shape) ++ checksOfClosed shape

/-- The checks by the structure of a schema. -/
def checksOfSchema (schema : Schema) : List Check :=
  match dispatch.document.resolveDeep? schema with
  | none => [.always]
  | some resolved =>
    match resolved.kind with
    | .object shape => dispatch.checksOfShape shape
    | _ => [(checkOf? .whole resolved).getD .always]

/-- The checks of a member. -/
def checks (member : UnionMember) : List Check :=
  match member.compared? dispatch.property with
  | some (property, literal) =>
    [.typeIs .whole "object", .notNull, .equals (.property property) literal]
  | none => dispatch.checksOfSchema member.schema

/-- The guard of a member passes the value. -/
def Passes (member : UnionMember) (value : Value) : Prop :=
  ∀ check ∈ dispatch.checks member, check.passes value = true

/-! ## Texts -/

end UnionDispatch

end SchemaTypings
