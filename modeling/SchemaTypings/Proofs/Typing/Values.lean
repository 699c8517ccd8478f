import Mathlib.Data.List.Forall2
import SchemaTypings.Json.Basic

/-!
# Values at run time

What the typings are about: the values of the language they are written in. `Value.Fits` is what the
literal of a JSON value denotes as a type, `Value.equals` is strict equality with it. The two agree on
what is no list and no object; a list or an object that is written out is a new one each time, and equals
nothing.
-/

namespace SchemaTypings

/-- Whether the value is neither a list nor an object. -/
def Json.isScalar : Json → Bool
  | .arr _ | .obj _ => false
  | _ => true

namespace Typing

/-- A number at run time. -/
inductive Numeral where
  | finite (value : Binary64)
  | infinite (negative : Bool)
  | notANumber

/-- A value at run time. Objects are plain ones, with the properties of their own. -/
inductive Value where
  | undefined
  | null
  | bool (value : Bool)
  | number (value : Numeral)
  | string (value : String)
  | date (time : Int)
  | array (items : List Value)
  | object (properties : List (String × Value))

namespace Value

/-- What `typeof` gives. -/
def typeName : Value → String
  | undefined => "undefined"
  | bool _ => "boolean"
  | number _ => "number"
  | string _ => "string"
  | null | date _ | array _ | object _ => "object"

def isNull : Value → Bool
  | null => true
  | _ => false

def isArray : Value → Bool
  | array _ => true
  | _ => false

/-- Whether the value has a property of its own under the key. -/
def has (key : String) : Value → Bool
  | object properties => (properties.lookup key).isSome
  | _ => false

/-- The property under a key, or `undefined`. -/
def property (key : String) : Value → Value
  | object properties => (properties.lookup key).getD undefined
  | _ => undefined

/-- Whether there are no properties and no items. -/
def isEmpty : Value → Bool
  | array items => items.isEmpty
  | object properties => properties.isEmpty
  | _ => true

/-- Strict equality with a literal. -/
def equals : Value → Json → Bool
  | null, .null => true
  | bool a, .bool b => a == b
  | number (.finite x), .int n => (Binary64.ofInt n).numEq x
  | number (.finite x), .float y => y.numEq x
  | string a, .str b => a == b
  | _, _ => false

/-- The value is one of the type that a literal denotes. -/
inductive Fits : Json → Value → Prop
  | null : Fits .null null
  | bool (value : Bool) : Fits (.bool value) (bool value)
  | int {n : Int} {x : Binary64} (h : (Binary64.ofInt n).numEq x = true) :
    Fits (.int n) (number (.finite x))
  | float {y x : Binary64} (h : y.numEq x = true) : Fits (.float y) (number (.finite x))
  | string (value : String) : Fits (.str value) (string value)
  | array {items : List Json} {values : List Value} (h : List.Forall₂ Fits items values) :
    Fits (.arr items) (array values)
  | object {members : List (String × Json)} {properties : List (String × Value)}
    (hhas : ∀ key item, (key, item) ∈ members → (properties.lookup key).isSome)
    (h : ∀ key item value, (key, item) ∈ members → properties.lookup key = some value →
      Fits item value) : Fits (.obj members) (object properties)

theorem equals_of_fits {literal : Json} {value : Value} (h : Fits literal value)
    (hscalar : literal.isScalar = true) : value.equals literal = true := by
  cases h with
  | null => rfl
  | bool value => exact beq_self_eq_true value
  | int h | float h => exact h
  | string value => exact beq_self_eq_true value
  | array h => cases hscalar
  | object hhas h => cases hscalar

/-- A list or an object that is written out is no null, and equals nothing. -/
theorem equals_of_structured {literal : Json} {value : Value} (h : Fits literal value)
    (hstructured : literal.isScalar = false) :
    value.isNull = false ∧ ∀ other, value.equals other = false := by
  cases h with
  | array h => exact ⟨rfl, fun other => by cases other <;> rfl⟩
  | object hhas h => exact ⟨rfl, fun other => by cases other <;> rfl⟩
  | _ => cases hstructured

/-- What equals a literal at a property is an object. -/
theorem eq_object_of_equals {key : String} {literal : Json} {value : Value}
    (h : (value.property key).equals literal = true) : ∃ properties, value = object properties := by
  cases value with
  | object properties => exact ⟨properties, rfl⟩
  | _ => cases literal <;> cases h

theorem property_eq_of_lookup {key : String} {properties : List (String × Value)} {value : Value}
    (h : properties.lookup key = some value) : (object properties).property key = value := by
  rw [property, h, Option.getD_some]

end Value

end Typing

end SchemaTypings
