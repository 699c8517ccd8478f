import SchemaTypings.Typing.Declaration
import SchemaTypings.Typing.Property

/-!
# Validators

The validator of a type is a function that collects the messages of all rules its value breaks, in
the order of properties and rules. Types without rules have none.
-/

namespace SchemaTypings.Validation

open Typing (Declaration Property)

def accessor (property : String) : String :=
  if Name.isIdentifier property then s!"value.{property}" else s!"value[{quoted property}]"

/-- The check of one rule. A property that may be absent or null is checked only if it is there. -/
def ruleCheck (property : Property) (rule : Rule) : String :=
  let access := accessor property.name
  let guard_ :=
    if !property.required || property.descriptor.isNullable then s!"{access} != null && " else ""
  s!"  if ({guard_}!({checkExpression rule access})) \x7b\n    errors.push({quoted rule.message});\n  \x7d\n"

def propertyChecks (property : Property) : String :=
  String.join (property.rules.map (ruleCheck property))

/-- The validator of a type with the given properties, if one of them has rules. -/
def validator? (exportWord typeName : String) (properties : List Property) : Option Declaration :=
  if properties.all (·.rules.isEmpty) then none
  else
    let name := s!"validate{typeName}"
    let body := String.join (properties.map propertyChecks)
    some {
      name := name
      kind := .function
      content := s!"{exportWord}function {name}(value: {typeName}): string[] \x7b\n  const errors: string[] = [];\n{body}  return errors;\n\x7d"
      dependencies := [typeName] }

end SchemaTypings.Validation
