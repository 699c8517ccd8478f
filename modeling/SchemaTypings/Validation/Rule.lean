import SchemaTypings.Json.Writer
import SchemaTypings.Schema.Basic

/-!
# Validation rules

Each constraint on a property gives a tag for its documentation and a rule for its validator. A rule
is checked by an expression over the value, and has a message for when the check fails.
-/

namespace SchemaTypings

/-- A bound as documentation and messages show it. -/
def boundText (bound : Binary64) : String :=
  DecimalLayout.plain.format bound

/-- The documentation tags of the constraints, in a fixed order. -/
def Constraints.docTags (c : Constraints) : List String :=
  (c.minLength.map fun n => s!"@minLength {n}").toList
    ++ (c.maxLength.map fun n => s!"@maxLength {n}").toList
    ++ (c.minimum.map fun x => s!"@minimum {boundText x}").toList
    ++ (c.maximum.map fun x => s!"@maximum {boundText x}").toList
    ++ (c.pattern.map fun p => s!"@pattern {p}").toList
    ++ (c.format.map fun f => s!"@format {f}").toList

namespace Validation

/-- What a rule checks. -/
inductive RuleKind where
  | minLength
  | maxLength
  | min
  | max
  | pattern
  | email
  | url
  deriving DecidableEq, Repr

/-- A rule: what it checks, against which value, and what is said when it fails. -/
structure Rule where
  kind : RuleKind
  value : Json
  message : String

/-- The rule of a format, if the format has one. -/
def formatRules (property : String) : Option String → List Rule
  | some "email" => [⟨.email, .bool true, s!"{property} must be a valid email address"⟩]
  | some "uri" => [⟨.url, .bool true, s!"{property} must be a valid URL"⟩]
  | some "url" => [⟨.url, .bool true, s!"{property} must be a valid URL"⟩]
  | _ => []

/-- The rules of a property, one for each constraint that can be checked. -/
def rules (property : String) (c : Constraints) : List Rule :=
  (c.minLength.map fun n =>
      ⟨.minLength, .int n, s!"{property} must be at least {n} characters"⟩).toList
    ++ (c.maxLength.map fun n =>
      ⟨.maxLength, .int n, s!"{property} must be at most {n} characters"⟩).toList
    ++ (c.minimum.map fun x =>
      ⟨.min, .float x, s!"{property} must be greater than or equal to {boundText x}"⟩).toList
    ++ (c.maximum.map fun x =>
      ⟨.max, .float x, s!"{property} must be less than or equal to {boundText x}"⟩).toList
    ++ (c.pattern.map fun p => ⟨.pattern, .str p, s!"{property} must match pattern {p}"⟩).toList
    ++ formatRules property c.format

/-- The regular expression of a mail address. -/
def emailPattern : String := "/^[^\\s@]+@[^\\s@]+\\.[^\\s@]+$/"

/-- The regular expression of a locator with a scheme. -/
def urlPattern : String := "/^[a-zA-Z][a-zA-Z\\d+.-]*:\\/\\/[^\\s]+$/"

/-- The expression that holds when the value of `accessor` satisfies the rule. -/
def checkExpression (rule : Rule) (accessor : String) : String :=
  match rule.kind with
  | .minLength => s!"{accessor}.length >= {rule.value.compact}"
  | .maxLength => s!"{accessor}.length <= {rule.value.compact}"
  | .min => s!"{accessor} >= {rule.value.compact}"
  | .max => s!"{accessor} <= {rule.value.compact}"
  | .pattern =>
    let pattern := match rule.value with
      | .str p => p
      | _ => ""
    s!"new RegExp({quoted pattern}).test({accessor})"
  | .email => s!"{emailPattern}.test({accessor})"
  | .url => s!"{urlPattern}.test({accessor})"

end Validation

end SchemaTypings
