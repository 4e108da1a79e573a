import RecordSchema.Record.Basic
import RecordSchema.Rule.Check

/-!
# Validation

A whole record, one property of it, or a bare value is checked, and the violations are either given
as the result or raised as an error.

* `outcome`: what becomes of violations in either mode.
* `Record.validateWith`, `Record.validatePropertyWith`, `validateStandalone`: the checks.
* `Record.validate`, `Record.violations`, `Record.validateProperty`: the same in one mode.
-/

namespace RecordSchema

/-- Violations as a result; if they are raised, any of them is an error. -/
def outcome (raised : Bool) (violations : List Violation) : Except Error (List Violation) :=
  if raised && !violations.isEmpty then .error (.validationFailed violations) else .ok violations

/-- Checks a bare value, which is called `value` in reports. -/
def validateStandalone (rule : Rule) (value : Option Json) (raised : Bool) :
    Except Error (List Violation) :=
  outcome raised (rule.violations "value" value)

namespace Record

/-- Checks every declared property. -/
def validateWith (r : Record) (raised : Bool) : Except Error (List Violation) :=
  match r.schema? with
  | none => .error (.invalidArgument .unboundValidation)
  | some schema => outcome raised (schema.violations r.attributes)

/-- The rule of a property, for a record that is bound to a schema. -/
def ruleOf (r : Record) (name : String) : Except Error Rule :=
  if name.isEmpty then .error (.invalidArgument .emptyPropertyName)
  else
    match r.schema? with
    | none => .error (.invalidArgument .unboundValidation)
    | some schema =>
      match schema.get? name with
      | none => .error (.invalidArgument (.undefinedProperty name))
      | some rule => .ok rule

/-- Checks one declared property. -/
def validatePropertyWith (r : Record) (name : String) (raised : Bool) :
    Except Error (List Violation) :=
  match r.ruleOf name with
  | .error e => .error e
  | .ok rule => outcome raised (rule.violations name (r.get? name))

/-- Fails if a record has any violation. -/
def validate (r : Record) : Except Error Unit :=
  (r.validateWith true).map fun _ => ()

/-- The violations of a record. -/
def violations (r : Record) : Except Error (List Violation) :=
  r.validateWith false

/-- Fails if a property has any violation. -/
def validateProperty (r : Record) (name : String) : Except Error Unit :=
  (r.validatePropertyWith name true).map fun _ => ()

end Record

end RecordSchema
