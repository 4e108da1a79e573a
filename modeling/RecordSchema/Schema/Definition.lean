import RecordSchema.Error
import RecordSchema.Rule.Definition

/-!
# Consistent schemas

The names of a schema are not empty and each is declared once, and the rules under them are
consistent.

* `Schema.definitionViolations`: the reports of a schema, in the order of its declarations.
* `Schema.ofProperties`: the schema of named rules, if there is nothing to report.
* `SchemaDraft`: a schema that is put together one property at a time.
-/

namespace RecordSchema

/-- The defect of a declared name; the names before it are given. -/
def nameDefects (seen : List String) (name : String) : List Defect :=
  if name.isEmpty then [.emptyName]
  else if seen.contains name then [.duplicateName name]
  else []

namespace Schema

/-- The reports of declarations; the names before them are given. -/
def declarationViolations (seen : List String) : List (String × Rule) → List Violation
  | [] => []
  | (name, rule) :: rest =>
    (nameDefects seen name).map Defect.violation ++
      rule.definitionViolations.map (Violation.under (propertyPath name)) ++
      declarationViolations (name :: seen) rest

/-- The reports of what is wrong with a schema. -/
def definitionViolations (schema : Schema) : List Violation :=
  declarationViolations [] schema.properties

/-- The schema of named rules. -/
def ofProperties (properties : List (String × Rule)) : Except Error Schema :=
  match definitionViolations ⟨properties⟩ with
  | [] => .ok ⟨properties⟩
  | found => .error (.invalidDefinition found)

end Schema

/-- The properties of a schema so far. -/
structure SchemaDraft where
  properties : List (String × Rule) := []

namespace SchemaDraft

/-- The draft with one more property. -/
def property (d : SchemaDraft) (name : String) (rule : Rule) : SchemaDraft :=
  ⟨d.properties ++ [(name, rule)]⟩

/-- The schema of a draft. -/
def build (d : SchemaDraft) : Except Error Schema :=
  Schema.ofProperties d.properties

end SchemaDraft

end RecordSchema
