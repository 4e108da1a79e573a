import RecordSchema.Description
import RecordSchema.Rule.Visit
import RecordSchema.Schema.Definition

/-!
# What is noted down

Each operation has the list of events that it notes down, beside its result.

* `Rule.checkEvents`, `Schema.checkEvents`: the events of checking a value.
* `Rule.definitionEvents`, `Draft.events`: those of examining a rule, whose default is checked.
* `Rule.decodeEvents`, `Schema.decodeEvents`: those of reading a description.
-/

namespace RecordSchema

/-! ### Checking -/

/-- The events of checking a value under a name. -/
def Rule.checkEvents (rule : Rule) (name : String) (value : Option Json) : List Event :=
  (rule.visits value).map (Visit.event name)

/-- The events of checking the fields of an object. -/
def Schema.checkEvents (schema : Schema) (fields : Fields) : List Event :=
  (schema.visits fields).map (Visit.event "")

/-- The event that ends a check that found something. -/
def outcomeEvents (violations : List Violation) : List Event :=
  if violations.isEmpty then [] else [.foundViolations violations.length]

/-! ### Definitions -/

/-- The events of examining a rule. -/
def Rule.definitionEvents (rule : Rule) : List Event :=
  match rule.settings.fallback with
  | some value => rule.checkEvents defaultRoot (some value)
  | none => []

/-- The events of making a rule of a draft. -/
def Draft.events (d : Draft) : List Event :=
  if d.textDefects.isEmpty then d.rule.definitionEvents else []

/-- The events of examining a schema. -/
def Schema.definitionEvents (schema : Schema) : List Event :=
  schema.properties.flatMap fun (_, rule) => rule.definitionEvents

/-! ### Descriptions -/

mutual

/-- The events of reading the description of a rule. -/
def Rule.decodeEvents : Json → List Event
  | .obj fields =>
    let collected := collectSettings fields
    settingEvents fields ++
      if collected.violations.isEmpty then (Draft.ofSettings collected.results).events else []
  | _ => []
termination_by structural description => description

/-- The events of reading settings: those of the schemas inside. -/
def settingEvents : List (String × Json) → List Event
  | [] => []
  | (name, value) :: rest =>
    (if SettingName.ofText? name = some .schema then Schema.decodeEvents value else []) ++
      settingEvents rest
termination_by structural fields => fields

/-- The events of reading the description of a schema. -/
def Schema.decodeEvents : Json → List Event
  | .obj fields => propertyEvents fields
  | _ => []
termination_by structural description => description

/-- The events of reading the rules of a schema. -/
def propertyEvents : List (String × Json) → List Event
  | [] => []
  | (_, description) :: rest => Rule.decodeEvents description ++ propertyEvents rest
termination_by structural fields => fields

end

/-- The events of making a rule of a description. -/
def Rule.descriptionEvents (description : Json) : List Event :=
  Rule.decodeEvents description ++
    match Rule.decode description with
    | .ok _ => []
    | .error violations => [.rejectedRule violations.length]

/-- The events of making a schema of a description, which must be an object. -/
def Schema.descriptionEvents (description : Json) : List Event :=
  match description with
  | .obj _ =>
    Schema.decodeEvents description ++
      match Schema.decode description with
      | .ok schema => [.builtSchema schema.size]
      | .error violations => [.rejectedSchema violations.length]
  | _ => []

end RecordSchema
