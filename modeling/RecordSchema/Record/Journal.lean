import RecordSchema.Journal
import RecordSchema.Record.Perfect
import RecordSchema.Record.Registry
import RecordSchema.Record.Validation

/-!
# What is noted down about records

* `Record.validationEvents`, `Record.propertyEvents`, `standaloneEvents`: the events of validation.
* `Record.perfectEvents`: those of perfecting.
* `createTypeEvents`, `TypeRegistry.registerEvents`: those of making record types.
-/

namespace RecordSchema

/-- The events of checking a bare value. -/
def standaloneEvents (rule : Rule) (value : Option Json) : List Event :=
  rule.checkEvents "value" value ++ outcomeEvents (rule.violations "value" value)

namespace Record

/-- The events of checking every declared property; none if the record is not bound. -/
def validationEvents (r : Record) : List Event :=
  match r.schema? with
  | none => []
  | some schema =>
    .validatingRecord r.typeName? schema.size :: schema.checkEvents r.attributes ++
      outcomeEvents (schema.violations r.attributes)

/-- The events of checking one declared property; none if it cannot be checked. -/
def propertyEvents (r : Record) (name : String) : List Event :=
  match r.ruleOf name with
  | .error _ => []
  | .ok rule =>
    .validatingProperty name r.typeName? :: rule.checkEvents name (r.get? name) ++
      outcomeEvents (rule.violations name (r.get? name))

/-- The event of perfecting a record. -/
def perfectEvents (r : Record) : List Event :=
  match r.schema? with
  | none => []
  | some schema =>
    [.perfectedRecord r.typeName? (removedCount schema r.attributes)
      (filledCount schema (declaredOnly schema r.attributes))]

end Record

/-- The events of taking the schema of a source. -/
def SchemaSource.events : SchemaSource → List Event
  | .described description => Schema.descriptionEvents description
  | _ => []

/-- The events of making a record type. -/
def createTypeEvents (name : String) (source : SchemaSource) : List Event :=
  if name.isEmpty then []
  else
    source.events ++
      match source.shape 0 with
      | .ok shape => [.createdType name shape.schema.size]
      | .error _ => []

/-- The events of registering a record type. -/
def TypeRegistry.registerEvents (registry : TypeRegistry) (name : String)
    (source : SchemaSource) : List Event :=
  if (registry.get? name).isSome then [] else createTypeEvents name source

end RecordSchema
