import RecordSchema.Record.Basic

/-!
# Perfecting

Perfecting brings the attributes of a record in line with the declared properties: what is not
declared is removed, and what is absent or null takes the default if there is one.

* `fillProperty`, `fill`: declared properties that are absent or null.
* `Record.perfect`: the perfected record.
-/

namespace RecordSchema

/-- Whether a value is absent or null. -/
def isAbsent : Option Json → Bool
  | none => true
  | some value => value.isNull

/-- The attributes with one declared property filled: by its default, or by null if it is absent. -/
def fillProperty (attributes : Fields) (name : String) (rule : Rule) : Fields :=
  if isAbsent (attributes.get? name) then
    match rule.settings.fallback with
    | some value => attributes.put name value
    | none => if attributes.has name then attributes else attributes.put name .null
  else attributes

/-- The attributes with every declared property filled. -/
def fill (properties : List (String × Rule)) (attributes : Fields) : Fields :=
  properties.foldl (fun attributes (name, rule) => fillProperty attributes name rule) attributes

/-- The attributes that are declared. -/
def declaredOnly (schema : Schema) (attributes : Fields) : Fields :=
  attributes.filter fun (name, _) => schema.contains name

/-- The number of attributes that are not declared. -/
def removedCount (schema : Schema) (attributes : Fields) : Nat :=
  attributes.length - (declaredOnly schema attributes).length

/-- The number of declared properties that take their default. -/
def filledCount (schema : Schema) (attributes : Fields) : Nat :=
  schema.properties.countP fun (name, rule) =>
    isAbsent (attributes.get? name) && rule.settings.fallback.isSome

/-- The perfected record. -/
def Record.perfect (r : Record) : Except Error Record :=
  match r.schema? with
  | none => .error (.invalidArgument .unboundPerfecting)
  | some schema =>
    .ok { r with attributes := fill schema.properties (declaredOnly schema r.attributes) }

end RecordSchema
