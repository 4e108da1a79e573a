import RecordSchema.Violation

/-!
# Errors

An operation fails for one of three reasons: a definition makes no sense, an argument is not usable,
or a value was to be free of violations and is not.

* `ArgumentFault`: what is wrong with an argument.
* `Error.message`: the text of an error, in which the messages of its violations are joined.
-/

namespace RecordSchema

/-- What is wrong with an argument. -/
inductive ArgumentFault where
  | noDescription
  | descriptionForm (form : String)
  | emptyTypeName
  | takenTypeName (name : String)
  | unknownType (name : String)
  | recordForm (type : String)
  | unboundValidation
  | unboundPerfecting
  | emptyPropertyName
  | undefinedProperty (name : String)
  | other (text : String)
deriving DecidableEq, Repr

/-- The wording of a fault. -/
def ArgumentFault.message : ArgumentFault → String
  | .noDescription => "The schema description is required."
  | .descriptionForm form => s!"The schema description must be a mapping, got {form}."
  | .emptyTypeName => "The \"name\" argument is required and cannot be empty."
  | .takenTypeName name => s!"A record type named '{name}' is already registered."
  | .unknownType name => s!"Unknown record type '{name}'."
  | .recordForm type => s!"Records of type '{type}' must be created from a mapping."
  | .unboundValidation => "Validation requires a record bound to a schema."
  | .unboundPerfecting => "Perfecting requires a record bound to a schema."
  | .emptyPropertyName => "\"property_name\" is required and cannot be empty."
  | .undefinedProperty name => s!"The property \"{name}\" is not defined by the record's schema."
  | .other text => text

/-- Why an operation failed. -/
inductive Error where
  | invalidDefinition (violations : List Violation)
  | invalidArgument (fault : ArgumentFault)
  | validationFailed (violations : List Violation)
deriving DecidableEq, Repr

namespace Error

/-- The name of the reason. -/
def tag : Error → String
  | .invalidDefinition _ => "InvalidSchemaDefinition"
  | .invalidArgument _ => "InvalidArgument"
  | .validationFailed _ => "ValidationFailed"

/-- The violations of an error, if it is about violations. -/
def violations? : Error → Option (List Violation)
  | .invalidDefinition vs => some vs
  | .invalidArgument _ => none
  | .validationFailed vs => some vs

/-- The messages of violations in one line. -/
def summary (vs : List Violation) : String :=
  "; ".intercalate (vs.map Violation.message)

/-- The text of an error. -/
def message : Error → String
  | .invalidDefinition vs => "Invalid schema definition: " ++ summary vs
  | .invalidArgument fault => "Invalid argument: " ++ fault.message
  | .validationFailed vs => "Validation failed: " ++ summary vs

end Error

end RecordSchema
