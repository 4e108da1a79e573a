import RecordSchema.Json.Text
import RecordSchema.Kind
import RecordSchema.Number.Text
import RecordSchema.Path
import RecordSchema.Violation

/-!
# Defects

A defect is what may be wrong with the description or the definition of a rule or a schema.

* `SettingName`: the names of the settings of a rule.
* `Defect`: the defects; `Defect.path`, `Defect.kind` and `Defect.message` report them.
* `Violation.under`: a report seen from one step further out.
-/

namespace RecordSchema

/-- The settings of a rule by name. -/
inductive SettingName where
  | type
  | required
  | default
  | enum
  | min
  | max
  | regex
  | memberType
  | memberMin
  | memberMax
  | schema
deriving DecidableEq, Repr

namespace SettingName

/-- Every setting, in order. -/
def all : List SettingName :=
  [.type, .required, .default, .enum, .min, .max, .regex, .memberType, .memberMin, .memberMax,
    .schema]

/-- The name as it is written. -/
def text : SettingName → String
  | .type => "type"
  | .required => "required"
  | .default => "default"
  | .enum => "enum"
  | .min => "min"
  | .max => "max"
  | .regex => "regex"
  | .memberType => "member_type"
  | .memberMin => "member_min"
  | .memberMax => "member_max"
  | .schema => "schema"

/-- The setting with a given name. -/
def ofText? (text : String) : Option SettingName :=
  all.find? (·.text == text)

/-- The names of all settings, in quotes. -/
def listText : String :=
  "[" ++ ", ".intercalate (all.map fun name => Json.quoted name.text) ++ "]"

end SettingName

/-- The value that a setting expects. -/
inductive Expected where
  | boolean
  | array
  | number
  | numberOrString
  | string
  | mapping
deriving DecidableEq, Repr

/-- The name of what is expected. -/
def Expected.text : Expected → String
  | .boolean => "boolean"
  | .array => "array"
  | .number => "number"
  | .numberOrString => "number or string"
  | .string => "string"
  | .mapping => "mapping"

/-- What may be wrong with a description or a definition. -/
inductive Defect where
  /-- A rule is described by a value of a wrong form. -/
  | noRule (form : String)
  /-- A schema is described by a value of a wrong form. -/
  | noSchema (form : String)
  | unknownSetting (name : String)
  | wrongForm (setting : SettingName) (expected : Expected) (form : String)
  | unknownKind (setting : SettingName) (tag : String)
  /-- A pattern cannot be read.  The message says no more: why it cannot be read is put into words
  by the library of patterns, and these words are left out here. -/
  | badPattern
  /-- A limit is given as text for a kind whose values are no points in time. -/
  | textLimit (setting : SettingName) (kind : Kind)
  | unreadablePoint (setting : SettingName) (text : String) (kind : Kind)
  | emptyEnumeration
  | enumeratedObjects
  | enumeratedForm (form : String)
  | enumeratedKind (value : Json) (kind : Kind)
  | inapplicableLimit (setting : SettingName) (kind : Kind)
  | negativeLength (setting : SettingName) (limit : Bound)
  | reversedLimits (lower upper : SettingName) (least most : Bound)
  | reversedPoints (earliest latest : Temporal)
  | inapplicableMemberKind (kind : Kind)
  | collectionsInside
  | inapplicableMemberLimit (setting : SettingName)
  | inapplicablePattern
  | inapplicableSchema (kind : Kind)
  | schemaOfMembers
  /-- The default breaks the rule; the message says how. -/
  | badDefault (message : String)
  | emptyName
  | duplicateName (name : String)

namespace Defect

/-- The path of a property without a name. -/
def emptyNamePath : String := "[\"\"]"

/-- Where a defect is reported. -/
def path : Defect → String
  | .noRule _ => ""
  | .noSchema _ => ""
  | .unknownSetting name => name
  | .wrongForm setting _ _ => setting.text
  | .unknownKind setting _ => setting.text
  | .badPattern => SettingName.text .regex
  | .textLimit setting _ => setting.text
  | .unreadablePoint setting _ _ => setting.text
  | .emptyEnumeration => SettingName.text .enum
  | .enumeratedObjects => SettingName.text .enum
  | .enumeratedForm _ => SettingName.text .enum
  | .enumeratedKind _ _ => SettingName.text .enum
  | .inapplicableLimit setting _ => setting.text
  | .negativeLength setting _ => setting.text
  | .reversedLimits lower _ _ _ => lower.text
  | .reversedPoints _ _ => SettingName.text .min
  | .inapplicableMemberKind _ => SettingName.text .memberType
  | .collectionsInside => SettingName.text .memberType
  | .inapplicableMemberLimit setting => setting.text
  | .inapplicablePattern => SettingName.text .regex
  | .inapplicableSchema _ => SettingName.text .schema
  | .schemaOfMembers => SettingName.text .memberType
  | .badDefault _ => SettingName.text .default
  | .emptyName => emptyNamePath
  | .duplicateName name => name

/-- The kind of violation that reports a defect. -/
def kind : Defect → ViolationKind
  | .unknownSetting _ => .unknownSetting
  | .emptyName => .emptyName
  | .duplicateName _ => .duplicateName
  | .noRule _ | .noSchema _ | .wrongForm _ _ _ | .unknownKind _ _ | .badPattern | .textLimit _ _
  | .unreadablePoint _ _ _ | .emptyEnumeration | .enumeratedForm _ | .negativeLength _ _
  | .badDefault _ => .invalidSetting
  | .enumeratedObjects | .enumeratedKind _ _ | .inapplicableLimit _ _ | .reversedLimits _ _ _ _
  | .reversedPoints _ _ | .inapplicableMemberKind _ | .collectionsInside
  | .inapplicableMemberLimit _ | .inapplicablePattern | .inapplicableSchema _
  | .schemaOfMembers => .inconsistentSetting

/-- The wording of a defect. -/
def message : Defect → String
  | .noRule form => s!"A rule description must be a mapping of settings, got {form}."
  | .noSchema form => s!"A schema description must be a mapping of property names, got {form}."
  | .unknownSetting name =>
    s!"The setting \"{name}\" is not recognized; expected one of {SettingName.listText}."
  | .wrongForm setting expected form =>
    s!"The \"{setting.text}\" setting must be a {expected.text}, got {form}."
  | .unknownKind _ tag => s!"Illegal type declaration: {tag}"
  | .badPattern => "Invalid regex:"
  | .textLimit setting kind =>
    s!"The \"{setting.text}\" setting must be a number for type \"{kind.tag}\", got string."
  | .unreadablePoint _ text kind => s!"The bound \"{text}\" is not a valid {kind.tag} value."
  | .emptyEnumeration => "The enumeration must not be empty."
  | .enumeratedObjects => "An enumeration cannot be declared for object values."
  | .enumeratedForm form => s!"Enumeration members must be literals, got {form}."
  | .enumeratedKind value kind =>
    s!"Enumeration member {value.text} is not of type \"{kind.tag}\"."
  | .inapplicableLimit setting kind =>
    s!"The \"{setting.text}\" setting does not apply to type \"{kind.tag}\"."
  | .negativeLength _ limit => s!"A length bound cannot be negative, got {limit.text}."
  | .reversedLimits lower upper least most =>
    s!"The {lower.text} of {least.text} exceeds the {upper.text} of {most.text}."
  | .reversedPoints earliest latest =>
    s!"The min of {earliest.text} exceeds the max of {latest.text}."
  | .inapplicableMemberKind kind =>
    s!"A member type requires a list or set, not \"{kind.tag}\"."
  | .collectionsInside => "Collections of collections are not supported."
  | .inapplicableMemberLimit setting =>
    s!"The \"{setting.text}\" setting requires a numeric or string member type."
  | .inapplicablePattern => "A regex applies only to strings or to collections of strings."
  | .inapplicableSchema kind =>
    s!"A nested schema requires an object or list, not \"{kind.tag}\"."
  | .schemaOfMembers => "A list with a nested schema can only hold objects."
  | .badDefault message => s!"The default value does not satisfy the rule: {message}"
  | .emptyName => "A property name cannot be empty."
  | .duplicateName name => s!"The property \"{name}\" is declared more than once."

/-- The report of a defect. -/
def violation (d : Defect) : Violation :=
  ⟨d.path, d.kind, d.message⟩

end Defect

/-- A report seen from one step further out. -/
def Violation.under (outer : String) (v : Violation) : Violation :=
  { v with path := Path.nest outer v.path }

/-- The path of a property; one without a name has a path of its own. -/
def propertyPath (name : String) : String :=
  if name.isEmpty then Defect.emptyNamePath else name

end RecordSchema
