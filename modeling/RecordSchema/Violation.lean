import RecordSchema.Json.Basic

/-!
# Violations

A violation is what is reported of a value that does not satisfy its rule, or of a definition that
makes no sense: a path, a kind and a message.

* `ViolationKind.concernsDefinition`: which kinds report definitions.
* `Violation.text`: the line in which a violation is shown.
* `Violation.ofJson?`: a violation in the form in which it is exchanged.
-/

namespace RecordSchema

/-- What a violation reports. -/
inductive ViolationKind where
  | required
  | type
  | enum
  | min
  | max
  | regex
  | duplicate
  | memberType
  | memberEnum
  | memberRegex
  | memberMin
  | memberMax
  | unknownSetting
  | invalidSetting
  | inconsistentSetting
  | emptyName
  | duplicateName
deriving DecidableEq, Repr

namespace ViolationKind

/-- Every kind. -/
def all : List ViolationKind :=
  [.required, .type, .enum, .min, .max, .regex, .duplicate, .memberType, .memberEnum, .memberRegex,
    .memberMin, .memberMax, .unknownSetting, .invalidSetting, .inconsistentSetting, .emptyName,
    .duplicateName]

/-- The name of a kind. -/
def tag : ViolationKind → String
  | .required => "required"
  | .type => "type"
  | .enum => "enum"
  | .min => "min"
  | .max => "max"
  | .regex => "regex"
  | .duplicate => "duplicate"
  | .memberType => "member_type"
  | .memberEnum => "member_enum"
  | .memberRegex => "member_regex"
  | .memberMin => "member_min"
  | .memberMax => "member_max"
  | .unknownSetting => "unknown_setting"
  | .invalidSetting => "invalid_setting"
  | .inconsistentSetting => "inconsistent_setting"
  | .emptyName => "empty_name"
  | .duplicateName => "duplicate_name"

/-- The kind with a given name. -/
def ofTag? (tag : String) : Option ViolationKind :=
  all.find? (·.tag == tag)

/-- The kind reports a definition and not a value. -/
def concernsDefinition : ViolationKind → Bool
  | .unknownSetting | .invalidSetting | .inconsistentSetting | .emptyName | .duplicateName => true
  | _ => false

end ViolationKind

/-- One report. -/
structure Violation where
  path : String
  kind : ViolationKind
  message : String
deriving DecidableEq, Repr

namespace Violation

/-- The line in which a violation is shown. -/
def text (v : Violation) : String :=
  v.path ++ ": " ++ v.message

/-- A violation in the form in which it is exchanged. -/
def toJson (v : Violation) : Json :=
  .obj [("path", .str v.path), ("kind", .str v.kind.tag), ("message", .str v.message)]

/-- A violation from the form in which it is exchanged; further fields do not matter. -/
def ofJson? : Json → Option Violation
  | .obj fields => do
    let path ← (← Fields.get? fields "path").text?
    let kind ← ViolationKind.ofTag? (← (← Fields.get? fields "kind").text?)
    let message ← (← Fields.get? fields "message").text?
    return ⟨path, kind, message⟩
  | _ => none

end Violation

end RecordSchema
