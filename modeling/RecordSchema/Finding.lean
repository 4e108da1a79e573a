import RecordSchema.Json.Text
import RecordSchema.Number.Text
import RecordSchema.Calendar.Temporal
import RecordSchema.Kind
import RecordSchema.Path
import RecordSchema.Violation

/-!
# Findings

A finding says what is wrong with a value and where, counted from the value that was checked.  It
becomes a violation once the path of that value is known.

* `Issue`: what may be wrong.
* `Finding.under`: a finding seen from one step further out.
* `Finding.violation`: the report of a finding.
-/

namespace RecordSchema

/-- Whether the settings of a rule look at the value itself or at a member of it. -/
inductive Scope where
  | value
  | member
deriving DecidableEq, Repr

/-- The two ends of a range. -/
inductive Side where
  | least
  | most
deriving DecidableEq, Repr

/-- The name of an end in messages. -/
def Side.text : Side → String
  | .least => "min"
  | .most => "max"

/-- What was held against a limit. -/
inductive Measured where
  | number (value : Json)
  | length (value : Json)
  | point (value : Json)
  | itemCount (count : Nat)

namespace Measured

/-- What was measured, as text. -/
def text : Measured → String
  | .number value => value.text
  | .length value => value.text
  | .point value => value.text
  | .itemCount count => toString count ++ " items"

/-- The unit, set after the name of the end. -/
def unit : Measured → String
  | .number _ => ""
  | .length _ => " length"
  | .point _ => ""
  | .itemCount _ => " length"

end Measured

/-- A limit that was passed. -/
inductive Limit where
  | bound (b : Bound)
  | point (t : Temporal)

/-- A limit as text. -/
def Limit.text : Limit → String
  | .bound b => b.text
  | .point t => t.text

/-- What is wrong with a value. -/
inductive Issue where
  | missing
  | wrongKind (expected : Kind) (value : Json)
  | noObject (item : Json)
  | wrongMemberKind (expected : Kind) (item : Json)
  | duplicate (item : Json)
  | unlisted (scope : Scope) (value : Json) (listed : List Json)
  | outside (scope : Scope) (side : Side) (measured : Measured) (limit : Limit)
  | unmatched (scope : Scope) (value : Json) (pattern : String)

namespace Issue

/-- The kind of violation that reports an issue. -/
def kind : Issue → ViolationKind
  | .missing => .required
  | .wrongKind _ _ => .type
  | .noObject _ => .type
  | .wrongMemberKind _ _ => .memberType
  | .duplicate _ => .duplicate
  | .unlisted .value _ _ => .enum
  | .unlisted .member _ _ => .memberEnum
  | .outside .value .least _ _ => .min
  | .outside .value .most _ _ => .max
  | .outside .member .least _ _ => .memberMin
  | .outside .member .most _ _ => .memberMax
  | .unmatched .value _ _ => .regex
  | .unmatched .member _ _ => .memberRegex

/-- The wording of an issue at a path.  A duplicate is reported of the collection around it. -/
def message (path around : String) : Issue → String
  | .missing => s!"The value for \"{path}\" is required."
  | .wrongKind expected value =>
    s!"The value for \"{path}\" is not of type \"{expected.tag}\": {value.text} ({value.form})"
  | .noObject item => s!"The value {item.text} for \"{path}\" is not of type \"object\"."
  | .wrongMemberKind expected item =>
    s!"The value {item.text} for \"{path}\" is not of type \"{expected.tag}\"."
  | .duplicate item => s!"The value {item.text} in \"{around}\" is a duplicate set member."
  | .unlisted _ value listed =>
    s!"The value {value.text} for \"{path}\" is not in enumeration {Json.listText listed}."
  | .outside _ side measured limit =>
    let shown := measured.text
    let unit := measured.unit
    s!"The value of {shown} for \"{path}\" fails {side.text}{unit} of {limit.text}."
  | .unmatched _ value pattern =>
    s!"The value {value.text} for \"{path}\" does not match regex: {pattern}"

end Issue

/-- An issue and its place, counted from the value that was checked. -/
structure Finding where
  location : Location
  issue : Issue

namespace Finding

/-- An issue of the value itself. -/
def here (issue : Issue) : Finding :=
  ⟨[], issue⟩

/-- A finding seen from one step further out. -/
def under (step : PathStep) (f : Finding) : Finding :=
  ⟨step :: f.location, f.issue⟩

/-- The report of a finding; `root` is the path of the value that was checked. -/
def violation (root : String) (f : Finding) : Violation :=
  let path := f.location.pathFrom root
  let around := Location.pathFrom root f.location.dropLast
  ⟨path, f.issue.kind, f.issue.message path around⟩

end Finding

end RecordSchema
