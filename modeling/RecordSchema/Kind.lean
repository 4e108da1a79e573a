import RecordSchema.Calendar.Temporal
import RecordSchema.Json.Basic

/-!
# Kinds of values

A property has a kind, which tells what values it takes and how they are limited.

* `Kind.tag`, `Kind.ofTag?`: the names of kinds; some have a short name besides.
* `Kind.admits`: which values are of a kind.
* `Kind.readPoint?`: the point in time that a text denotes for a kind.
-/

namespace RecordSchema

/-- The kinds of values. -/
inductive Kind where
  | any
  | boolean
  | integer
  | float
  | string
  | list
  | set
  | object
  | date
  | time
  | dateTime
deriving DecidableEq, Repr, Inhabited

namespace Kind

/-- Every kind, in order. -/
def all : List Kind :=
  [.any, .boolean, .integer, .float, .string, .list, .set, .object, .date, .time, .dateTime]

/-! ### Names -/

/-- The name of a kind. -/
def tag : Kind → String
  | .any => "any"
  | .boolean => "boolean"
  | .integer => "integer"
  | .float => "float"
  | .string => "string"
  | .list => "list"
  | .set => "set"
  | .object => "object"
  | .date => "date"
  | .time => "time"
  | .dateTime => "datetime"

/-- The kind with a given name. -/
def named? (tag : String) : Option Kind :=
  all.find? (·.tag == tag)

/-- The short names. -/
def shortNames : List (String × Kind) :=
  [("bool", .boolean), ("int", .integer), ("str", .string), ("dict", .object)]

/-- The kind with a given name, which may be a short one. -/
def ofTag? (tag : String) : Option Kind :=
  (named? tag).or (shortNames.lookup tag)

/-! ### Groups -/

/-- The values are arrays of members. -/
def isCollection : Kind → Bool
  | .list | .set => true
  | _ => false

/-- The values may be shaped by a schema of their own. -/
def isComposite : Kind → Bool
  | .object | .list => true
  | _ => false

/-- The values are limited as numbers. -/
def isNumeric : Kind → Bool
  | .integer | .float => true
  | _ => false

/-- The values are limited by their length. -/
def hasLength : Kind → Bool
  | .string | .list | .set | .object => true
  | _ => false

/-- The scale on which the values are points in time. -/
def scale? : Kind → Option Scale
  | .date => some .date
  | .time => some .time
  | .dateTime => some .dateTime
  | _ => none

/-- The values are points in time. -/
def isTemporal (k : Kind) : Bool :=
  k.scale?.isSome

/-! ### Values -/

/-- The point in time that a text denotes; only for points in time. -/
def readPoint? (k : Kind) (text : String) : Option Temporal :=
  k.scale?.bind (Temporal.read? · text)

/-- Whether a value is of a kind. -/
def admits (k : Kind) (value : Json) : Bool :=
  match k, value with
  | .any, _ => true
  | .boolean, .bool _ => true
  | .integer, .num n => n.isInt
  | .float, .num _ => true
  | .string, .str _ => true
  | .list, .arr _ => true
  | .set, .arr _ => true
  | .object, .obj _ => true
  | .date, .str text => (Kind.date.readPoint? text).isSome
  | .time, .str text => (Kind.time.readPoint? text).isSome
  | .dateTime, .str text => (Kind.dateTime.readPoint? text).isSome
  | _, _ => false

end Kind

end RecordSchema
