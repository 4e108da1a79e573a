import RecordSchema.Calendar.DateTime

/-!
# Points in time

A point in time is a date, a time of day, or both with an offset.  Points of one of these scales
are ordered; points of different scales are not.

* `Temporal.lt`: the order.
* `Temporal.read?`, `Temporal.text`: the written form on a given scale.
-/

namespace RecordSchema

open Calendar

/-- The scales on which a point in time may lie. -/
inductive Scale where
  | date
  | time
  | dateTime
deriving DecidableEq, Repr

/-- A point in time. -/
inductive Temporal where
  | date (d : Date)
  | time (t : TimeOfDay)
  | dateTime (t : DateTime)
deriving DecidableEq

namespace Temporal

/-- The scale of a point. -/
def scale : Temporal → Scale
  | .date _ => .date
  | .time _ => .time
  | .dateTime _ => .dateTime

/-- The place of a point on its scale. -/
def position : Temporal → Int
  | .date d => d.dayNumber
  | .time t => t.ticks
  | .dateTime t => t.instant

/-- Strictly earlier, on the same scale. -/
def lt (a b : Temporal) : Bool :=
  a.scale == b.scale && decide (a.position < b.position)

/-- The order of two points of one scale. -/
def compare? (a b : Temporal) : Option Ordering :=
  if a.scale = b.scale then some (compare a.position b.position) else none

/-- The point that a text denotes on a scale. -/
def read? (scale : Scale) (text : String) : Option Temporal :=
  match scale with
  | .date => (Date.read? text.toList).map .date
  | .time => (TimeOfDay.read? text.toList).map .time
  | .dateTime => (DateTime.read? text.toList).map .dateTime

/-- The written form. -/
def text : Temporal → String
  | .date d => String.ofList d.text
  | .time t => String.ofList t.text
  | .dateTime t => String.ofList t.text

end Temporal

end RecordSchema
