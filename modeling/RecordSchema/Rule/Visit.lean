import RecordSchema.Event
import RecordSchema.Finding
import RecordSchema.Rule.Basic

/-!
# Visits

The properties and nested objects that a check goes through, in its order.  A rule is visited where
it is applied; the schema inside it is entered for a value of the right kind only.

* `Visit`: a place that is visited.
* `Rule.visits`, `Schema.visits`: the visits of a check.
-/

namespace RecordSchema

/-- What is visited at a place. -/
inductive VisitTarget where
  | property
  | object
  | element
deriving DecidableEq, Repr

/-- A visit of a place, counted from the value that is checked. -/
structure Visit where
  location : Location
  target : VisitTarget
deriving DecidableEq, Repr

namespace Visit

/-- A visit seen from one step further out. -/
def under (step : PathStep) (v : Visit) : Visit :=
  ⟨step :: v.location, v.target⟩

/-- The event of a visit; `root` is the path of the value that is checked. -/
def event (root : String) (v : Visit) : Event :=
  match v.target with
  | .property => .checkingProperty (v.location.pathFrom root)
  | .object => .enteringObject (v.location.pathFrom root)
  | .element => .enteringElement (v.location.pathFrom root)

end Visit

/-- The visits inside a value, where those of its fields are given. -/
def nestedVisits (shape : Fields → List Visit) : Json → List Visit
  | .obj fields => ⟨[], .object⟩ :: shape fields
  | .arr items =>
    items.zipIdx.flatMap fun (item, i) =>
      match item with
      | .obj fields => ⟨[.item i], .element⟩ :: (shape fields).map (Visit.under (.item i))
      | _ => []
  | _ => []

/-- The visits inside a value that is there and of the right kind. -/
def Settings.visits (s : Settings) (inside : Json → List Visit) : Option Json → List Visit
  | none => []
  | some .null => []
  | some value => if s.kind.admits value then inside value else []

mutual

/-- The visits inside a value. -/
def Rule.visits : Rule → Option Json → List Visit
  | ⟨_, none⟩, _ => []
  | ⟨settings, some schema⟩, value =>
    settings.visits (nestedVisits fun fields => schema.visits fields) value
termination_by structural rule => rule

/-- The visits of the fields of an object. -/
def Schema.visits : Schema → Fields → List Visit
  | ⟨properties⟩, fields => propertyVisits properties fields
termination_by structural schema => schema

/-- The visits of the declared fields. -/
def propertyVisits : List (String × Rule) → Fields → List Visit
  | [], _ => []
  | (name, rule) :: rest, fields =>
    ⟨[.property name], .property⟩ ::
      (rule.visits (fields.get? name)).map (Visit.under (.property name)) ++
        propertyVisits rest fields
termination_by structural properties => properties

end

end RecordSchema
