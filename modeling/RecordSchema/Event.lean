/-!
# Events

What the library notes down while it works.  An event has a level and a line of text.

* `Event`: the events.
* `Event.text`: an event with its level, as it is noted down.
-/

namespace RecordSchema

/-- How much an event matters. -/
inductive Level where
  | trace
  | debug
  | warn
deriving DecidableEq, Repr

/-- The name of a level. -/
def Level.text : Level → String
  | .trace => "TRACE"
  | .debug => "DEBUG"
  | .warn => "WARN"

/-- Something to note down. -/
inductive Event where
  | checkingProperty (path : String)
  | enteringObject (path : String)
  | enteringElement (path : String)
  | validatingRecord (type : Option String) (properties : Nat)
  | validatingProperty (name : String) (type : Option String)
  | foundViolations (count : Nat)
  | rejectedRule (count : Nat)
  | rejectedSchema (count : Nat)
  | builtSchema (properties : Nat)
  | createdType (name : String) (properties : Nat)
  | perfectedRecord (type : Option String) (removed filled : Nat)
deriving DecidableEq, Repr

namespace Event

/-- The level of an event. -/
def level : Event → Level
  | .checkingProperty _ | .enteringObject _ | .enteringElement _ => .trace
  | .rejectedRule _ | .rejectedSchema _ => .warn
  | _ => .debug

/-- The name of a record type, or what stands for it if there is none. -/
def typeText (type : Option String) : String :=
  type.getD "<anonymous>"

/-- The line of an event. -/
def message : Event → String
  | .checkingProperty path => s!"Checking property '{path}'"
  | .enteringObject path => s!"Descending into nested object '{path}'"
  | .enteringElement path => s!"Descending into nested element '{path}'"
  | .validatingRecord type properties =>
    s!"Validating record of type '{typeText type}' against {properties} properties"
  | .validatingProperty name type =>
    s!"Validating property '{name}' of record type '{typeText type}'"
  | .foundViolations count => s!"Validation found {count} violation(s)"
  | .rejectedRule count => s!"Rejected property rule description with {count} violation(s)"
  | .rejectedSchema count => s!"Rejected schema description with {count} violation(s)"
  | .builtSchema properties => s!"Built schema with {properties} properties"
  | .createdType name properties => s!"Created record type '{name}' with {properties} properties"
  | .perfectedRecord type removed filled =>
    let who := typeText type
    s!"Perfected record of type '{who}': removed {removed} attribute(s), filled {filled} default(s)"

/-- An event with its level. -/
def text (e : Event) : String :=
  e.level.text ++ " " ++ e.message

end Event

end RecordSchema
