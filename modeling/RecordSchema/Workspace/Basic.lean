import RecordSchema.Record.Journal
import RecordSchema.Workspace.Source

/-!
# Workspaces

A workspace holds a registry of record types and, under names of the caller's choice, schemas,
record types and records.  A command is carried out on a workspace and gives a reply; a command that
fails changes nothing.

* `Command`, `Reply`, `Failure`: what a workspace is asked and what it answers.
* `Workspace.run`: one command, with the events that it notes down.
-/

namespace RecordSchema

/-- What a workspace holds. -/
structure Workspace where
  nextIdentity : Nat := 0
  registry : TypeRegistry := {}
  shapes : List (String × SharedSchema) := []
  types : List (String × RecordType) := []
  records : List (String × Record) := []

/-- How the schema of a record type is given. -/
inductive TypeSource where
  | kept (shape : String)
  | given (source : ShapeSource)

/-- A record type by the name it was kept or registered under. -/
inductive TypeReference where
  | kept (name : String)
  | registered (name : String)

/-- What a workspace is asked. -/
inductive Command where
  | keepSchema (source : ShapeSource) (keptAs : String)
  | register (name : String) (source : TypeSource)
  | createType (name : String) (source : TypeSource) (keptAs : String)
  | showRegistry
  | getType (name : String)
  | createRecord (type : String) (keptAs : String)
  | newRecord (type : TypeReference) (value : Option Json) (keptAs : String)
  | unbound (attributes : Option Fields) (keptAs : String)
  | copy (record : String) (keptAs : String)
  | set (record name : String) (value : Json)
  | remove (record name : String)
  | get (record name : String)
  | getOr (record name : String) (default : Json)
  | showRecord (record : String)
  | validate (record : String)
  | violations (record : String)
  | validateObject (record : String) (raised : Bool)
  | validateProperty (record name : String) (raised : Bool)
  | requireProperty (record name : String)
  | perfect (record : String)
  | sameSchema (record other : String)

/-- What a workspace answers. -/
inductive Reply where
  | names (names : List String)
  | type (type : RecordType)
  | noType
  | registry (registry : TypeRegistry)
  | record (record : Record)
  | changed (previous : Option Json) (record : Record)
  | found (value : Option Json)
  | value (value : Json)
  | valid
  | violations (violations : List Violation)
  | flag (flag : Bool)

/-- Why a command was not carried out. -/
inductive Failure where
  | error (e : Error)
  | nothingKept (name : String)

/-- The outcome of a command: the reply and the workspace after it, or why there is none. -/
abbrev Outcome := Except Failure (Reply × Workspace)

/-- The list of named things with one more; it replaces one of the same name. -/
def keep {α : Type} (name : String) (x : α) (kept : List (String × α)) : List (String × α) :=
  (name, x) :: kept.filter (·.1 != name)

namespace Workspace

/-- Something that was kept under a name. -/
def lookUp {α : Type} (kept : List (String × α)) (name : String) : Except Failure α :=
  match kept.lookup name with
  | some x => .ok x
  | none => .error (.nothingKept name)

/-- A record that was kept. -/
def recordAt (w : Workspace) (name : String) : Except Failure Record :=
  lookUp w.records name

/-- The workspace with a record kept under a name. -/
def keepRecord (w : Workspace) (name : String) (r : Record) : Workspace :=
  { w with records := keep name r w.records }

/-- A record type that was kept or registered. -/
def typeAt (w : Workspace) : TypeReference → Except Failure RecordType
  | .kept name => lookUp w.types name
  | .registered name =>
    match w.registry.get? name with
    | some type => .ok type
    | none => .error (.nothingKept name)

/-- The source of the schema of a type.  Named rules are made into a schema first, a description is
left to whoever makes the type. -/
def sourceOf (w : Workspace) : TypeSource → Except Failure SchemaSource
  | .kept shape => (lookUp w.shapes shape).map .shared
  | .given (.described description) => .ok (.described description)
  | .given (.listed rules) =>
    ((ShapeSource.listed rules).schema.mapError .error).map .made

/-- The events of `sourceOf`. -/
def sourceEvents : TypeSource → List Event
  | .given (.listed rules) => (ShapeSource.listed rules).events
  | _ => []

/-! ### Commands -/

/-- The outcome of a command. -/
def perform (w : Workspace) : Command → Outcome
  | .keepSchema source keptAs => do
    let schema ← source.schema.mapError .error
    let shapes := keep keptAs ⟨w.nextIdentity, schema⟩ w.shapes
    return (.names schema.names, { w with nextIdentity := w.nextIdentity + 1, shapes := shapes })
  | .register name source => do
    let source ← w.sourceOf source
    let (type, registry) ← (w.registry.register w.nextIdentity name source).mapError .error
    return (.type type, { w with nextIdentity := w.nextIdentity + 1, registry := registry })
  | .createType name source keptAs => do
    let source ← w.sourceOf source
    let type ← (RecordSchema.createType w.nextIdentity name source).mapError .error
    let types := keep keptAs type w.types
    return (.type type, { w with nextIdentity := w.nextIdentity + 1, types := types })
  | .showRegistry => return (.registry w.registry, w)
  | .getType name =>
    match w.registry.get? name with
    | some type => return (.type type, w)
    | none => return (.noType, w)
  | .createRecord type keptAs => do
    let r ← (w.registry.createRecord type).mapError .error
    return (.record r, w.keepRecord keptAs r)
  | .newRecord type value keptAs => do
    let type ← w.typeAt type
    let r ← match value with
      | some value => (type.recordFromValue value).mapError .error
      | none => pure type.newRecord
    return (.record r, w.keepRecord keptAs r)
  | .unbound attributes keptAs =>
    let r := Record.ofAttributes (attributes.getD [])
    return (.record r, w.keepRecord keptAs r)
  | .copy record keptAs => do
    let r ← w.recordAt record
    return (.record r, w.keepRecord keptAs r)
  | .set record name value => do
    let r ← w.recordAt record
    let changed := r.set name value
    return (.changed (r.get? name) changed, w.keepRecord record changed)
  | .remove record name => do
    let r ← w.recordAt record
    let changed := r.remove name
    return (.changed (r.get? name) changed, w.keepRecord record changed)
  | .get record name => do
    let r ← w.recordAt record
    return (.found (r.get? name), w)
  | .getOr record name default => do
    let r ← w.recordAt record
    return (.value (r.getD name default), w)
  | .showRecord record => do
    let r ← w.recordAt record
    return (.record r, w)
  | .validate record => do
    let r ← w.recordAt record
    r.validate.mapError .error
    return (.valid, w)
  | .violations record => do
    let r ← w.recordAt record
    let found ← r.violations.mapError .error
    return (.violations found, w)
  | .validateObject record raised => do
    let r ← w.recordAt record
    let found ← (r.validateWith raised).mapError .error
    return (.violations found, w)
  | .validateProperty record name raised => do
    let r ← w.recordAt record
    let found ← (r.validatePropertyWith name raised).mapError .error
    return (.violations found, w)
  | .requireProperty record name => do
    let r ← w.recordAt record
    (r.validateProperty name).mapError .error
    return (.valid, w)
  | .perfect record => do
    let r ← w.recordAt record
    let perfected ← r.perfect.mapError .error
    return (.record perfected, w.keepRecord record perfected)
  | .sameSchema record other => do
    let r ← w.recordAt record
    let s ← w.recordAt other
    return (.flag (r.sharesSchema s), w)

/-- The events of a command on a record that was kept. -/
def recordEvents (w : Workspace) (name : String) (events : Record → List Event) : List Event :=
  match w.recordAt name with
  | .ok r => events r
  | .error _ => []

/-- The events of a command on the source of a schema. -/
def typeEvents (w : Workspace) (source : TypeSource) (events : SchemaSource → List Event) :
    List Event :=
  sourceEvents source ++
    match w.sourceOf source with
    | .ok source => events source
    | .error _ => []

/-- The events of a command. -/
def events (w : Workspace) : Command → List Event
  | .keepSchema source _ => source.events
  | .register name source => w.typeEvents source (w.registry.registerEvents name)
  | .createType name source _ => w.typeEvents source (createTypeEvents name)
  | .validate record => w.recordEvents record Record.validationEvents
  | .violations record => w.recordEvents record Record.validationEvents
  | .validateObject record _ => w.recordEvents record Record.validationEvents
  | .validateProperty record name _ => w.recordEvents record (·.propertyEvents name)
  | .requireProperty record name => w.recordEvents record (·.propertyEvents name)
  | .perfect record => w.recordEvents record Record.perfectEvents
  | _ => []

/-- The reply to a command with the events that it notes down, and the workspace after it. -/
def run (w : Workspace) (command : Command) : Except Failure Reply × List Event × Workspace :=
  match w.perform command with
  | .ok (reply, after) => (.ok reply, w.events command, after)
  | .error failure => (.error failure, w.events command, w)

end Workspace

end RecordSchema
