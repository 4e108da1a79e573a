import RecordSchema.Error
import RecordSchema.Rule.Definition

/-!
# Drafts

A draft collects settings until they are made into a rule.  Patterns and points in time are still
texts there; making the rule reads them, and then examines whether the settings fit each other.

* `Setting`: one setting with its value.
* `Draft.put`: the draft with one more setting, which replaces an earlier one.
* `Draft.assemble`: the rule of a draft, or the reports of what is wrong with it.
-/

namespace RecordSchema

/-- One setting of a rule. -/
inductive Setting where
  | kind (kind : Kind)
  | required (required : Bool)
  | fallback (value : Json)
  | enumeration (listed : List Json)
  | least (limit : Bound)
  | most (limit : Bound)
  | earliest (text : String)
  | latest (text : String)
  | pattern (text : String)
  | memberKind (kind : Kind)
  | memberLeast (limit : Bound)
  | memberMost (limit : Bound)
  | nested (schema : Schema)

/-- The settings so far. -/
structure Draft where
  kind : Kind := .any
  required : Bool := false
  fallback : Option Json := none
  enumeration : Option (List Json) := none
  least : Option Bound := none
  most : Option Bound := none
  earliest : Option String := none
  latest : Option String := none
  pattern : Option String := none
  memberKind : Option Kind := none
  memberLeast : Option Bound := none
  memberMost : Option Bound := none
  nested : Option Schema := none

namespace Draft

/-- The draft with one more setting. -/
def put (d : Draft) : Setting → Draft
  | .kind kind => { d with kind := kind }
  | .required required => { d with required := required }
  | .fallback value => { d with fallback := some value }
  | .enumeration listed => { d with enumeration := some listed }
  | .least limit => { d with least := some limit }
  | .most limit => { d with most := some limit }
  | .earliest text => { d with earliest := some text }
  | .latest text => { d with latest := some text }
  | .pattern text => { d with pattern := some text }
  | .memberKind kind => { d with memberKind := some kind }
  | .memberLeast limit => { d with memberLeast := some limit }
  | .memberMost limit => { d with memberMost := some limit }
  | .nested schema => { d with nested := some schema }

/-- The draft of settings that are given one after another. -/
def ofSettings (settings : List Setting) : Draft :=
  settings.foldl put {}

/-! ### Texts -/

/-- The defect of a pattern that cannot be read. -/
def patternDefects (text : Option String) : List Defect :=
  match text with
  | some text => if (Pattern.ofText? text).isNone then [.badPattern] else []
  | none => []

/-- The defect of a text that is no point in time for a kind. -/
def pointDefects (kind : Kind) (setting : SettingName) (text : Option String) : List Defect :=
  match text with
  | some text =>
    if !kind.isTemporal then [.textLimit setting kind]
    else if (kind.readPoint? text).isNone then [.unreadablePoint setting text kind]
    else []
  | none => []

/-- The defects of the texts of a draft. -/
def textDefects (d : Draft) : List Defect :=
  patternDefects d.pattern ++ pointDefects d.kind .min d.earliest ++
    pointDefects d.kind .max d.latest

/-! ### Rules -/

/-- The settings of a draft with its texts read. -/
def settings (d : Draft) : Settings :=
  { kind := d.kind
    required := d.required
    fallback := d.fallback
    enumeration := d.enumeration
    least := d.least
    most := d.most
    earliest := d.earliest.bind d.kind.readPoint?
    latest := d.latest.bind d.kind.readPoint?
    pattern := d.pattern.bind Pattern.ofText?
    memberKind := d.memberKind
    memberLeast := d.memberLeast
    memberMost := d.memberMost }

/-- The rule of a draft, which may still have defects. -/
def rule (d : Draft) : Rule :=
  ⟨d.settings, d.nested⟩

/-- The defects of a draft: those of its texts, and if there are none those of its rule. -/
def defects (d : Draft) : List Defect :=
  if d.textDefects.isEmpty then d.rule.defects else d.textDefects

/-- The rule of a draft without defects. -/
def assemble (d : Draft) : Except (List Violation) Rule :=
  match d.defects with
  | [] => .ok d.rule
  | found => .error (found.map Defect.violation)

/-- The rule of a draft without defects, for callers of the library. -/
def build (d : Draft) : Except Error Rule :=
  d.assemble.mapError .invalidDefinition

end Draft

end RecordSchema
