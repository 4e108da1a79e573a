import RecordSchema.Finding
import RecordSchema.Rule.Basic

/-!
# Checking values

A value is checked against a rule.  The check collects every finding: an absent or null value is
missing if it is required, a value of another kind is not looked at any further, and all else is
checked against each setting, in a fixed order.

* `Facets`: the settings that limit one value, be it the value of a property or a member of it.
* `Rule.findings`: what is wrong with a value.
* `Schema.findings`: what is wrong with the fields of an object.
-/

namespace RecordSchema

/-! ### Facets -/

/-- What the limits of a value are held against. -/
inductive Gauge where
  | nothing
  | number
  | length
deriving DecidableEq, Repr

/-- The length of a value: characters, items or fields. -/
def Json.length? : Json → Option Nat
  | .str s => some s.length
  | .arr items => some items.length
  | .obj fields => some fields.length
  | _ => none

/-- What is measured of a value, and the measure. -/
def Gauge.measure? (gauge : Gauge) (value : Json) : Option (Measured × Binary64) :=
  match gauge with
  | .nothing => none
  | .number => value.number?.map fun n => (.number value, n.toBinary64)
  | .length => value.length?.map fun n => (.length value, .ofNat n)

/-- The settings that limit one value. -/
structure Facets where
  enumeration : Option (List Json)
  gauge : Gauge
  least : Option Bound
  most : Option Bound
  scale : Option Scale
  earliest : Option Temporal
  latest : Option Temporal
  pattern : Option Pattern

/-- The limits that a measure passes: first the lower one, then the upper one. -/
def passedLimits {α : Type} (lt : α → α → Bool) (measure : α) (least most : Option α) :
    List (Side × α) :=
  (least.filter fun limit => lt measure limit).toList.map (.least, ·) ++
    (most.filter fun limit => lt limit measure).toList.map (.most, ·)

/-- The issue of a value that is not listed. -/
def unlistedIssues (scope : Scope) (enumeration : Option (List Json)) (value : Json) :
    List Issue :=
  match enumeration with
  | some listed => if value.isAmong listed then [] else [.unlisted scope value listed]
  | none => []

/-- The issues of a number or a length that passes a limit. -/
def boundIssues (scope : Scope) (measured : Option (Measured × Binary64))
    (least most : Option Bound) : List Issue :=
  match measured with
  | some (what, measure) =>
    (passedLimits Bound.lt (.finite measure) least most).map fun (side, limit) =>
      .outside scope side what (.bound limit)
  | none => []

/-- The issues of a point in time that passes a limit. -/
def pointIssues (scope : Scope) (scale : Option Scale) (earliest latest : Option Temporal)
    (value : Json) : List Issue :=
  match scale, value with
  | some scale, .str text =>
    match Temporal.read? scale text with
    | some point =>
      (passedLimits Temporal.lt point earliest latest).map fun (side, limit) =>
        .outside scope side (.point value) (.point limit)
    | none => []
  | _, _ => []

/-- The issue of a text that does not match; the empty text always does. -/
def patternIssues (scope : Scope) (pattern : Option Pattern) (value : Json) : List Issue :=
  match pattern, value with
  | some pattern, .str text =>
    if text.isEmpty || pattern.matchesStart text then []
    else [.unmatched scope value pattern.source]
  | _, _ => []

/-- The issues of a value with its facets. -/
def Facets.issues (scope : Scope) (f : Facets) (value : Json) : List Issue :=
  unlistedIssues scope f.enumeration value ++
    boundIssues scope (f.gauge.measure? value) f.least f.most ++
    pointIssues scope f.scale f.earliest f.latest value ++
    patternIssues scope f.pattern value

namespace Settings

/-- The facets of the value itself. -/
def facets (s : Settings) : Facets :=
  { enumeration := s.enumeration
    gauge := if s.kind.isNumeric then .number else if s.kind.hasLength then .length else .nothing
    least := s.least
    most := s.most
    scale := s.kind.scale?
    earliest := s.earliest
    latest := s.latest
    pattern := s.pattern }

/-- The facets of a member of a collection. -/
def memberFacets (s : Settings) : Facets :=
  { enumeration := s.enumeration
    gauge := match s.memberKind with
      | some .string => .length
      | some kind => if kind.isNumeric then .number else .nothing
      | none => .nothing
    least := s.memberLeast
    most := s.memberMost
    scale := none
    earliest := none
    latest := none
    pattern := if s.memberKind = some .string then s.pattern else none }

/-! ### Collections -/

/-- The issues of a member; the members before it are given. -/
def memberIssues (s : Settings) (earlier : List Json) (item : Json) : List Issue :=
  let repeated := if s.kind = .set ∧ item.isAmong earlier then [.duplicate item] else []
  repeated ++
    match s.memberKind with
    | some kind =>
      if kind.admits item then s.memberFacets.issues .member item
      else [.wrongMemberKind kind item]
    | none => s.memberFacets.issues .member item

/-- The findings of members from a given index on. -/
def memberFindings (s : Settings) (earlier : List Json) : List Json → List Finding
  | [] => []
  | item :: rest =>
    (s.memberIssues earlier item).map (⟨[.item earlier.length], ·⟩) ++
      s.memberFindings (earlier ++ [item]) rest

/-- The findings of a collection: its size, and then its members. -/
def collectionFindings (s : Settings) (items : List Json) : List Finding :=
  (boundIssues .value (some (.itemCount items.length, .ofNat items.length)) s.least s.most).map
      Finding.here ++
    s.memberFindings [] items

/-- The findings of a value of the right kind, the schema inside aside. -/
def ownFindings (s : Settings) (value : Json) : List Finding :=
  match value with
  | .arr items =>
    if s.kind.isCollection then s.collectionFindings items
    else (s.facets.issues .value value).map Finding.here
  | _ => (s.facets.issues .value value).map Finding.here

/-- The findings of a value, where those of the schema inside are given for a value of the right
kind. -/
def findings (s : Settings) (inside : Json → List Finding) : Option Json → List Finding
  | none => if s.required then [.here .missing] else []
  | some .null => if s.required then [.here .missing] else []
  | some value =>
    if s.kind.admits value then s.ownFindings value ++ inside value
    else [.here (.wrongKind s.kind value)]

end Settings

/-! ### Schemas inside -/

/-- The findings of the schema inside for an item of a list.  An item that is no object has been
reported already if members must be objects. -/
def itemFindings (memberKind : Option Kind) (shape : Fields → List Finding) : Json → List Finding
  | .obj fields => shape fields
  | item => if memberKind = some .object then [] else [.here (.noObject item)]

/-- The findings of the schema inside for a value: for its fields, or for each of its items. -/
def nestedFindings (memberKind : Option Kind) (shape : Fields → List Finding) :
    Json → List Finding
  | .obj fields => shape fields
  | .arr items =>
    items.zipIdx.flatMap fun (item, i) =>
      (itemFindings memberKind shape item).map (Finding.under (.item i))
  | _ => []

mutual

/-- What is wrong with a value, which may be absent. -/
def Rule.findings : Rule → Option Json → List Finding
  | ⟨settings, none⟩, value => settings.findings (fun _ => []) value
  | ⟨settings, some schema⟩, value =>
    settings.findings (nestedFindings settings.memberKind fun fields => schema.findings fields)
      value
termination_by structural rule => rule

/-- What is wrong with the fields of an object. -/
def Schema.findings : Schema → Fields → List Finding
  | ⟨properties⟩, fields => propertyFindings properties fields
termination_by structural schema => schema

/-- What is wrong with the fields that are declared, in the order of the declarations. -/
def propertyFindings : List (String × Rule) → Fields → List Finding
  | [], _ => []
  | (name, rule) :: rest, fields =>
    (rule.findings (fields.get? name)).map (Finding.under (.property name)) ++
      propertyFindings rest fields
termination_by structural properties => properties

end

/-! ### Reports -/

/-- The violations of a value under a name. -/
def Rule.violations (rule : Rule) (name : String) (value : Option Json) : List Violation :=
  (rule.findings value).map (Finding.violation name)

/-- The violations of the fields of an object. -/
def Schema.violations (schema : Schema) (fields : Fields) : List Violation :=
  (schema.findings fields).map (Finding.violation "")

end RecordSchema
