import RecordSchema.Rule.Check
import RecordSchema.Rule.Defect

/-!
# Consistent rules

The settings of a rule must fit each other.  Each group of settings is examined on its own, and the
default is checked against the rule as a value would be.

* `Rule.defects`: what is wrong with a rule, group by group.
* `Rule.definitionViolations`: the reports of it.
-/

namespace RecordSchema

namespace Settings

/-- The kind that listed values must have: for a collection that of its members. -/
def listedKind (s : Settings) : Kind :=
  if s.kind.isCollection then s.memberKind.getD .any else s.kind

/-- The defect of one listed value: it must be a literal, and of the kind of the values. -/
def listedDefects (kind : Kind) (value : Json) : List Defect :=
  match value with
  | .null | .arr _ | .obj _ => [.enumeratedForm value.form]
  | value => if kind.admits value then [] else [.enumeratedKind value kind]

/-- Defects of the enumeration. -/
def enumerationDefects (s : Settings) : List Defect :=
  match s.enumeration with
  | none => []
  | some [] => [.emptyEnumeration]
  | some listed =>
    if s.listedKind = .object then [.enumeratedObjects]
    else listed.flatMap (listedDefects s.listedKind)

/-- The defect of one limit: the values must have a measure, and a length is not negative. -/
def limitDefects (kind : Kind) (setting : SettingName) (limit : Option Bound) : List Defect :=
  match limit with
  | none => []
  | some limit =>
    if !(kind.isNumeric || kind.hasLength) then [.inapplicableLimit setting kind]
    else if kind.hasLength && limit.isNegative then [.negativeLength setting limit]
    else []

/-- The defect of two limits the lower one of which exceeds the upper one. -/
def reversedDefects (lower upper : SettingName) (least most : Option Bound) : List Defect :=
  match least, most with
  | some least, some most =>
    if most.lt least then [.reversedLimits lower upper least most] else []
  | _, _ => []

/-- The defect of two points in time the earlier one of which lies after the later one. -/
def reversedPointDefects (earliest latest : Option Temporal) : List Defect :=
  match earliest, latest with
  | some earliest, some latest =>
    if latest.lt earliest then [.reversedPoints earliest latest] else []
  | _, _ => []

/-- Defects of the limits. -/
def rangeDefects (s : Settings) : List Defect :=
  limitDefects s.kind .min s.least ++ limitDefects s.kind .max s.most ++
    reversedDefects .min .max s.least s.most ++ reversedPointDefects s.earliest s.latest

/-- Defects of the kind of members: only collections have members, and no collection is one. -/
def memberKindDefects (s : Settings) : List Defect :=
  match s.memberKind with
  | none => []
  | some kind =>
    if !s.kind.isCollection then [.inapplicableMemberKind s.kind]
    else if kind.isCollection then [.collectionsInside]
    else []

/-- The defect of one limit on members, which must be numbers or strings. -/
def memberLimitDefects (memberKind : Option Kind) (setting : SettingName) (limit : Option Bound) :
    List Defect :=
  match limit with
  | none => []
  | some limit =>
    if !memberKind.any fun kind => kind.isNumeric || kind == .string then
      [.inapplicableMemberLimit setting]
    else if memberKind = some .string && limit.isNegative then [.negativeLength setting limit]
    else []

/-- Defects of the settings for members. -/
def memberDefects (s : Settings) : List Defect :=
  s.memberKindDefects ++ memberLimitDefects s.memberKind .memberMin s.memberLeast ++
    memberLimitDefects s.memberKind .memberMax s.memberMost ++
    reversedDefects .memberMin .memberMax s.memberLeast s.memberMost

/-- The defect of a pattern, which is for strings or for members that are strings. -/
def patternDefects (s : Settings) : List Defect :=
  if s.pattern.isNone || s.kind = .string ||
      (s.kind.isCollection && s.memberKind = some .string) then []
  else [.inapplicablePattern]

/-- The defect of a schema inside, which is for objects or for lists of objects. -/
def schemaDefects (s : Settings) (hasSchema : Bool) : List Defect :=
  if !hasSchema then []
  else if !s.kind.isComposite then [.inapplicableSchema s.kind]
  else if s.kind = .list && s.memberKind.any (· != .object) then [.schemaOfMembers]
  else []

end Settings

/-- The path of a default while it is checked. -/
def defaultRoot : String := SettingName.text .default

namespace Rule

/-- Defects of the default, one for each finding. -/
def defaultDefects (rule : Rule) : List Defect :=
  match rule.settings.fallback with
  | none => []
  | some value =>
    (rule.findings (some value)).map fun f => .badDefault (f.violation defaultRoot).message

/-- What is wrong with a rule. -/
def defects (rule : Rule) : List Defect :=
  rule.settings.enumerationDefects ++ rule.settings.rangeDefects ++ rule.settings.memberDefects ++
    rule.settings.patternDefects ++ rule.settings.schemaDefects rule.nested.isSome ++
    rule.defaultDefects

/-- The reports of what is wrong with a rule. -/
def definitionViolations (rule : Rule) : List Violation :=
  rule.defects.map Defect.violation

end Rule

end RecordSchema
