import RecordSchema.Rule.Draft

/-!
# Descriptions

A rule is described by an object of settings, a schema by an object of rules.  Reading a description
goes through every setting and every property and collects all that is wrong.  Only when each
setting of a rule can be read by itself are they made into a rule.

* `SettingName.read`: the value of one setting, the schema inside aside.
* `Rule.decode`, `Schema.decode`: the rule or the schema of a description, or the reports.
* `Rule.ofDescription`, `Schema.ofDescription`: the same for callers of the library.
-/

namespace RecordSchema

namespace SettingName

/-- A kind given by its tag. -/
def readKind (name : SettingName) (make : Kind → Setting) : Json → Except Defect (Option Setting)
  | .null => .ok none
  | .str tag =>
    match Kind.ofTag? tag with
    | some kind => .ok (some (make kind))
    | none => .error (.unknownKind name tag)
  | value => .error (.wrongForm name .string value.form)

/-- A limit given as a number. -/
def readNumber (name : SettingName) (make : Bound → Setting) : Json → Except Defect (Option Setting)
  | .null => .ok none
  | .num n => .ok (some (make (.finite n.toBinary64)))
  | value => .error (.wrongForm name .number value.form)

/-- A limit given as a number, or as text for points in time. -/
def readLimit (name : SettingName) (number : Bound → Setting) (point : String → Setting) :
    Json → Except Defect (Option Setting)
  | .null => .ok none
  | .num n => .ok (some (number (.finite n.toBinary64)))
  | .str text => .ok (some (point text))
  | value => .error (.wrongForm name .numberOrString value.form)

/-- The value of a setting.  Null is as if the setting were not there. -/
def read (name : SettingName) (value : Json) : Except Defect (Option Setting) :=
  match name with
  | .type => name.readKind .kind value
  | .required =>
    match value with
    | .null => .ok none
    | .bool isRequired => .ok (some (.required isRequired))
    | value => .error (.wrongForm name .boolean value.form)
  | .default =>
    match value with
    | .null => .ok none
    | value => .ok (some (.fallback value))
  | .enum =>
    match value with
    | .null => .ok none
    | .arr listed => .ok (some (.enumeration listed))
    | value => .error (.wrongForm name .array value.form)
  | .min => name.readLimit .least .earliest value
  | .max => name.readLimit .most .latest value
  | .regex =>
    match value with
    | .null => .ok none
    | .str text => .ok (some (.pattern text))
    | value => .error (.wrongForm name .string value.form)
  | .memberType => name.readKind .memberKind value
  | .memberMin => name.readNumber .memberLeast value
  | .memberMax => name.readNumber .memberMost value
  | .schema =>
    match value with
    | .null => .ok none
    | value => .error (.wrongForm name .mapping value.form)

end SettingName

/-- What was read of an object, entry by entry: the reports, and what could be read. -/
structure Collected (α : Type) where
  violations : List Violation
  results : List α

namespace Collected

/-- Nothing yet. -/
def empty {α : Type} : Collected α :=
  ⟨[], []⟩

/-- One more entry in front. -/
def add {α : Type} (rest : Collected α) (entry : Except (List Violation) (Option α)) :
    Collected α :=
  match entry with
  | .ok (some result) => ⟨rest.violations, result :: rest.results⟩
  | .ok none => rest
  | .error violations => ⟨violations ++ rest.violations, rest.results⟩

/-- What is made of the results if nothing is reported. -/
def finish {α β : Type} (make : List α → Except (List Violation) β) (c : Collected α) :
    Except (List Violation) β :=
  if c.violations.isEmpty then make c.results else .error c.violations

end Collected

/-- One setting of a description; `inside` gives the schema that its value describes. -/
def settingEntry (name : String) (value : Json)
    (inside : Unit → Except (List Violation) Schema) : Except (List Violation) (Option Setting) :=
  match SettingName.ofText? name, value with
  | none, _ => .error [Defect.violation (.unknownSetting name)]
  | some .schema, .obj _ =>
    match inside () with
    | .ok schema => .ok (some (.nested schema))
    | .error violations => .error (violations.map (Violation.under (SettingName.text .schema)))
  | some setting, value => (setting.read value).mapError fun defect => [defect.violation]

/-- The report of an empty name, if the name is empty. -/
def nameViolations (name : String) : List Violation :=
  if name.isEmpty then [Defect.emptyName.violation] else []

/-- One property of a description, where its rule has been read. -/
def propertyEntry (name : String) (rule : Except (List Violation) Rule) :
    Except (List Violation) (Option (String × Rule)) :=
  match rule with
  | .ok rule => if name.isEmpty then .error (nameViolations name) else .ok (some (name, rule))
  | .error violations =>
    .error (nameViolations name ++ violations.map (Violation.under (propertyPath name)))

mutual

/-- The rule of a description. -/
def Rule.decode : Json → Except (List Violation) Rule
  | .obj fields =>
    (collectSettings fields).finish fun settings => (Draft.ofSettings settings).assemble
  | description => .error [Defect.violation (.noRule description.form)]
termination_by structural description => description

/-- The settings of a description, in the order in which they are given. -/
def collectSettings : List (String × Json) → Collected Setting
  | [] => .empty
  | (name, value) :: rest =>
    (collectSettings rest).add (settingEntry name value fun _ => Schema.decode value)
termination_by structural fields => fields

/-- The schema of a description. -/
def Schema.decode : Json → Except (List Violation) Schema
  | .obj fields => (collectProperties fields).finish fun properties => .ok ⟨properties⟩
  | description => .error [Defect.violation (.noSchema description.form)]
termination_by structural description => description

/-- The rules of the description of a schema, in the order in which they are given. -/
def collectProperties : List (String × Json) → Collected (String × Rule)
  | [] => .empty
  | (name, description) :: rest =>
    (collectProperties rest).add (propertyEntry name (Rule.decode description))
termination_by structural fields => fields

end

/-! ### For callers -/

/-- The reports of a result. -/
def reportsOf {α : Type} : Except (List Violation) α → List Violation
  | .ok _ => []
  | .error violations => violations

/-- What is wrong with the description of a rule. -/
def Rule.descriptionViolations (description : Json) : List Violation :=
  reportsOf (Rule.decode description)

/-- The rule of a description. -/
def Rule.ofDescription (description : Json) : Except Error Rule :=
  (Rule.decode description).mapError .invalidDefinition

/-- What is wrong with the description of a schema. -/
def Schema.descriptionViolations (description : Json) : List Violation :=
  reportsOf (Schema.decode description)

/-- The schema of a description, which must be an object. -/
def Schema.ofDescription (description : Json) : Except Error Schema :=
  match description with
  | .null => .error (.invalidArgument .noDescription)
  | .obj _ => (Schema.decode description).mapError .invalidDefinition
  | _ => .error (.invalidArgument (.descriptionForm description.form))

end RecordSchema
