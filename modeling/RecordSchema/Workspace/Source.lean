import RecordSchema.Journal
import RecordSchema.Record.Registry
import RecordSchema.Schema.Definition

/-!
# Where rules and schemas come from

A caller gives a rule by its description, or setting by setting, or not at all, and a schema by its
description or by named rules.

* `RuleSource.rule`: the rule that is given, `RuleSource.events`: what making it notes down.
* `ShapeSource.schema`, `ShapeSource.events`: the same for schemas.
-/

namespace RecordSchema

/-- One call to a draft: a setting, or a schema inside by its description. -/
inductive DraftCall where
  | plain (setting : Setting)
  | described (description : Json)

namespace DraftCall

/-- The setting of a call. -/
def toSetting : DraftCall → Except Error Setting
  | .plain setting => .ok setting
  | .described description => (Schema.ofDescription description).map .nested

/-- The events of a call. -/
def events : DraftCall → List Event
  | .plain _ => []
  | .described description => Schema.descriptionEvents description

end DraftCall

/-- The settings of calls, up to the first that fails, and whether none failed. -/
def settingsOf : List DraftCall → Except Error (List Setting)
  | [] => .ok []
  | call :: rest =>
    match call.toSetting with
    | .error e => .error e
    | .ok setting => (settingsOf rest).map (setting :: ·)

/-- The events of calls up to the first that fails. -/
def callEvents : List DraftCall → List Event
  | [] => []
  | call :: rest =>
    call.events ++
      match call.toSetting with
      | .error _ => []
      | .ok _ => callEvents rest

/-- How a rule is given. -/
inductive RuleSource where
  | described (description : Json)
  | drafted (kind : Option Kind) (calls : List DraftCall)
  | unrestricted

namespace RuleSource

/-- The draft of a kind and settings. -/
def draft (kind : Option Kind) (settings : List Setting) : Draft :=
  settings.foldl Draft.put { kind := kind.getD .any }

/-- The rule that is given. -/
def rule : RuleSource → Except Error Rule
  | .described description => Rule.ofDescription description
  | .drafted kind calls =>
    match settingsOf calls with
    | .error e => .error e
    | .ok settings => (draft kind settings).build
  | .unrestricted => .ok Rule.unrestricted

/-- The events of making the rule. -/
def events : RuleSource → List Event
  | .described description => Rule.descriptionEvents description
  | .drafted kind calls =>
    callEvents calls ++
      match settingsOf calls with
      | .error _ => []
      | .ok settings => (draft kind settings).events
  | .unrestricted => []

end RuleSource

/-- The named rules that are given, up to the first that fails. -/
def rulesOf : List (String × RuleSource) → Except Error (List (String × Rule))
  | [] => .ok []
  | (name, source) :: rest =>
    match source.rule with
    | .error e => .error e
    | .ok rule => (rulesOf rest).map ((name, rule) :: ·)

/-- The events of making named rules, up to the first that fails. -/
def ruleEvents : List (String × RuleSource) → List Event
  | [] => []
  | (_, source) :: rest =>
    source.events ++
      match source.rule with
      | .error _ => []
      | .ok _ => ruleEvents rest

/-- How a schema is given. -/
inductive ShapeSource where
  | described (description : Json)
  | listed (rules : List (String × RuleSource))

namespace ShapeSource

/-- The schema that is given. -/
def schema : ShapeSource → Except Error Schema
  | .described description => Schema.ofDescription description
  | .listed rules =>
    match rulesOf rules with
    | .error e => .error e
    | .ok properties => Schema.ofProperties properties

/-- The events of making the schema. -/
def events : ShapeSource → List Event
  | .described description => Schema.descriptionEvents description
  | .listed rules =>
    ruleEvents rules ++
      match rulesOf rules with
      | .error _ => []
      | .ok properties => Schema.definitionEvents ⟨properties⟩

end ShapeSource

end RecordSchema
