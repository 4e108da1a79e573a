import RecordSchema.Proofs.Pattern.Counts
import RecordSchema.Proofs.Rule.Issues

/-!
# Values that conform

Which values a rule takes, said without paths, messages or an order of checks.  `Rule.Conforms`
goes through the rule and the value together: an absent or null value conforms if it is not
required; any other value must be of the kind, must lie within what the settings allow, and must
conform to the schema inside.

`Rule.findings_eq_nil_iff` says that the check finds nothing exactly in the values that conform.
Two things must be known of a rule for it, at every depth (`Rule.Regular`): its patterns were read
from texts, so that the matcher follows the relation of matches, and only objects and lists have a
schema inside.
-/

namespace RecordSchema

/-! ### What the settings allow -/

/-- Neither below the lower limit nor above the upper one. -/
def Within {α : Type} (lt : α → α → Bool) (least most : Option α) (x : α) : Prop :=
  (∀ l ∈ least, ¬ lt x l = true) ∧ ∀ m ∈ most, ¬ lt m x = true

/-- Equal to a literal of the enumeration, if there is one. -/
def Json.IsListed (enumeration : Option (List Json)) (value : Json) : Prop :=
  ∀ listed ∈ enumeration, ∃ l ∈ listed, l.sameLiteral value = true

/-- A text that is not empty begins with a match of the pattern, if there is one. -/
def Json.FitsPattern (pattern : Option Pattern) (value : Json) : Prop :=
  ∀ p ∈ pattern, ∀ text, value = .str text → text ≠ "" → p.MatchesAtStart text

/-- The measure of a value of a kind: of a number its value; of a string, an array or an object its
length. -/
def Kind.measure? (k : Kind) (value : Json) : Option Binary64 :=
  if k.isNumeric then value.number?.map Number.toBinary64
  else if k.hasLength then value.length?.map Binary64.ofNat
  else none

namespace Settings

/-- What the settings allow a value that is no collection. -/
structure AllowsSingle (s : Settings) (value : Json) : Prop where
  listed : value.IsListed s.enumeration
  measure : ∀ x, s.kind.measure? value = some x → Within Bound.lt s.least s.most (.finite x)
  point : ∀ text t, value = .str text → s.kind.readPoint? text = some t →
    Within Temporal.lt s.earliest s.latest t
  pattern : value.FitsPattern s.pattern

/-- The measure of a member: of a number its value, and of a string its length. -/
def memberMeasure? (s : Settings) (item : Json) : Option Binary64 :=
  s.memberKind.bind fun k => if k.isNumeric ∨ k = .string then k.measure? item else none

/-- What the settings allow a member of a collection. -/
structure AllowsMember (s : Settings) (item : Json) : Prop where
  kind : ∀ k ∈ s.memberKind, k.admits item = true
  listed : item.IsListed s.enumeration
  measure : ∀ x, s.memberMeasure? item = some x →
    Within Bound.lt s.memberLeast s.memberMost (.finite x)
  pattern : s.memberKind = some .string → item.FitsPattern s.pattern

/-- What the settings allow a collection. -/
structure AllowsCollection (s : Settings) (items : List Json) : Prop where
  size : Within Bound.lt s.least s.most (.finite (.ofNat items.length))
  distinct : s.kind = .set → items.Pairwise fun a b => ¬ a.sameLiteral b = true
  members : ∀ item ∈ items, s.AllowsMember item

/-- What the settings allow a value, the schema inside aside. -/
structure Allows (s : Settings) (value : Json) : Prop where
  kind : s.kind.admits value = true
  single : ¬ s.kind.isCollection = true → s.AllowsSingle value
  collection : s.kind.isCollection = true → ∀ items, value = .arr items → s.AllowsCollection items

end Settings

/-! ### Conformance -/

/-- A value has a given shape inside: an object has it itself, and of an array each item is an
object that has it. -/
def ConformsInside (shape : Fields → Prop) : Json → Prop
  | .obj fields => shape fields
  | .arr items => ∀ item ∈ items, ∃ fields, item = .obj fields ∧ shape fields
  | _ => True

mutual

/-- The value of a property, which may be absent, is one that its rule takes. -/
def Rule.Conforms : Rule → Option Json → Prop
  | ⟨settings, _⟩, none => settings.required = false
  | ⟨settings, _⟩, some .null => settings.required = false
  | ⟨settings, none⟩, some value => settings.Allows value
  | ⟨settings, some schema⟩, some value =>
    settings.Allows value ∧ ConformsInside (fun fields => schema.Conforms fields) value
termination_by structural rule => rule

/-- The fields of an object are such as a schema takes. -/
def Schema.Conforms : Schema → Fields → Prop
  | ⟨properties⟩, fields => PropertiesConform properties fields
termination_by structural schema => schema

/-- Each declared field is one that its rule takes. -/
def PropertiesConform : List (String × Rule) → Fields → Prop
  | [], _ => True
  | (name, rule) :: rest, fields =>
    rule.Conforms (fields.get? name) ∧ PropertiesConform rest fields
termination_by structural properties => properties

end

theorem propertiesConform_iff {properties : List (String × Rule)} {fields : Fields} :
    PropertiesConform properties fields ↔ ∀ p ∈ properties, p.2.Conforms (fields.get? p.1) := by
  induction properties with
  | nil => simp [PropertiesConform]
  | cons p rest ih => rw [PropertiesConform, ih, List.forall_mem_cons]

theorem Schema.conforms_iff {schema : Schema} {fields : Fields} :
    schema.Conforms fields ↔ ∀ p ∈ schema.properties, p.2.Conforms (fields.get? p.1) := by
  cases schema with
  | mk properties => exact propertiesConform_iff

namespace Rule

variable {rule : Rule}

theorem conforms_none : rule.Conforms none ↔ rule.settings.required = false := by
  obtain ⟨settings, nested⟩ := rule
  rw [Conforms]

theorem conforms_null : rule.Conforms (some .null) ↔ rule.settings.required = false := by
  obtain ⟨settings, nested⟩ := rule
  rw [Conforms]

theorem conforms_some {value : Json} (present : value ≠ .null) :
    rule.Conforms (some value) ↔
      rule.settings.Allows value ∧
        ∀ schema ∈ rule.nested, ConformsInside schema.Conforms value := by
  obtain ⟨settings, nested⟩ := rule
  cases nested with
  | none => cases value <;> simp_all [Conforms]
  | some schema => cases value <;> simp_all [Conforms]

end Rule

end RecordSchema
