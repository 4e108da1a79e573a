import Mathlib
import RecordSchema.Rule.Check

/-!
# Rules and schemas by structure

Rules hold schemas and schemas hold rules, so a proof about all rules is an induction over both.
`Rule.induction` packs it once: a property of rules holds if it passes from the rules of the schema
inside to the rule around them.

The check recurses in the same way.  `Schema.findings_eq` is its equation for schemas.  For rules,
there is one for each thing that may happen to a value: it is absent (`Rule.findings_none`), null
(`Rule.findings_null`), of another kind (`Rule.findings_of_not_admits`), or looked at
(`Rule.findings_of_admits`).
-/

namespace RecordSchema

/-- A property of rules that passes from the rules inside to the rule around them. -/
@[elab_as_elim]
theorem Rule.induction {P : Rule → Prop}
    (step : ∀ rule : Rule, (∀ schema ∈ rule.nested, ∀ p ∈ schema.properties, P p.2) → P rule)
    (rule : Rule) : P rule := by
  refine @Rule.rec P (fun schema => ∀ p ∈ schema.properties, P p.2)
    (fun nested => ∀ schema ∈ nested, ∀ p ∈ schema.properties, P p.2)
    (fun properties => ∀ p ∈ properties, P p.2) (fun p => P p.2) ?_ ?_ ?_ ?_ ?_ ?_ ?_ rule
  · intro settings nested ih
    exact step ⟨settings, nested⟩ ih
  · intro properties ih
    exact ih
  · intro schema h
    cases h
  · intro schema ih inner h
    cases h
    exact ih
  · intro p hp
    cases hp
  · intro p rest ihp ihrest q hq
    rcases List.mem_cons.mp hq with rfl | hq
    · exact ihp
    · exact ihrest q hq
  · intro name rule ih
    exact ih

/-! ### Schemas -/

theorem propertyFindings_eq (properties : List (String × Rule)) (fields : Fields) :
    propertyFindings properties fields = properties.flatMap fun p =>
      (p.2.findings (fields.get? p.1)).map (Finding.under (.property p.1)) := by
  induction properties with
  | nil => rfl
  | cons p rest ih => rw [propertyFindings, ih, List.flatMap_cons]

theorem Schema.findings_eq (schema : Schema) (fields : Fields) :
    schema.findings fields = schema.properties.flatMap fun p =>
      (p.2.findings (fields.get? p.1)).map (Finding.under (.property p.1)) := by
  cases schema with
  | mk properties => exact propertyFindings_eq properties fields

theorem Schema.mem_findings_iff {schema : Schema} {fields : Fields} {f : Finding} :
    f ∈ schema.findings fields ↔
      ∃ p ∈ schema.properties, ∃ g ∈ p.2.findings (fields.get? p.1),
        f = g.under (.property p.1) := by
  rw [schema.findings_eq, List.mem_flatMap]
  simp only [List.mem_map, eq_comm]

theorem Schema.findings_eq_nil_iff {schema : Schema} {fields : Fields} :
    schema.findings fields = [] ↔
      ∀ p ∈ schema.properties, p.2.findings (fields.get? p.1) = [] := by
  rw [schema.findings_eq, List.flatMap_eq_nil_iff]
  simp only [List.map_eq_nil_iff]

/-! ### Rules -/

namespace Rule

variable (rule : Rule)

/-- The findings of the schema inside. -/
def insideFindings (value : Json) : List Finding :=
  match rule.nested with
  | none => []
  | some schema => nestedFindings rule.settings.memberKind schema.findings value

theorem findings_eq (value : Option Json) :
    rule.findings value = rule.settings.findings rule.insideFindings value := by
  obtain ⟨settings, nested⟩ := rule
  cases nested <;> rfl

theorem findings_none :
    rule.findings none = if rule.settings.required then [.here .missing] else [] := by
  rw [findings_eq]
  rfl

theorem findings_null : rule.findings (some .null) = rule.findings none := by
  rw [findings_eq, findings_eq]
  rfl

variable {rule}

theorem findings_some {value : Json} (present : value ≠ .null) :
    rule.findings (some value) =
      if rule.settings.kind.admits value then
        rule.settings.ownFindings value ++ rule.insideFindings value
      else [.here (.wrongKind rule.settings.kind value)] := by
  rw [findings_eq]
  cases value with
  | null => exact absurd rfl present
  | _ => rfl

theorem findings_of_admits {value : Json} (present : value ≠ .null)
    (h : rule.settings.kind.admits value = true) :
    rule.findings (some value) = rule.settings.ownFindings value ++ rule.insideFindings value := by
  rw [findings_some present, if_pos h]

theorem findings_of_not_admits {value : Json} (present : value ≠ .null)
    (h : ¬ rule.settings.kind.admits value = true) :
    rule.findings (some value) = [.here (.wrongKind rule.settings.kind value)] := by
  rw [findings_some present, if_neg h]

end Rule

/-! ### Values -/

namespace Settings

theorem ownFindings_collection {s : Settings} (h : s.kind.isCollection = true)
    (items : List Json) : s.ownFindings (.arr items) = s.collectionFindings items := by
  rw [ownFindings, if_pos h]

theorem ownFindings_single {s : Settings} (h : ¬ s.kind.isCollection = true) (value : Json) :
    s.ownFindings value = (s.facets.issues .value value).map Finding.here := by
  cases value with
  | arr items => rw [ownFindings, if_neg h]
  | _ => rfl

end Settings

theorem Kind.eq_arr_of_admits {k : Kind} (hk : k.isCollection = true) {value : Json}
    (h : k.admits value = true) : ∃ items, value = .arr items := by
  cases value with
  | arr items => exact ⟨items, rfl⟩
  | _ => cases k <;> simp_all [Kind.admits, Kind.isCollection]

end RecordSchema
