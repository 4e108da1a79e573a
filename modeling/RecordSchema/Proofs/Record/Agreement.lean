import RecordSchema.Proofs.Record.Repair
import RecordSchema.Proofs.Rule.Rerooting

/-!
# Whole records and single properties

A record is checked as a whole by going through the declared properties, and a single property is
checked by looking up its rule.  Both say the same of a property, since the names of a schema are
there and distinct: the violations of a whole record are those of its properties, one after another
(`Schema.violations_eq_flatMap`).

What is said of a property depends on the value under its name alone (`validatePropertyWith_congr`),
so what happens to other attributes does not matter.

* `Reports`: the two modes in which violations are given.
* `validation_agrees`: the two kinds of checks agree, in both modes, and setting or removing an
  attribute changes what is said of that attribute only.
-/

namespace RecordSchema

/-! ### Modes -/

/-- A check gives violations in both modes: as its result, or as an error that carries them unless
there are none. -/
structure Reports (check : Bool → Except Error (List Violation)) (violations : List Violation) :
    Prop where
  listed : check false = .ok violations
  passed : violations = [] → check true = .ok []
  failed : violations ≠ [] → check true = .error (.validationFailed violations)

theorem reports_outcome (violations : List Violation) :
    Reports (fun raised => outcome raised violations) violations := by
  refine ⟨rfl, ?_, ?_⟩
  · rintro rfl
    rfl
  · intro h
    exact if_pos (by simpa using h)

theorem Reports.map_eq_ok_iff {check : Bool → Except Error (List Violation)}
    {violations : List Violation} (h : Reports check violations) :
    ((check true).map fun _ => ()) = .ok () ↔ violations = [] := by
  by_cases hv : violations = []
  · simp [h.passed hv, Except.map, hv]
  · simp [h.failed hv, Except.map, hv]

/-! ### Declared properties -/

theorem propertyViolations_eq (fields : Fields) (p : String × Rule) :
    propertyViolations fields p = p.2.violations p.1 (fields.get? p.1) :=
  p.2.map_violation_inside (fields.get? p.1) "" [.property p.1]

namespace Schema

variable {schema : Schema}

/-- The violations of the property under a name, where a name that is not declared has none. -/
def violationsAt (schema : Schema) (fields : Fields) (name : String) : List Violation :=
  match schema.get? name with
  | some rule => rule.violations name (fields.get? name)
  | none => []

theorem violationsAt_eq (h : schema.WellFormed) {p : String × Rule} (hp : p ∈ schema.properties)
    (fields : Fields) :
    schema.violationsAt fields p.1 = p.2.violations p.1 (fields.get? p.1) := by
  rw [violationsAt, (get?_eq_some_iff h).mpr hp]

theorem violations_eq_flatMap (h : schema.WellFormed) (fields : Fields) :
    schema.violations fields = schema.names.flatMap (schema.violationsAt fields) := by
  rw [violations_eq, names, List.flatMap_map]
  refine List.flatMap_congr fun p hp => ?_
  rw [propertyViolations_eq, violationsAt_eq h hp]

theorem exists_of_mem_names {name : String} (h : name ∈ schema.names) :
    ∃ rule, (name, rule) ∈ schema.properties := by
  obtain ⟨p, hp, rfl⟩ := List.mem_map.mp h
  exact ⟨p.2, hp⟩

theorem violations_congr {fields others : Fields}
    (h : ∀ name ∈ schema.names, fields.get? name = others.get? name) :
    schema.violations fields = schema.violations others := by
  rw [violations_eq, violations_eq]
  refine List.flatMap_congr fun p hp => ?_
  rw [propertyViolations_eq, propertyViolations_eq, h p.1 (List.mem_map.mpr ⟨p, hp, rfl⟩)]

end Schema

/-! ### Records -/

namespace Record

variable {r other : Record} {schema : Schema}

theorem reports_validatePropertyWith (bound : r.schema? = some schema) (h : schema.WellFormed)
    {name : String} (hname : name ∈ schema.names) :
    Reports (r.validatePropertyWith name) (schema.violationsAt r.attributes name) := by
  obtain ⟨rule, hp⟩ := Schema.exists_of_mem_names hname
  have hcheck : r.validatePropertyWith name =
      fun raised => outcome raised (schema.violationsAt r.attributes name) := by
    funext raised
    rw [validatePropertyWith, ruleOf_eq bound h hp, Schema.violationsAt_eq h hp]
    rfl
  rw [hcheck]
  exact reports_outcome _

theorem reports_validateWith (bound : r.schema? = some schema) :
    Reports r.validateWith (schema.violations r.attributes) := by
  have hcheck : r.validateWith = fun raised => outcome raised (schema.violations r.attributes) := by
    funext raised
    rw [validateWith, bound]
  rw [hcheck]
  exact reports_outcome _

theorem validatePropertyWith_congr {name : String} (value : other.get? name = r.get? name)
    (type : other.type = r.type) (raised : Bool) :
    other.validatePropertyWith name raised = r.validatePropertyWith name raised := by
  have hrule : other.ruleOf name = r.ruleOf name := by
    rw [ruleOf, ruleOf, schema?, schema?, shape?, shape?, type]
  rw [validatePropertyWith, validatePropertyWith, hrule, value]

theorem validateWith_congr (bound : r.schema? = some schema)
    (values : ∀ name ∈ schema.names, other.get? name = r.get? name) (type : other.type = r.type)
    (raised : Bool) : other.validateWith raised = r.validateWith raised := by
  have bound' : other.schema? = some schema := by
    rw [← bound, schema?, schema?, shape?, shape?, type]
  rw [validateWith, validateWith, bound, bound']
  exact congrArg (outcome raised) (Schema.violations_congr values)

end Record

/-- **Whole records and single properties are checked alike.**  In both modes, the violations of a
record are those of its declared properties, one after another, and the record is valid if each of
its properties is.  Setting or removing an attribute leaves what is said of every other property as
it is, and if the attribute is not declared, also what is said of the whole record. -/
theorem validation_agrees {r : Record} {schema : Schema} (bound : r.schema? = some schema)
    (built : schema.Built) :
    (∃ found : String → List Violation,
      (∀ name ∈ schema.names, Reports (r.validatePropertyWith name) (found name)) ∧
        Reports r.validateWith (schema.names.flatMap found)) ∧
    (∀ rule value, Reports (validateStandalone rule value) (rule.violations "value" value)) ∧
    (r.validate = .ok () ↔ ∀ name ∈ schema.names, r.validateProperty name = .ok ()) ∧
    (∀ name value other, other ≠ name → ∀ raised,
      (r.set name value).validatePropertyWith other raised = r.validatePropertyWith other raised ∧
        (r.remove name).validatePropertyWith other raised =
          r.validatePropertyWith other raised) ∧
    ∀ name ∉ schema.names, ∀ value raised,
      (r.set name value).validateWith raised = r.validateWith raised ∧
        (r.remove name).validateWith raised = r.validateWith raised := by
  have h := built.wellFormed
  have hproperty := fun name (hname : name ∈ schema.names) =>
    Record.reports_validatePropertyWith bound h hname
  have hrecord : Reports r.validateWith
      (schema.names.flatMap (schema.violationsAt r.attributes)) := by
    rw [← Schema.violations_eq_flatMap h]
    exact Record.reports_validateWith bound
  have hset : ∀ name value other, other ≠ name →
      (r.set name value).get? other = r.get? other := fun name value other hne =>
    Fields.get?_put_of_ne hne value r.attributes
  have hremove : ∀ name other, other ≠ name → (r.remove name).get? other = r.get? other :=
    fun name other hne => Fields.get?_remove_of_ne hne r.attributes
  refine ⟨⟨_, hproperty, hrecord⟩, ?_, ?_, ?_, ?_⟩
  · exact fun rule value => reports_outcome _
  · rw [Record.validate, hrecord.map_eq_ok_iff, List.flatMap_eq_nil_iff]
    exact forall₂_congr fun name hname => (hproperty name hname).map_eq_ok_iff.symm
  · intro name value other hne raised
    exact ⟨Record.validatePropertyWith_congr (hset name value other hne) rfl raised,
      Record.validatePropertyWith_congr (hremove name other hne) rfl raised⟩
  · intro name hname value raised
    -- A name that is not declared is none of those that are.
    have hne : ∀ other ∈ schema.names, other ≠ name := fun other hother he =>
      hname (he ▸ hother)
    have hset' := fun other hother => hset name value other (hne other hother)
    have hremove' := fun other hother => hremove name other (hne other hother)
    exact ⟨Record.validateWith_congr bound hset' rfl raised,
      Record.validateWith_congr bound hremove' rfl raised⟩

/-- A person without a name whose age is no number: both properties are reported, the attribute that
is not declared does not matter, and a name does not mend the age. -/
theorem nameless_validation_agrees :
    nameless.schema? = some personSchema ∧ personSchema.Built ∧
      (∃ found : String → List Violation,
        Reports (nameless.validatePropertyWith "age") (found "age") ∧ found "age" ≠ [] ∧
          Reports nameless.validateWith (found "name" ++ found "age")) ∧
      nameless.validate ≠ .ok () ∧
      (nameless.set "name" (.str "Ada")).validatePropertyWith "age" true =
        nameless.validatePropertyWith "age" true ∧
      "extra" ∉ personSchema.names ∧
      (nameless.remove "extra").validateWith true = nameless.validateWith true := by
  have distinct : person.DistinctNames := by
    simp [person, Json.DistinctNames, Json.fieldsDistinct, Fields.names]
  have built : personSchema.Built := .described distinct ofDescription_person
  have hextra : "extra" ∉ personSchema.names := by decide
  obtain ⟨⟨found, hproperty, hrecord⟩, -, hvalid, hothers, hundeclared⟩ :=
    validation_agrees (r := nameless) rfl built
  have hage : Reports (nameless.validatePropertyWith "age") (found "age") :=
    hproperty "age" (by decide)
  have hfound : found "age" ≠ [] := by
    intro hnil
    have hpassed := hage.passed hnil
    exact absurd hpassed (by decide +kernel)
  refine ⟨rfl, built, ⟨found, hage, hfound, ?_⟩, ?_, ?_, hextra, ?_⟩
  · have hnames : personSchema.names.flatMap found = found "name" ++ found "age" := by
      simp [personSchema, Schema.names]
    rw [← hnames]
    exact hrecord
  · rw [Ne, hvalid]
    intro hall
    exact hfound (hage.map_eq_ok_iff.mp (hall "age" (by decide)))
  · exact (hothers "name" (.str "Ada") "age" (by decide) true).1
  · exact (hundeclared "extra" hextra .null true).2

end RecordSchema
