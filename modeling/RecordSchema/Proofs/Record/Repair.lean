import RecordSchema.Proofs.Rule.Acceptance
import RecordSchema.Record.Perfect
import RecordSchema.Record.Validation

/-!
# What perfecting repairs

Perfecting a record fills what is absent or null by the declared defaults.  `get?_fill` says what it
makes of each declared attribute, and the attributes that go are not declared.  A default conforms
to its rule, since it was checked when the rule was made; so the violations of a property either go
altogether, which happens to the absent values with a default, or stay as they are
(`violations_filled`).

`perfect_repairs` puts this together for a whole record: no violation is new, and those that go say
that a required value with a default is missing.
-/

namespace RecordSchema

/-! ### Declared attributes -/

theorem isAbsent_iff {value : Option Json} :
    isAbsent value = true ↔ value = none ∨ value = some .null := by
  match value with
  | none => simp [isAbsent]
  | some .null => simp [isAbsent, Json.isNull]
  | some (.bool _) => simp [isAbsent, Json.isNull]
  | some (.num _) => simp [isAbsent, Json.isNull]
  | some (.str _) => simp [isAbsent, Json.isNull]
  | some (.arr _) => simp [isAbsent, Json.isNull]
  | some (.obj _) => simp [isAbsent, Json.isNull]

/-- The value of a property once it is filled: its default, or null, where there was none. -/
def filled (rule : Rule) (value : Option Json) : Option Json :=
  if isAbsent value then some (rule.settings.fallback.getD .null) else value

theorem get?_fillProperty_self (attributes : Fields) (name : String) (rule : Rule) :
    (fillProperty attributes name rule).get? name = filled rule (attributes.get? name) := by
  rw [fillProperty, filled]
  by_cases habsent : isAbsent (attributes.get? name) = true
  · rw [if_pos habsent, if_pos habsent]
    cases rule.settings.fallback with
    | some value => exact Fields.get?_put_self name value attributes
    | none =>
      dsimp only
      rcases isAbsent_iff.mp habsent with h | h
      · rw [Fields.has, h]
        exact Fields.get?_put_self name .null attributes
      · rw [Fields.has, h]
        exact h
  · rw [if_neg habsent, if_neg habsent]

theorem get?_fillProperty_of_ne {name other : String} (h : other ≠ name) (attributes : Fields)
    (rule : Rule) : (fillProperty attributes name rule).get? other = attributes.get? other := by
  rw [fillProperty]
  split
  · split
    · exact Fields.get?_put_of_ne h _ attributes
    · split
      · rfl
      · exact Fields.get?_put_of_ne h _ attributes
  · rfl

theorem get?_fill_of_not_mem {properties : List (String × Rule)} {name : String}
    (h : name ∉ properties.map Prod.fst) (attributes : Fields) :
    (fill properties attributes).get? name = attributes.get? name := by
  induction properties generalizing attributes with
  | nil => rfl
  | cons p rest ih =>
    rw [List.map_cons, List.mem_cons, not_or] at h
    exact (ih h.2 (fillProperty attributes p.1 p.2)).trans
      (get?_fillProperty_of_ne h.1 attributes p.2)

theorem get?_fill {properties : List (String × Rule)} (distinct : (properties.map Prod.fst).Nodup)
    {p : String × Rule} (hp : p ∈ properties) (attributes : Fields) :
    (fill properties attributes).get? p.1 = filled p.2 (attributes.get? p.1) := by
  induction properties generalizing attributes with
  | nil => cases hp
  | cons q rest ih =>
    obtain ⟨hnot, hrest⟩ := List.nodup_cons.mp distinct
    rcases List.mem_cons.mp hp with rfl | hp
    · exact (get?_fill_of_not_mem hnot _).trans (get?_fillProperty_self attributes p.1 p.2)
    · have hne : p.1 ≠ q.1 := by
        intro he
        exact hnot (List.mem_map.mpr ⟨p, hp, he⟩)
      rw [← get?_fillProperty_of_ne hne attributes q.2]
      exact ih hrest hp (fillProperty attributes q.1 q.2)

/-! ### Declared rules -/

theorem Schema.get?_eq_some_iff {schema : Schema} (h : schema.WellFormed) {name : String}
    {rule : Rule} : schema.get? name = some rule ↔ (name, rule) ∈ schema.properties :=
  lookup_eq_some_iff_mem h.distinct

theorem Schema.contains_of_mem {schema : Schema} (h : schema.WellFormed) {p : String × Rule}
    (hp : p ∈ schema.properties) : schema.contains p.1 = true := by
  rw [contains, (get?_eq_some_iff h).mpr hp]
  rfl

namespace Record

variable {r : Record} {schema : Schema}

theorem perfect_eq (bound : r.schema? = some schema) :
    r.perfect =
      .ok { r with attributes := fill schema.properties (declaredOnly schema r.attributes) } := by
  rw [perfect, bound]

theorem get?_perfect (h : schema.WellFormed) {p : String × Rule} (hp : p ∈ schema.properties) :
    (fill schema.properties (declaredOnly schema r.attributes)).get? p.1 =
      filled p.2 (r.attributes.get? p.1) := by
  rw [get?_fill h.distinct hp, declaredOnly]
  congr 1
  exact Fields.get?_filter schema.contains (Schema.contains_of_mem h hp) r.attributes

theorem ruleOf_eq (bound : r.schema? = some schema) (h : schema.WellFormed)
    {p : String × Rule} (hp : p ∈ schema.properties) : r.ruleOf p.1 = .ok p.2 := by
  have hname : p.1 ≠ "" := by
    intro he
    exact h.named (List.mem_map.mpr ⟨p, hp, he⟩)
  rw [ruleOf, if_neg (by simpa using hname), bound]
  dsimp only
  rw [(Schema.get?_eq_some_iff h).mpr hp]

theorem validatePropertyWith_eq (bound : r.schema? = some schema) (h : schema.WellFormed)
    {p : String × Rule} (hp : p ∈ schema.properties) :
    r.validatePropertyWith p.1 false = .ok (p.2.violations p.1 (r.get? p.1)) := by
  rw [validatePropertyWith, ruleOf_eq bound h hp]
  rfl

theorem validateWith_eq (bound : r.schema? = some schema) :
    r.validateWith false = .ok (schema.violations r.attributes) := by
  rw [validateWith, bound]
  rfl

theorem validate_eq_ok_iff (bound : r.schema? = some schema) :
    r.validate = .ok () ↔ schema.violations r.attributes = [] := by
  rw [validate, validateWith, bound]
  cases hv : schema.violations r.attributes with
  | nil => simp [outcome, Except.map, hv]
  | cons v rest => simp [outcome, Except.map, hv]

end Record

/-! ### Violations before and after -/

/-- Whether a value takes the default of its rule. -/
def takesDefault (rule : Rule) (value : Option Json) : Bool :=
  isAbsent value && rule.settings.fallback.isSome

theorem findings_of_isAbsent {rule : Rule} {value : Option Json} (h : isAbsent value = true) :
    rule.findings value = rule.findings none := by
  rcases isAbsent_iff.mp h with rfl | rfl
  · rfl
  · exact rule.findings_null

/-- Filling a value leaves nothing to find where the default is taken, and changes nothing
otherwise. -/
theorem findings_filled {rule : Rule} (h : rule.WellFormed) (value : Option Json) :
    rule.findings (filled rule value) =
      if takesDefault rule value then [] else rule.findings value := by
  rw [filled, takesDefault]
  by_cases habsent : isAbsent value = true
  · rw [if_pos habsent, habsent, Bool.true_and]
    cases hf : rule.settings.fallback with
    | some default =>
      rw [Option.getD_some, if_pos Option.isSome_some]
      exact (h.regular.findings_eq_nil_iff (some default)).mpr (h.conforms_fallback default hf)
    | none =>
      rw [Option.getD_none, if_neg (by simp), findings_of_isAbsent habsent]
      exact rule.findings_null
  · rw [if_neg habsent, if_neg (by simp [habsent])]

theorem violations_filled {rule : Rule} (h : rule.WellFormed) (name : String)
    (value : Option Json) :
    rule.violations name (filled rule value) =
      if takesDefault rule value then [] else rule.violations name value := by
  rw [Rule.violations, Rule.violations, findings_filled h]
  split <;> rfl

/-- The violations of one property among those of a whole record. -/
def propertyViolations (fields : Fields) (p : String × Rule) : List Violation :=
  (p.2.findings (fields.get? p.1)).map fun f => (f.under (.property p.1)).violation ""

theorem Schema.violations_eq (schema : Schema) (fields : Fields) :
    schema.violations fields = schema.properties.flatMap (propertyViolations fields) := by
  rw [Schema.violations, Schema.findings_eq, List.map_flatMap]
  simp only [List.map_map]
  rfl

/-- The violations of one property that go when it takes its default. -/
def repairedViolations (fields : Fields) (p : String × Rule) : List Violation :=
  if takesDefault p.2 (fields.get? p.1) then propertyViolations fields p else []

/-- Only the violations of missing values go. -/
theorem required_of_mem_repaired {fields : Fields} {p : String × Rule} {v : Violation}
    (h : v ∈ repairedViolations fields p) :
    v.kind = .required ∧ v.path = p.1 ∧ p.2.settings.fallback.isSome = true := by
  rw [repairedViolations] at h
  split at h
  · next htakes =>
    obtain ⟨habsent, hfallback⟩ := Bool.and_eq_true_iff.mp htakes
    rw [propertyViolations, findings_of_isAbsent habsent, Rule.findings_none] at h
    split at h
    · obtain rfl := List.mem_singleton.mp h
      exact ⟨rfl, rfl, hfallback⟩
    · cases h
  · cases h

namespace Schema.WellFormed

variable {schema : Schema} {r : Record}

/-- What is reported of a property is what is still reported of it once it is filled, and the
violations that go. -/
theorem propertyViolations_filled (h : schema.WellFormed) {p : String × Rule}
    (hp : p ∈ schema.properties) :
    propertyViolations (fill schema.properties (declaredOnly schema r.attributes)) p ++
      repairedViolations r.attributes p = propertyViolations r.attributes p := by
  rw [propertyViolations, Record.get?_perfect h hp, findings_filled (h.rules p hp),
    repairedViolations]
  split
  · rfl
  · exact List.append_nil _

theorem violations_sublist (h : schema.WellFormed) :
    (schema.violations (fill schema.properties (declaredOnly schema r.attributes))).Sublist
      (schema.violations r.attributes) := by
  rw [Schema.violations_eq, Schema.violations_eq]
  refine List.Sublist.flatMap_right _ fun p hp => ?_
  rw [← h.propertyViolations_filled hp]
  exact List.sublist_append_left _ _

theorem violations_perm (h : schema.WellFormed) :
    (schema.violations r.attributes).Perm
      (schema.violations (fill schema.properties (declaredOnly schema r.attributes)) ++
        schema.properties.flatMap (repairedViolations r.attributes)) := by
  rw [Schema.violations_eq, Schema.violations_eq]
  refine List.Perm.trans ?_ (List.flatMap_append_perm _ _ _).symm
  refine List.Perm.flatMap_left _ fun p hp => ?_
  rw [h.propertyViolations_filled hp]

end Schema.WellFormed

/-- **Perfecting repairs exactly the missing values with a default.**  A declared property is free
of violations afterwards if it took its default, and has the same violations as before otherwise.
So no violation of the record is new, those that are left keep their order, and those that go say
that a required property with a default is missing. -/
theorem perfect_repairs {r : Record} {schema : Schema} (bound : r.schema? = some schema)
    (built : schema.Built) :
    ∃ r', r.perfect = .ok r' ∧
      (∀ name rule, schema.get? name = some rule →
        ∃ before, r.validatePropertyWith name false = .ok before ∧
          r'.validatePropertyWith name false = .ok
            (if isAbsent (r.get? name) ∧ rule.settings.fallback.isSome then [] else before)) ∧
      (∃ before after gone, r.validateWith false = .ok before ∧
        r'.validateWith false = .ok after ∧ after.Sublist before ∧ before.Perm (after ++ gone) ∧
          ∀ v ∈ gone, v.kind = .required ∧
            ∃ rule, schema.get? v.path = some rule ∧ rule.settings.fallback.isSome = true) ∧
      (r.validate = .ok () → r'.validate = .ok ()) := by
  have h := built.wellFormed
  let r' : Record :=
    { r with attributes := fill schema.properties (declaredOnly schema r.attributes) }
  have bound' : r'.schema? = some schema := bound
  refine ⟨r', Record.perfect_eq bound, ?_, ?_, ?_⟩
  · intro name rule hget
    have hp := (Schema.get?_eq_some_iff h).mp hget
    refine ⟨_, Record.validatePropertyWith_eq bound h hp, ?_⟩
    have hfilled : r'.get? name = filled rule (r.get? name) := Record.get?_perfect h hp
    rw [Record.validatePropertyWith_eq bound' h hp, hfilled,
      violations_filled (h.rules (name, rule) hp)]
    simp only [takesDefault, Bool.and_eq_true]
  · refine ⟨_, _, _, Record.validateWith_eq bound, Record.validateWith_eq bound',
      h.violations_sublist, h.violations_perm, ?_⟩
    intro v hv
    obtain ⟨p, hp, hgone⟩ := List.mem_flatMap.mp hv
    obtain ⟨hkind, hpath, hfallback⟩ := required_of_mem_repaired hgone
    exact ⟨hkind, p.2, hpath ▸ (Schema.get?_eq_some_iff h).mpr hp, hfallback⟩
  · intro hvalid
    rw [Record.validate_eq_ok_iff bound] at hvalid
    rw [Record.validate_eq_ok_iff bound']
    exact List.sublist_nil.mp (hvalid ▸ h.violations_sublist)

/-! ### People

A required name with a default beside an age that no default repairs.
-/

/-- People with a name and an age. -/
def person : Json :=
  .obj [("name", .obj [("type", .str "string"), ("required", .bool true),
      ("default", .str "anon")]),
    ("age", .obj [("type", .str "integer")])]

/-- The schema that is described by `person`. -/
def personSchema : Schema :=
  ⟨[("name", ⟨{ kind := .string, required := true, fallback := some (.str "anon") }, none⟩),
    ("age", ⟨{ kind := .integer }, none⟩)]⟩

/-- A person without a name whose age is no number, with an attribute that is not declared. -/
def nameless : Record :=
  (RecordType.mk "person" ⟨0, personSchema⟩).recordFrom
    [("age", .str "old"), ("extra", .bool true)]

theorem ofDescription_person : Schema.ofDescription person = .ok personSchema := rfl

/-- The name is repaired and the age is not. -/
theorem nameless_perfect_repairs :
    nameless.schema? = some personSchema ∧ personSchema.Built ∧
      ∃ r', nameless.perfect = .ok r' ∧ r'.validatePropertyWith "name" false = .ok [] ∧
        r'.validatePropertyWith "age" false = nameless.validatePropertyWith "age" false ∧
        nameless.validatePropertyWith "age" false ≠ .ok [] := by
  have distinct : person.DistinctNames := by
    simp [person, Json.DistinctNames, Json.fieldsDistinct, Fields.names]
  have built : personSchema.Built := .described distinct ofDescription_person
  obtain ⟨r', hperfect, hproperty, -⟩ := perfect_repairs (r := nameless) rfl built
  refine ⟨rfl, built, r', hperfect, ?_, ?_, by decide +kernel⟩
  · obtain ⟨before, -, hafter⟩ := hproperty "name" _ rfl
    rw [hafter, if_pos (by decide)]
  · obtain ⟨before, hbefore, hafter⟩ := hproperty "age" _ rfl
    rw [hafter, hbefore, if_neg (by decide)]

end RecordSchema
