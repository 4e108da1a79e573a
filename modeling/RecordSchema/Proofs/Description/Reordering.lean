import RecordSchema.Proofs.Description.Readings

/-!
# Settings in another order

The settings of a rule are read one after another into a draft, and what is made of the draft
depends on several of them at once: a limit that is a text is read for the kind, a default is
checked against the schema inside.  Still a setting means the same wherever it stands.

* `RuleReordered`, `SchemaReordered`: descriptions that differ in the order of settings, at any
  depth.  Properties keep their order, and so does whatever is inside a setting.
* `Draft.put_comm`: settings under different names can be put in either order.  In an object each
  name stands once, so the draft of a description does not depend on the order of its settings
  (`Draft.ofSettings_perm`).
* `RuleReordered.decode`, `SchemaReordered.decode`: one induction over both kinds of descriptions
  says that they are read alike up to the order of the reports.  A schema inside that is refused
  reports the same in another order, and one that is read is the same schema.

`setting_order_irrelevant` says this of what callers are given.
-/

namespace RecordSchema

/-! ### Descriptions with their settings in another order -/

mutual

/-- Two descriptions of a rule are the same but for the order of settings. -/
inductive RuleReordered : Json → Json → Prop
  | same (description : Json) : RuleReordered description description
  | settings {fields moved others : Fields} (perm : fields.Perm moved)
      (inside : SettingsReordered moved others) : RuleReordered (.obj fields) (.obj others)

/-- Settings that stand at the same place are equal, but that the schemas inside may be
reordered. -/
inductive SettingsReordered : Fields → Fields → Prop
  | nil : SettingsReordered [] []
  | kept (p : String × Json) {fields others : Fields} (rest : SettingsReordered fields others) :
      SettingsReordered (p :: fields) (p :: others)
  | schema {value other : Json} {fields others : Fields} (inside : SchemaReordered value other)
      (rest : SettingsReordered fields others) :
      SettingsReordered ((SettingName.text .schema, value) :: fields)
        ((SettingName.text .schema, other) :: others)

/-- Two descriptions of a schema are the same but for the order of settings. -/
inductive SchemaReordered : Json → Json → Prop
  | same (description : Json) : SchemaReordered description description
  | properties {fields others : Fields} (rules : PropertiesReordered fields others) :
      SchemaReordered (.obj fields) (.obj others)

/-- Properties that stand at the same place have one name, and their rules are reordered. -/
inductive PropertiesReordered : Fields → Fields → Prop
  | nil : PropertiesReordered [] []
  | cons (name : String) {description other : Json} {fields others : Fields}
      (rule : RuleReordered description other) (rest : PropertiesReordered fields others) :
      PropertiesReordered ((name, description) :: fields) ((name, other) :: others)

end

/-! ### Results that agree -/

/-- Two results agree: both succeed with the same, or both fail with errors that are related. -/
inductive Agree {ε α : Type} (related : ε → ε → Prop) : Except ε α → Except ε α → Prop
  | ok (a : α) : Agree related (.ok a) (.ok a)
  | error {e other : ε} (h : related e other) : Agree related (.error e) (.error other)

namespace Agree

variable {ε δ α β : Type} {related : ε → ε → Prop} {x y : Except ε α}

theorem refl (h : ∀ e, related e e) (x : Except ε α) : Agree related x x := by
  cases x with
  | ok a => exact .ok a
  | error e => exact .error (h e)

theorem reports {x y : Except (List Violation) α} (h : Agree List.Perm x y) :
    (reportsOf x).Perm (reportsOf y) := by
  cases h with
  | ok => exact .refl _
  | error perm => exact perm

theorem entryResult {x y : Except (List Violation) (Option α)} (h : Agree List.Perm x y) :
    entryResult x = RecordSchema.entryResult y := by
  cases h with
  | ok => rfl
  | error => rfl

theorem mapError {other : δ → δ → Prop} {f : ε → δ}
    (hf : ∀ {e e'}, related e e' → other (f e) (f e')) (h : Agree related x y) :
    Agree other (x.mapError f) (y.mapError f) := by
  cases h with
  | ok a => exact .ok a
  | error he => exact .error (hf he)

end Agree

/-- What was collected is finished alike, if the reports are the same up to their order and the same
is made of the results. -/
theorem Collected.finish_agree {α β : Type} {make : List α → Except (List Violation) β}
    {c other : Collected α} (violations : c.violations.Perm other.violations)
    (results : make c.results = make other.results) :
    Agree List.Perm (c.finish make) (other.finish make) := by
  rw [finish, finish]
  cases hc : c.violations with
  | nil =>
    rw [hc] at violations
    rw [violations.nil_eq.symm, results]
    exact .refl .refl _
  | cons v rest =>
    rw [hc] at violations
    have hne : other.violations ≠ [] := by
      intro hnil
      rw [hnil] at violations
      exact List.cons_ne_nil v rest violations.eq_nil
    rw [if_neg (by simp), if_neg (by simpa using hne)]
    exact .error violations

/-! ### Drafts -/

namespace Draft

/-- Settings under different names go to different places of a draft. -/
theorem put_comm {s t : Setting} (h : s.name ≠ t.name) (d : Draft) :
    (d.put s).put t = (d.put t).put s := by
  cases s <;> cases t <;> first | rfl | exact absurd rfl h

/-- **The order of settings does not matter** to a draft in which no name is set twice. -/
theorem ofSettings_perm {settings others : List Setting} (perm : settings.Perm others)
    (distinct : settings.Pairwise fun s t => s.name ≠ t.name) :
    ofSettings settings = ofSettings others := by
  have hsymm : Std.Symm fun s t : Setting => s.name ≠ t.name := ⟨fun _ _ h => h.symm⟩
  rw [ofSettings, ofSettings]
  refine perm.foldl_eq' (fun s hs t ht d => ?_) _
  by_cases he : s = t
  · rw [he]
  · exact put_comm (distinct.forall hs ht he) d

end Draft

theorem names_distinct_of_readSetting {fields : Fields} (distinct : fields.names.Nodup) :
    (fields.filterMap fun p => entryResult (readSetting p)).Pairwise
      fun s t => s.name ≠ t.name := by
  have hfields : fields.Pairwise fun p q => p.1 ≠ q.1 := List.pairwise_map.mp distinct
  refine hfields.filterMap _ fun p q hpq s hs t ht hst => hpq ?_
  rw [ofText?_of_readSetting hs, ofText?_of_readSetting ht, hst]

/-! ### Entries -/

theorem readSetting_schema_agree {value other : Json} (h : SchemaReordered value other)
    (inside : Agree List.Perm (Schema.decode value) (Schema.decode other)) :
    Agree List.Perm (readSetting (SettingName.text .schema, value))
      (readSetting (SettingName.text .schema, other)) := by
  cases h with
  | same => exact .refl .refl _
  | @properties fields others =>
    unfold readSetting settingEntry
    rw [SettingName.ofText?_text]
    generalize Schema.decode (.obj fields) = x at inside
    generalize Schema.decode (.obj others) = y at inside
    cases inside with
    | ok schema => exact .ok _
    | error perm => exact .error (perm.map _)

theorem readProperty_agree (name : String) {description other : Json}
    (rule : Agree List.Perm (Rule.decode description) (Rule.decode other)) :
    Agree List.Perm (readProperty (name, description)) (readProperty (name, other)) := by
  unfold readProperty
  generalize Rule.decode description = x at rule
  generalize Rule.decode other = y at rule
  cases rule with
  | ok rule => exact .refl .refl _
  | error perm => exact .error ((perm.map _).append_left _)

section

variable {α β : Type} {fields others : Fields}
  {read : String × Json → Except (List Violation) (Option β)}

theorem reports_perm
    (h : List.Forall₂ (fun p q => Agree List.Perm (read p) (read q)) fields others) :
    (fields.flatMap fun p => reportsOf (read p)).Perm
      (others.flatMap fun p => reportsOf (read p)) := by
  induction h with
  | nil => exact .refl _
  | cons hpq _ ih =>
    rw [List.flatMap_cons, List.flatMap_cons]
    exact hpq.reports.append ih

theorem results_eq (h : List.Forall₂ (fun p q => Agree List.Perm (read p) (read q)) fields others) :
    (fields.filterMap fun p => entryResult (read p)) =
      others.filterMap fun p => entryResult (read p) := by
  induction h with
  | nil => rfl
  | cons hpq _ ih => rw [List.filterMap_cons, List.filterMap_cons, hpq.entryResult, ih]

end

/-! ### Descriptions -/

/-- A rule is read alike if its settings are moved and each of them is read alike. -/
theorem Rule.decode_agree {fields moved others : Fields} (distinct : fields.names.Nodup)
    (perm : fields.Perm moved)
    (h : List.Forall₂ (fun p q => Agree List.Perm (readSetting p) (readSetting q)) moved others) :
    Agree List.Perm (Rule.decode (.obj fields)) (Rule.decode (.obj others)) := by
  rw [decode, decode]
  refine Collected.finish_agree ?_ ?_
  · rw [collectSettings_violations, collectSettings_violations]
    exact (perm.flatMap_right _).trans (reports_perm h)
  · have hdraft := Draft.ofSettings_perm (perm.filterMap _) (names_distinct_of_readSetting distinct)
    rw [collectSettings_results, collectSettings_results, hdraft, results_eq h]

mutual

/-- **Rules are read alike** whatever the order of settings. -/
theorem RuleReordered.decode : ∀ {description other : Json}, RuleReordered description other →
    description.DistinctNames → Agree List.Perm (Rule.decode description) (Rule.decode other)
  | _, _, .same _, _ => .refl .refl _
  | _, _, .settings perm inside, distinct => by
    obtain ⟨hnames, hvalues⟩ := Json.distinctNames_obj_iff.mp distinct
    refine Rule.decode_agree hnames perm (inside.readSetting fun p hp => ?_)
    exact hvalues p (perm.mem_iff.mpr hp)

theorem SettingsReordered.readSetting : ∀ {fields others : Fields},
    SettingsReordered fields others → (∀ p ∈ fields, p.2.DistinctNames) →
      List.Forall₂ (fun p q => Agree List.Perm (readSetting p) (readSetting q)) fields others
  | _, _, .nil, _ => .nil
  | _, _, .kept _ rest, distinct => by
    obtain ⟨-, hrest⟩ := List.forall_mem_cons.mp distinct
    exact .cons (.refl .refl _) (rest.readSetting hrest)
  | _, _, .schema inside rest, distinct => by
    obtain ⟨hvalue, hrest⟩ := List.forall_mem_cons.mp distinct
    exact .cons (readSetting_schema_agree inside (inside.decode hvalue)) (rest.readSetting hrest)

/-- **Schemas are read alike** whatever the order of settings in their rules. -/
theorem SchemaReordered.decode : ∀ {description other : Json}, SchemaReordered description other →
    description.DistinctNames → Agree List.Perm (Schema.decode description) (Schema.decode other)
  | _, _, .same _, _ => .refl .refl _
  | _, _, .properties rules, distinct => by
    obtain ⟨-, hvalues⟩ := Json.distinctNames_obj_iff.mp distinct
    have hread := rules.readProperty hvalues
    rw [Schema.decode, Schema.decode]
    refine Collected.finish_agree ?_ ?_
    · rw [collectProperties_violations, collectProperties_violations]
      exact reports_perm hread
    · rw [collectProperties_results, collectProperties_results, results_eq hread]

theorem PropertiesReordered.readProperty : ∀ {fields others : Fields},
    PropertiesReordered fields others → (∀ p ∈ fields, p.2.DistinctNames) →
      List.Forall₂ (fun p q => Agree List.Perm (readProperty p) (readProperty q)) fields others
  | _, _, .nil, _ => .nil
  | _, _, .cons name rule rest, distinct => by
    obtain ⟨hrule, hrest⟩ := List.forall_mem_cons.mp distinct
    exact .cons (readProperty_agree name (rule.decode hrule)) (rest.readProperty hrest)

end

/-! ### For callers -/

/-- Errors that are the same but for the order of the reports that they carry. -/
inductive Error.Reordered : Error → Error → Prop
  | same (e : Error) : Error.Reordered e e
  | invalidDefinition {found others : List Violation} (perm : found.Perm others) :
      Error.Reordered (.invalidDefinition found) (.invalidDefinition others)

/-- **The order of settings does not matter.**  Two descriptions of a rule or a schema that differ
only in the order in which the settings of rules stand, at any depth, are both accepted or both
refused.  If they are accepted they describe the same rule or schema, and if they are refused the
same is reported of both, possibly in another order. -/
theorem setting_order_irrelevant {description other : Json} (distinct : description.DistinctNames) :
    (RuleReordered description other →
      Agree Error.Reordered (Rule.ofDescription description) (Rule.ofDescription other) ∧
        (Rule.descriptionViolations description).Perm (Rule.descriptionViolations other)) ∧
    (SchemaReordered description other →
      Agree Error.Reordered (Schema.ofDescription description) (Schema.ofDescription other) ∧
        (Schema.descriptionViolations description).Perm
          (Schema.descriptionViolations other)) := by
  refine ⟨fun h => ?_, fun h => ?_⟩
  · have hread := h.decode distinct
    exact ⟨hread.mapError .invalidDefinition, hread.reports⟩
  · have hread := h.decode distinct
    refine ⟨?_, hread.reports⟩
    cases h with
    | same => exact .refl .same _
    | properties => exact hread.mapError .invalidDefinition

/-! ### Crates

A schema in which each setting comes before those that it is read with, and one in which three
things are wrong.
-/

/-- A crate: the default comes before the schema that it is checked against, and the limit of the
day before the kind that it is read for. -/
def crate : Json :=
  .obj [("crate", .obj [("default", .obj [("day", .str "2024-02-29")]),
    ("schema", .obj [("day", .obj [("min", .str "2024-01-01"), ("type", .str "date")])]),
    ("type", .str "object")])]

/-- The crate with its kind in front, and with the kind of the day in front. -/
def tidyCrate : Json :=
  .obj [("crate", .obj [("type", .str "object"),
    ("schema", .obj [("day", .obj [("type", .str "date"), ("min", .str "2024-01-01")])]),
    ("default", .obj [("day", .str "2024-02-29")])])]

/-- A rule that is refused for its limit and for two settings of the schema inside. -/
def brokenCrate : Json :=
  .obj [("min", .bool true), ("schema", .obj [("day", .obj [("type", .null), ("size", .null),
    ("regex", .num (.int 1))])])]

/-- The refused rule with all its settings turned around. -/
def turnedCrate : Json :=
  .obj [("schema", .obj [("day", .obj [("regex", .num (.int 1)), ("size", .null),
    ("type", .null)])]), ("min", .bool true)]

theorem crate_reordered : SchemaReordered crate tidyCrate := by
  refine .properties (.cons "crate" (.settings (List.reverse_perm _).symm ?_) .nil)
  refine .kept _ (.schema (.properties (.cons "day" ?_ .nil)) (.kept _ .nil))
  exact .settings (List.reverse_perm _).symm (.kept _ (.kept _ .nil))

theorem brokenCrate_reordered : RuleReordered brokenCrate turnedCrate := by
  refine .settings (List.reverse_perm _).symm (.schema (.properties ?_) (.kept _ .nil))
  refine .cons "day" (.settings (List.reverse_perm _).symm ?_) .nil
  exact .kept _ (.kept _ (.kept _ .nil))

/-- The crates are the same schema, and the three reports of the refused rule are those of the rule
that is turned around. -/
theorem crate_setting_order_irrelevant :
    crate.DistinctNames ∧ SchemaReordered crate tidyCrate ∧
      (∃ schema, Schema.ofDescription crate = .ok schema ∧
        Schema.ofDescription tidyCrate = .ok schema) ∧
      brokenCrate.DistinctNames ∧ RuleReordered brokenCrate turnedCrate ∧
      (Rule.descriptionViolations brokenCrate).map Violation.path =
        ["min", "schema.day.size", "schema.day.regex"] ∧
      (Rule.descriptionViolations turnedCrate).map Violation.path =
        ["schema.day.regex", "schema.day.size", "min"] ∧
      (Rule.descriptionViolations brokenCrate).Perm (Rule.descriptionViolations turnedCrate) := by
  have hcrate : crate.DistinctNames := by
    simp [crate, Json.DistinctNames, Json.fieldsDistinct, Fields.names]
  have hbroken : brokenCrate.DistinctNames := by
    simp [brokenCrate, Json.DistinctNames, Json.fieldsDistinct, Fields.names]
  have hagree := ((setting_order_irrelevant hcrate).2 crate_reordered).1
  have hreports := ((setting_order_irrelevant hbroken).1 brokenCrate_reordered).2
  have haccepted : (Schema.ofDescription crate).isOk = true := by decide +kernel
  refine ⟨hcrate, crate_reordered, ?_, hbroken, brokenCrate_reordered, by decide +kernel,
    by decide +kernel, hreports⟩
  generalize Schema.ofDescription crate = x at hagree haccepted ⊢
  generalize Schema.ofDescription tidyCrate = y at hagree ⊢
  cases hagree with
  | ok schema => exact ⟨schema, rfl, rfl⟩
  | error => cases haccepted

end RecordSchema
