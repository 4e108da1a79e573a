import RecordSchema.Proofs.Description.Readings

/-!
# Reports from inside descriptions

A description may hold others: a rule may describe a schema inside, whose rules may do the same.
Whatever is wrong with a rule at any depth is reported of the whole description, whatever else is
wrong around it.

* `Path.nest_assoc`: a path inside a path inside a path can be put together from either end.
* `Schema.descriptionViolations_obj`: the reports of a schema are those of its entries.
* `DescribedAt`: the rules inside a description, by the names that lead to them; `descriptionPath`
  is the path that such names make.
* `DescribedAt.reported`: the reports of a rule inside are reported of the whole, one after another,
  under that path.  A rule that describes a schema hides none of its reports, since a setting that
  cannot be read does not keep the others from being read (`Rule.settings_reported`).
-/

namespace RecordSchema

/-! ### Nested paths -/

namespace Path

theorem nest_empty (path : String) : nest path "" = path :=
  rfl

theorem empty_nest (path : String) : nest "" path = path := by
  rw [nest]
  by_cases h : path = ""
  · simp [h]
  · simp [h]

/-- What stands between a path and one inside it. -/
def joint (inner : String) : String :=
  if inner.toList.head? = some '[' then "" else "."

theorem nest_eq {outer inner : String} (houter : outer ≠ "") (hinner : inner ≠ "") :
    nest outer inner = outer ++ joint inner ++ inner := by
  rw [nest, joint]
  by_cases h : inner.toList.head? = some '['
  · simp [hinner, h]
  · simp [houter, hinner, h]

/-- Only the beginning of a path counts for what stands before it. -/
theorem joint_append {path : String} (h : path ≠ "") (rest : String) :
    joint (path ++ rest) = joint path := by
  have hlist : path.toList ≠ [] := by simpa using h
  rw [joint, joint, String.toList_append, List.head?_append_of_ne_nil _ hlist]

/-- **A path inside a path inside a path** can be put together from either end. -/
theorem nest_assoc (a b c : String) : nest (nest a b) c = nest a (nest b c) := by
  by_cases ha : a = ""
  · rw [ha, empty_nest, empty_nest]
  by_cases hb : b = ""
  · rw [hb, nest_empty, empty_nest]
  by_cases hc : c = ""
  · rw [hc, nest_empty, nest_empty]
  have hab : a ++ joint b ++ b ≠ "" := by simp [ha]
  have hbc : b ++ joint c ++ c ≠ "" := by simp [hb]
  have hjoint : joint (b ++ joint c ++ c) = joint b := by rw [String.append_assoc, joint_append hb]
  rw [nest_eq ha hb, nest_eq hb hc, nest_eq hab hc, nest_eq ha hbc, hjoint]
  simp only [String.append_assoc]

end Path

theorem Violation.under_under (outer inner : String) (v : Violation) :
    (v.under inner).under outer = v.under (Path.nest outer inner) := by
  rw [Violation.under, Violation.under, Violation.under, Path.nest_assoc]

theorem map_under_under (outer inner : String) (vs : List Violation) :
    (vs.map (Violation.under inner)).map (Violation.under outer) =
      vs.map (Violation.under (Path.nest outer inner)) := by
  rw [List.map_map]
  exact List.map_congr_left fun v _ => v.under_under outer inner

/-! ### Reports of entries -/

theorem within_flatMap {α β : Type} {l : List α} {a : α} (h : a ∈ l) (f : α → List β) :
    f a <:+: l.flatMap f :=
  List.infix_of_mem_flatten (List.mem_map_of_mem h)

theorem reportsOf_readProperty (p : String × Json) :
    reportsOf (readProperty p) =
      (if p.1 = "" then [Defect.emptyName.violation] else []) ++
        (Rule.descriptionViolations p.2).map (Violation.under (propertyPath p.1)) := by
  rw [readProperty, Rule.descriptionViolations]
  cases Rule.decode p.2 with
  | ok rule => by_cases hname : p.1 = "" <;> simp [propertyEntry, hname, reportsOf, nameViolations]
  | error violations =>
    by_cases hname : p.1 = "" <;> simp [propertyEntry, hname, reportsOf, nameViolations]

theorem Schema.descriptionViolations_obj (fields : Fields) :
    descriptionViolations (.obj fields) = fields.flatMap fun p => reportsOf (readProperty p) := by
  rw [descriptionViolations, decode, Collected.finish, ← collectProperties_violations]
  by_cases h : (collectProperties fields).violations = []
  · simp [h, reportsOf]
  · rw [if_neg (by simpa using h), reportsOf]

theorem reportsOf_readSetting_schema (inner : Fields) :
    reportsOf (readSetting (SettingName.text .schema, .obj inner)) =
      (Schema.descriptionViolations (.obj inner)).map
        (Violation.under (SettingName.text .schema)) := by
  rw [Schema.descriptionViolations]
  cases h : Schema.decode (.obj inner) <;>
    simp [readSetting, settingEntry, SettingName.ofText?_text, h, reportsOf]

theorem Rule.settings_reported (fields : Fields) :
    (fields.flatMap fun p => reportsOf (readSetting p)) <:+:
      Rule.descriptionViolations (.obj fields) := by
  rw [← collectSettings_violations, descriptionViolations, decode, Collected.finish]
  by_cases h : (collectSettings fields).violations = []
  · rw [h]
    exact List.nil_infix
  · rw [if_neg (by simpa using h)]
    exact List.infix_rfl

/-! ### Rules inside descriptions -/

/-- The description of a rule inside the description of a schema, where names lead to it: each but
the last one is that of a rule that describes a schema inside. -/
inductive DescribedAt : Fields → List String → Json → Prop
  | here {fields : Fields} {name : String} {description : Json}
      (declared : (name, description) ∈ fields) : DescribedAt fields [name] description
  | inside {fields settings inner : Fields} {name : String} {names : List String}
      {description : Json} (declared : (name, .obj settings) ∈ fields)
      (nested : (SettingName.text .schema, .obj inner) ∈ settings)
      (h : DescribedAt inner names description) : DescribedAt fields (name :: names) description

/-- The path that names make inside a description, with the setting for the schema inside between
any two of them. -/
def descriptionPath (names : List String) : String :=
  ((names.map propertyPath).intersperse (SettingName.text .schema)).foldr Path.nest ""

theorem descriptionPath_singleton (name : String) :
    descriptionPath [name] = propertyPath name :=
  Path.nest_empty _

theorem descriptionPath_cons {names : List String} (h : names ≠ []) (name : String) :
    descriptionPath (name :: names) =
      Path.nest (propertyPath name) (Path.nest (SettingName.text .schema)
        (descriptionPath names)) := by
  cases names with
  | nil => exact absurd rfl h
  | cons other rest => rfl

namespace DescribedAt

variable {fields : Fields} {names : List String} {description : Json}

theorem ne_nil (h : DescribedAt fields names description) : names ≠ [] := by
  cases h <;> simp

theorem entry_reported {name : String} (declared : (name, description) ∈ fields) :
    (Rule.descriptionViolations description).map (Violation.under (propertyPath name)) <:+:
      Schema.descriptionViolations (.obj fields) := by
  rw [Schema.descriptionViolations_obj]
  refine List.IsInfix.trans ?_ (within_flatMap declared _)
  rw [reportsOf_readProperty]
  exact (List.suffix_append _ _).isInfix

/-- **What is reported of a rule inside a description is reported of the description**, one after
another, under the path of the names that lead to the rule. -/
theorem reported (h : DescribedAt fields names description) :
    (Rule.descriptionViolations description).map (Violation.under (descriptionPath names)) <:+:
      Schema.descriptionViolations (.obj fields) := by
  induction h with
  | here declared =>
    rw [descriptionPath_singleton]
    exact entry_reported declared
  | @inside fields settings inner name names description declared nested h ih =>
    -- From the schema inside to its setting, to the rule around it, and to its property.
    have hsetting : (Schema.descriptionViolations (.obj inner)).map
        (Violation.under (SettingName.text .schema)) <:+:
          Rule.descriptionViolations (.obj settings) := by
      rw [← reportsOf_readSetting_schema]
      exact (within_flatMap nested _).trans (Rule.settings_reported settings)
    rw [descriptionPath_cons h.ne_nil, ← map_under_under, ← map_under_under]
    exact (((ih.map _).trans hsetting).map _).trans (entry_reported declared)

end DescribedAt

/-- **Whatever is wrong with a rule is reported, at every depth.**  The reports of the description
of a schema are those of its properties in order: that a name is empty, and what is reported of the
rule under the path of the property.  And what is reported of any rule inside, when it is looked at
alone, is reported of the whole description, one after another and under the path that leads to the
rule, whatever is wrong with the rules around it. -/
theorem reported_at_every_depth (fields : Fields) :
    (Schema.descriptionViolations (.obj fields) = fields.flatMap fun p =>
      (if p.1 = "" then [Defect.emptyName.violation] else []) ++
        (Rule.descriptionViolations p.2).map (Violation.under (propertyPath p.1))) ∧
    ∀ names description, DescribedAt fields names description →
      (Rule.descriptionViolations description).map (Violation.under (descriptionPath names)) <:+:
        Schema.descriptionViolations (.obj fields) := by
  refine ⟨?_, fun names description h => h.reported⟩
  rw [Schema.descriptionViolations_obj]
  exact List.flatMap_congr fun p _ => reportsOf_readProperty p

/-! ### Chests

Every rule in the description is wrong, and those that hold others are wrong themselves.
-/

/-- What is packed last. -/
def label : Json :=
  .obj [("regex", .num (.int 1)), ("colour", .null)]

/-- Chests without a name that hold boxes, which hold a label without a name. -/
def chest : Fields :=
  [("", .obj [("type", .str "nope"), ("schema", .obj [("box", .obj [("min", .bool true),
    ("schema", .obj [("", label)])])])])]

/-- Both settings of the label are reported behind all the names that lead to it, among the reports
of the chest and the box. -/
theorem chest_reported_at_every_depth :
    DescribedAt chest ["", "box", ""] label ∧
      descriptionPath ["", "box", ""] = "[\"\"].schema.box.schema[\"\"]" ∧
      (∃ v w, Rule.descriptionViolations label = [v, w] ∧
        [v.under "[\"\"].schema.box.schema[\"\"]", w.under "[\"\"].schema.box.schema[\"\"]"] <:+:
          Schema.descriptionViolations (.obj chest)) ∧
      (Schema.descriptionViolations (.obj chest)).length = 6 := by
  have hpath : descriptionPath ["", "box", ""] = "[\"\"].schema.box.schema[\"\"]" := by
    decide +kernel
  have hlabel : DescribedAt chest ["", "box", ""] label :=
    .inside List.mem_cons_self (List.mem_cons_of_mem _ List.mem_cons_self)
      (.inside List.mem_cons_self (List.mem_cons_of_mem _ List.mem_cons_self)
        (.here List.mem_cons_self))
  have hreported := (reported_at_every_depth chest).2 _ _ hlabel
  rw [hpath] at hreported
  exact ⟨hlabel, hpath, ⟨_, _, rfl, hreported⟩, by decide +kernel⟩

end RecordSchema
