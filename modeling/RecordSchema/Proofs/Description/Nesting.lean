import RecordSchema.Proofs.Description.Depth

/-!
# Nested paths

The report of a defect deep inside a description gets its path from the inside out: each level that
it passes through puts its own segment in front.  Paths are a monoid under `Path.nest`, with the
empty path as its unit, so the same path is reached if the segments are joined first, in whatever
groups, and put in front once.

* `Path.index_eq_nest`, `Path.child_eq_nest_iff`: when a path with one more step is a nested one.
* `Path.join`: the path of segments; `Path.join_append`, `Path.join_flatten` and
  `Path.foldl_nest_eq_join` say that only their order counts.
* `Violation.foldr_under`: a report that passes through levels has the joined path in front.
* `LiesBehind`: the defects inside the description of a schema and the levels that lead to them.
  They are reported through these (`LiesBehind.reported`), and nothing else is
  (`LiesBehind.exists_of_reported`).

`nested_paths` puts this together.
-/

namespace RecordSchema

namespace Path

/-! ### The monoid of paths -/

instance : Std.Associative nest :=
  ⟨nest_assoc⟩

instance : Std.LawfulIdentity nest "" where
  left_id := empty_nest
  right_id := nest_empty

/-- An index is nested as a path that begins with a bracket. -/
theorem index_eq_nest (path : String) (i : Nat) :
    index path i = nest path ("[" ++ toString i ++ "]") := by
  by_cases hpath : path = ""
  · rw [hpath, empty_nest, index, String.empty_append]
  · have hinner : "[" ++ toString i ++ "]" ≠ "" := by simp
    have hjoint : joint ("[" ++ toString i ++ "]") = "" := by simp [joint]
    rw [nest_eq hpath hinner, hjoint, index, String.append_empty, String.append_assoc,
      String.append_assoc, String.append_assoc]

/-- A name is nested as a path if a point stands before it there: it is not empty and begins with
no bracket, or there is no path for it to be nested in. -/
theorem child_eq_nest_iff {path name : String} :
    child path name = nest path name ↔
      path = "" ∨ name ≠ "" ∧ name.toList.head? ≠ some '[' := by
  by_cases hpath : path = ""
  · rw [hpath, empty_nest]
    exact iff_of_true rfl (Or.inl rfl)
  have hchild : child path name = path ++ "." ++ name := by simp [child, hpath]
  rw [hchild, or_iff_right hpath]
  by_cases hname : name = ""
  · rw [hname, nest_empty]
    exact iff_of_false (by simp) fun h => h.1 rfl
  · rw [nest_eq hpath hname, joint]
    by_cases hbracket : name.toList.head? = some '['
    · rw [if_pos hbracket]
      exact iff_of_false (by simp) fun h => h.2 hbracket
    · rw [if_neg hbracket]
      exact iff_of_true rfl ⟨hname, hbracket⟩

/-! ### Joined paths -/

/-- The path of segments, each inside the one before it. -/
def join (segments : List String) : String :=
  segments.foldr nest ""

theorem join_cons (segment : String) (rest : List String) :
    join (segment :: rest) = nest segment (join rest) :=
  rfl

theorem join_append (segments others : List String) :
    join (segments ++ others) = nest (join segments) (join others) := by
  have hstart : join others = nest "" (join others) := (empty_nest _).symm
  calc join (segments ++ others) = segments.foldr nest (join others) := List.foldr_append
    _ = segments.foldr nest (nest "" (join others)) := by rw [← hstart]
    _ = nest (join segments) (join others) := List.foldr_assoc

theorem join_flatten (groups : List (List String)) :
    join groups.flatten = join (groups.map join) := by
  induction groups with
  | nil => rfl
  | cons group rest ih => rw [List.flatten_cons, join_append, ih, List.map_cons, join_cons]

theorem foldl_nest_eq_join (segments : List String) : segments.foldl nest "" = join segments :=
  List.foldl_eq_apply_foldr.trans (empty_nest _)

end Path

theorem Violation.under_empty (v : Violation) : v.under "" = v := by
  rw [under, Path.empty_nest]

/-- **A report that passes through levels**, the last one first, has the path that they make in
front. -/
theorem Violation.foldr_under (levels : List String) (v : Violation) :
    levels.foldr Violation.under v = v.under (Path.join levels) := by
  induction levels with
  | nil => exact v.under_empty.symm
  | cons level rest ih => rw [List.foldr_cons, ih, under_under, Path.join_cons]

/-! ### Reports through levels -/

/-- A defect lies inside the description of a schema behind levels: it is that of an empty name, it
is reported of the rule of a property, or it lies inside the schema that such a rule describes. -/
inductive LiesBehind : Fields → List String → Defect → Prop
  | name {fields : Fields} (h : "" ∈ fields.names) : LiesBehind fields [] .emptyName
  | rule {fields : Fields} {name : String} {description : Json} {d : Defect}
      (declared : (name, description) ∈ fields)
      (found : d.violation ∈ Rule.descriptionViolations description) :
      LiesBehind fields [propertyPath name] d
  | inside {fields settings inner : Fields} {name : String} {levels : List String} {d : Defect}
      (declared : (name, .obj settings) ∈ fields)
      (nested : (SettingName.text .schema, .obj inner) ∈ settings)
      (h : LiesBehind inner levels d) :
      LiesBehind fields (propertyPath name :: SettingName.text .schema :: levels) d

theorem Schema.mem_descriptionViolations_obj {fields : Fields} {v : Violation} :
    v ∈ Schema.descriptionViolations (.obj fields) ↔
      ("" ∈ fields.names ∧ v = Defect.emptyName.violation) ∨
        ∃ name description, (name, description) ∈ fields ∧
          ∃ w ∈ Rule.descriptionViolations description, v = w.under (propertyPath name) := by
  rw [descriptionViolations_obj, List.mem_flatMap]
  constructor
  · rintro ⟨⟨name, description⟩, hmem, hv⟩
    rw [reportsOf_readProperty, List.mem_append] at hv
    rcases hv with hv | hv
    · by_cases hname : name = ""
      · rw [if_pos hname, List.mem_singleton] at hv
        exact Or.inl ⟨hname ▸ List.mem_map_of_mem hmem, hv⟩
      · rw [if_neg hname] at hv
        cases hv
    · obtain ⟨w, hw, rfl⟩ := List.mem_map.mp hv
      exact Or.inr ⟨name, description, hmem, w, hw, rfl⟩
  · rintro (⟨hname, rfl⟩ | ⟨name, description, hmem, w, hw, rfl⟩)
    · obtain ⟨p, hmem, hp⟩ := List.mem_map.mp hname
      refine ⟨p, hmem, ?_⟩
      rw [reportsOf_readProperty, if_pos hp]
      exact List.mem_append_left _ (List.mem_singleton.mpr rfl)
    · refine ⟨(name, description), hmem, ?_⟩
      rw [reportsOf_readProperty]
      exact List.mem_append_right _ (List.mem_map_of_mem hw)

/-- What is reported of a setting is a defect of its own, or comes from the schema inside. -/
theorem mem_reports_readSetting {p : String × Json} {v : Violation}
    (h : v ∈ reportsOf (readSetting p)) :
    (∃ d : Defect, v = d.violation) ∨
      ∃ inner, p = (SettingName.text .schema, .obj inner) ∧
        ∃ w ∈ Schema.descriptionViolations (.obj inner),
          v = w.under (SettingName.text .schema) := by
  unfold readSetting settingEntry at h
  split at h
  · exact Or.inl ⟨_, List.mem_singleton.mp h⟩
  · next inner hname hvalue =>
    have hp : p = (SettingName.text .schema, .obj inner) :=
      Prod.ext (SettingName.text_of_ofText? hname).symm hvalue
    rw [hvalue] at h
    cases hdecode : Schema.decode (.obj inner) with
    | ok schema =>
      rw [hdecode] at h
      cases h
    | error violations =>
      rw [hdecode] at h
      obtain ⟨w, hw, rfl⟩ := List.mem_map.mp h
      refine Or.inr ⟨inner, hp, w, ?_, rfl⟩
      rw [Schema.descriptionViolations, hdecode]
      exact hw
  · next setting _ _ =>
    cases hread : setting.read p.2 with
    | ok result =>
      rw [hread] at h
      cases h
    | error d =>
      rw [hread] at h
      exact Or.inl ⟨d, List.mem_singleton.mp h⟩

theorem Rule.mem_descriptionViolations {description : Json} {v : Violation}
    (h : v ∈ Rule.descriptionViolations description) :
    (∃ d : Defect, v = d.violation) ∨
      ∃ settings inner, description = .obj settings ∧
        (SettingName.text .schema, .obj inner) ∈ settings ∧
          ∃ w ∈ Schema.descriptionViolations (.obj inner),
            v = w.under (SettingName.text .schema) := by
  cases description with
  | obj settings =>
    rw [descriptionViolations, decode, Collected.finish] at h
    split at h
    · -- Every setting is read, so the draft is reported.
      rw [Draft.assemble] at h
      split at h
      · cases h
      · obtain ⟨d, -, rfl⟩ := List.mem_map.mp h
        exact Or.inl ⟨d, rfl⟩
    · rw [reportsOf, collectSettings_violations] at h
      obtain ⟨p, hp, hv⟩ := List.mem_flatMap.mp h
      rcases mem_reports_readSetting hv with hown | ⟨inner, rfl, w, hw, rfl⟩
      · exact Or.inl hown
      · exact Or.inr ⟨settings, inner, rfl, hp, w, hw, rfl⟩
  | _ => exact Or.inl ⟨_, List.mem_singleton.mp h⟩

theorem Rule.mem_descriptionViolations_of_inside {settings inner : Fields}
    (nested : (SettingName.text .schema, .obj inner) ∈ settings) {w : Violation}
    (h : w ∈ Schema.descriptionViolations (.obj inner)) :
    w.under (SettingName.text .schema) ∈ Rule.descriptionViolations (.obj settings) := by
  refine (settings_reported settings).subset (List.mem_flatMap.mpr ⟨_, nested, ?_⟩)
  rw [reportsOf_readSetting_schema]
  exact List.mem_map_of_mem h

theorem sizeOf_inside_lt {fields settings inner : Fields} {name setting : String}
    (declared : (name, .obj settings) ∈ fields) (nested : (setting, .obj inner) ∈ settings) :
    sizeOf inner < sizeOf fields := by
  have hfields := List.sizeOf_lt_of_mem declared
  have hsettings := List.sizeOf_lt_of_mem nested
  simp only [Prod.mk.sizeOf_spec, Json.obj.sizeOf_spec] at hfields hsettings
  omega

namespace LiesBehind

theorem reported {fields : Fields} {levels : List String} {d : Defect}
    (h : LiesBehind fields levels d) :
    levels.foldr Violation.under d.violation ∈ Schema.descriptionViolations (.obj fields) := by
  induction h with
  | name h => exact Schema.mem_descriptionViolations_obj.mpr (Or.inl ⟨h, rfl⟩)
  | rule declared found =>
    exact Schema.mem_descriptionViolations_obj.mpr (Or.inr ⟨_, _, declared, _, found, rfl⟩)
  | inside declared nested h ih =>
    have hrule := Rule.mem_descriptionViolations_of_inside nested ih
    exact Schema.mem_descriptionViolations_obj.mpr (Or.inr ⟨_, _, declared, _, hrule, rfl⟩)

/-- Whatever is reported is a defect, seen through the levels behind which it lies. -/
theorem exists_of_reported {fields : Fields} {v : Violation}
    (h : v ∈ Schema.descriptionViolations (.obj fields)) :
    ∃ levels d, LiesBehind fields levels d ∧ v = levels.foldr Violation.under d.violation := by
  rcases Schema.mem_descriptionViolations_obj.mp h with
    ⟨hname, rfl⟩ | ⟨name, description, declared, w, hw, rfl⟩
  · exact ⟨[], .emptyName, .name hname, rfl⟩
  · rcases Rule.mem_descriptionViolations hw with
      ⟨d, rfl⟩ | ⟨settings, inner, rfl, nested, u, hu, rfl⟩
    · exact ⟨[propertyPath name], d, .rule declared hw, rfl⟩
    · have hsmaller := sizeOf_inside_lt declared nested
      obtain ⟨levels, d, hlies, rfl⟩ := exists_of_reported hu
      exact ⟨_, d, .inside declared nested hlies, rfl⟩
termination_by sizeOf fields

end LiesBehind

/-- **Paths are a monoid under nesting**, with the empty path as its unit.  A path with an index at
its end is a nested one, and so is one with a name at its end that is not empty and begins with no
bracket.  So the segments of a path may be joined in any groups, and a report that passes through
levels, one after another from the inside out, gets the path that is joined from them in front.  In
this way all reports of the description of a schema come about, through as many levels as the
schemas inside make and through properties without a name. -/
theorem nested_paths :
    (∀ a b c : String, Path.nest (Path.nest a b) c = Path.nest a (Path.nest b c)) ∧
      (∀ a : String, Path.nest "" a = a ∧ Path.nest a "" = a) ∧
      (∀ (a : String) (i : Nat), Path.index a i = Path.nest a ("[" ++ toString i ++ "]")) ∧
      (∀ a name : String, name ≠ "" → name.toList.head? ≠ some '[' →
        Path.child a name = Path.nest a name) ∧
      (∀ groups : List (List String),
        Path.join groups.flatten = Path.join (groups.map Path.join)) ∧
      (∀ (levels : List String) (v : Violation),
        levels.foldr Violation.under v = v.under (Path.join levels) ∧
          levels.foldl Path.nest "" = Path.join levels) ∧
      ∀ (fields : Fields) (v : Violation), v ∈ Schema.descriptionViolations (.obj fields) ↔
        ∃ levels d, LiesBehind fields levels d ∧
          v = levels.foldr Violation.under d.violation ∧
          v = d.violation.under (Path.join levels) := by
  refine ⟨Path.nest_assoc, fun a => ⟨Path.empty_nest a, Path.nest_empty a⟩, Path.index_eq_nest,
    fun a name hname hbracket => Path.child_eq_nest_iff.mpr (Or.inr ⟨hname, hbracket⟩),
    Path.join_flatten,
    fun levels v => ⟨v.foldr_under levels, Path.foldl_nest_eq_join levels⟩, fun fields v => ?_⟩
  constructor
  · intro h
    obtain ⟨levels, d, hlies, hv⟩ := LiesBehind.exists_of_reported h
    exact ⟨levels, d, hlies, hv, hv.trans (d.violation.foldr_under levels)⟩
  · rintro ⟨levels, d, hlies, rfl, -⟩
    exact hlies.reported

/-- The unknown setting of the label is reported through all levels from the chest on, and two of
its properties have no name. -/
theorem chest_reported_through_levels :
    Path.child "box" "label" = Path.nest "box" "label" ∧
      Path.join [propertyPath "", "schema", propertyPath "box", "schema", propertyPath ""] =
        "[\"\"].schema.box.schema[\"\"]" ∧
      (Defect.unknownSetting "colour").violation.under "[\"\"].schema.box.schema[\"\"]" ∈
        Schema.descriptionViolations (.obj chest) := by
  obtain ⟨-, -, -, hchild, -, -, hreports⟩ := nested_paths
  have hpath : Path.join [propertyPath "", "schema", propertyPath "box", "schema",
      propertyPath ""] = "[\"\"].schema.box.schema[\"\"]" := by decide +kernel
  have hfound : (Defect.unknownSetting "colour").violation ∈ Rule.descriptionViolations label := by
    decide +kernel
  have hlies : LiesBehind chest [propertyPath "", "schema", propertyPath "box", "schema",
      propertyPath ""] (.unknownSetting "colour") :=
    .inside List.mem_cons_self (List.mem_cons_of_mem _ List.mem_cons_self)
      (.inside List.mem_cons_self (List.mem_cons_of_mem _ List.mem_cons_self)
        (.rule List.mem_cons_self hfound))
  refine ⟨hchild "box" "label" (by decide) (by decide), hpath, ?_⟩
  rw [← hpath]
  exact (hreports chest _).mpr ⟨_, _, hlies, (Violation.foldr_under _ _).symm, rfl⟩

end RecordSchema
