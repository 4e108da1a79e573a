import RecordSchema.Proofs.Description.Depth
import RecordSchema.Proofs.Description.Paths
import RecordSchema.Proofs.Rule.Groups
import RecordSchema.Proofs.Rule.Rerooting

/-!
# Problems of a description, phase by phase

A description of a rule is judged in three phases: each setting by itself, then the texts that stand
for patterns and points in time, and at last how the settings fit each other.  A phase reports all
that it finds, and a later one is entered only if the earlier ones found nothing.

* `Malformed`: what is wrong with a setting by itself.  `EntryReports` says what is then reported of
  it, and every entry of a description is reported so (`entryReports_readSetting`).
* `Fields.failingTexts`: the settings whose texts cannot be read.
* `Fields.restrict`: a description with some of its settings.  What is left of a description that
  reaches the last phase reaches it too, and it describes what is left of the rule
  (`Fields.describedRule_restrict`), where no group of settings hides another.

`problems_by_phase` puts this together.
-/

namespace RecordSchema

/-! ### Settings by themselves -/

/-- A schema inside that is refused. -/
def RefusedInside (p : String × Json) : Prop :=
  p.1 = SettingName.text .schema ∧ (∃ fields, p.2 = .obj fields) ∧
    Schema.descriptionViolations p.2 ≠ []

/-- A setting is malformed by itself: there is none of that name, or its value is not one that the
setting may be given, or it is a schema that is refused. -/
inductive Malformed : String × Json → Prop
  | unknown {name : String} {value : Json} (h : ∀ setting : SettingName, setting.text ≠ name) :
      Malformed (name, value)
  | form {setting : SettingName} {value : Json} (declared : value ≠ .null)
      (h : ¬ setting.Takes value) : Malformed (setting.text, value)
  | refused {p : String × Json} (h : RefusedInside p) : Malformed p

/-- What is reported of a setting by itself: nothing if it is not malformed, the reports of the
schema inside if that is refused, and else one report at the name of the setting. -/
inductive EntryReports : String × Json → List Violation → Prop
  | fine {p : String × Json} (h : ¬ Malformed p) : EntryReports p []
  | unknown {name : String} {value : Json} {v : Violation}
      (h : ∀ setting : SettingName, setting.text ≠ name)
      (heading : v.heading = (name, .unknownSetting)) : EntryReports (name, value) [v]
  | form {setting : SettingName} {value : Json} {v : Violation} (declared : value ≠ .null)
      (h : ¬ setting.Takes value) (heading : v.heading = (setting.text, .invalidSetting)) :
      EntryReports (setting.text, value) [v]
  | inside {p : String × Json} (h : RefusedInside p) :
      EntryReports p ((Schema.descriptionViolations p.2).map
        (Violation.under (SettingName.text .schema)))

namespace SettingName

variable {setting : SettingName} {name : String} {value : Json}

theorem ofText?_eq_none_iff :
    ofText? name = none ↔ ∀ setting : SettingName, setting.text ≠ name := by
  constructor
  · rintro h setting rfl
    rw [ofText?_text] at h
    cases h
  · intro h
    cases hname : ofText? name with
    | none => rfl
    | some setting => exact absurd (text_of_ofText? hname) (h setting)

theorem readSetting_of_unknown (h : ∀ setting : SettingName, setting.text ≠ name) (value : Json) :
    readSetting (name, value) = .error [Defect.violation (.unknownSetting name)] := by
  unfold readSetting settingEntry
  rw [ofText?_eq_none_iff.mpr h]

theorem readSetting_of_not_takes (declared : value ≠ .null) (h : ¬ setting.Takes value) :
    ∃ d, setting.read value = .error d ∧
      readSetting (setting.text, value) = .error [d.violation] := by
  have hentry : readSetting (setting.text, value) =
      (setting.read value).mapError fun d => [d.violation] := by
    by_cases hschema : setting = .schema
    · subst hschema
      cases value with
      | obj fields => exact absurd ⟨fields, rfl⟩ h
      | _ => rfl
    · exact readSetting_text hschema value
  cases hread : setting.read value with
  | ok result =>
    rw [hread] at hentry
    exact absurd (exists_readSetting_iff.mp ⟨result, hentry⟩ declared).1 h
  | error d =>
    rw [hread] at hentry
    exact ⟨d, rfl, hentry⟩

end SettingName

theorem refusedInside_iff {setting : SettingName} {value : Json} :
    RefusedInside (setting.text, value) ↔
      setting = .schema ∧ setting.Takes value ∧ ¬ ∃ schema, Schema.decode value = .ok schema := by
  rw [← reportsOf_eq_nil_iff Schema.decode_error_ne_nil]
  constructor
  · rintro ⟨hschema, hobject, hreports⟩
    obtain rfl := SettingName.text_inj hschema
    exact ⟨rfl, hobject, hreports⟩
  · rintro ⟨rfl, hobject, hreports⟩
    exact ⟨rfl, hobject, hreports⟩

theorem malformed_text_iff {setting : SettingName} {value : Json} :
    Malformed (setting.text, value) ↔
      value ≠ .null ∧ ¬ setting.Takes value ∨ RefusedInside (setting.text, value) := by
  constructor
  · intro h
    generalize hp : (setting.text, value) = p at h
    cases h with
    | unknown hunknown => exact absurd (Prod.mk.inj hp).1 (hunknown setting)
    | form declared htakes =>
      obtain ⟨hsetting, rfl⟩ := Prod.mk.inj hp
      obtain rfl := SettingName.text_inj hsetting
      exact Or.inl ⟨declared, htakes⟩
    | refused h => exact Or.inr h
  · rintro (⟨declared, htakes⟩ | h)
    · exact .form declared htakes
    · exact .refused h

theorem exists_readSetting_iff_not_malformed {p : String × Json} :
    (∃ result, readSetting p = .ok result) ↔ ¬ Malformed p := by
  obtain ⟨name, value⟩ := p
  by_cases hknown : ∃ setting : SettingName, setting.text = name
  · obtain ⟨setting, rfl⟩ := hknown
    have hnull : setting = .schema → setting.Takes value → value ≠ .null := by
      rintro rfl ⟨fields, rfl⟩
      simp
    rw [SettingName.exists_readSetting_iff, malformed_text_iff, refusedInside_iff]
    tauto
  · have hunknown : ∀ setting : SettingName, setting.text ≠ name :=
      fun setting hname => hknown ⟨setting, hname⟩
    rw [SettingName.readSetting_of_unknown hunknown]
    exact iff_of_false (by simp) (not_not_intro (.unknown hunknown))

/-- **Each entry of a description is reported by itself.** -/
theorem entryReports_readSetting (p : String × Json) :
    EntryReports p (reportsOf (readSetting p)) := by
  by_cases hfine : Malformed p
  · cases hfine with
    | unknown h =>
      rw [SettingName.readSetting_of_unknown h]
      exact .unknown h rfl
    | form declared h =>
      obtain ⟨d, hread, hentry⟩ := SettingName.readSetting_of_not_takes declared h
      obtain ⟨hpath, hkind⟩ := SettingName.report_of_read hread
      rw [hentry]
      exact .form declared h (Prod.ext hpath hkind)
    | refused h =>
      obtain ⟨name, value⟩ := p
      obtain ⟨hname, ⟨fields, hobj⟩, -⟩ := id h
      obtain rfl : name = SettingName.text .schema := hname
      obtain rfl : value = .obj fields := hobj
      rw [reportsOf_readSetting_schema]
      exact .inside h
  · have hread := exists_readSetting_iff_not_malformed.mpr hfine
    rw [readSetting_reports_eq_nil_iff.mpr hread]
    exact .fine hfine

/-! ### Texts -/

namespace Fields

/-- A text is declared for a setting and cannot be read as what it stands for: a pattern, or a point
in time for the kind of values. -/
def textFails (fields : Fields) : SettingName → Bool
  | .regex => (fields.declaredText? .regex).any fun text => (Pattern.ofText? text).isNone
  | .min =>
    (fields.declaredText? .min).any fun text => (fields.describedKind.readPoint? text).isNone
  | .max =>
    (fields.declaredText? .max).any fun text => (fields.describedKind.readPoint? text).isNone
  | _ => false

/-- The settings whose texts cannot be read. -/
def failingTexts (fields : Fields) : List SettingName :=
  [.regex, .min, .max].filter fields.textFails

end Fields

namespace Draft

theorem patternDefects_headings (text : Option String) :
    (patternDefects text).map (fun d => d.violation.heading) =
      if text.any fun text => (Pattern.ofText? text).isNone then
        [(SettingName.text .regex, .invalidSetting)] else [] := by
  cases text with
  | none => rfl
  | some text =>
    rw [patternDefects]
    cases h : Pattern.ofText? text <;> simp [h]
    rfl

theorem pointDefects_headings (kind : Kind) (setting : SettingName) (text : Option String) :
    (pointDefects kind setting text).map (fun d => d.violation.heading) =
      if text.any fun text => (kind.readPoint? text).isNone then
        [(setting.text, .invalidSetting)] else [] := by
  cases text with
  | none => rfl
  | some text =>
    rw [pointDefects, Kind.isTemporal]
    cases hscale : kind.scale? with
    | none =>
      have hread : kind.readPoint? text = none := by rw [Kind.readPoint?, hscale, Option.bind_none]
      simp [hread]
      rfl
    | some scale =>
      cases h : kind.readPoint? text <;> simp [h]
      rfl

end Draft

theorem map_filter_cons {α β : Type} (keep : α → Bool) (f : α → β) (a : α) (rest : List α) :
    ((a :: rest).filter keep).map f =
      (if keep a then [f a] else []) ++ (rest.filter keep).map f := by
  rw [List.filter_cons]
  split <;> rfl

/-- **Each text that cannot be read is reported once.** -/
theorem textDefects_headings {fields : Fields} (distinct : fields.names.Nodup) :
    (draftOf fields).textDefects.map (fun d => d.violation.heading) =
      fields.failingTexts.map fun setting => (setting.text, ViolationKind.invalidSetting) := by
  rw [Draft.textDefects, List.map_append, List.map_append, Draft.patternDefects_headings,
    Draft.pointDefects_headings, Draft.pointDefects_headings, draftOf_pattern distinct,
    draftOf_earliest distinct, draftOf_latest distinct, draftOf_kind distinct,
    Fields.failingTexts, map_filter_cons, map_filter_cons, map_filter_cons, List.filter_nil,
    List.map_nil, List.append_nil, List.append_assoc]
  rfl

/-! ### Rules -/

/-- The rule that the settings of a description make, whether or not they fit each other. -/
def Fields.describedRule (fields : Fields) : Rule :=
  ⟨fields.describedSettings,
    (fields.declared? .schema).bind fun value => (Schema.decode value).toOption⟩

theorem draftOf_rule {fields : Fields} (distinct : fields.names.Nodup) :
    (draftOf fields).rule = fields.describedRule := by
  rw [Draft.rule, draftOf_settings distinct, draftOf_nested distinct, Fields.describedRule]

theorem Rule.descriptionViolations_of_malformed {fields : Fields}
    (malformed : ∃ p ∈ fields, Malformed p) :
    Rule.descriptionViolations (.obj fields) =
      fields.flatMap fun p => reportsOf (readSetting p) := by
  have hentries : (collectSettings fields).violations ≠ [] := by
    obtain ⟨p, hp, hmalformed⟩ := malformed
    rw [collectSettings_violations, Ne, List.flatMap_eq_nil_iff]
    intro h
    have hread := readSetting_reports_eq_nil_iff.mp (h p hp)
    exact exists_readSetting_iff_not_malformed.mp hread hmalformed
  rw [descriptionViolations, decode, Collected.finish, if_neg (by simpa using hentries), reportsOf,
    collectSettings_violations]

theorem Rule.descriptionViolations_of_fine {fields : Fields}
    (fine : ∀ p ∈ fields, ¬ Malformed p) :
    Rule.descriptionViolations (.obj fields) =
      (draftOf fields).defects.map Defect.violation := by
  have hentries : (collectSettings fields).violations = [] := by
    rw [collectSettings_violations, List.flatMap_eq_nil_iff]
    intro p hp
    exact readSetting_reports_eq_nil_iff.mpr (exists_readSetting_iff_not_malformed.mpr (fine p hp))
  rw [descriptionViolations, decode, Collected.finish, hentries, collectSettings_results]
  change reportsOf (draftOf fields).assemble = _
  rw [Draft.assemble]
  cases (draftOf fields).defects <;> rfl

/-- What is reported once every setting is read and every text is: the defects of the rule. -/
theorem Rule.descriptionViolations_of_clear {fields : Fields} (distinct : fields.names.Nodup)
    (fine : ∀ p ∈ fields, ¬ Malformed p) (clear : fields.failingTexts = []) :
    Rule.descriptionViolations (.obj fields) = fields.describedRule.definitionViolations := by
  have htexts : (draftOf fields).textDefects = [] := by
    have hheadings := textDefects_headings distinct
    rw [clear, List.map_nil] at hheadings
    exact List.map_eq_nil_iff.mp hheadings
  rw [descriptionViolations_of_fine fine, Draft.defects, htexts, draftOf_rule distinct]
  rfl

/-! ### Descriptions with some of their settings -/

namespace Fields

variable {fields : Fields} {kept : List SettingName}

/-- A description with some of its settings. -/
def restrict (fields : Fields) (kept : List SettingName) : Fields :=
  fields.filter fun p => kept.any fun setting => setting.text == p.1

theorem restrict_names_nodup (distinct : fields.names.Nodup) : (fields.restrict kept).names.Nodup :=
  distinct.sublist (List.filter_sublist.map Prod.fst)

theorem declared?_restrict (setting : SettingName) :
    (fields.restrict kept).declared? setting =
      if setting ∈ kept then fields.declared? setting else none := by
  by_cases h : setting ∈ kept
  · have hkept : (kept.any fun other => other.text == setting.text) = true :=
      List.any_eq_true.mpr ⟨setting, h, beq_self_eq_true _⟩
    rw [if_pos h, declared?, restrict,
      get?_filter (fun name => kept.any fun other => other.text == name) hkept, declared?]
  · have hget : (fields.restrict kept).get? setting.text = none := by
      refine lookup_eq_none_iff_not_mem.mpr fun hmem => h ?_
      obtain ⟨p, hp, hname⟩ := List.mem_map.mp hmem
      obtain ⟨other, hother, htext⟩ := List.any_eq_true.mp (List.mem_filter.mp hp).2
      have heq : other = setting := SettingName.text_inj ((beq_iff_eq.mp htext).trans hname)
      exact heq ▸ hother
    rw [if_neg h, declared?, hget, Option.filter_none]

theorem declared?_restrict_kinds {setting : SettingName}
    (other : setting ∉ [SettingName.type, .memberType]) :
    (fields.restrict (.type :: .memberType :: kept)).declared? setting =
      if setting ∈ kept then fields.declared? setting else none := by
  have hkept : setting ∈ SettingName.type :: .memberType :: kept ↔ setting ∈ kept := by
    simp only [List.mem_cons, List.not_mem_nil, or_false, not_or] at other
    simp only [List.mem_cons, other.1, other.2, false_or]
  rw [declared?_restrict, if_congr hkept rfl rfl]

theorem declaredKind?_restrict {setting : SettingName}
    (kind : setting ∈ [SettingName.type, .memberType]) :
    (fields.restrict (.type :: .memberType :: kept)).declaredKind? setting =
      fields.declaredKind? setting := by
  have hkept : setting ∈ SettingName.type :: .memberType :: kept :=
    List.mem_append_left kept kind
  rw [declaredKind?, declared?_restrict, if_pos hkept, declaredKind?]

theorem describedKind_restrict :
    (fields.restrict (.type :: .memberType :: kept)).describedKind = fields.describedKind := by
  rw [describedKind, declaredKind?_restrict (by decide), describedKind]

theorem bind_ite_none {α β : Type} {c : Prop} [Decidable c] (x : Option α) (f : α → Option β) :
    (if c then x else none).bind f = if c then x.bind f else none := by
  split <;> rfl

/-- **The settings that are left are described as they were.** -/
theorem describedSettings_restrict :
    (fields.restrict (.type :: .memberType :: kept)).describedSettings =
      fields.describedSettings.restrict kept := by
  have hrequired (flag : Option Bool) : (if .required ∈ kept then flag else none).getD false =
      if .required ∈ kept then flag.getD false else false := by
    split <;> rfl
  simp (disch := decide) only [describedSettings, Settings.restrict, describedKind_restrict,
    declaredKind?_restrict, declaredLimit?, declaredText?, declared?_restrict_kinds, bind_ite_none,
    hrequired]

/-- **What is left of a description describes what is left of its rule.** -/
theorem describedRule_restrict :
    (fields.restrict (.type :: .memberType :: kept)).describedRule =
      fields.describedRule.restrict kept := by
  rw [describedRule, describedSettings_restrict, declared?_restrict_kinds (by decide),
    bind_ite_none, Rule.restrict, describedRule]

theorem textFails_of_restrict {setting : SettingName}
    (h : (fields.restrict (.type :: .memberType :: kept)).textFails setting = true) :
    fields.textFails setting = true := by
  have hany {c : Prop} [Decidable c] {text : Option String} {fails : String → Bool}
      (h : (if c then text else none).any fails = true) : text.any fails = true := by
    split at h
    · exact h
    · cases h
  cases setting with
  | regex | min | max =>
    simp (disch := decide) only [textFails, declaredText?, declared?_restrict_kinds, bind_ite_none,
      describedKind_restrict] at h
    exact hany h
  | _ => cases h

end Fields

/-! ### Phases -/

/-- The report of a default that breaks its rule; it repeats what is found in the default. -/
def defaultReport (found : Violation) : Violation :=
  ⟨SettingName.text .default, .invalidSetting,
    "The default value does not satisfy the rule: " ++ found.message⟩

namespace Rule

variable {rule : Rule}

/-- A default is reported once for each violation that is found in it. -/
theorem defaultDefects_reports (rule : Rule) :
    rule.defaultDefects.map Defect.violation =
      (rule.settings.fallback.toList.flatMap fun value =>
        rule.violations (SettingName.text .default) (some value)).map defaultReport := by
  rw [defaultDefects]
  cases rule.settings.fallback with
  | none => rfl
  | some value =>
    rw [Option.toList_some, List.flatMap_singleton, violations, List.map_map, List.map_map]
    rfl

theorem definitionViolations_eq_append (rule : Rule) :
    rule.definitionViolations =
      rule.settingDefects.map Defect.violation ++ rule.defaultDefects.map Defect.violation := by
  rw [definitionViolations, defects_eq_append, List.map_append]

theorem settingDefects_path_ne (rule : Rule) :
    ∀ d ∈ rule.settingDefects, d.path ≠ SettingName.text .default := by
  have hgroups := (((rule.settings.enumerationDefects_reportedAt.append
    rule.settings.rangeDefects_reportedAt).append rule.settings.memberDefects_reportedAt).append
      rule.settings.patternDefects_reportedAt).append
        (rule.settings.schemaDefects_reportedAt rule.nested.isSome)
  exact hgroups.path_ne (by decide)

theorem path_eq_of_mem_defaultDefects :
    ∀ v ∈ rule.defaultDefects.map Defect.violation, v.path = SettingName.text .default := by
  intro v hv
  rw [defaultDefects_reports] at hv
  obtain ⟨found, -, rfl⟩ := List.mem_map.mp hv
  rfl

/-- No group of settings hides the reports of another. -/
theorem mem_settingReports_iff {v : Violation} :
    v ∈ rule.settingDefects.map Defect.violation ↔
      ∃ group ∈ settingGroups, v ∈ (rule.restrict group).settingDefects.map Defect.violation := by
  constructor
  · intro hv
    obtain ⟨d, hd, rfl⟩ := List.mem_map.mp hv
    obtain ⟨group, hgroup, hd⟩ := mem_settingDefects_iff.mp hd
    exact ⟨group, hgroup, List.mem_map_of_mem hd⟩
  · rintro ⟨group, hgroup, hv⟩
    obtain ⟨d, hd, rfl⟩ := List.mem_map.mp hv
    exact List.mem_map_of_mem (mem_settingDefects_iff.mpr ⟨group, hgroup, hd⟩)

theorem mem_definitionViolations_ne_default {v : Violation} :
    v ∈ rule.definitionViolations ∧ v.path ≠ SettingName.text .default ↔
      v ∈ rule.settingDefects.map Defect.violation := by
  rw [definitionViolations_eq_append, List.mem_append]
  constructor
  · rintro ⟨hv | hv, hpath⟩
    · exact hv
    · exact absurd (path_eq_of_mem_defaultDefects v hv) hpath
  · intro hv
    refine ⟨Or.inl hv, ?_⟩
    obtain ⟨d, hd, rfl⟩ := List.mem_map.mp hv
    exact rule.settingDefects_path_ne d hd

theorem definitionViolations_filter_default :
    rule.definitionViolations.filter (·.path = SettingName.text .default) =
      rule.defaultDefects.map Defect.violation := by
  have hsettings : (rule.settingDefects.map Defect.violation).filter
      (·.path = SettingName.text .default) = [] := by
    rw [List.filter_eq_nil_iff]
    intro v hv
    obtain ⟨d, hd, rfl⟩ := List.mem_map.mp hv
    exact fun hpath => rule.settingDefects_path_ne d hd (of_decide_eq_true hpath)
  have hdefault : (rule.defaultDefects.map Defect.violation).filter
      (·.path = SettingName.text .default) = rule.defaultDefects.map Defect.violation := by
    rw [List.filter_eq_self]
    intro v hv
    simpa using path_eq_of_mem_defaultDefects v hv
  rw [definitionViolations_eq_append, List.filter_append, hsettings, hdefault, List.nil_append]

/-- A group of settings has no default with it. -/
theorem definitionViolations_restrict {group : List SettingName} (hgroup : group ∈ settingGroups) :
    (rule.restrict group).definitionViolations =
      (rule.restrict group).settingDefects.map Defect.violation := by
  have hnot : ∀ group ∈ settingGroups, SettingName.default ∉ group := by
    simp [settingGroups]
  have hfallback : (rule.restrict group).settings.fallback = none := if_neg (hnot group hgroup)
  rw [definitionViolations_eq_append, defaultDefects, hfallback, List.map_nil, List.append_nil]

/-- What is reported of a description that reaches the last phase, if only one group of its settings
is left. -/
theorem descriptionViolations_restrict {fields : Fields} (distinct : fields.names.Nodup)
    (fine : ∀ p ∈ fields, ¬ Malformed p) (clear : fields.failingTexts = [])
    {group : List SettingName} (hgroup : group ∈ settingGroups) :
    Rule.descriptionViolations (.obj (fields.restrict (.type :: .memberType :: group))) =
      (fields.describedRule.restrict group).settingDefects.map Defect.violation := by
  have hfine : ∀ p ∈ fields.restrict (.type :: .memberType :: group), ¬ Malformed p :=
    fun p hp => fine p (List.mem_filter.mp hp).1
  have hclear : (fields.restrict (.type :: .memberType :: group)).failingTexts = [] := by
    rw [Fields.failingTexts, List.filter_eq_nil_iff] at clear ⊢
    exact fun setting hsetting h => clear setting hsetting (Fields.textFails_of_restrict h)
  rw [descriptionViolations_of_clear (Fields.restrict_names_nodup distinct) hfine hclear,
    Fields.describedRule_restrict, definitionViolations_restrict hgroup]

end Rule

/-- **Problems of a description hide each other only phase by phase.**  If some settings are
malformed, each of them is reported by itself, in the order of the description, and nothing else is.
If none is but some texts cannot be read, each of these is reported once.  And otherwise what is
reported at other places than the default is what is reported of each group of settings alone, with
the kinds, and at the default is one report for each violation that the default has under the rule
that is described. -/
theorem problems_by_phase {fields : Fields} (distinct : fields.names.Nodup) :
    ((∃ p ∈ fields, Malformed p) →
      ∃ reports, List.Forall₂ EntryReports fields reports ∧
        Rule.descriptionViolations (.obj fields) = reports.flatten) ∧
    ((∀ p ∈ fields, ¬ Malformed p) → fields.failingTexts ≠ [] →
      (Rule.descriptionViolations (.obj fields)).map Violation.heading =
        fields.failingTexts.map fun setting => (setting.text, .invalidSetting)) ∧
    ((∀ p ∈ fields, ¬ Malformed p) → fields.failingTexts = [] →
      (∀ v, v ∈ Rule.descriptionViolations (.obj fields) ∧ v.path ≠ SettingName.text .default ↔
        ∃ group ∈ Rule.settingGroups, v ∈ Rule.descriptionViolations
          (.obj (fields.restrict (.type :: .memberType :: group)))) ∧
      (Rule.descriptionViolations (.obj fields)).filter (·.path = SettingName.text .default) =
        ((fields.declared? .default).toList.flatMap fun value =>
          fields.describedRule.violations (SettingName.text .default) (some value)).map
            defaultReport) := by
  refine ⟨fun malformed => ?_, fun fine failing => ?_, fun fine clear => ?_⟩
  · refine ⟨fields.map fun p => reportsOf (readSetting p), ?_, ?_⟩
    · rw [List.forall₂_map_right_iff, List.forall₂_same]
      exact fun p _ => entryReports_readSetting p
    · rw [← List.flatMap_def]
      exact Rule.descriptionViolations_of_malformed malformed
  · have hheadings := textDefects_headings distinct
    have htexts : (draftOf fields).textDefects ≠ [] := by
      intro hnil
      rw [hnil] at hheadings
      exact failing (List.map_eq_nil_iff.mp hheadings.symm)
    rw [Rule.descriptionViolations_of_fine fine, Draft.defects,
      if_neg (by simpa using htexts), List.map_map]
    exact hheadings
  · have hclear := Rule.descriptionViolations_of_clear distinct fine clear
    constructor
    · intro v
      rw [hclear, Rule.mem_definitionViolations_ne_default]
      rw [Rule.mem_settingReports_iff]
      refine exists_congr fun group => and_congr_right fun hgroup => ?_
      rw [Rule.descriptionViolations_restrict distinct fine clear hgroup]
    · rw [hclear, Rule.definitionViolations_filter_default, Rule.defaultDefects_reports]
      rfl

/-! ### Labels

Three descriptions, one for each phase.  In each of them something is wrong that only a later phase
would see.
-/

/-- Two settings that are malformed and a schema inside that is refused for two reasons; the pattern
cannot be read either, and the enumeration is empty. -/
def tornLabel : Fields :=
  [("min", .bool true), ("colour", .null), ("regex", .str "("),
    ("schema", .obj [("", .obj []), ("day", .obj [("type", .str "day")])]), ("enum", .arr [])]

/-- Two texts that cannot be read, and an empty enumeration. -/
def blurredLabel : Fields :=
  [("max", .str "2024"), ("enum", .arr []), ("regex", .str "("), ("type", .str "date"),
    ("min", .str "2024-02-29")]

/-- Settings of several groups that do not fit, and a default that breaks the rule in five ways. -/
def crampedLabel : Fields :=
  [("default", .arr [.str "a", .str "a"]), ("schema", .obj []), ("regex", .str "b"),
    ("member_type", .str "list"), ("type", .str "set"), ("enum", .arr [])]

theorem fine_blurredLabel : ∀ p ∈ blurredLabel, ¬ Malformed p := by
  simp only [blurredLabel, List.forall_mem_cons, ← exists_readSetting_iff_not_malformed]
  exact ⟨⟨_, rfl⟩, ⟨_, rfl⟩, ⟨_, rfl⟩, ⟨_, rfl⟩, ⟨_, rfl⟩, by simp⟩

theorem fine_crampedLabel : ∀ p ∈ crampedLabel, ¬ Malformed p := by
  simp only [crampedLabel, List.forall_mem_cons, ← exists_readSetting_iff_not_malformed]
  exact ⟨⟨_, rfl⟩, ⟨_, rfl⟩, ⟨_, rfl⟩, ⟨_, rfl⟩, ⟨_, rfl⟩, ⟨_, rfl⟩, by simp⟩

/-- Each of the labels is reported as far as its phase sees. -/
theorem labels_problems_by_phase :
    (tornLabel.names.Nodup ∧ (∃ p ∈ tornLabel, Malformed p) ∧
      (∃ reports, List.Forall₂ EntryReports tornLabel reports ∧
        Rule.descriptionViolations (.obj tornLabel) = reports.flatten) ∧
      (Rule.descriptionViolations (.obj tornLabel)).map Violation.heading =
        [("min", .invalidSetting), ("colour", .unknownSetting), ("schema[\"\"]", .emptyName),
          ("schema.day.type", .invalidSetting)]) ∧
    (blurredLabel.names.Nodup ∧ (∀ p ∈ blurredLabel, ¬ Malformed p) ∧
      blurredLabel.failingTexts = [.regex, .max] ∧
      (Rule.descriptionViolations (.obj blurredLabel)).map Violation.heading =
        [("regex", .invalidSetting), ("max", .invalidSetting)]) ∧
    (crampedLabel.names.Nodup ∧ (∀ p ∈ crampedLabel, ¬ Malformed p) ∧
      crampedLabel.failingTexts = [] ∧
      (Rule.descriptionViolations (.obj crampedLabel)).map Violation.heading =
        [("enum", .invalidSetting), ("member_type", .inconsistentSetting),
          ("regex", .inconsistentSetting), ("schema", .inconsistentSetting),
          ("default", .invalidSetting), ("default", .invalidSetting), ("default", .invalidSetting),
          ("default", .invalidSetting), ("default", .invalidSetting)] ∧
      ∃ v ∈ Rule.descriptionViolations (.obj (crampedLabel.restrict [.type, .memberType, .regex])),
        v.heading = ("regex", .inconsistentSetting) ∧
          v ∈ Rule.descriptionViolations (.obj crampedLabel)) := by
  have htorn : tornLabel.names.Nodup := by decide
  have hblurred : blurredLabel.names.Nodup := by decide
  have hcramped : crampedLabel.names.Nodup := by decide
  have hmalformed : ∃ p ∈ tornLabel, Malformed p :=
    ⟨("min", .bool true), List.mem_cons_self,
      @Malformed.form .min (.bool true) (by simp) (by simp [SettingName.Takes])⟩
  have htexts : blurredLabel.failingTexts = [.regex, .max] := by decide +kernel
  have hclear : crampedLabel.failingTexts = [] := by decide +kernel
  have hreports := (problems_by_phase hblurred).2.1 fine_blurredLabel (by rw [htexts]; simp)
  rw [htexts] at hreports
  have hpattern : Defect.violation .inapplicablePattern ∈
      Rule.descriptionViolations (.obj (crampedLabel.restrict [.type, .memberType, .regex])) := by
    decide +kernel
  have hgroups := ((problems_by_phase hcramped).2.2 fine_crampedLabel hclear).1
    (Defect.violation .inapplicablePattern)
  refine ⟨⟨htorn, hmalformed, (problems_by_phase htorn).1 hmalformed, by decide +kernel⟩,
    ⟨hblurred, fine_blurredLabel, htexts, hreports⟩,
    ⟨hcramped, fine_crampedLabel, hclear, by decide +kernel, _, hpattern, rfl, ?_⟩⟩
  exact (hgroups.mpr ⟨[.regex], by decide, hpattern⟩).1

end RecordSchema
