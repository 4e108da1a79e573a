import RecordSchema.Proofs.Description.Drafting
import RecordSchema.Proofs.Rule.Consistency

/-!
# Where descriptions are reported

Each defect is reported at the setting that has it, and a defect of several settings at one of
them.  So the groups of defects can be told apart by the paths of their reports, and a setting has
no report if the groups that report there have no defects.

* `ReportedAt`: defects that are reported at certain settings, with one lemma for each group.
* `path_of_readSetting`: what is reported of an entry is reported at its name, or inside a schema.
* `Rule.path_ne_of_descriptionViolations`: a setting that can be read and has no defects is not
  reported.
-/

namespace RecordSchema

/-! ### Groups of defects -/

/-- Defects that are reported at some of the given settings. -/
def ReportedAt (settings : List SettingName) (defects : List Defect) : Prop :=
  ∀ d ∈ defects, ∃ setting ∈ settings, d.path = setting.text

namespace ReportedAt

variable {settings others : List SettingName} {defects found : List Defect}

theorem nil : ReportedAt settings [] :=
  fun _ hd => absurd hd List.not_mem_nil

theorem of_mem {setting : SettingName} (hsetting : setting ∈ settings) {d : Defect}
    (h : d.path = setting.text) : ReportedAt settings [d] := by
  intro d' hd'
  rw [List.mem_singleton.mp hd']
  exact ⟨setting, hsetting, h⟩

theorem singleton {setting : SettingName} {d : Defect} (h : d.path = setting.text) :
    ReportedAt [setting] [d] :=
  of_mem (List.mem_singleton_self setting) h

theorem append (h : ReportedAt settings defects) (h' : ReportedAt others found) :
    ReportedAt (settings ++ others) (defects ++ found) := by
  intro d hd
  rcases List.mem_append.mp hd with hd | hd
  · obtain ⟨setting, hs, hpath⟩ := h d hd
    exact ⟨setting, List.mem_append_left _ hs, hpath⟩
  · obtain ⟨setting, hs, hpath⟩ := h' d hd
    exact ⟨setting, List.mem_append_right _ hs, hpath⟩

theorem ite {c : Prop} [Decidable c] (h : ReportedAt settings defects)
    (h' : ReportedAt settings found) : ReportedAt settings (if c then defects else found) := by
  split
  · exact h
  · exact h'

theorem path_ne (h : ReportedAt settings defects) {setting : SettingName}
    (other : setting ∉ settings) : ∀ d ∈ defects, d.path ≠ setting.text := by
  intro d hd hpath
  obtain ⟨setting', hs, hpath'⟩ := h d hd
  have heq : setting = setting' := SettingName.text_inj (hpath.symm.trans hpath')
  exact other (heq ▸ hs)

end ReportedAt

namespace Settings

variable (s : Settings)

theorem listedDefects_reportedAt (kind : Kind) (value : Json) :
    ReportedAt [.enum] (listedDefects kind value) := by
  cases value with
  | null | arr | obj => exact .singleton rfl
  | _ => exact .ite .nil (.singleton rfl)

theorem enumerationDefects_reportedAt : ReportedAt [.enum] s.enumerationDefects := by
  rw [enumerationDefects]
  rcases s.enumeration with _ | _ | ⟨first, rest⟩
  · exact .nil
  · exact .singleton rfl
  · refine .ite (.singleton rfl) fun d hd => ?_
    obtain ⟨value, -, hvalue⟩ := List.mem_flatMap.mp hd
    exact listedDefects_reportedAt s.listedKind value d hvalue

theorem limitDefects_reportedAt (kind : Kind) (setting : SettingName) (limit : Option Bound) :
    ReportedAt [setting] (limitDefects kind setting limit) := by
  cases limit with
  | none => exact .nil
  | some limit => exact .ite (.singleton rfl) (.ite (.singleton rfl) .nil)

theorem reversedDefects_reportedAt (lower upper : SettingName) (least most : Option Bound) :
    ReportedAt [lower] (reversedDefects lower upper least most) := by
  cases least <;> cases most <;> first | exact .nil | exact .ite (.singleton rfl) .nil

theorem reversedPointDefects_reportedAt (earliest latest : Option Temporal) :
    ReportedAt [.min] (reversedPointDefects earliest latest) := by
  cases earliest <;> cases latest <;> first | exact .nil | exact .ite (.singleton rfl) .nil

theorem rangeDefects_reportedAt : ReportedAt [.min, .max, .min, .min] s.rangeDefects := by
  have hlimits := (limitDefects_reportedAt s.kind .min s.least).append
    (limitDefects_reportedAt s.kind .max s.most)
  exact (hlimits.append (reversedDefects_reportedAt .min .max s.least s.most)).append
    (reversedPointDefects_reportedAt s.earliest s.latest)

theorem memberKindDefects_reportedAt : ReportedAt [.memberType] s.memberKindDefects := by
  rw [memberKindDefects]
  cases s.memberKind with
  | none => exact .nil
  | some kind => exact .ite (.singleton rfl) (.ite (.singleton rfl) .nil)

theorem memberLimitDefects_reportedAt (memberKind : Option Kind) (setting : SettingName)
    (limit : Option Bound) :
    ReportedAt [setting] (memberLimitDefects memberKind setting limit) := by
  cases limit with
  | none => exact .nil
  | some limit => exact .ite (.singleton rfl) (.ite (.singleton rfl) .nil)

theorem memberDefects_reportedAt :
    ReportedAt [.memberType, .memberMin, .memberMax, .memberMin] s.memberDefects := by
  have hlimits := s.memberKindDefects_reportedAt.append
    (memberLimitDefects_reportedAt s.memberKind .memberMin s.memberLeast)
  exact (hlimits.append (memberLimitDefects_reportedAt s.memberKind .memberMax s.memberMost)).append
    (reversedDefects_reportedAt .memberMin .memberMax s.memberLeast s.memberMost)

theorem patternDefects_reportedAt : ReportedAt [.regex] s.patternDefects :=
  .ite .nil (.singleton rfl)

theorem schemaDefects_reportedAt (hasSchema : Bool) :
    ReportedAt [.schema, .memberType] (s.schemaDefects hasSchema) := by
  have hschema : SettingName.schema ∈ [SettingName.schema, .memberType] := by decide
  have hmembers : SettingName.memberType ∈ [SettingName.schema, .memberType] := by decide
  exact .ite .nil (.ite (.of_mem hschema rfl) (.ite (.of_mem hmembers rfl) .nil))

end Settings

theorem Rule.defaultDefects_reportedAt (rule : Rule) :
    ReportedAt [.default] rule.defaultDefects := by
  rw [defaultDefects]
  cases rule.settings.fallback with
  | none => exact .nil
  | some value =>
    intro d hd
    obtain ⟨f, -, rfl⟩ := List.mem_map.mp hd
    exact ⟨.default, List.mem_singleton_self _, rfl⟩

namespace Draft

theorem patternDefects_reportedAt (text : Option String) :
    ReportedAt [.regex] (patternDefects text) := by
  cases text with
  | none => exact .nil
  | some text => exact .ite (.singleton rfl) .nil

theorem pointDefects_reportedAt (kind : Kind) (setting : SettingName) (text : Option String) :
    ReportedAt [setting] (pointDefects kind setting text) := by
  cases text with
  | none => exact .nil
  | some text => exact .ite (.singleton rfl) (.ite (.singleton rfl) .nil)

theorem textDefects_reportedAt (d : Draft) :
    ReportedAt [.regex, .min, .max] d.textDefects :=
  ((patternDefects_reportedAt d.pattern).append
    (pointDefects_reportedAt d.kind .min d.earliest)).append
      (pointDefects_reportedAt d.kind .max d.latest)

end Draft

/-! ### Defects of limits -/

section

variable {rule : Rule} {d : Defect} {setting : SettingName}

/-- At a limit no other groups report than those of the limits. -/
theorem Rule.mem_limitGroups_of_path
    (hsetting : setting ∈ [SettingName.min, .max, .memberMin, .memberMax])
    (hd : d ∈ rule.defects) (hpath : d.path = setting.text) :
    d ∈ rule.settings.rangeDefects ∨ d ∈ rule.settings.memberDefects := by
  have hother {settings : List SettingName} {defects : List Defect}
      (h : ReportedAt settings defects)
      (hnot : ∀ s ∈ [SettingName.min, .max, .memberMin, .memberMax], s ∉ settings) :
      d ∉ defects := fun hmem => h.path_ne (hnot setting hsetting) d hmem hpath
  rw [defects] at hd
  simp only [List.mem_append] at hd
  rcases hd with ((((h | h) | h) | h) | h) | h
  · exact absurd h (hother rule.settings.enumerationDefects_reportedAt (by decide))
  · exact Or.inl h
  · exact Or.inr h
  · exact absurd h (hother rule.settings.patternDefects_reportedAt (by decide))
  · exact absurd h (hother (rule.settings.schemaDefects_reportedAt _) (by decide))
  · exact absurd h (hother rule.defaultDefects_reportedAt (by decide))

theorem Rule.mem_rangeDefects_of_path (hsetting : setting ∈ [SettingName.min, .max])
    (hd : d ∈ rule.defects) (hpath : d.path = setting.text) :
    d ∈ rule.settings.rangeDefects := by
  have hlimit : ∀ s ∈ [SettingName.min, .max], s ∈ [SettingName.min, .max, .memberMin, .memberMax] ∧
      s ∉ [SettingName.memberType, .memberMin, .memberMax, .memberMin] := by decide
  obtain ⟨hgroups, hnot⟩ := hlimit setting hsetting
  refine (mem_limitGroups_of_path hgroups hd hpath).resolve_right fun hmember => ?_
  exact rule.settings.memberDefects_reportedAt.path_ne hnot d hmember hpath

theorem Rule.mem_memberDefects_of_path (hsetting : setting ∈ [SettingName.memberMin, .memberMax])
    (hd : d ∈ rule.defects) (hpath : d.path = setting.text) :
    d ∈ rule.settings.memberDefects ∧ d ∉ rule.settings.memberKindDefects := by
  have hlimit : ∀ s ∈ [SettingName.memberMin, .memberMax],
      s ∈ [SettingName.min, .max, .memberMin, .memberMax] ∧
        s ∉ [SettingName.min, .max, .min, .min] ∧ s ∉ [SettingName.memberType] := by decide
  obtain ⟨hgroups, hnot, hkind⟩ := hlimit setting hsetting
  constructor
  · refine (mem_limitGroups_of_path hgroups hd hpath).resolve_left fun hrange => ?_
    exact rule.settings.rangeDefects_reportedAt.path_ne hnot d hrange hpath
  · intro hmember
    exact rule.settings.memberKindDefects_reportedAt.path_ne hkind d hmember hpath

end

/-! ### Entries -/

theorem Path.nest_schema_ne {inner : String} {setting : SettingName} (other : setting ≠ .schema) :
    Path.nest (SettingName.text .schema) inner ≠ setting.text := by
  have hprefix : (SettingName.text .schema).toList <+:
      (Path.nest (SettingName.text .schema) inner).toList := by
    rw [Path.nest]
    split
    · exact List.prefix_rfl
    · split
      · rw [String.toList_append]
        exact List.prefix_append _ _
      · rw [String.toList_append, String.toList_append, List.append_assoc]
        exact List.prefix_append _ _
  intro h
  rw [h] at hprefix
  revert hprefix
  cases setting <;> first | exact absurd rfl other | decide

theorem SettingName.report_of_read {setting : SettingName} {value : Json} {d : Defect}
    (h : setting.read value = .error d) : d.path = setting.text ∧ d.kind = .invalidSetting := by
  have hkind {make : Kind → Setting} (hread : setting.readKind make value = .error d) :
      d.path = setting.text ∧ d.kind = .invalidSetting := by
    cases value with
    | str tag =>
      rw [readKind] at hread
      cases htag : Kind.ofTag? tag with
      | none =>
        rw [htag] at hread
        cases hread
        exact ⟨rfl, rfl⟩
      | some kind =>
        rw [htag] at hread
        cases hread
    | _ => cases hread <;> exact ⟨rfl, rfl⟩
  cases setting with
  | type => exact hkind h
  | memberType => exact hkind h
  | _ => cases value <;> cases h <;> exact ⟨rfl, rfl⟩

/-- **What is reported of an entry is reported at its name, or inside the schema that it holds.** -/
theorem path_of_readSetting {p : String × Json} {v : Violation}
    (h : v ∈ reportsOf (readSetting p)) :
    v.path = p.1 ∨
      p.1 = SettingName.text .schema ∧
        ∃ inner, v.path = Path.nest (SettingName.text .schema) inner := by
  unfold readSetting settingEntry at h
  split at h
  · rw [reportsOf, List.mem_singleton] at h
    rw [h]
    exact Or.inl rfl
  · next hname _ =>
    have hp := SettingName.text_of_ofText? hname
    split at h
    · cases h
    · rw [reportsOf, List.mem_map] at h
      obtain ⟨inner, -, rfl⟩ := h
      exact Or.inr ⟨hp.symm, inner.path, rfl⟩
  · next setting hname _ =>
    have hp := SettingName.text_of_ofText? hname
    cases hread : setting.read p.2 with
    | ok result =>
      rw [hread] at h
      cases h
    | error d =>
      rw [hread, Except.mapError, reportsOf, List.mem_singleton] at h
      rw [h, ← hp]
      exact Or.inl (SettingName.report_of_read hread).1

/-- **A setting that can be read and has no defects is not reported.** -/
theorem Rule.path_ne_of_descriptionViolations {fields : Fields} (distinct : fields.names.Nodup)
    {setting : SettingName} (other : setting ≠ .schema)
    (takes : ∀ value ∈ fields.declared? setting, setting.Takes value)
    (fits : ∀ d ∈ (draftOf fields).defects, d.path ≠ setting.text) :
    ∀ v ∈ Rule.descriptionViolations (.obj fields), v.path ≠ setting.text := by
  intro v hv hpath
  rw [descriptionViolations, decode, Collected.finish, collectSettings_results] at hv
  split at hv
  · -- Every entry is read, so the draft is reported.
    change v ∈ reportsOf (draftOf fields).assemble at hv
    rw [Draft.assemble] at hv
    split at hv
    · cases hv
    · obtain ⟨d, hd, rfl⟩ := List.mem_map.mp hv
      exact fits d hd hpath
  · rw [reportsOf, collectSettings_violations] at hv
    obtain ⟨⟨name, value⟩, hp, hreport⟩ := List.mem_flatMap.mp hv
    rcases path_of_readSetting hreport with hname | ⟨-, inner, hinner⟩
    · obtain rfl : setting.text = name := hpath.symm.trans hname
      have hread : ∃ result, readSetting (setting.text, value) = .ok result := by
        refine SettingName.exists_readSetting_iff.mpr fun hnull => ?_
        have hget : fields.get? setting.text = some value :=
          (lookup_eq_some_iff_mem distinct).mpr hp
        exact ⟨takes value (Fields.declared?_eq_some_iff.mpr ⟨hget, hnull⟩),
          fun hschema => absurd hschema other⟩
      rw [readSetting_reports_eq_nil_iff.mpr hread] at hreport
      cases hreport
    · exact Path.nest_schema_ne other (hinner.symm.trans hpath)

end RecordSchema
