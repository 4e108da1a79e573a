import Mathlib
import RecordSchema.Rule.Definition

/-!
# Groups of settings

The settings of a rule are examined group by group, and each group looks at the kinds of the rule
and at its own settings only.  So a group has the same defects whatever the other settings are, and
in particular if they are left out.

* `Settings.restrict`, `Rule.restrict`: the kinds of a rule and some of its other settings.
* `Settings.enumerationDefects_restrict`, `Settings.rangeDefects_restrict` and so on: the defects of
  one group, which are those of the whole rule if the group is kept, and otherwise none.
* `Rule.settingGroups`: the groups.

`Rule.mem_settingDefects_iff` says that no group hides another.
-/

namespace RecordSchema

/-- The kinds of a rule and some of its other settings. -/
def Settings.restrict (s : Settings) (kept : List SettingName) : Settings :=
  { kind := s.kind
    required := if .required ∈ kept then s.required else false
    fallback := if .default ∈ kept then s.fallback else none
    enumeration := if .enum ∈ kept then s.enumeration else none
    least := if .min ∈ kept then s.least else none
    most := if .max ∈ kept then s.most else none
    earliest := if .min ∈ kept then s.earliest else none
    latest := if .max ∈ kept then s.latest else none
    pattern := if .regex ∈ kept then s.pattern else none
    memberKind := s.memberKind
    memberLeast := if .memberMin ∈ kept then s.memberLeast else none
    memberMost := if .memberMax ∈ kept then s.memberMost else none }

namespace Settings

variable (s : Settings) (kept : List SettingName)

theorem enumerationDefects_restrict :
    (s.restrict kept).enumerationDefects = if .enum ∈ kept then s.enumerationDefects else [] := by
  by_cases h : SettingName.enum ∈ kept
  · have henumeration : (s.restrict kept).enumeration = s.enumeration := if_pos h
    rw [enumerationDefects, henumeration, if_pos h]
    rfl
  · have henumeration : (s.restrict kept).enumeration = none := if_neg h
    rw [enumerationDefects, henumeration, if_neg h]

theorem rangeDefects_restrict (together : .min ∈ kept ↔ .max ∈ kept) :
    (s.restrict kept).rangeDefects = if .min ∈ kept then s.rangeDefects else [] := by
  by_cases h : SettingName.min ∈ kept
  · simp only [rangeDefects, restrict, if_pos h, if_pos (together.mp h)]
  · simp only [rangeDefects, restrict, if_neg h, if_neg fun h' => h (together.mpr h')]
    rfl

theorem memberKindDefects_restrict : (s.restrict kept).memberKindDefects = s.memberKindDefects :=
  rfl

theorem memberDefects_restrict (together : .memberMin ∈ kept ↔ .memberMax ∈ kept) :
    (s.restrict kept).memberDefects =
      if .memberMin ∈ kept then s.memberDefects else s.memberKindDefects := by
  rw [memberDefects, memberKindDefects_restrict]
  by_cases h : SettingName.memberMin ∈ kept
  · simp only [memberDefects, restrict, if_pos h, if_pos (together.mp h)]
  · simp only [restrict, if_neg h, if_neg fun h' => h (together.mpr h'), memberLimitDefects,
      reversedDefects, List.append_nil]

theorem memberKindDefects_subset {d : Defect} (h : d ∈ s.memberKindDefects) :
    d ∈ s.memberDefects := by
  simp only [memberDefects, List.mem_append]
  exact Or.inl (Or.inl (Or.inl h))

variable {s kept} in
theorem mem_memberDefects_restrict (together : .memberMin ∈ kept ↔ .memberMax ∈ kept) {d : Defect} :
    d ∈ (s.restrict kept).memberDefects ↔
      d ∈ s.memberKindDefects ∨ .memberMin ∈ kept ∧ d ∈ s.memberDefects := by
  rw [memberDefects_restrict s kept together]
  split
  · next h => exact ⟨fun hd => Or.inr ⟨h, hd⟩, Or.rec s.memberKindDefects_subset And.right⟩
  · next h => exact ⟨Or.inl, Or.rec id fun hd => absurd hd.1 h⟩

theorem patternDefects_restrict :
    (s.restrict kept).patternDefects = if .regex ∈ kept then s.patternDefects else [] := by
  by_cases h : SettingName.regex ∈ kept
  · simp only [patternDefects, restrict, if_pos h]
  · simp only [patternDefects, restrict, if_neg h]
    rfl

end Settings

namespace Rule

/-- A rule with some of its settings besides the kinds. -/
def restrict (rule : Rule) (kept : List SettingName) : Rule :=
  ⟨rule.settings.restrict kept, if .schema ∈ kept then rule.nested else none⟩

/-- What is wrong with a rule, its default aside. -/
def settingDefects (rule : Rule) : List Defect :=
  rule.settings.enumerationDefects ++ rule.settings.rangeDefects ++ rule.settings.memberDefects ++
    rule.settings.patternDefects ++ rule.settings.schemaDefects rule.nested.isSome

theorem defects_eq_append (rule : Rule) :
    rule.defects = rule.settingDefects ++ rule.defaultDefects :=
  rfl

theorem mem_settingDefects {rule : Rule} {d : Defect} :
    d ∈ rule.settingDefects ↔ d ∈ rule.settings.enumerationDefects ∨
      d ∈ rule.settings.rangeDefects ∨ d ∈ rule.settings.memberDefects ∨
      d ∈ rule.settings.patternDefects ∨ d ∈ rule.settings.schemaDefects rule.nested.isSome := by
  simp only [settingDefects, List.mem_append, or_assoc]

theorem schemaDefects_restrict (rule : Rule) (kept : List SettingName) :
    (rule.restrict kept).settings.schemaDefects (rule.restrict kept).nested.isSome =
      if .schema ∈ kept then rule.settings.schemaDefects rule.nested.isSome else [] := by
  by_cases h : SettingName.schema ∈ kept
  · simp only [restrict, if_pos h]
    rfl
  · simp only [restrict, if_neg h]
    rfl

/-- What is wrong with some of the settings of a rule, where the two limits of a range are kept
together: what is wrong with the kinds, and with each group that is kept. -/
theorem mem_settingDefects_restrict {rule : Rule} {kept : List SettingName} {d : Defect}
    (limits : .min ∈ kept ↔ .max ∈ kept) (members : .memberMin ∈ kept ↔ .memberMax ∈ kept) :
    d ∈ (rule.restrict kept).settingDefects ↔
      .enum ∈ kept ∧ d ∈ rule.settings.enumerationDefects ∨
        .min ∈ kept ∧ d ∈ rule.settings.rangeDefects ∨
        (d ∈ rule.settings.memberKindDefects ∨
          .memberMin ∈ kept ∧ d ∈ rule.settings.memberDefects) ∨
        .regex ∈ kept ∧ d ∈ rule.settings.patternDefects ∨
        .schema ∈ kept ∧ d ∈ rule.settings.schemaDefects rule.nested.isSome := by
  rw [mem_settingDefects, schemaDefects_restrict]
  rw [restrict, Settings.enumerationDefects_restrict, Settings.rangeDefects_restrict _ _ limits,
    Settings.mem_memberDefects_restrict members, Settings.patternDefects_restrict]
  simp only [List.mem_ite_nil_right]

/-- The settings that are examined together, besides the kinds. -/
def settingGroups : List (List SettingName) :=
  [[], [.enum], [.min, .max], [.memberMin, .memberMax], [.regex], [.schema]]

/-- **No group of settings hides another**: what is wrong with a rule is what is wrong with the
groups of its settings, each with the others left out. -/
theorem mem_settingDefects_iff {rule : Rule} {d : Defect} :
    d ∈ rule.settingDefects ↔
      ∃ group ∈ settingGroups, d ∈ (rule.restrict group).settingDefects := by
  have hkept : ∀ group ∈ settingGroups, (.min ∈ group ↔ .max ∈ group) ∧
      (.memberMin ∈ group ↔ .memberMax ∈ group) := by
    simp [settingGroups]
  have hgroups : ∀ group ∈ settingGroups, (d ∈ (rule.restrict group).settingDefects ↔ _) :=
    fun group hgroup => mem_settingDefects_restrict (hkept group hgroup).1 (hkept group hgroup).2
  rw [mem_settingDefects, exists_congr fun group => and_congr_right (hgroups group)]
  constructor
  · rintro (h | h | h | h | h)
    · exact ⟨[.enum], by decide, Or.inl ⟨by decide, h⟩⟩
    · exact ⟨[.min, .max], by decide, Or.inr (Or.inl ⟨by decide, h⟩)⟩
    · exact ⟨[.memberMin, .memberMax], by decide, Or.inr (Or.inr (Or.inl (Or.inr ⟨by decide, h⟩)))⟩
    · exact ⟨[.regex], by decide, Or.inr (Or.inr (Or.inr (Or.inl ⟨by decide, h⟩)))⟩
    · exact ⟨[.schema], by decide, Or.inr (Or.inr (Or.inr (Or.inr ⟨by decide, h⟩)))⟩
  · rintro ⟨group, -, ⟨-, h⟩ | ⟨-, h⟩ | (h | ⟨-, h⟩) | ⟨-, h⟩ | ⟨-, h⟩⟩
    · exact Or.inl h
    · exact Or.inr (Or.inl h)
    · exact Or.inr (Or.inr (Or.inl (rule.settings.memberKindDefects_subset h)))
    · exact Or.inr (Or.inr (Or.inl h))
    · exact Or.inr (Or.inr (Or.inr (Or.inl h)))
    · exact Or.inr (Or.inr (Or.inr (Or.inr h)))

end Rule

end RecordSchema
