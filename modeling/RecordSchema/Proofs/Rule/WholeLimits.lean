import RecordSchema.Proofs.Description.Grammar
import RecordSchema.Proofs.Description.Paths
import RecordSchema.Proofs.Rule.WholeNumbers

/-!
# Limits that are whole numbers

A number and a limit are both rounded to binary64 before they are compared.  Rounding may bring them
together but never moves one past the other (`Binary64.toInt_ofInt_mono`).  So what is reported lies
outside, and a limit that lies on its side of the other one is accepted.  Up to `2 ^ 53` nothing is
lost, and all that lies outside is reported.

* `Inclusive`: what the number of reports on one side says of a number and a limit.
* `Rule.inclusive_value`, `Rule.inclusive_member`: limits on values and on members are inclusive.
* `limit_not_reported`, `member_limit_not_reported`: limits in order have no defects.
* `exists_ofDescription_of_limits`, `exists_ofDescription_of_member_limits`: with nothing else in a
  description, they make a rule.
* `whole_limits_inclusive`: all this for limits in descriptions.
-/

namespace RecordSchema

/-! ### Limits that are rounded -/

/-- A whole number as a limit. -/
abbrev Bound.whole (n : Int) : Bound := .finite (.ofInt n)

/-- The limit on one side. -/
def Side.pick {α : Type} (side : Side) (least most : Option α) : Option α :=
  match side with
  | .least => least
  | .most => most

/-- A number lies beyond a limit on one side. -/
def Side.Beyond (side : Side) (limit n : Int) : Prop :=
  match side with
  | .least => n < limit
  | .most => limit < n

/-- A number lies beyond a limit on one side when both are rounded. -/
def Side.BeyondRounded (side : Side) (limit n : Int) : Prop :=
  match side with
  | .least => (Binary64.ofInt n).lt (.ofInt limit) = true
  | .most => (Binary64.ofInt limit).lt (.ofInt n) = true

theorem Side.BeyondRounded.beyond {side : Side} {limit n : Int} (h : side.BeyondRounded limit n) :
    side.Beyond limit n := by
  cases side <;> exact Binary64.lt_of_ofInt_lt h

theorem Side.beyondRounded_of_le {side : Side} {limit n : Int} (hn : n.natAbs ≤ 2 ^ 53)
    (hlimit : limit.natAbs ≤ 2 ^ 53) (h : side.Beyond limit n) : side.BeyondRounded limit n := by
  cases side with
  | least => exact (Binary64.ofInt_lt_iff hn hlimit).mpr h
  | most => exact (Binary64.ofInt_lt_iff hlimit hn).mpr h

/-- Limits that are whole numbers are passed if a number lies beyond when it is rounded. -/
theorem Side.passes_whole_iff {side : Side} {n : Int} {least most : Option Int} :
    side.Passes Bound.lt (least.map .whole) (most.map .whole) (.whole n) ↔
      ∃ limit ∈ side.pick least most, side.BeyondRounded limit n := by
  cases side <;> exact Option.exists_mem_map

theorem LimitsFit.whole {measured counted : Prop} {least most : Option Int} (hmeasured : measured)
    (hcounted : ¬ counted) (ordered : ∀ l ∈ least, ∀ m ∈ most, l ≤ m) :
    LimitsFit measured counted (least.map .whole) (most.map .whole) := by
  refine ⟨fun _ _ => hmeasured, fun h => absurd h hcounted, ?_⟩
  intro l hl m hm hlt
  obtain ⟨least', hleast, rfl⟩ := Option.map_eq_some_iff.mp hl
  obtain ⟨most', hmost, rfl⟩ := Option.map_eq_some_iff.mp hm
  have hless : most' < least' := Binary64.lt_of_ofInt_lt hlt
  exact absurd (ordered _ hleast _ hmost) (not_le.mpr hless)

/-! ### What is reported -/

/-- What the number of reports on one side says of a number and a limit: there is at most one, the
number lies beyond the limit if there is one, and up to `2 ^ 53` there is one if it does. -/
structure Inclusive (side : Side) (limit : Option Int) (n : Int) (reports : Nat) : Prop where
  once : reports ≤ 1
  genuine : reports ≠ 0 → ∃ l ∈ limit, side.Beyond l n
  complete : ∀ l ∈ limit, n.natAbs ≤ 2 ^ 53 → l.natAbs ≤ 2 ^ 53 → side.Beyond l n → reports = 1

theorem Inclusive.of_reported {issues : List Issue} (distinct : (issues.map Issue.kind).Nodup)
    {kind : ViolationKind} {side : Side} {limit : Option Int} {n : Int}
    (reported : (∃ issue ∈ issues, issue.kind = kind) ↔ ∃ l ∈ limit, side.BeyondRounded l n) :
    Inclusive side limit n ((issues.map Issue.kind).count kind) := by
  classical
  rw [count_kinds distinct reported]
  constructor
  · split <;> decide
  · intro hne
    by_cases h : ∃ l ∈ limit, side.BeyondRounded l n
    · obtain ⟨l, hl, hbeyond⟩ := h
      exact ⟨l, hl, hbeyond.beyond⟩
    · exact absurd (if_neg h) hne
  · intro l hl hn hsmall hbeyond
    exact if_pos ⟨l, hl, Side.beyondRounded_of_le hn hsmall hbeyond⟩

theorem Facets.outside_whole_iff {f : Facets} (measured : f.gauge = .number)
    {least most : Option Int} (hleast : f.least = least.map .whole)
    (hmost : f.most = most.map .whole) (scope : Scope) (side : Side) (n : Int) :
    (∃ issue ∈ f.issues scope (.whole n), issue.kind = scope.limitKind side) ↔
      ∃ limit ∈ side.pick least most, side.BeyondRounded limit n := by
  rw [Facets.outside_reported_iff measured, hleast, hmost]
  exact Side.passes_whole_iff

theorem Kind.admits_whole_of_isNumeric {k : Kind} (h : k.isNumeric = true) (n : Int) :
    k.admits (.whole n) = true := by
  cases k <;> first | rfl | cases h

namespace Rule

variable {rule : Rule} {least most : Option Int}

/-- **Limits on numbers are inclusive.** -/
theorem inclusive_value (accepted : rule.definitionViolations = [])
    (numeric : rule.settings.kind.isNumeric = true)
    (hleast : rule.settings.least = least.map .whole)
    (hmost : rule.settings.most = most.map .whole) (name : String) (n : Int) (side : Side) :
    Inclusive side (side.pick least most) n
      (rule.tally name (.whole n) name (Scope.value.limitKind side)) := by
  have admitted := Kind.admits_whole_of_isNumeric numeric n
  have single : ¬ rule.settings.kind.isCollection = true := by
    cases hk : rule.settings.kind <;> simp_all [Kind.isNumeric, Kind.isCollection]
  have measured : rule.settings.facets.gauge = .number := if_pos numeric
  rw [tally_value single (nested_eq_none_of_admits accepted admitted) (by simp) admitted]
  exact .of_reported Settings.facets_kinds_nodup
    (Facets.outside_whole_iff measured hleast hmost .value side n)

/-- **Limits on members that are numbers are inclusive.** -/
theorem inclusive_member (members : rule.settings.kind.isCollection = true) {kind : Kind}
    (hkind : rule.settings.memberKind = some kind) (numeric : kind.isNumeric = true)
    (hleast : rule.settings.memberLeast = least.map .whole)
    (hmost : rule.settings.memberMost = most.map .whole) (name : String) {items : List Json}
    {i : Nat} {n : Int} (at_i : items[i]? = some (.whole n)) (side : Side) :
    Inclusive side (side.pick least most) n
      (rule.tally name (.arr items) (Path.index name i) (Scope.member.limitKind side)) := by
  have admitted : ∀ k ∈ rule.settings.memberKind, k.admits (.whole n) = true := by
    intro k hk
    obtain rfl : kind = k := Option.some.inj (hkind.symm.trans hk)
    exact Kind.admits_whole_of_isNumeric numeric n
  have measured : rule.settings.memberFacets.gauge = .number := by
    rw [Settings.memberFacets, hkind]
    cases kind <;> first | rfl | cases numeric
  have hreported : (∃ issue ∈ rule.settings.memberIssues (items.take i) (.whole n),
      issue.kind = Scope.member.limitKind side) ↔
        ∃ limit ∈ side.pick least most, side.BeyondRounded limit n :=
    (Settings.member_reported_iff admitted (by cases side <;> decide)).trans
      (Facets.outside_whole_iff measured hleast hmost .member side n)
  rw [tally_member members at_i (by cases side <;> decide)]
  exact .of_reported Settings.memberIssues_kinds_nodup hreported

end Rule

/-! ### Descriptions -/

namespace Fields

variable {fields : Fields} {setting : SettingName} {limit : Option Int}

theorem declaredLimit?_whole (h : fields.declared? setting = limit.map .whole) :
    fields.declaredLimit? setting = limit.map .whole := by
  rw [declaredLimit?, h]
  cases limit <;> rfl

theorem declaredText?_whole (h : fields.declared? setting = limit.map .whole) :
    fields.declaredText? setting = none := by
  rw [declaredText?, h]
  cases limit <;> rfl

end Fields

theorem SettingName.takes_whole {setting : SettingName}
    (hsetting : setting ∈ [SettingName.min, .max, .memberMin, .memberMax]) (n : Int) :
    setting.Takes (.whole n) := by
  simp only [List.mem_cons, List.not_mem_nil, or_false] at hsetting
  rcases hsetting with rfl | rfl | rfl | rfl
  · exact Or.inl ⟨_, rfl⟩
  · exact Or.inl ⟨_, rfl⟩
  · exact ⟨_, rfl⟩
  · exact ⟨_, rfl⟩

theorem Fields.takes_of_whole {fields : Fields} {setting : SettingName} {limit : Option Int}
    (hsetting : setting ∈ [SettingName.min, .max, .memberMin, .memberMax])
    (h : fields.declared? setting = limit.map .whole) :
    ∀ value ∈ fields.declared? setting, setting.Takes value := by
  intro value hvalue
  rw [h] at hvalue
  obtain ⟨n, -, rfl⟩ := Option.map_eq_some_iff.mp hvalue
  exact SettingName.takes_whole hsetting n

theorem Rule.settings_of_ofDescription {fields : Fields} (distinct : fields.names.Nodup)
    {rule : Rule} (h : Rule.ofDescription (.obj fields) = .ok rule) :
    rule.settings = fields.describedSettings ∧ rule.definitionViolations = [] := by
  obtain ⟨-, hdefects, rfl⟩ :=
    Rule.decode_obj_eq_ok_iff.mp (Rule.ofDescription_eq_ok_iff.mp h)
  refine ⟨draftOf_settings distinct, ?_⟩
  rw [definitionViolations, (Draft.defects_eq_nil_iff.mp hdefects).2, List.map_nil]

/-! ### Limits in order -/

section

variable {kind : Kind} (numeric : kind.isNumeric = true) {least most : Option Int}
  (ordered : ∀ l ∈ least, ∀ m ∈ most, l ≤ m)
include numeric ordered

theorem limitsFit_numbers :
    LimitsFit (kind ∈ [Kind.integer, .float, .string, .list, .set, .object])
      (kind ∈ [Kind.string, .list, .set, .object]) (least.map .whole) (most.map .whole) := by
  refine .whole ?_ ?_ ordered
  · cases kind <;> first | decide | cases numeric
  · cases kind <;> first | decide | cases numeric

theorem limitsFit_members :
    LimitsFit (∃ k ∈ some kind, k ∈ [Kind.integer, .float, .string]) (some kind = some .string)
      (least.map .whole) (most.map .whole) := by
  refine .whole ⟨kind, rfl, ?_⟩ ?_ ordered
  · cases kind <;> first | decide | cases numeric
  · cases kind <;> first | decide | cases numeric

end

section

variable {fields : Fields} (distinct : fields.names.Nodup) {least most : Option Int}
  (ordered : ∀ l ∈ least, ∀ m ∈ most, l ≤ m)
include distinct ordered

/-- **Limits on numbers that are in order are not reported.** -/
theorem limit_not_reported (hleast : fields.declared? .min = least.map .whole)
    (hmost : fields.declared? .max = most.map .whole)
    (numeric : fields.describedKind.isNumeric = true) (setting : SettingName)
    (hsetting : setting ∈ [SettingName.min, .max]) :
    ∀ v ∈ Rule.descriptionViolations (.obj fields), v.path ≠ setting.text := by
  have htakes : setting ≠ .schema ∧ ∀ value ∈ fields.declared? setting, setting.Takes value := by
    rcases List.mem_pair.mp hsetting with rfl | rfl
    · exact ⟨by decide, Fields.takes_of_whole (by decide) hleast⟩
    · exact ⟨by decide, Fields.takes_of_whole (by decide) hmost⟩
  refine Rule.path_ne_of_descriptionViolations distinct htakes.1 htakes.2 fun d hd hpath => ?_
  have htexts : (draftOf fields).textDefects = Draft.patternDefects (draftOf fields).pattern := by
    rw [Draft.textDefects, draftOf_earliest distinct, draftOf_latest distinct,
      Fields.declaredText?_whole hleast, Fields.declaredText?_whole hmost]
    exact (List.append_nil _).trans (List.append_nil _)
  have hrange : (draftOf fields).rule.settings.rangeDefects = [] := by
    have hpoints : fields.describedSettings.earliest = none := by
      rw [Fields.describedSettings, Fields.declaredText?_whole hleast]
      rfl
    rw [Draft.rule, draftOf_settings distinct, Settings.rangeDefects_eq_nil_iff, hpoints,
      Fields.describedSettings, Fields.declaredLimit?_whole hleast,
      Fields.declaredLimit?_whole hmost]
    exact ⟨limitsFit_numbers numeric ordered, fun _ h => by cases h⟩
  rw [Draft.defects] at hd
  split at hd
  · have hmem := Rule.mem_rangeDefects_of_path hsetting hd hpath
    rw [hrange] at hmem
    cases hmem
  · rw [htexts] at hd
    have hnot : setting ∉ [SettingName.regex] := by
      rcases List.mem_pair.mp hsetting with rfl | rfl <;> decide
    exact (Draft.patternDefects_reportedAt _).path_ne hnot d hd hpath

/-- **Limits on members that are in order are not reported.** -/
theorem member_limit_not_reported (hleast : fields.declared? .memberMin = least.map .whole)
    (hmost : fields.declared? .memberMax = most.map .whole) {kind : Kind}
    (hkind : fields.declaredKind? .memberType = some kind) (numeric : kind.isNumeric = true)
    (setting : SettingName) (hsetting : setting ∈ [SettingName.memberMin, .memberMax]) :
    ∀ v ∈ Rule.descriptionViolations (.obj fields), v.path ≠ setting.text := by
  have htakes : setting ≠ .schema ∧ ∀ value ∈ fields.declared? setting, setting.Takes value := by
    rcases List.mem_pair.mp hsetting with rfl | rfl
    · exact ⟨by decide, Fields.takes_of_whole (by decide) hleast⟩
    · exact ⟨by decide, Fields.takes_of_whole (by decide) hmost⟩
  refine Rule.path_ne_of_descriptionViolations distinct htakes.1 htakes.2 fun d hd hpath => ?_
  obtain ⟨hlower, hupper, hordered⟩ := limitsFit_iff.mp (limitsFit_members numeric ordered)
  have hrule : (draftOf fields).rule.settings = fields.describedSettings :=
    draftOf_settings distinct
  have hmemberDefects : (draftOf fields).rule.settings.memberDefects =
      (draftOf fields).rule.settings.memberKindDefects := by
    rw [Settings.memberDefects, hrule, Fields.describedSettings, hkind,
      Fields.declaredLimit?_whole hleast, Fields.declaredLimit?_whole hmost,
      memberLimitDefects_eq_nil_iff.mpr hlower, memberLimitDefects_eq_nil_iff.mpr hupper,
      reversedDefects_eq_nil_iff.mpr hordered, List.append_nil, List.append_nil, List.append_nil]
  rw [Draft.defects] at hd
  split at hd
  · obtain ⟨hmem, hnot⟩ := Rule.mem_memberDefects_of_path hsetting hd hpath
    rw [hmemberDefects] at hmem
    exact hnot hmem
  · have hnot : setting ∉ [SettingName.regex, .min, .max] := by
      rcases List.mem_pair.mp hsetting with rfl | rfl <;> decide
    exact (draftOf fields).textDefects_reportedAt.path_ne hnot d hd hpath

end

/-! ### Nothing but limits -/

namespace Fields

variable {fields : Fields} {settings : List SettingName}

theorem declared?_eq_none (names : ∀ name ∈ fields.names, name ∈ settings.map SettingName.text)
    {setting : SettingName} (h : setting ∉ settings) : fields.declared? setting = none := by
  cases hd : fields.declared? setting with
  | none => rfl
  | some value =>
    have hmem := mem_of_lookup (declared?_eq_some_iff.mp hd).1
    obtain ⟨other, hother, htext⟩ := List.mem_map.mp (names _ (List.mem_map_of_mem hmem))
    exact absurd (SettingName.text_inj htext ▸ hother) h

theorem exists_ofDescription (distinct : fields.names.Nodup)
    (names : ∀ name ∈ fields.names, name ∈ settings.map SettingName.text)
    (plain : ∀ setting ∈ settings, setting ∉ [SettingName.default, .regex, .schema])
    (takes : ∀ setting ∈ settings, ∀ value ∈ fields.declared? setting, setting.Takes value)
    (textless : ∀ setting ∈ [SettingName.min, .max], fields.declaredText? setting = none)
    (consistent : fields.describedSettings.Consistent) :
    ∃ rule, Rule.ofDescription (.obj fields) = .ok rule := by
  have hplain : ∀ setting ∈ [SettingName.default, .regex, .schema],
      fields.declared? setting = none := fun setting hsetting =>
    declared?_eq_none names fun hmem => plain setting hmem hsetting
  have hschema := hplain .schema (by decide)
  have hpattern : fields.declaredText? .regex = none := by
    rw [declaredText?, hplain .regex (by decide)]
    rfl
  refine (exists_ofDescription_iff distinct (hplain .default (by decide))).mpr
    ⟨⟨?_, ?_, ?_⟩, ⟨?_, ?_⟩, consistent, ?_⟩
  · intro name hname
    obtain ⟨setting, -, htext⟩ := List.mem_map.mp (names name hname)
    exact ⟨setting, htext⟩
  · intro setting value hvalue
    by_cases hsetting : setting ∈ settings
    · exact takes setting hsetting value hvalue
    · rw [declared?_eq_none names hsetting] at hvalue
      cases hvalue
  · rw [hschema]
    exact nofun
  · rw [hpattern]
    exact nofun
  · rw [textless .min (by decide), textless .max (by decide)]
    rintro text (h | h) <;> cases h
  · rw [hschema]
    exact nofun

end Fields

/-- Declared settings fit each other if there is nothing but limits, and these do. -/
theorem Fields.consistent_of_limits {fields : Fields} (henumeration : fields.declared? .enum = none)
    (hpattern : fields.declaredText? .regex = none) (hpoints : fields.declaredText? .min = none)
    (limits : LimitsFit
      (fields.describedKind ∈ [Kind.integer, .float, .string, .list, .set, .object])
      (fields.describedKind ∈ [Kind.string, .list, .set, .object])
      (fields.declaredLimit? .min) (fields.declaredLimit? .max))
    (memberKind : ∀ k ∈ fields.declaredKind? .memberType,
      fields.describedKind ∈ [Kind.list, .set] ∧ k ∉ [Kind.list, .set])
    (memberLimits : LimitsFit
      (∃ k ∈ fields.declaredKind? .memberType, k ∈ [Kind.integer, .float, .string])
      (fields.declaredKind? .memberType = some .string)
      (fields.declaredLimit? .memberMin) (fields.declaredLimit? .memberMax)) :
    fields.describedSettings.Consistent where
  enumeration := by
    intro listed hlisted
    rw [describedSettings, henumeration] at hlisted
    cases hlisted
  limits := limits
  points := by
    intro a ha
    rw [describedSettings, hpoints] at ha
    cases ha
  memberKind := memberKind
  memberLimits := memberLimits
  pattern := by
    intro p hp
    rw [describedSettings, hpattern] at hp
    cases hp

theorem Json.exists_tag_of_kind? {value : Json} {kind : Kind} (h : value.kind? = some kind) :
    ∃ tag kind, value = .str tag ∧ Kind.ofTag? tag = some kind := by
  cases value with
  | str tag => exact ⟨tag, kind, rfl, h⟩
  | _ => cases h

theorem Fields.exists_tag_of_declaredKind? {fields : Fields} {setting : SettingName} {kind : Kind}
    (h : fields.declaredKind? setting = some kind) :
    ∀ value ∈ fields.declared? setting, ∃ tag kind, value = .str tag ∧
      Kind.ofTag? tag = some kind := by
  intro value hvalue
  rw [declaredKind?, Option.mem_def.mp hvalue, Option.bind_some] at h
  exact Json.exists_tag_of_kind? h

theorem Fields.declaredKind?_of_describedKind {fields : Fields} {kind : Kind} (hany : kind ≠ .any)
    (h : fields.describedKind = kind) : fields.declaredKind? .type = some kind := by
  rw [describedKind] at h
  cases hd : fields.declaredKind? .type with
  | none =>
    rw [hd] at h
    exact absurd h.symm hany
  | some other =>
    rw [hd] at h
    exact congrArg some h

section

variable {fields : Fields} (distinct : fields.names.Nodup) {least most : Option Int}
  (ordered : ∀ l ∈ least, ∀ m ∈ most, l ≤ m)
include distinct ordered

/-- **Limits in order make a rule for numbers.** -/
theorem exists_ofDescription_of_limits
    (names : ∀ name ∈ fields.names, name ∈ [SettingName.type, .min, .max].map SettingName.text)
    (hleast : fields.declared? .min = least.map .whole)
    (hmost : fields.declared? .max = most.map .whole)
    (numeric : fields.describedKind.isNumeric = true) :
    ∃ rule, Rule.ofDescription (.obj fields) = .ok rule := by
  have hkind : fields.declaredKind? .type = some fields.describedKind := by
    refine Fields.declaredKind?_of_describedKind (fun hany => ?_) rfl
    rw [hany] at numeric
    cases numeric
  have hother {setting : SettingName} (h : setting ∉ [SettingName.type, .min, .max]) :
      fields.declared? setting = none := Fields.declared?_eq_none names h
  have hpattern : fields.declaredText? .regex = none := by
    rw [Fields.declaredText?, hother (by decide)]
    rfl
  have hlimits := limitsFit_numbers numeric ordered
  rw [← Fields.declaredLimit?_whole hleast, ← Fields.declaredLimit?_whole hmost] at hlimits
  refine Fields.exists_ofDescription distinct names (by decide) ?_ ?_
    (Fields.consistent_of_limits (hother (by decide)) hpattern
      (Fields.declaredText?_whole hleast) hlimits ?_ ?_)
  · simp only [List.forall_mem_cons, List.not_mem_nil, false_imp_iff, implies_true, and_true]
    exact ⟨Fields.exists_tag_of_declaredKind? hkind, Fields.takes_of_whole (by decide) hleast,
      Fields.takes_of_whole (by decide) hmost⟩
  · simp only [List.forall_mem_cons, List.not_mem_nil, false_imp_iff, implies_true, and_true]
    exact ⟨Fields.declaredText?_whole hleast, Fields.declaredText?_whole hmost⟩
  · rw [Fields.declaredKind?, hother (by decide)]
    exact fun k hk => by cases hk
  · rw [Fields.declaredLimit?, Fields.declaredLimit?, hother (by decide), hother (by decide)]
    exact .unlimited

/-- **Limits in order make a rule for collections of numbers.** -/
theorem exists_ofDescription_of_member_limits
    (names : ∀ name ∈ fields.names,
      name ∈ [SettingName.type, .memberType, .memberMin, .memberMax].map SettingName.text)
    (hleast : fields.declared? .memberMin = least.map .whole)
    (hmost : fields.declared? .memberMax = most.map .whole)
    (members : fields.describedKind.isCollection = true) {kind : Kind}
    (hmember : fields.declaredKind? .memberType = some kind) (numeric : kind.isNumeric = true) :
    ∃ rule, Rule.ofDescription (.obj fields) = .ok rule := by
  have hkind : fields.declaredKind? .type = some fields.describedKind := by
    refine Fields.declaredKind?_of_describedKind (fun hany => ?_) rfl
    rw [hany] at members
    cases members
  have hother {setting : SettingName}
      (h : setting ∉ [SettingName.type, .memberType, .memberMin, .memberMax]) :
      fields.declared? setting = none := Fields.declared?_eq_none names h
  have htext {setting : SettingName}
      (h : setting ∉ [SettingName.type, .memberType, .memberMin, .memberMax]) :
      fields.declaredText? setting = none := by
    rw [Fields.declaredText?, hother h]
    rfl
  have hlimits := limitsFit_members numeric ordered
  rw [← hmember, ← Fields.declaredLimit?_whole hleast, ← Fields.declaredLimit?_whole hmost]
    at hlimits
  refine Fields.exists_ofDescription distinct names (by decide) ?_ ?_
    (Fields.consistent_of_limits (hother (by decide)) (htext (by decide)) (htext (by decide))
      ?_ ?_ hlimits)
  · simp only [List.forall_mem_cons, List.not_mem_nil, false_imp_iff, implies_true, and_true]
    exact ⟨Fields.exists_tag_of_declaredKind? hkind, Fields.exists_tag_of_declaredKind? hmember,
      Fields.takes_of_whole (by decide) hleast, Fields.takes_of_whole (by decide) hmost⟩
  · simp only [List.forall_mem_cons, List.not_mem_nil, false_imp_iff, implies_true, and_true]
    exact ⟨htext (by decide), htext (by decide)⟩
  · rw [Fields.declaredLimit?, Fields.declaredLimit?, hother (by decide), hother (by decide)]
    exact .unlimited
  · intro k hk
    obtain rfl : kind = k := Option.some.inj (hmember.symm.trans hk)
    refine ⟨Kind.isCollection_iff.mp members, ?_⟩
    cases kind <;> first | decide | cases numeric

end

/-- **Limits that are whole numbers are inclusive.**  A number in a description of numbers, or of a
collection of numbers, that is given as a limit reports nothing that lies on its side, and up to
`2 ^ 53` it reports all that lies beyond.  Limits that are in order are not reported themselves, and
with nothing else in the description it makes a rule. -/
theorem whole_limits_inclusive {fields : Fields} (distinct : fields.names.Nodup)
    (least most : Option Int) :
    (fields.declared? .min = least.map .whole → fields.declared? .max = most.map .whole →
      fields.describedKind.isNumeric = true →
      (∀ rule, Rule.ofDescription (.obj fields) = .ok rule → ∀ name n,
        Inclusive .least least n (rule.tally name (.whole n) name .min) ∧
        Inclusive .most most n (rule.tally name (.whole n) name .max)) ∧
      ((∀ l ∈ least, ∀ m ∈ most, l ≤ m) →
        (∀ v ∈ Rule.descriptionViolations (.obj fields), v.path ≠ "min" ∧ v.path ≠ "max") ∧
        ((∀ name ∈ fields.names, name ∈ ["type", "min", "max"]) →
          ∃ rule, Rule.ofDescription (.obj fields) = .ok rule))) ∧
    (fields.declared? .memberMin = least.map .whole →
      fields.declared? .memberMax = most.map .whole →
      fields.describedKind.isCollection = true →
      (∃ kind ∈ fields.declaredKind? .memberType, kind.isNumeric = true) →
      (∀ rule, Rule.ofDescription (.obj fields) = .ok rule → ∀ name (items : List Json) i n,
        items[i]? = some (.whole n) →
          Inclusive .least least n (rule.tally name (.arr items) (Path.index name i) .memberMin) ∧
          Inclusive .most most n (rule.tally name (.arr items) (Path.index name i) .memberMax)) ∧
      ((∀ l ∈ least, ∀ m ∈ most, l ≤ m) →
        (∀ v ∈ Rule.descriptionViolations (.obj fields),
          v.path ≠ "member_min" ∧ v.path ≠ "member_max") ∧
        ((∀ name ∈ fields.names, name ∈ ["type", "member_type", "member_min", "member_max"]) →
          ∃ rule, Rule.ofDescription (.obj fields) = .ok rule))) := by
  constructor
  · intro hleast hmost numeric
    refine ⟨fun rule hrule name n => ?_, fun ordered => ⟨fun v hv => ?_, fun names => ?_⟩⟩
    · obtain ⟨hsettings, accepted⟩ := Rule.settings_of_ofDescription distinct hrule
      have hkind : rule.settings.kind.isNumeric = true := by
        rw [hsettings]
        exact numeric
      have hlower : rule.settings.least = least.map .whole := by
        rw [hsettings]
        exact Fields.declaredLimit?_whole hleast
      have hupper : rule.settings.most = most.map .whole := by
        rw [hsettings]
        exact Fields.declaredLimit?_whole hmost
      have hinclusive := Rule.inclusive_value accepted hkind hlower hupper name n
      exact ⟨hinclusive .least, hinclusive .most⟩
    · have hreported := limit_not_reported distinct ordered hleast hmost numeric
      exact ⟨hreported .min (by decide) v hv, hreported .max (by decide) v hv⟩
    · exact exists_ofDescription_of_limits distinct ordered names hleast hmost numeric
  · rintro hleast hmost members ⟨kind, hmember, numeric⟩
    refine ⟨fun rule hrule name items i n at_i => ?_,
      fun ordered => ⟨fun v hv => ?_, fun names => ?_⟩⟩
    · obtain ⟨hsettings, -⟩ := Rule.settings_of_ofDescription distinct hrule
      have hkind : rule.settings.kind.isCollection = true := by
        rw [hsettings]
        exact members
      have hmemberKind : rule.settings.memberKind = some kind := by
        rw [hsettings]
        exact hmember
      have hlower : rule.settings.memberLeast = least.map .whole := by
        rw [hsettings]
        exact Fields.declaredLimit?_whole hleast
      have hupper : rule.settings.memberMost = most.map .whole := by
        rw [hsettings]
        exact Fields.declaredLimit?_whole hmost
      have hinclusive :=
        Rule.inclusive_member hkind hmemberKind numeric hlower hupper name at_i
      exact ⟨hinclusive .least, hinclusive .most⟩
    · have hreported := member_limit_not_reported distinct ordered hleast hmost hmember numeric
      exact ⟨hreported .memberMin (by decide) v hv, hreported .memberMax (by decide) v hv⟩
    · exact exists_ofDescription_of_member_limits distinct ordered names hleast hmost members
        hmember numeric

/-- Numbers up to the last one that is kept exactly. -/
def exactRange : Fields :=
  [("max", .whole 9007199254740992), ("type", .str "float"), ("min", .whole (-3))]

/-- Sets of whole numbers up to one hundred. -/
def hundreds : Fields :=
  [("type", .str "set"), ("member_type", .str "int"), ("member_max", .whole 100),
    ("member_min", .null)]

/-- Both are accepted.  What lies on a limit is not reported, and what lies next to it is. -/
theorem exactRange_inclusive :
    exactRange.names.Nodup ∧ hundreds.names.Nodup ∧
      (∃ rule, Rule.ofDescription (.obj exactRange) = .ok rule ∧
        rule.tally "n" (.whole (-4)) "n" .min = 1 ∧
        rule.tally "n" (.whole 9007199254740992) "n" .max = 0) ∧
      ∃ rule, Rule.ofDescription (.obj hundreds) = .ok rule ∧
        rule.tally "n" (.arr [.null, .whole 101]) "n[1]" .memberMax = 1 ∧
        rule.tally "n" (.arr [.null, .whole 100]) "n[1]" .memberMax = 0 := by
  have hrange : exactRange.names.Nodup := by decide
  have hhundreds : hundreds.names.Nodup := by decide
  have hzero {side : Side} {limit n : Int} {reports : Nat} (hinside : ¬ side.Beyond limit n)
      (h : Inclusive side (some limit) n reports) : reports = 0 := by
    by_contra hne
    obtain ⟨_, ⟨⟩, hbeyond⟩ := h.genuine hne
    exact hinside hbeyond
  obtain ⟨hvalues, haccepted⟩ :=
    (whole_limits_inclusive hrange (some (-3)) (some 9007199254740992)).1 rfl rfl rfl
  obtain ⟨hmembers, haccepted'⟩ :=
    (whole_limits_inclusive hhundreds none (some 100)).2 rfl rfl rfl ⟨.integer, rfl, rfl⟩
  obtain ⟨rule, hrule⟩ := (haccepted (by rintro _ ⟨⟩ _ ⟨⟩; decide)).2 (by decide)
  obtain ⟨rule', hrule'⟩ := (haccepted' nofun).2 (by decide)
  refine ⟨hrange, hhundreds, ⟨rule, hrule, ?_, ?_⟩, rule', hrule', ?_, ?_⟩
  · have hbelow := (hvalues rule hrule "n" (-4)).1
    exact hbelow.complete (-3) rfl (by decide) (by decide) (by simp [Side.Beyond])
  · exact hzero (by simp [Side.Beyond]) (hvalues rule hrule "n" 9007199254740992).2
  · have habove := (hmembers rule' hrule' "n" [.null, .whole 101] 1 101 rfl).2
    exact habove.complete 100 rfl (by decide) (by decide) (by simp [Side.Beyond])
  · exact hzero (by simp [Side.Beyond]) (hmembers rule' hrule' "n" [.null, .whole 100] 1 100 rfl).2

end RecordSchema
