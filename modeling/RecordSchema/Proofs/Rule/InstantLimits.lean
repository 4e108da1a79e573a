import RecordSchema.Proofs.Calendar.Instants
import RecordSchema.Proofs.Calendar.Scales
import RecordSchema.Proofs.Description.Drafting
import RecordSchema.Proofs.Description.Grammar
import RecordSchema.Proofs.Record.Storage
import RecordSchema.Proofs.Rule.Tally

/-!
# Limits in time depend on instants only

A date with a time and an offset is compared by the instant that it shows.  So two texts that show
the same instant from different offsets are the same to a rule, be they checked as values or
declared as limits.

* `Temporal.place`: all that the order of points in time knows of a point.
* `accepted_withText_iff`: one of two such texts put in the place of the other in a description.
* `ReportsInstant`, `Rule.kinds_of_dateTime`: what is reported of an instant.
* `instants_decide`: all this together, with what an instant is.
-/

namespace RecordSchema

open Calendar

/-! ### Places of points in time -/

namespace Temporal

/-- The scale of a point in time and its place there. -/
def place (p : Temporal) : Scale × Int :=
  (p.scale, p.position)

/-- The order knows no more of a point than its place. -/
theorem lt_congr {p p' q q' : Temporal} (hp : p.place = p'.place) (hq : q.place = q'.place) :
    p.lt q = p'.lt q' := by
  obtain ⟨hpscale, hpposition⟩ := Prod.mk.inj hp
  obtain ⟨hqscale, hqposition⟩ := Prod.mk.inj hq
  rw [lt, lt, hpscale, hpposition, hqscale, hqposition]

theorem ordered_congr {earliest earliest' latest latest' : Option Temporal}
    (hearliest : earliest.map place = earliest'.map place)
    (hlatest : latest.map place = latest'.map place) :
    (∀ a ∈ earliest, ∀ b ∈ latest, ¬ b.lt a = true) ↔
      ∀ a ∈ earliest', ∀ b ∈ latest', ¬ b.lt a = true := by
  have hplace {limit limit' : Option Temporal} (h : limit.map place = limit'.map place)
      {p : Temporal} (hp : p ∈ limit') : ∃ q ∈ limit, q.place = p.place := by
    refine Option.map_eq_some_iff.mp (h.trans ?_)
    rw [Option.mem_def.mp hp, Option.map_some]
  constructor
  · intro h a ha b hb
    obtain ⟨a', ha', hplacea⟩ := hplace hearliest ha
    obtain ⟨b', hb', hplaceb⟩ := hplace hlatest hb
    rw [← lt_congr hplaceb hplacea]
    exact h a' ha' b' hb'
  · intro h a ha b hb
    obtain ⟨a', ha', hplacea⟩ := hplace hearliest.symm ha
    obtain ⟨b', hb', hplaceb⟩ := hplace hlatest.symm hb
    rw [← lt_congr hplaceb hplacea]
    exact h a' ha' b' hb'

end Temporal

/-! ### Descriptions -/

/-- Two texts that no kind of values tells apart but by what they look like. -/
def SamePlace (a b : String) : Prop :=
  ∀ k : Kind, (k.readPoint? a).map Temporal.place = (k.readPoint? b).map Temporal.place

/-- **Texts of the same instant have the same place**, as no other kind can read them. -/
theorem samePlace_of_instant {a b : String} {t u : DateTime}
    (ha : DateTime.read? a.toList = some t) (hb : DateTime.read? b.toList = some u)
    (same : t.instant = u.instant) : SamePlace a b := by
  have hread : Temporal.read? .dateTime a = some (.dateTime t) := by
    rw [Temporal.read?, ha, Option.map_some]
  have hread' : Temporal.read? .dateTime b = some (.dateTime u) := by
    rw [Temporal.read?, hb, Option.map_some]
  have hother {text : String} {p : Temporal} (hp : Temporal.read? .dateTime text = some p)
      {scale : Scale} (hscale : scale ≠ .dateTime) : Temporal.read? scale text = none := by
    by_contra hne
    obtain ⟨q, hq⟩ := Option.ne_none_iff_exists'.mp hne
    exact hscale (Temporal.scale_unique hq hp)
  intro k
  rw [Kind.readPoint?, Kind.readPoint?]
  cases k.scale? with
  | none => rfl
  | some scale =>
    rw [Option.bind_some, Option.bind_some]
    by_cases hscale : scale = .dateTime
    · rw [hscale, hread, hread', Option.map_some, Option.map_some, Temporal.place, Temporal.place]
      exact congrArg (fun i => some (Scale.dateTime, i)) same
    · rw [hother hread hscale, hother hread' hscale]

theorem SamePlace.readable_iff {a b : String} (h : SamePlace a b) (k : Kind) :
    (∃ scale t, k.scale? = some scale ∧ Temporal.read? scale a = some t) ↔
      ∃ scale t, k.scale? = some scale ∧ Temporal.read? scale b = some t := by
  have hisSome : (k.readPoint? a).isSome = (k.readPoint? b).isSome := by
    have hmap := congrArg Option.isSome (h k)
    rwa [Option.isSome_map, Option.isSome_map] at hmap
  have hreadable (text : String) : (∃ scale t, k.scale? = some scale ∧
      Temporal.read? scale text = some t) ↔ (k.readPoint? text).isSome = true := by
    rw [Option.isSome_iff_exists, Kind.readPoint?]
    simp only [Option.bind_eq_some_iff]
    constructor
    · rintro ⟨scale, t, hscale, ht⟩
      exact ⟨t, scale, hscale, ht⟩
    · rintro ⟨t, scale, hscale, ht⟩
      exact ⟨scale, t, hscale, ht⟩
  rw [hreadable, hreadable, hisSome]

section

variable {fields : Fields} {setting : SettingName} {a b : String}
  (limit : setting ∈ [SettingName.min, .max]) (declared : fields.get? setting.text = some (.str a))

/-- The description with another text in the place of a limit. -/
def Fields.withText (fields : Fields) (setting : SettingName) (text : String) : Fields :=
  fields.put setting.text (.str text)

theorem Fields.declared?_withText_of_ne {other : SettingName} (h : other ≠ setting) :
    (fields.withText setting b).declared? other = fields.declared? other := by
  rw [declared?, declared?, withText, get?_put_of_ne fun he => h (SettingName.text_inj he)]

theorem Fields.declaredText?_withText_of_ne {other : SettingName} (h : other ≠ setting) :
    (fields.withText setting b).declaredText? other = fields.declaredText? other := by
  rw [declaredText?, declaredText?, declared?_withText_of_ne h]

theorem Fields.declared?_withText_self :
    (fields.withText setting b).declared? setting = some (.str b) := by
  rw [declared?, withText, get?_put_self]
  rfl

include limit in
theorem Fields.declared?_withText {other : SettingName} (h : other ∉ [SettingName.min, .max]) :
    (fields.withText setting b).declared? other = fields.declared? other :=
  declared?_withText_of_ne fun he => h (he ▸ limit)

include limit in
theorem Fields.declaredText?_withText {other : SettingName}
    (h : other ∉ [SettingName.min, .max]) :
    (fields.withText setting b).declaredText? other = fields.declaredText? other :=
  declaredText?_withText_of_ne fun he => h (he ▸ limit)

include declared

theorem Fields.declared?_of_text : fields.declared? setting = some (.str a) := by
  rw [declared?, declared]
  rfl

theorem Fields.names_withText : (fields.withText setting b).names = fields.names := by
  have hmem : setting.text ∈ fields.names :=
    isSome_get?_iff.mp (Option.isSome_iff_exists.mpr ⟨_, declared⟩)
  rw [withText, names_put, if_pos hmem]

theorem Fields.declaredLimit?_withText (other : SettingName) :
    (fields.withText setting b).declaredLimit? other = fields.declaredLimit? other := by
  by_cases h : other = setting
  · rw [h, declaredLimit?, declaredLimit?, declared?_withText_self, declared?_of_text declared]
    rfl
  · rw [declaredLimit?, declaredLimit?, declared?_withText_of_ne h]

theorem Fields.place_withText (same : SamePlace a b) (other : SettingName) (k : Kind) :
    (((fields.withText setting b).declaredText? other).bind k.readPoint?).map Temporal.place =
      ((fields.declaredText? other).bind k.readPoint?).map Temporal.place := by
  by_cases h : other = setting
  · rw [h, declaredText?, declaredText?, declared?_withText_self, declared?_of_text declared]
    exact (same k).symm
  · rw [declaredText?_withText_of_ne h]

theorem Fields.readable_withText_iff (same : SamePlace a b) (other : SettingName) (k : Kind) :
    (∀ text ∈ fields.declaredText? other, ∃ scale t, k.scale? = some scale ∧
      Temporal.read? scale text = some t) ↔
    ∀ text ∈ (fields.withText setting b).declaredText? other, ∃ scale t,
      k.scale? = some scale ∧ Temporal.read? scale text = some t := by
  by_cases h : other = setting
  · have hbefore : fields.declaredText? setting = some a := by
      rw [declaredText?, declared?_of_text declared]
      rfl
    have hafter : (fields.withText setting b).declaredText? setting = some b := by
      rw [declaredText?, declared?_withText_self]
      rfl
    rw [h, hbefore, hafter]
    simp only [Option.mem_some_iff, forall_eq']
    exact same.readable_iff k
  · rw [declaredText?_withText_of_ne h]

include limit

/-- The settings that are described are the same but for the points in time. -/
theorem Fields.describedSettings_withText :
    (fields.withText setting b).describedSettings =
      { fields.describedSettings with
        earliest := ((fields.withText setting b).declaredText? .min).bind
          fields.describedKind.readPoint?
        latest := ((fields.withText setting b).declaredText? .max).bind
          fields.describedKind.readPoint? } := by
  have hother {other : SettingName} (h : other ∉ [SettingName.min, .max]) :
      (fields.withText setting b).declared? other = fields.declared? other :=
    declared?_withText limit h
  have hkind : (fields.withText setting b).describedKind = fields.describedKind := by
    rw [describedKind, describedKind, declaredKind?, declaredKind?, hother (by decide)]
  have hpattern : (fields.withText setting b).declaredText? .regex = fields.declaredText? .regex :=
    declaredText?_withText limit (by decide)
  rw [describedSettings, describedSettings, hkind, hother (by decide), hother (by decide),
    hother (by decide), hpattern, declaredKind?, hother (by decide),
    declaredLimit?_withText declared, declaredLimit?_withText declared,
    declaredLimit?_withText declared, declaredLimit?_withText declared]
  rfl

theorem Fields.takes_withText_iff (other : SettingName) :
    (∀ value, fields.declared? other = some value → other.Takes value) ↔
      ∀ value, (fields.withText setting b).declared? other = some value → other.Takes value := by
  by_cases h : other = setting
  · have htext (text : String) : setting.Takes (.str text) := by
      rcases List.mem_pair.mp limit with rfl | rfl <;> exact Or.inr ⟨text, rfl⟩
    rw [h, declared?_withText_self, declared?_of_text declared]
    simp [htext]
  · rw [declared?_withText_of_ne h]

/-- The described settings fit each other as before: of points in time that asks for the order
alone. -/
theorem Fields.consistent_withText_iff (same : SamePlace a b) :
    fields.describedSettings.Consistent ↔
      (fields.withText setting b).describedSettings.Consistent := by
  have hplace (other : SettingName) := place_withText declared same other fields.describedKind
  have hpoints := Temporal.ordered_congr (hplace .min) (hplace .max)
  rw [describedSettings_withText limit declared]
  constructor
  · intro h
    exact ⟨h.enumeration, h.limits, hpoints.mpr h.points, h.memberKind, h.memberLimits, h.pattern⟩
  · intro h
    exact ⟨h.enumeration, h.limits, hpoints.mp h.points, h.memberKind, h.memberLimits, h.pattern⟩

/-- **A limit may be given by any text of the same place.** -/
theorem accepted_withText_iff (distinct : fields.names.Nodup)
    (plain : fields.declared? .default = none) (same : SamePlace a b) :
    (∃ rule, Rule.ofDescription (.obj fields) = .ok rule) ↔
      ∃ rule, Rule.ofDescription (.obj (fields.withText setting b)) = .ok rule := by
  have hplain : (fields.withText setting b).declared? .default = none :=
    (Fields.declared?_withText limit (by decide)).trans plain
  have hschema : (fields.withText setting b).declared? .schema = fields.declared? .schema :=
    Fields.declared?_withText limit (by decide)
  have hpattern : (fields.withText setting b).declaredText? .regex = fields.declaredText? .regex :=
    Fields.declaredText?_withText limit (by decide)
  have hnames := Fields.names_withText declared (b := b)
  have hsettings := Fields.describedSettings_withText limit declared (b := b)
  have hkind : (fields.withText setting b).describedKind = fields.describedKind :=
    congrArg Settings.kind hsettings
  have htakes : (∀ other value, fields.declared? other = some value → other.Takes value) ↔
      ∀ other value, (fields.withText setting b).declared? other = some value →
        other.Takes value := forall_congr' (Fields.takes_withText_iff limit declared)
  have hreadable (other : SettingName) :=
    Fields.readable_withText_iff declared same other fields.describedKind
  have htakesSchema : fields.describedSettings.TakesSchema ↔
      (fields.withText setting b).describedSettings.TakesSchema := by
    rw [hsettings]
    exact Iff.rfl
  rw [Fields.exists_ofDescription_iff distinct plain,
    Fields.exists_ofDescription_iff (hnames ▸ distinct) hplain, hnames, hkind, htakes, hschema,
    hpattern, Fields.consistent_withText_iff limit declared same, htakesSchema]
  simp only [or_imp, forall_and, hreadable]

end

/-! ### Values -/

/-- What is reported of an instant: that it lies before the earliest one, or after the latest. -/
structure ReportsInstant (s : Settings) (t : DateTime) (kinds : List ViolationKind) : Prop where
  order : kinds.Sublist [.min, .max]
  before : .min ∈ kinds ↔ ∃ l, s.earliest = some (.dateTime l) ∧ t.instant < l.instant
  after : .max ∈ kinds ↔ ∃ m, s.latest = some (.dateTime m) ∧ m.instant < t.instant

theorem Temporal.dateTime_lt_iff {t : DateTime} {p : Temporal} :
    (Temporal.dateTime t).lt p = true ↔ ∃ u, p = .dateTime u ∧ t.instant < u.instant := by
  cases p with
  | dateTime u =>
    have hlt : (Temporal.dateTime t).lt (.dateTime u) = decide (t.instant < u.instant) := rfl
    rw [hlt, decide_eq_true_iff]
    exact ⟨fun h => ⟨u, rfl, h⟩, fun ⟨_, he, h⟩ => by cases he; exact h⟩
  | _ => exact iff_of_false Bool.false_ne_true fun ⟨_, he, _⟩ => by cases he

theorem Temporal.lt_dateTime_iff {t : DateTime} {p : Temporal} :
    p.lt (.dateTime t) = true ↔ ∃ u, p = .dateTime u ∧ u.instant < t.instant := by
  cases p with
  | dateTime u =>
    have hlt : (Temporal.dateTime u).lt (.dateTime t) = decide (u.instant < t.instant) := rfl
    rw [hlt, decide_eq_true_iff]
    exact ⟨fun h => ⟨u, rfl, h⟩, fun ⟨_, he, h⟩ => by cases he; exact h⟩
  | _ => exact iff_of_false Bool.false_ne_true fun ⟨_, he, _⟩ => by cases he

/-- The kinds that report the limits that a point in time passes. -/
def limitKinds (p : Temporal) (earliest latest : Option Temporal) : List ViolationKind :=
  (passedLimits Temporal.lt p earliest latest).map fun passed => Scope.value.limitKind passed.1

theorem mem_limitKinds_iff {p : Temporal} {earliest latest : Option Temporal} (side : Side) :
    Scope.value.limitKind side ∈ limitKinds p earliest latest ↔
      side.Passes Temporal.lt earliest latest p := by
  rw [limitKinds, List.mem_map, ← Side.exists_passed_iff]
  constructor
  · rintro ⟨⟨other, limit⟩, hpassed, hkind⟩
    rw [← Scope.limitKind_inj hkind]
    exact ⟨limit, hpassed⟩
  · rintro ⟨limit, hpassed⟩
    exact ⟨_, hpassed, rfl⟩

theorem limitKinds_congr {p q : Temporal} (h : p.place = q.place)
    (earliest latest : Option Temporal) :
    limitKinds p earliest latest = limitKinds q earliest latest := by
  have hbelow : (fun limit => p.lt limit) = fun limit => q.lt limit :=
    funext fun limit => Temporal.lt_congr h rfl
  have habove : (fun limit : Temporal => limit.lt p) = fun limit => limit.lt q :=
    funext fun limit => Temporal.lt_congr rfl h
  rw [limitKinds, limitKinds, passedLimits, passedLimits, hbelow, habove]

/-- The limits that an instant passes are reported, the earliest one first. -/
theorem reportsInstant_limitKinds (s : Settings) (t : DateTime) :
    ReportsInstant s t (limitKinds (.dateTime t) s.earliest s.latest) := by
  constructor
  · have hkinds : ((passedLimits Temporal.lt (.dateTime t) s.earliest s.latest).map fun passed =>
        Issue.outside .value passed.1 (.itemCount 0) (.point passed.2)).map Issue.kind =
          limitKinds (.dateTime t) s.earliest s.latest := by
      rw [limitKinds, List.map_map]
      exact List.map_congr_left fun _ _ => outside_kind
    rw [← hkinds]
    exact passedLimits_kinds fun _ => outside_kind
  · refine (mem_limitKinds_iff .least).trans ⟨?_, ?_⟩
    · rintro ⟨limit, hlimit, hlt⟩
      obtain ⟨l, rfl, hinstant⟩ := Temporal.dateTime_lt_iff.mp hlt
      exact ⟨l, hlimit, hinstant⟩
    · rintro ⟨l, hlimit, hinstant⟩
      exact ⟨_, hlimit, Temporal.dateTime_lt_iff.mpr ⟨l, rfl, hinstant⟩⟩
  · refine (mem_limitKinds_iff .most).trans ⟨?_, ?_⟩
    · rintro ⟨limit, hlimit, hlt⟩
      obtain ⟨m, rfl, hinstant⟩ := Temporal.lt_dateTime_iff.mp hlt
      exact ⟨m, hlimit, hinstant⟩
    · rintro ⟨m, hlimit, hinstant⟩
      exact ⟨_, hlimit, Temporal.lt_dateTime_iff.mpr ⟨m, rfl, hinstant⟩⟩

namespace Rule

variable {rule : Rule} (accepted : rule.definitionViolations = [])
  (dateTime : rule.settings.kind = .dateTime) (unlisted : rule.settings.enumeration = none)
include accepted dateTime unlisted

theorem kinds_of_dateTime {a : String} {t : DateTime} (ha : DateTime.read? a.toList = some t)
    (name : String) :
    (rule.violations name (some (.str a))).map Violation.kind =
      limitKinds (.dateTime t) rule.settings.earliest rule.settings.latest := by
  obtain ⟨consistent, -⟩ := defects_eq_nil_iff.mp (List.map_eq_nil_iff.mp accepted)
  have single : ¬ rule.settings.kind.isCollection = true := by
    rw [dateTime]
    exact Bool.false_ne_true
  have plain : rule.nested = none := nested_eq_none accepted (by rw [dateTime]; decide)
  have hread : Temporal.read? .dateTime a = some (.dateTime t) := by
    rw [Temporal.read?, ha, Option.map_some]
  have admitted : rule.settings.kind.admits (.str a) = true := by
    rw [dateTime]
    exact (Kind.admits_str_iff rfl).mpr ⟨_, hread⟩
  have hpattern : rule.settings.pattern = none := by
    refine Option.eq_none_iff_forall_not_mem.mpr fun p hp => ?_
    rcases consistent.pattern p hp with hstring | ⟨hcollection, -⟩
    · rw [dateTime] at hstring
      cases hstring
    · rw [dateTime] at hcollection
      exact absurd hcollection (by decide)
  have hissues : rule.settings.facets.issues .value (.str a) =
      (passedLimits Temporal.lt (.dateTime t) rule.settings.earliest rule.settings.latest).map
        fun passed => .outside .value passed.1 (.point (.str a)) (.point passed.2) := by
    rw [Facets.issues, Settings.facets, unlisted, dateTime, hpattern]
    change [] ++ [] ++ pointIssues .value (some .dateTime) _ _ (.str a) ++ [] = _
    rw [pointIssues, hread, List.append_nil]
    rfl
  rw [violations, findings_value single plain (by simp) admitted, hissues, List.map_map,
    List.map_map, List.map_map]
  exact List.map_congr_left fun _ _ => outside_kind

end Rule

/-- **Limits in time depend on instants only.**  Texts with the same instant may stand for each
other as limits and as values, and a value is reported as too early or too late as its instant
is. -/
theorem instants_decide {a b : String} {t u : DateTime} (ha : DateTime.read? a.toList = some t)
    (hb : DateTime.read? b.toList = some u) :
    (t.SameInstant u ↔ t.instant = u.instant) ∧
      (t.Earlier u ↔ t.instant < u.instant) ∧
      (t.SameInstant u → ∀ (fields : Fields) (setting : SettingName), fields.names.Nodup →
        fields.declared? .default = none → setting ∈ [SettingName.min, .max] →
        fields.get? setting.text = some (.str a) →
        ((∃ rule, Rule.ofDescription (.obj fields) = .ok rule) ↔
          ∃ rule, Rule.ofDescription (.obj (fields.withText setting b)) = .ok rule)) ∧
      ∀ rule : Rule, rule.definitionViolations = [] → rule.settings.kind = .dateTime →
        rule.settings.enumeration = none → ∀ name : String,
          ReportsInstant rule.settings t
            ((rule.violations name (some (.str a))).map Violation.kind) ∧
          (t.SameInstant u → (rule.violations name (some (.str a))).map Violation.kind =
            (rule.violations name (some (.str b))).map Violation.kind) := by
  obtain ⟨hfrom, hto⟩ := DateTime.year_of_read? ha
  have hlow : minYear < t.date.year := lt_of_lt_of_le (by decide) hfrom
  have hhigh : t.date.year < maxYear := lt_of_le_of_lt hto (by decide)
  refine ⟨DateTime.sameInstant_iff, (DateTime.instant_lt_iff hlow hhigh).symm, ?_, ?_⟩
  · intro hsame fields setting distinct plain limit declared
    have hplace : SamePlace a b := samePlace_of_instant ha hb hsame.instant_eq
    exact accepted_withText_iff limit declared distinct plain hplace
  · intro rule accepted dateTime unlisted name
    rw [Rule.kinds_of_dateTime accepted dateTime unlisted ha,
      Rule.kinds_of_dateTime accepted dateTime unlisted hb]
    refine ⟨reportsInstant_limitKinds rule.settings t, fun hsame => ?_⟩
    have hplace : (Temporal.dateTime t).place = (Temporal.dateTime u).place :=
      congrArg (Prod.mk Scale.dateTime) hsame.instant_eq
    exact limitKinds_congr hplace _ _

/-- From a text up to the end of a leap second. -/
def untilLeapSecondEnds (text : String) : Fields :=
  [("type", .str "datetime"), ("min", .str text), ("max", .str "2016-12-31T23:59:60.9Z")]

/-- From the middle of a leap second on. -/
def fromLeapSecond : Rule :=
  ⟨{ kind := .dateTime, earliest := Temporal.read? .dateTime "2016-12-31T23:59:60.5Z" }, none⟩

/-- A leap second, and the same one in India, where it is in the next year. -/
theorem leapSecond_decides :
    (∃ t u, DateTime.read? "2016-12-31T23:59:60Z".toList = some t ∧
      DateTime.read? "2017-01-01T05:29:60+05:30".toList = some u ∧ t.SameInstant u) ∧
      fromLeapSecond.definitionViolations = [] ∧
      (∃ rule, Rule.ofDescription (.obj (untilLeapSecondEnds "2016-12-31T23:59:60Z")) = .ok rule) ∧
      (∃ rule, Rule.ofDescription (.obj (untilLeapSecondEnds "2017-01-01T05:29:60+05:30")) =
        .ok rule) ∧
      (fromLeapSecond.violations "when" (some (.str "2016-12-31T23:59:60Z"))).map Violation.kind =
        [.min] ∧
      (fromLeapSecond.violations "when" (some (.str "2017-01-01T05:29:60+05:30"))).map
        Violation.kind = [.min] := by
  have hinstants : (DateTime.read? "2016-12-31T23:59:60Z".toList).map DateTime.instant =
      (DateTime.read? "2017-01-01T05:29:60+05:30".toList).map DateTime.instant := by
    decide +kernel
  have hread : (DateTime.read? "2016-12-31T23:59:60Z".toList).isSome = true := by decide +kernel
  obtain ⟨t, ht⟩ := Option.isSome_iff_exists.mp hread
  rw [ht, Option.map_some] at hinstants
  obtain ⟨u, hu, hsame⟩ := Option.map_eq_some_iff.mp hinstants.symm
  obtain ⟨hinstant, -, hlimits, hvalues⟩ := instants_decide ht hu
  have accepted : fromLeapSecond.definitionViolations = [] := by decide +kernel
  have htsame := hinstant.mpr hsame.symm
  have hmin : (fromLeapSecond.violations "when" (some (.str "2016-12-31T23:59:60Z"))).map
      Violation.kind = [.min] := by decide +kernel
  have hrule : ∃ rule, Rule.ofDescription (.obj (untilLeapSecondEnds "2016-12-31T23:59:60Z")) =
      .ok rule := by
    have hok : (Rule.ofDescription
        (.obj (untilLeapSecondEnds "2016-12-31T23:59:60Z"))).isOk = true := by decide +kernel
    cases hresult : Rule.ofDescription (.obj (untilLeapSecondEnds "2016-12-31T23:59:60Z")) with
    | ok rule => exact ⟨rule, rfl⟩
    | error e =>
      rw [hresult] at hok
      cases hok
  refine ⟨⟨t, u, ht, hu, htsame⟩, accepted, hrule, ?_, hmin, ?_⟩
  · exact (hlimits htsame (untilLeapSecondEnds "2016-12-31T23:59:60Z") .min (by decide) rfl
      (by decide) rfl).mp hrule
  · rw [← hmin]
    exact ((hvalues fromLeapSecond accepted rfl rfl "when").2 htsame).symm

end RecordSchema
