import RecordSchema.Proofs.Calendar.Forms
import RecordSchema.Proofs.Description.Grammar
import RecordSchema.Proofs.Rule.Tally

/-!
# Texts of kinds of points in time

A kind of points in time takes the texts that it can read, and the same reader stands behind all
places where such a text may be.

* `Rule.tally_type`, `Rule.tally_memberType`: as a value and as a member, another text is reported
  as of the wrong type, once.
* `Draft.admits_limit`: a draft with another text as a limit makes no rule.
* `Kind.decides`: whether a text is of a kind decides in all these places.

`calendar_texts` says which texts these are for dates and times of day, and which of them have the
fixed form.
-/

namespace RecordSchema

open Calendar

/-! ### Values and members -/

/-- A value is reported as of the wrong type if it is, and then once.  A text has no schema inside
that could report it again. -/
theorem Rule.tally_type (rule : Rule) (name text : String) :
    rule.tally name (.str text) name .type =
      if rule.settings.kind.admits (.str text) then 0 else 1 := by
  have present : Json.str text ≠ .null := by simp
  by_cases h : rule.settings.kind.admits (.str text) = true
  · have hinside : rule.insideFindings (.str text) = [] := by
      rw [insideFindings]
      cases rule.nested <;> rfl
    rw [if_pos h, tally, violations, findings_of_admits present h, hinside, List.append_nil,
      List.count_eq_zero]
    intro hmem
    obtain ⟨v, hv, hheading⟩ := List.mem_map.mp hmem
    obtain ⟨f, hf, rfl⟩ := List.mem_map.mp hv
    obtain ⟨issue, hissue, rfl⟩ := List.mem_map.mp hf
    have hkind : issue.kind = .type := (Prod.mk.inj hheading).2
    have hlisted := Settings.facets_kinds.subset (List.mem_map_of_mem hissue)
    rw [hkind] at hlisted
    exact absurd hlisted (by decide)
  · rw [if_neg h, tally, violations, findings_of_not_admits present h]
    exact List.count_singleton_self

theorem Settings.memberType_reported_iff {s : Settings} {earlier : List Json} {item : Json}
    {kind : Kind} (members : s.memberKind = some kind) :
    (∃ issue ∈ s.memberIssues earlier item, issue.kind = .memberType) ↔
      ¬ kind.admits item = true := by
  constructor
  · rintro ⟨issue, hissue, hkind⟩
    rcases mem_memberIssues.mp hissue with ⟨-, -, rfl⟩ | ⟨k, hk, hnot, -⟩ | ⟨-, h⟩
    · cases hkind
    · rw [members] at hk
      cases hk
      exact hnot
    · have hlisted := (Facets.issues_kinds (Or.inr rfl)).subset (List.mem_map_of_mem h)
      rw [hkind] at hlisted
      exact absurd hlisted (by decide)
  · intro h
    exact ⟨_, mem_memberIssues.mpr (Or.inr (Or.inl ⟨kind, members, h, rfl⟩)), rfl⟩

theorem Rule.tally_memberType {rule : Rule} {kind : Kind}
    (collection : rule.settings.kind.isCollection = true)
    (members : rule.settings.memberKind = some kind) {items : List Json} {i : Nat} {item : Json}
    (at_i : items[i]? = some item) (name : String) :
    rule.tally name (.arr items) (Path.index name i) .memberType =
      if kind.admits item then 0 else 1 := by
  rw [tally_member collection at_i (by decide), count_kinds Settings.memberIssues_kinds_nodup
    (Settings.memberType_reported_iff members), ite_not]

/-! ### Limits -/

theorem Draft.admits_limit {d : Draft} (h : d.defects = []) {text : String}
    (limit : text ∈ d.earliest ∨ text ∈ d.latest) : d.kind.admits (.str text) = true := by
  obtain ⟨scale, t, hscale, hread⟩ :=
    (textDefects_eq_nil_iff.mp (defects_eq_nil_iff.mp h).1).2 text limit
  have htemporal : d.kind.isTemporal = true := by
    rw [Kind.isTemporal, hscale]
    rfl
  have hpoint : d.kind.readPoint? text = some t := by
    rw [Kind.readPoint?, hscale]
    exact hread
  exact (Kind.admits_str_iff htemporal).mpr ⟨t, hpoint⟩

theorem Fields.admits_limit {fields : Fields} (distinct : fields.names.Nodup) {rule : Rule}
    (h : Rule.ofDescription (.obj fields) = .ok rule) {text : String}
    (limit : text ∈ fields.declaredText? .min ∨ text ∈ fields.declaredText? .max) :
    fields.describedKind.admits (.str text) = true := by
  have hdefects := (Rule.decode_obj_eq_ok_iff.mp (Rule.ofDescription_eq_ok_iff.mp h)).2.1
  rw [← draftOf_earliest distinct, ← draftOf_latest distinct] at limit
  rw [← draftOf_kind distinct]
  exact Draft.admits_limit hdefects limit

namespace Side

/-- The draft that limits the points in time of a kind on one side. -/
def draft (side : Side) (kind : Kind) (text : String) : Draft :=
  match side with
  | .least => { kind := kind, earliest := some text }
  | .most => { kind := kind, latest := some text }

/-- The description of that draft. -/
def description (side : Side) (kind : Kind) (text : String) : Fields :=
  [("type", .str kind.tag), (side.text, .str text)]

variable {side : Side} {kind : Kind} {text : String}

theorem draft_kind : (side.draft kind text).kind = kind := by
  cases side <;> rfl

theorem draftOf_description : draftOf (side.description kind text) = side.draft kind text := by
  cases kind <;> cases side <;> rfl

theorem mem_draft_iff {other : String} :
    other ∈ (side.draft kind text).earliest ∨ other ∈ (side.draft kind text).latest ↔
      other = text := by
  cases side <;> simp [draft, eq_comm]

theorem draft_consistent : (side.draft kind text).rule.settings.Consistent where
  enumeration := by cases side <;> simp [draft, Draft.rule, Draft.settings]
  limits := by cases side <;> exact .unlimited
  points := by cases side <;> simp [draft, Draft.rule, Draft.settings]
  memberKind := by cases side <;> simp [draft, Draft.rule, Draft.settings]
  memberLimits := by cases side <;> exact .unlimited
  pattern := by cases side <;> simp [draft, Draft.rule, Draft.settings]

theorem draft_defects_eq_nil_iff (temporal : kind.isTemporal = true) :
    (side.draft kind text).defects = [] ↔ kind.admits (.str text) = true := by
  constructor
  · intro h
    have hadmits := Draft.admits_limit h (mem_draft_iff.mpr rfl)
    rw [draft_kind] at hadmits
    exact hadmits
  · intro h
    obtain ⟨t, hpoint⟩ := (Kind.admits_str_iff temporal).mp h
    obtain ⟨scale, hscale, hread⟩ := Option.bind_eq_some_iff.mp hpoint
    have hrule : (side.draft kind text).rule.defects = [] := by
      cases side <;> exact (Settings.defects_eq_nil_iff rfl).mpr draft_consistent
    refine Draft.defects_eq_nil_iff.mpr ⟨Draft.textDefects_eq_nil_iff.mpr ⟨?_, ?_⟩, hrule⟩
    · cases side <;> simp [draft]
    · intro other hother
      rw [mem_draft_iff.mp hother, draft_kind]
      exact ⟨scale, t, hscale, hread⟩

theorem exists_ofDescription_iff (side : Side) (temporal : kind.isTemporal = true) :
    (∃ rule, Rule.ofDescription (.obj (side.description kind text)) = .ok rule) ↔
      kind.admits (.str text) = true := by
  have hentries : ∀ p ∈ side.description kind text, ∃ result, readSetting p = .ok result := by
    intro p hp
    rcases List.mem_pair.mp hp with rfl | rfl
    · exact ⟨some (.kind kind), by cases kind <;> rfl⟩
    · cases side
      · exact ⟨some (.earliest text), rfl⟩
      · exact ⟨some (.latest text), rfl⟩
  rw [← draft_defects_eq_nil_iff temporal, ← draftOf_description]
  constructor
  · rintro ⟨rule, h⟩
    exact (Rule.decode_obj_eq_ok_iff.mp (Rule.ofDescription_eq_ok_iff.mp h)).2.1
  · intro h
    exact ⟨_, Rule.ofDescription_eq_ok_iff.mpr (Rule.decode_obj_eq_ok_iff.mpr ⟨hentries, h, rfl⟩)⟩

end Side

/-! ### Where texts of a kind may stand -/

/-- Whether a text is of a kind decides wherever it stands for a value of that kind.  As a value and
as a member it is reported as of the wrong type if it is not of the kind, and otherwise not for its
type.  No draft and no description with it as a limit makes a rule if it is not of the kind; if it
is, the description that has nothing but the kind and this limit does. -/
structure Kind.Decides (kind : Kind) (text : String) : Prop where
  value : ∀ rule : Rule, rule.settings.kind = kind → ∀ name,
    rule.tally name (.str text) name .type = if kind.admits (.str text) then 0 else 1
  member : ∀ rule : Rule, rule.settings.kind.isCollection = true →
    rule.settings.memberKind = some kind →
    ∀ (name : String) (items : List Json) (i : Nat), items[i]? = some (.str text) →
      rule.tally name (.arr items) (Path.index name i) .memberType =
        if kind.admits (.str text) then 0 else 1
  drafted : ∀ (d : Draft) (rule : Rule), d.kind = kind → d.build = .ok rule →
    text ∈ d.earliest ∨ text ∈ d.latest → kind.admits (.str text) = true
  described : ∀ (fields : Fields) (rule : Rule), fields.names.Nodup → fields.describedKind = kind →
    Rule.ofDescription (.obj fields) = .ok rule →
    text ∈ fields.declaredText? .min ∨ text ∈ fields.declaredText? .max →
      kind.admits (.str text) = true
  limit : ∀ side : Side,
    (∃ rule, Rule.ofDescription (.obj (side.description kind text)) = .ok rule) ↔
      kind.admits (.str text) = true

theorem Kind.decides {kind : Kind} (temporal : kind.isTemporal = true) (text : String) :
    kind.Decides text where
  value := by
    rintro rule rfl name
    exact rule.tally_type name text
  member _ collection members name _ _ at_i := Rule.tally_memberType collection members at_i name
  drafted := by
    rintro d rule rfl h hlimit
    exact Draft.admits_limit (Draft.build_eq_ok_iff.mp h).1 hlimit
  described := by
    rintro fields rule distinct rfl h hlimit
    exact Fields.admits_limit distinct h hlimit
  limit side := side.exists_ofDescription_iff temporal

/-! ### Dates and times of day -/

theorem Kind.date_admits_iff {text : String} :
    Kind.date.admits (.str text) = true ↔
      ∃ (d : Date) (w : WrittenDate), w.Denotes d ∧ w.chars = text.toList := by
  have hpoint : Kind.date.readPoint? text = (Date.read? text.toList).map .date := rfl
  rw [admits_str_iff rfl, hpoint]
  constructor
  · rintro ⟨t, h⟩
    obtain ⟨d, hread, -⟩ := Option.map_eq_some_iff.mp h
    exact ⟨d, Date.read?_eq_some_iff.mp hread⟩
  · rintro ⟨d, hwritten⟩
    rw [Date.read?_eq_some_iff.mpr hwritten]
    exact ⟨.date d, rfl⟩

theorem Kind.time_admits_iff {text : String} :
    Kind.time.admits (.str text) = true ↔
      ∃ (t : TimeOfDay) (w : WrittenTime), w.Denotes t ∧ w.chars = text.toList := by
  have hpoint : Kind.time.readPoint? text = (TimeOfDay.read? text.toList).map .time := rfl
  rw [admits_str_iff rfl, hpoint]
  constructor
  · rintro ⟨_, h⟩
    obtain ⟨t, hread, -⟩ := Option.map_eq_some_iff.mp h
    exact ⟨t, TimeOfDay.read?_eq_some_iff.mp hread⟩
  · rintro ⟨t, hwritten⟩
    rw [TimeOfDay.read?_eq_some_iff.mpr hwritten]
    exact ⟨.time t, rfl⟩

/-- **Which texts are dates and times of day.**  A text is a date if it is written as one, with
blanks before its numbers, with or without zeros in front, and with a sign of the year or not; a
time likewise.  The fixed form have those texts of them that have all numbers in full.  And whether
a text is a date or a time decides wherever it stands for one: as a value, as a member and as a
limit. -/
theorem calendar_texts (text : String) :
    (Kind.date.admits (.str text) = true ↔
        ∃ (d : Date) (w : WrittenDate), w.Denotes d ∧ w.chars = text.toList) ∧
      (Kind.time.admits (.str text) = true ↔
        ∃ (t : TimeOfDay) (w : WrittenTime), w.Denotes t ∧ w.chars = text.toList) ∧
      (Date.FixedForm text.toList ↔ Kind.date.admits (.str text) = true ∧
        ∀ (d : Date) (w : WrittenDate), w.Denotes d → w.chars = text.toList → w.InFull) ∧
      (TimeOfDay.FixedForm text.toList ↔ Kind.time.admits (.str text) = true ∧
        ∀ (t : TimeOfDay) (w : WrittenTime), w.Denotes t → w.chars = text.toList → w.InFull) ∧
      ∀ kind ∈ [Kind.date, .time], kind.Decides text := by
  refine ⟨Kind.date_admits_iff, Kind.time_admits_iff, ?_, ?_, fun kind hkind => ?_⟩
  · rw [Kind.date_admits_iff]
    exact Date.fixedForm_iff_forall
  · rw [Kind.time_admits_iff]
    exact TimeOfDay.fixedForm_iff_forall
  · rcases List.mem_pair.mp hkind with rfl | rfl
    · exact Kind.decides rfl text
    · exact Kind.decides rfl text

/-- Lists of dates. -/
def datesRule : Rule :=
  ⟨{ kind := .list, memberKind := some .date }, none⟩

/-- Times of day. -/
def timeRule : Rule :=
  ⟨{ kind := .time }, none⟩

/-- A leap day behind a blank is taken, also as a member and as a limit, though it is not written in
full.  A leap second with a fraction has the fixed form, and there is no hour 24. -/
theorem leap_texts :
    (∃ (d : Date) (w : WrittenDate), w.Denotes d ∧ w.chars = " 2024-02-29".toList ∧ ¬ w.InFull) ∧
      datesRule.tally "days" (.arr [.null, .str " 2024-02-29"]) (Path.index "days" 1)
        .memberType = 0 ∧
      (∃ rule, Rule.ofDescription (.obj (Side.most.description .date " 2024-02-29")) = .ok rule) ∧
      TimeOfDay.FixedForm "23:59:60.5".toList ∧
      timeRule.tally "at" (.str "23:59:60.5") "at" .type = 0 ∧
      timeRule.tally "at" (.str "24:00:00") "at" .type = 1 := by
  obtain ⟨hdate, -, -, -, hdecides⟩ := calendar_texts " 2024-02-29"
  obtain ⟨-, -, -, hclock, hsecond⟩ := calendar_texts "23:59:60.5"
  obtain ⟨-, -, -, -, hmidnight⟩ := calendar_texts "24:00:00"
  have hday : Kind.date.admits (.str " 2024-02-29") = true := by decide +kernel
  have hover : ¬ Kind.time.admits (.str "24:00:00") = true := by decide +kernel
  have hform : TimeOfDay.FixedForm "23:59:60.5".toList :=
    ⟨['2', '3'], ['5', '9'], ['6', '0'], ['.', '5'], rfl, by decide, by decide, by decide,
      Or.inr ⟨['5'], rfl, by decide, by decide⟩, by decide, by decide, by decide⟩
  obtain ⟨d, w, hw, hchars⟩ := hdate.mp hday
  -- With numbers in full the text would have the fixed form, and so ten characters.
  have hpartial : ¬ w.InFull := by
    intro hfull
    have hfixed := Date.fixedForm_iff.mpr ⟨d, w, hw, hchars, hfull⟩
    exact absurd hfixed.length_eq (by decide)
  have hmember := (hdecides .date (by simp)).member datesRule rfl rfl "days"
    [.null, .str " 2024-02-29"] 1 rfl
  have hvalue := (hsecond .time (by simp)).value timeRule rfl "at"
  have hother := (hmidnight .time (by simp)).value timeRule rfl "at"
  rw [if_pos hday] at hmember
  rw [if_pos (hclock.mp hform).1] at hvalue
  rw [if_neg hover] at hother
  exact ⟨⟨d, w, hw, hchars, hpartial⟩, hmember,
    ((hdecides .date (by simp)).limit .most).mpr hday, hform, hvalue, hother⟩

/-- Dates and times without their zeros, behind blanks or with a sign are taken.  None of them has
the fixed form. -/
theorem loose_texts_admitted :
    (∀ text ∈ ["2024-1-5", " 2024-01-05", "+12024-01-05"],
        Kind.date.admits (.str text) = true ∧ ¬ Date.FixedForm text.toList ∧
          datesRule.violations "days" (some (.arr [.str text])) = [] ∧
          ∃ rule, Rule.ofDescription (.obj [("type", .str "date"), ("min", .str text)]) =
            .ok rule) ∧
      Kind.time.admits (.str "7:5:0") = true ∧ ¬ TimeOfDay.FixedForm "7:5:0".toList := by
  refine ⟨fun text htext => ?_, by decide +kernel, fun h => absurd h.le_length (by decide)⟩
  have hadmits : Kind.date.admits (.str text) = true := by
    revert text
    decide +kernel
  have hlength : text.toList.length ≠ 10 := by
    revert text
    decide
  have hmember : datesRule.violations "days" (some (.arr [.str text])) = [] := by
    revert text
    decide +kernel
  exact ⟨hadmits, fun h => hlength h.length_eq, hmember,
    (Side.least.exists_ofDescription_iff rfl).mpr hadmits⟩

end RecordSchema
