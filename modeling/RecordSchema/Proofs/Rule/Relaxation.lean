import RecordSchema.Proofs.Rule.Acceptance

/-!
# Relaxed schemas

A schema is relaxed by asking for less: properties are no longer declared, need no longer be there,
or have rules that restrict them less.  `Rule.RelaxedTo` and `Schema.RelaxedTo` say so setting by
setting and go down into the schemas inside.

Relaxing is not as harmless to the check as it looks, since what one setting finds may keep another
from looking: a member of the wrong kind is not held against the enumeration, and an item that is no
object is left to the kind of members if there is one.  But of which values conform the settings
speak one by one, and there each relaxed setting allows what it allowed before
(`Settings.RelaxedTo.allows`).  So whatever conforms to a rule conforms to the relaxed one
(`Rule.RelaxedTo.conforms`), and `relaxed_accepts` says it of the check.
-/

namespace RecordSchema

/-! ### Limits -/

/-- A limit does not lie above another one.  What is no number lies nowhere, and is only kept. -/
def Bound.AtMost : Bound → Bound → Prop
  | .nan, .nan => True
  | .nan, _ => False
  | _, .nan => False
  | a, b => ¬ b.lt a = true

theorem Bound.lt_of_lt_of_atMost (a b c : Bound) (h : a.lt b = true) (hbc : b.AtMost c) :
    a.lt c = true := by
  cases a <;> cases b <;> cases c <;> simp_all [lt, AtMost, Binary64.lt]
  omega

theorem Bound.lt_of_atMost_of_lt (a b c : Bound) (hab : a.AtMost b) (h : b.lt c = true) :
    a.lt c = true := by
  cases a <;> cases b <;> cases c <;> simp_all [lt, AtMost, Binary64.lt]
  omega

/-- A point in time does not lie after another one of its scale. -/
def Temporal.AtMost (a b : Temporal) : Prop :=
  a.scale = b.scale ∧ a.position ≤ b.position

theorem Temporal.lt_of_lt_of_atMost (a b c : Temporal) (h : a.lt b = true) (hbc : b.AtMost c) :
    a.lt c = true := by
  obtain ⟨hscale, hposition⟩ := hbc
  simp only [lt, Bool.and_eq_true, beq_iff_eq, decide_eq_true_eq] at h ⊢
  exact ⟨h.1.trans hscale, by omega⟩

theorem Temporal.lt_of_atMost_of_lt (a b c : Temporal) (hab : a.AtMost b) (h : b.lt c = true) :
    a.lt c = true := by
  obtain ⟨hscale, hposition⟩ := hab
  simp only [lt, Bool.and_eq_true, beq_iff_eq, decide_eq_true_eq] at h ⊢
  exact ⟨hscale.trans h.1, by omega⟩

/-- Each of two limits is dropped or leaves at least as much room as before. -/
structure Widened {α : Type} (le : α → α → Prop) (least most least' most' : Option α) : Prop where
  least : ∀ l ∈ least', ∃ k ∈ least, le l k
  most : ∀ m ∈ most', ∃ k ∈ most, le k m

theorem Widened.dropped {α : Type} {le : α → α → Prop} {least most : Option α} :
    Widened le least most none none :=
  ⟨nofun, nofun⟩

theorem Widened.lowered {α : Type} {le : α → α → Prop} {l k : α} {most : Option α}
    (h : le l k) : Widened le (some k) most (some l) none :=
  ⟨fun _ hl => ⟨k, rfl, Option.some.inj hl ▸ h⟩, nofun⟩

theorem Widened.within {α : Type} {lt : α → α → Bool} {le : α → α → Prop}
    {least most least' most' : Option α} (h : Widened le least most least' most')
    (below : ∀ a b c, lt a b = true → le b c → lt a c = true)
    (above : ∀ a b c, le a b → lt b c = true → lt a c = true) {x : α}
    (hx : Within lt least most x) : Within lt least' most' x := by
  refine ⟨fun l hl hlt => ?_, fun m hm hlt => ?_⟩
  · obtain ⟨k, hk, hle⟩ := h.least l hl
    exact hx.1 k hk (below x l k hlt hle)
  · obtain ⟨k, hk, hle⟩ := h.most m hm
    exact hx.2 k hk (above k m x hle hlt)

theorem Widened.bounds {least most least' most' : Option Bound}
    (h : Widened Bound.AtMost least most least' most') {x : Bound}
    (hx : Within Bound.lt least most x) : Within Bound.lt least' most' x :=
  h.within Bound.lt_of_lt_of_atMost Bound.lt_of_atMost_of_lt hx

theorem Widened.points {least most least' most' : Option Temporal}
    (h : Widened Temporal.AtMost least most least' most') {x : Temporal}
    (hx : Within Temporal.lt least most x) : Within Temporal.lt least' most' x :=
  h.within Temporal.lt_of_lt_of_atMost Temporal.lt_of_atMost_of_lt hx

/-! ### Kinds -/

/-- A kind is kept, or whole numbers become numbers, or sets become lists. -/
inductive Kind.RelaxedTo : Kind → Kind → Prop
  | same (k : Kind) : Kind.RelaxedTo k k
  | numbers : Kind.RelaxedTo .integer .float
  | lists : Kind.RelaxedTo .set .list

namespace Kind.RelaxedTo

variable {k l : Kind} {value : Json}

theorem admits (h : k.RelaxedTo l) (hk : k.admits value = true) : l.admits value = true := by
  cases h with
  | same => exact hk
  | numbers => cases value <;> simp_all [Kind.admits]
  | lists => cases value <;> simp_all [Kind.admits]

theorem measure? (h : k.RelaxedTo l) (value : Json) : l.measure? value = k.measure? value := by
  cases h <;> rfl

theorem readPoint? (h : k.RelaxedTo l) (text : String) :
    l.readPoint? text = k.readPoint? text := by
  cases h <;> rfl

theorem isCollection (h : k.RelaxedTo l) : l.isCollection = k.isCollection := by
  cases h <;> rfl

theorem eq_set (h : k.RelaxedTo l) (hl : l = .set) : k = .set := by
  cases h with
  | same => exact hl
  | numbers => cases hl
  | lists => cases hl

end Kind.RelaxedTo

/-! ### Settings -/

/-- The settings are relaxed, one by one.  The default does not matter. -/
structure Settings.RelaxedTo (s t : Settings) : Prop where
  kind : s.kind.RelaxedTo t.kind
  required : t.required = true → s.required = true
  enumeration : ∀ listed ∈ t.enumeration, ∃ before ∈ s.enumeration, before ⊆ listed
  range : Widened Bound.AtMost s.least s.most t.least t.most
  period : Widened Temporal.AtMost s.earliest s.latest t.earliest t.latest
  pattern : ∀ p ∈ t.pattern, p ∈ s.pattern
  memberKind : ∀ k ∈ t.memberKind, k ∈ s.memberKind
  memberRange : Widened Bound.AtMost s.memberLeast s.memberMost t.memberLeast t.memberMost

namespace Settings.RelaxedTo

variable {s t : Settings} {value : Json}

theorem isListed (h : s.RelaxedTo t) (hv : value.IsListed s.enumeration) :
    value.IsListed t.enumeration := by
  intro listed hlisted
  obtain ⟨before, hbefore, hsub⟩ := h.enumeration listed hlisted
  obtain ⟨l, hl, hsame⟩ := hv before hbefore
  exact ⟨l, hsub hl, hsame⟩

theorem fitsPattern (h : s.RelaxedTo t) (hv : value.FitsPattern s.pattern) :
    value.FitsPattern t.pattern :=
  fun p hp => hv p (h.pattern p hp)

theorem allowsSingle (h : s.RelaxedTo t) (hv : s.AllowsSingle value) : t.AllowsSingle value where
  listed := h.isListed hv.listed
  measure := by
    intro x hx
    rw [h.kind.measure?] at hx
    exact h.range.bounds (hv.measure x hx)
  point := by
    intro text point htext hpoint
    rw [h.kind.readPoint?] at hpoint
    exact h.period.points (hv.point text point htext hpoint)
  pattern := h.fitsPattern hv.pattern

theorem memberMeasure? (h : s.RelaxedTo t) {x : Binary64} (hx : t.memberMeasure? value = some x) :
    s.memberMeasure? value = some x := by
  obtain ⟨k, hk, hmeasure⟩ := Option.bind_eq_some_iff.mp hx
  rw [Settings.memberMeasure?, h.memberKind k hk]
  exact hmeasure

theorem allowsMember (h : s.RelaxedTo t) (hv : s.AllowsMember value) : t.AllowsMember value where
  kind := fun k hk => hv.kind k (h.memberKind k hk)
  listed := h.isListed hv.listed
  measure := fun x hx => h.memberRange.bounds (hv.measure x (h.memberMeasure? hx))
  pattern := fun hk => h.fitsPattern (hv.pattern (h.memberKind .string hk))

theorem allowsCollection (h : s.RelaxedTo t) {items : List Json} (hv : s.AllowsCollection items) :
    t.AllowsCollection items where
  size := h.range.bounds hv.size
  distinct := fun hset => hv.distinct (h.kind.eq_set hset)
  members := fun item hitem => h.allowsMember (hv.members item hitem)

theorem allows (h : s.RelaxedTo t) (hv : s.Allows value) : t.Allows value where
  kind := h.kind.admits hv.kind
  single := fun hsingle => h.allowsSingle (hv.single (h.kind.isCollection ▸ hsingle))
  collection := fun hcoll items hitems =>
    h.allowsCollection (hv.collection (h.kind.isCollection ▸ hcoll) items hitems)

end Settings.RelaxedTo

/-! ### Rules and schemas -/

mutual

/-- A rule is relaxed if its settings are, and the schema inside. -/
inductive Rule.RelaxedTo : Rule → Rule → Prop
  | intro {strict lax : Rule} (settings : strict.settings.RelaxedTo lax.settings)
      (nested : RelaxedInside strict.nested lax.nested) : Rule.RelaxedTo strict lax

/-- The schema inside is dropped or relaxed. -/
inductive RelaxedInside : Option Schema → Option Schema → Prop
  | dropped {strict : Option Schema} : RelaxedInside strict none
  | relaxed {strict lax : Schema} (h : Schema.RelaxedTo strict lax) :
      RelaxedInside (some strict) (some lax)

/-- A schema is relaxed if what it still declares was declared before, under a rule that is
relaxed. -/
inductive Schema.RelaxedTo : Schema → Schema → Prop
  | intro {strict lax : Schema} (declared : ∀ p ∈ lax.properties, strict.contains p.1 = true)
      (rules : ∀ p ∈ lax.properties, ∀ rule, strict.get? p.1 = some rule →
        Rule.RelaxedTo rule p.2) : Schema.RelaxedTo strict lax

end

theorem ConformsInside.mono {P Q : Fields → Prop} (h : ∀ fields, P fields → Q fields)
    {value : Json} (hv : ConformsInside P value) : ConformsInside Q value := by
  cases value with
  | obj fields => exact h fields hv
  | arr items =>
    intro item hitem
    obtain ⟨fields, hfields, hP⟩ := hv item hitem
    exact ⟨fields, hfields, h fields hP⟩
  | _ => trivial

mutual

/-- **What conforms to a rule conforms to the relaxed rule.** -/
theorem Rule.RelaxedTo.conforms : ∀ {strict lax : Rule}, strict.RelaxedTo lax →
    ∀ {value : Option Json}, strict.Conforms value → lax.Conforms value
  | strict, lax, .intro settings nested, value, hv => by
    have hrequired : strict.settings.required = false → lax.settings.required = false := by
      intro hstrict
      by_contra hlax
      exact Bool.eq_false_iff.mp hstrict (settings.required (by simpa using hlax))
    match value with
    | none => exact Rule.conforms_none.mpr (hrequired (Rule.conforms_none.mp hv))
    | some value =>
      by_cases hnull : value = .null
      · rw [hnull] at hv ⊢
        exact Rule.conforms_null.mpr (hrequired (Rule.conforms_null.mp hv))
      · obtain ⟨hallows, hinside⟩ := (Rule.conforms_some hnull).mp hv
        exact (Rule.conforms_some hnull).mpr ⟨settings.allows hallows, nested.conforms hinside⟩

theorem RelaxedInside.conforms : ∀ {strict lax : Option Schema}, RelaxedInside strict lax →
    ∀ {value : Json}, (∀ schema ∈ strict, ConformsInside schema.Conforms value) →
      ∀ schema ∈ lax, ConformsInside schema.Conforms value
  | _, _, .dropped, _, _, _, hs => by cases hs
  | _, _, .relaxed h, _, hv, _, hs => by
    cases hs
    exact (hv _ rfl).mono fun _ hfields => h.conforms hfields

theorem Schema.RelaxedTo.conforms : ∀ {strict lax : Schema}, strict.RelaxedTo lax →
    ∀ {fields : Fields}, strict.Conforms fields → lax.Conforms fields
  | _, _, .intro declared rules, _, hv => by
    refine Schema.conforms_iff.mpr fun p hp => ?_
    obtain ⟨rule, hrule⟩ := Option.isSome_iff_exists.mp (declared p hp)
    have hbefore := Schema.conforms_iff.mp hv _ (mem_of_lookup hrule)
    exact (rules p hp rule hrule).conforms hbefore

end

/-! ### Reports -/

theorem Schema.WellFormed.violations_eq_nil_iff {schema : Schema} (h : schema.WellFormed)
    (fields : Fields) : schema.violations fields = [] ↔ schema.Conforms fields := by
  rw [Schema.violations, List.map_eq_nil_iff, Schema.findings_eq_nil_iff, Schema.conforms_iff]
  exact forall₂_congr fun p hp => (h.rules p hp).regular.findings_eq_nil_iff _

/-- **A relaxed schema accepts what was accepted before.** -/
theorem relaxed_accepts {strict lax : Schema} (relaxed : strict.RelaxedTo lax)
    (built : strict.Built) (built' : lax.Built) (fields : Fields)
    (accepted : strict.violations fields = []) : lax.violations fields = [] := by
  rw [built.wellFormed.violations_eq_nil_iff] at accepted
  rw [built'.wellFormed.violations_eq_nil_iff]
  exact relaxed.conforms accepted

/-! ### Parcels

Parcels with a number, a day, marks and parts, and what is asked of them later: the number may be
any number, the day may lie further back, marks may repeat and be new ones, and parts may have any
label.
-/

/-- Parcels as they were. -/
def parcel : Json :=
  .obj [("number", .obj [("type", .str "integer"), ("required", .bool true)]),
    ("day", .obj [("type", .str "date"), ("min", .str "2024-02-01")]),
    ("marks", .obj [("type", .str "set"), ("member_type", .str "string"),
      ("enum", .arr [.str "up", .str "dry"])]),
    ("parts", .obj [("type", .str "list"), ("member_type", .str "object"),
      ("schema", .obj [("label", .obj [("type", .str "string"), ("enum", .arr [.str "a"])])])])]

/-- Parcels as they are now. -/
def laxParcel : Json :=
  .obj [("parts", .obj [("type", .str "list"),
      ("schema", .obj [("label", .obj [("type", .str "string")])])]),
    ("marks", .obj [("type", .str "list"),
      ("enum", .arr [.str "fragile", .str "dry", .str "up"])]),
    ("day", .obj [("type", .str "date"), ("min", .str "2023-12-31")]),
    ("number", .obj [("type", .str "float")])]

/-- The rule for days from a given one on. -/
def daysFrom (first : Temporal) : Rule :=
  ⟨{ kind := .date, earliest := some first }, none⟩

/-- The schema that is described by `parcel`. -/
def parcelSchema : Schema :=
  ⟨[("number", ⟨{ kind := .integer, required := true }, none⟩),
    ("day", daysFrom (.date ⟨2024, 2, 1, by decide⟩)),
    ("marks", ⟨{ kind := .set, memberKind := some .string,
                 enumeration := some [.str "up", .str "dry"] }, none⟩),
    ("parts", ⟨{ kind := .list, memberKind := some .object },
      some ⟨[("label", ⟨{ kind := .string, enumeration := some [.str "a"] }, none⟩)]⟩⟩)]⟩

/-- The schema that is described by `laxParcel`. -/
def laxParcelSchema : Schema :=
  ⟨[("parts", ⟨{ kind := .list }, some ⟨[("label", ⟨{ kind := .string }, none⟩)]⟩⟩),
    ("marks", ⟨{ kind := .list,
                 enumeration := some [.str "fragile", .str "dry", .str "up"] }, none⟩),
    ("day", daysFrom (.date ⟨2023, 12, 31, by decide⟩)),
    ("number", ⟨{ kind := .float }, none⟩)]⟩

theorem ofDescription_parcel : Schema.ofDescription parcel = .ok parcelSchema := rfl

theorem ofDescription_laxParcel : Schema.ofDescription laxParcel = .ok laxParcelSchema := rfl

theorem parcelSchema_relaxedTo : parcelSchema.RelaxedTo laxParcelSchema := by
  have number : Rule.RelaxedTo ⟨{ kind := .integer, required := true }, none⟩
      ⟨{ kind := .float }, none⟩ :=
    .intro ⟨.numbers, nofun, nofun, .dropped, .dropped, nofun, nofun, .dropped⟩ .dropped
  have day : (daysFrom (.date ⟨2024, 2, 1, by decide⟩)).RelaxedTo
      (daysFrom (.date ⟨2023, 12, 31, by decide⟩)) :=
    .intro ⟨.same _, nofun, nofun, .dropped, .lowered ⟨rfl, by decide +kernel⟩, nofun, nofun,
      .dropped⟩ .dropped
  have marks : Rule.RelaxedTo
      ⟨{ kind := .set, memberKind := some .string,
         enumeration := some [.str "up", .str "dry"] }, none⟩
      ⟨{ kind := .list, enumeration := some [.str "fragile", .str "dry", .str "up"] }, none⟩ := by
    refine .intro ⟨.lists, nofun, ?_, .dropped, .dropped, nofun, nofun, .dropped⟩ .dropped
    rintro listed ⟨rfl⟩
    exact ⟨_, rfl, by simp⟩
  have label : Rule.RelaxedTo ⟨{ kind := .string, enumeration := some [.str "a"] }, none⟩
      ⟨{ kind := .string }, none⟩ :=
    .intro ⟨.same _, nofun, nofun, .dropped, .dropped, nofun, nofun, .dropped⟩ .dropped
  have parts : Rule.RelaxedTo
      ⟨{ kind := .list, memberKind := some .object },
        some ⟨[("label", ⟨{ kind := .string, enumeration := some [.str "a"] }, none⟩)]⟩⟩
      ⟨{ kind := .list }, some ⟨[("label", ⟨{ kind := .string }, none⟩)]⟩⟩ := by
    refine .intro ⟨.same _, nofun, nofun, .dropped, .dropped, nofun, nofun, .dropped⟩
      (.relaxed (.intro ?_ ?_))
    · simp [Schema.contains, Schema.get?]
    · rintro p (_ | ⟨_, ⟨⟩⟩) rule ⟨rfl⟩
      exact label
  refine .intro (by simp [parcelSchema, laxParcelSchema, Schema.contains, Schema.get?]) ?_
  rintro p (_ | ⟨_, _ | ⟨_, _ | ⟨_, _ | ⟨_, ⟨⟩⟩⟩⟩⟩) rule ⟨rfl⟩
  · exact parts
  · exact marks
  · exact day
  · exact number

/-- A parcel that was accepted. -/
def sentParcel : Fields :=
  [("number", .num (.int 3)), ("day", .str "2024-02-29"), ("marks", .arr [.str "dry", .str "up"]),
    ("parts", .arr [.obj [("label", .str "a")], .obj []])]

/-- Whole numbers, days, sets and the labels inside are asked for less, and the parcel is still
accepted. -/
theorem parcelSchema_relaxed_accepts :
    parcelSchema.RelaxedTo laxParcelSchema ∧ parcelSchema.Built ∧ laxParcelSchema.Built ∧
      parcelSchema.violations sentParcel = [] ∧ laxParcelSchema.violations sentParcel = [] := by
  have distinct : parcel.DistinctNames := by
    simp [parcel, Json.DistinctNames, Json.fieldsDistinct, Json.itemsDistinct, Fields.names]
  have distinct' : laxParcel.DistinctNames := by
    simp [laxParcel, Json.DistinctNames, Json.fieldsDistinct, Json.itemsDistinct, Fields.names]
  have built : parcelSchema.Built := .described distinct ofDescription_parcel
  have built' : laxParcelSchema.Built := .described distinct' ofDescription_laxParcel
  have accepted : parcelSchema.violations sentParcel = [] := by decide +kernel
  exact ⟨parcelSchema_relaxedTo, built, built', accepted,
    relaxed_accepts parcelSchema_relaxedTo built built' sentParcel accepted⟩

end RecordSchema
