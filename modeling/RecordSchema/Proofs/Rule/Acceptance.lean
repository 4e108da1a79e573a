import RecordSchema.Proofs.Rule.Conformance
import RecordSchema.Proofs.Rule.WellFormed

/-!
# The check accepts what conforms

`Rule.findings_eq_nil_iff`: the check finds nothing exactly in the values that conform.  The proof
goes through the settings one by one, each of which gives no issue exactly when it allows the value,
and then by induction through the schemas inside.

An item that is no object is reported by the schema inside unless members must be objects, since it
has been reported as a member then.  So the schema inside accepts less on its own than the whole
check does, and its case needs what the members are known to be (`nestedFindings_eq_nil_iff`).
-/

namespace RecordSchema

/-- A rule that can be checked as it is meant: its patterns were read from texts and only objects
and lists have a schema inside, at every depth. -/
inductive Rule.Regular : Rule → Prop
  | intro {rule : Rule} (patterns : ∀ p ∈ rule.settings.pattern, p.IsRead)
      (composite : ∀ schema ∈ rule.nested, rule.settings.kind.isComposite = true)
      (inside : ∀ schema ∈ rule.nested, ∀ p ∈ schema.properties, p.2.Regular) : rule.Regular

/-! ### Single settings -/

theorem passedLimits_eq_nil_iff {α : Type} {lt : α → α → Bool} {x : α} {least most : Option α} :
    passedLimits lt x least most = [] ↔ Within lt least most x := by
  rw [List.eq_nil_iff_forall_not_mem]
  refine ⟨?_, ?_⟩
  · intro h
    exact ⟨fun l hl hlt => h (.least, l) (mem_passedLimits.mpr (Or.inl ⟨rfl, hl, hlt⟩)),
      fun m hm hlt => h (.most, m) (mem_passedLimits.mpr (Or.inr ⟨rfl, hm, hlt⟩))⟩
  · rintro ⟨hleast, hmost⟩ ⟨side, limit⟩ hmem
    rcases mem_passedLimits.mp hmem with ⟨-, hl, hlt⟩ | ⟨-, hm, hlt⟩
    · exact hleast limit hl hlt
    · exact hmost limit hm hlt

section

variable {scope : Scope} {value : Json}

theorem unlistedIssues_eq_nil_iff {enumeration : Option (List Json)} :
    unlistedIssues scope enumeration value = [] ↔ value.IsListed enumeration := by
  rw [List.eq_nil_iff_forall_not_mem]
  refine ⟨?_, ?_⟩
  · intro h listed hlisted
    by_contra hnot
    have hamong : ¬ value.isAmong listed = true := fun ha => hnot (Json.isAmong_iff.mp ha)
    exact h _ (mem_unlistedIssues.mpr ⟨listed, hlisted, hamong, rfl⟩)
  · intro h issue hmem
    obtain ⟨listed, hlisted, hamong, -⟩ := mem_unlistedIssues.mp hmem
    exact hamong (Json.isAmong_iff.mpr (h listed hlisted))

theorem boundIssues_eq_nil_iff {measured : Option (Measured × Binary64)}
    {least most : Option Bound} :
    boundIssues scope measured least most = [] ↔
      ∀ x, measured.map Prod.snd = some x → Within Bound.lt least most (.finite x) := by
  rcases measured with - | ⟨what, measure⟩
  · simp [boundIssues]
  · simp [boundIssues, passedLimits_eq_nil_iff]

theorem pointIssues_eq_nil_iff {scale : Option Scale} {earliest latest : Option Temporal} :
    pointIssues scope scale earliest latest value = [] ↔
      ∀ text t, value = .str text → scale.bind (Temporal.read? · text) = some t →
        Within Temporal.lt earliest latest t := by
  simp only [List.eq_nil_iff_forall_not_mem, ← passedLimits_eq_nil_iff]
  refine ⟨?_, ?_⟩
  · rintro h text t rfl hread ⟨side, limit⟩ hmem
    exact h _ (mem_pointIssues.mpr ⟨text, t, rfl, hread, side, limit, hmem, rfl⟩)
  · intro h issue hmem
    obtain ⟨text, t, htext, hread, side, limit, hpassed, -⟩ := mem_pointIssues.mp hmem
    exact h text t htext hread _ hpassed

theorem patternIssues_eq_nil_iff {pattern : Option Pattern} (hread : ∀ p ∈ pattern, p.IsRead) :
    patternIssues scope pattern value = [] ↔ value.FitsPattern pattern := by
  rw [List.eq_nil_iff_forall_not_mem]
  refine ⟨?_, ?_⟩
  · intro h p hp text htext hne
    by_contra hnot
    have hstart : ¬ p.matchesStart text = true := by rwa [(hread p hp).matchesStart_iff]
    exact h _ (mem_patternIssues.mpr ⟨p, hp, text, htext, hne, hstart, rfl⟩)
  · intro h issue hmem
    obtain ⟨p, hp, text, htext, hne, hstart, -⟩ := mem_patternIssues.mp hmem
    rw [(hread p hp).matchesStart_iff] at hstart
    exact hstart (h p hp text htext hne)

theorem Facets.issues_eq_nil_iff {f : Facets} (hread : ∀ p ∈ f.pattern, p.IsRead) :
    f.issues scope value = [] ↔
      value.IsListed f.enumeration ∧
        (∀ x, (f.gauge.measure? value).map Prod.snd = some x →
          Within Bound.lt f.least f.most (.finite x)) ∧
        (∀ text t, value = .str text → f.scale.bind (Temporal.read? · text) = some t →
          Within Temporal.lt f.earliest f.latest t) ∧
        value.FitsPattern f.pattern := by
  simp only [Facets.issues, List.append_eq_nil_iff, unlistedIssues_eq_nil_iff,
    boundIssues_eq_nil_iff, pointIssues_eq_nil_iff, patternIssues_eq_nil_iff hread, and_assoc]

end

/-! ### All settings -/

namespace Settings

variable {s : Settings}

theorem facets_measure (value : Json) :
    (s.facets.gauge.measure? value).map Prod.snd = s.kind.measure? value := by
  rw [facets, Kind.measure?]
  by_cases hnum : s.kind.isNumeric = true
  · simp [hnum, Gauge.measure?, Function.comp_def]
  · by_cases hlen : s.kind.hasLength = true
    · simp [hnum, hlen, Gauge.measure?, Function.comp_def]
    · simp [hnum, hlen, Gauge.measure?]

theorem memberFacets_measure (item : Json) :
    (s.memberFacets.gauge.measure? item).map Prod.snd = s.memberMeasure? item := by
  rw [memberFacets, memberMeasure?]
  cases s.memberKind with
  | none => rfl
  | some kind =>
    cases kind <;> simp [Kind.measure?, Kind.isNumeric, Kind.hasLength, Gauge.measure?,
      Function.comp_def]

theorem single_issues_eq_nil_iff (hread : ∀ p ∈ s.pattern, p.IsRead) {value : Json} :
    s.facets.issues .value value = [] ↔ s.AllowsSingle value := by
  rw [Facets.issues_eq_nil_iff hread, facets_measure]
  refine ⟨?_, ?_⟩
  · rintro ⟨listed, measure, point, pattern⟩
    exact ⟨listed, measure, point, pattern⟩
  · rintro ⟨listed, measure, point, pattern⟩
    exact ⟨listed, measure, point, pattern⟩

theorem memberFacets_fitsPattern_iff {item : Json} :
    item.FitsPattern s.memberFacets.pattern ↔
      (s.memberKind = some .string → item.FitsPattern s.pattern) := by
  by_cases hstr : s.memberKind = some .string
  · simp [memberFacets, hstr]
  · simp [memberFacets, hstr, Json.FitsPattern]

theorem memberFacets_issues_eq_nil_iff (hread : ∀ p ∈ s.pattern, p.IsRead) {item : Json} :
    (∀ k ∈ s.memberKind, k.admits item = true) ∧ s.memberFacets.issues .member item = [] ↔
      s.AllowsMember item := by
  have hpattern : ∀ p ∈ s.memberFacets.pattern, p.IsRead := by
    intro p hp
    by_cases hstr : s.memberKind = some .string
    · exact hread p (by simpa [memberFacets, hstr] using hp)
    · simp [memberFacets, hstr] at hp
  rw [Facets.issues_eq_nil_iff hpattern, memberFacets_measure, memberFacets_fitsPattern_iff]
  refine ⟨?_, ?_⟩
  · rintro ⟨kind, listed, measure, -, pattern⟩
    exact ⟨kind, listed, measure, pattern⟩
  · rintro ⟨kind, listed, measure, pattern⟩
    refine ⟨kind, listed, measure, fun text t _ hpoint => ?_, pattern⟩
    cases hpoint

theorem memberIssues_eq_nil_iff (hread : ∀ p ∈ s.pattern, p.IsRead) {earlier : List Json}
    {item : Json} :
    s.memberIssues earlier item = [] ↔
      (s.kind = .set → ¬ item.isAmong earlier = true) ∧ s.AllowsMember item := by
  rw [← memberFacets_issues_eq_nil_iff hread, memberIssues, List.append_eq_nil_iff]
  refine and_congr ?_ ?_
  · by_cases hset : s.kind = .set <;> simp [hset]
  · cases s.memberKind with
    | none => simp
    | some kind => by_cases h : kind.admits item = true <;> simp [h]

theorem memberFindings_eq_nil_iff (hread : ∀ p ∈ s.pattern, p.IsRead) {earlier items : List Json} :
    s.memberFindings earlier items = [] ↔
      (s.kind = .set → (∀ a ∈ earlier, ∀ b ∈ items, ¬ a.sameLiteral b = true) ∧
        items.Pairwise fun a b => ¬ a.sameLiteral b = true) ∧
      ∀ item ∈ items, s.AllowsMember item := by
  induction items generalizing earlier with
  | nil => simp [memberFindings]
  | cons item rest ih =>
    rw [memberFindings, List.append_eq_nil_iff, List.map_eq_nil_iff, memberIssues_eq_nil_iff hread,
      ih, Json.isAmong_iff]
    refine ⟨?_, ?_⟩
    · rintro ⟨⟨hfirst, hitem⟩, hrest, hmembers⟩
      refine ⟨fun hset => ⟨fun a ha b hb => ?_, ?_⟩, List.forall_mem_cons.mpr ⟨hitem, hmembers⟩⟩
      · rcases List.mem_cons.mp hb with rfl | hb
        · exact fun hsame => hfirst hset ⟨a, ha, hsame⟩
        · exact (hrest hset).1 a (List.mem_append_left _ ha) b hb
      · exact List.pairwise_cons.mpr
          ⟨fun b hb => (hrest hset).1 item (by simp) b hb, (hrest hset).2⟩
    · rintro ⟨hdistinct, hmembers⟩
      obtain ⟨hitem, hmembers⟩ := List.forall_mem_cons.mp hmembers
      refine ⟨⟨fun hset => ?_, hitem⟩, fun hset => ?_, hmembers⟩
      · rintro ⟨a, ha, hsame⟩
        exact (hdistinct hset).1 a ha item List.mem_cons_self hsame
      · obtain ⟨hearlier, hpair⟩ := hdistinct hset
        obtain ⟨hhead, htail⟩ := List.pairwise_cons.mp hpair
        refine ⟨fun a ha b hb => ?_, htail⟩
        rcases List.mem_append.mp ha with ha | ha
        · exact hearlier a ha b (List.mem_cons_of_mem item hb)
        · obtain rfl := List.mem_singleton.mp ha
          exact hhead b hb

theorem collectionFindings_eq_nil_iff (hread : ∀ p ∈ s.pattern, p.IsRead) {items : List Json} :
    s.collectionFindings items = [] ↔ s.AllowsCollection items := by
  rw [collectionFindings, List.append_eq_nil_iff, List.map_eq_nil_iff, boundIssues_eq_nil_iff,
    memberFindings_eq_nil_iff hread]
  refine ⟨?_, ?_⟩
  · rintro ⟨size, distinct, members⟩
    exact ⟨size _ rfl, fun hset => (distinct hset).2, members⟩
  · rintro ⟨size, distinct, members⟩
    refine ⟨fun x hx => ?_, fun hset => ⟨by simp, distinct hset⟩, members⟩
    cases hx
    exact size

theorem ownFindings_eq_nil_iff (hread : ∀ p ∈ s.pattern, p.IsRead) {value : Json}
    (hkind : s.kind.admits value = true) : s.ownFindings value = [] ↔ s.Allows value := by
  by_cases hcoll : s.kind.isCollection = true
  · obtain ⟨items, rfl⟩ := Kind.eq_arr_of_admits hcoll hkind
    rw [ownFindings_collection hcoll, collectionFindings_eq_nil_iff hread]
    refine ⟨?_, ?_⟩
    · intro h
      refine ⟨hkind, fun hnot => absurd hcoll hnot, fun _ items' he => ?_⟩
      cases he
      exact h
    · intro h
      exact h.collection hcoll items rfl
  · rw [ownFindings_single hcoll, List.map_eq_nil_iff, single_issues_eq_nil_iff hread]
    refine ⟨?_, ?_⟩
    · intro h
      exact ⟨hkind, fun _ => h, fun hc => absurd hc hcoll⟩
    · intro h
      exact h.single hcoll

end Settings

/-! ### The schema inside -/

theorem itemFindings_eq_nil_iff {memberKind : Option Kind} {shape : Fields → List Finding}
    {P : Fields → Prop} (hshape : ∀ fields, shape fields = [] ↔ P fields) {item : Json}
    (hobject : memberKind = some .object → ∃ fields, item = .obj fields) :
    itemFindings memberKind shape item = [] ↔ ∃ fields, item = .obj fields ∧ P fields := by
  cases item with
  | obj fields => simp [itemFindings, hshape]
  | _ =>
    by_cases hm : memberKind = some .object
    · obtain ⟨fields, hf⟩ := hobject hm
      cases hf
    · simp [itemFindings, hm]

/-- The schema inside accepts a value if the shape inside it does, where the items of an array are
known to be objects if they must be. -/
theorem nestedFindings_eq_nil_iff {memberKind : Option Kind} {shape : Fields → List Finding}
    {P : Fields → Prop} (hshape : ∀ fields, shape fields = [] ↔ P fields) {value : Json}
    (hobjects : memberKind = some .object → ∀ items, value = .arr items →
      ∀ item ∈ items, ∃ fields, item = .obj fields) :
    nestedFindings memberKind shape value = [] ↔ ConformsInside P value := by
  cases value with
  | obj fields => exact hshape fields
  | arr items =>
    rw [nestedFindings, ConformsInside, List.flatMap_eq_nil_iff]
    simp only [List.map_eq_nil_iff]
    refine ⟨?_, ?_⟩
    · intro h item hitem
      obtain ⟨i, hi⟩ := List.mem_iff_getElem?.mp hitem
      have hfound := h (item, i) (List.mk_mem_zipIdx_iff_getElem?.mpr hi)
      exact (itemFindings_eq_nil_iff hshape fun hm => hobjects hm items rfl item hitem).mp hfound
    · rintro h ⟨item, i⟩ hmem
      have hitem := List.mem_of_getElem? (List.mk_mem_zipIdx_iff_getElem?.mp hmem)
      exact (itemFindings_eq_nil_iff hshape fun hm => hobjects hm items rfl item hitem).mpr
        (h item hitem)
  | _ => simp [nestedFindings, ConformsInside]

theorem Kind.exists_fields_of_admits {item : Json} (h : Kind.object.admits item = true) :
    ∃ fields, item = .obj fields := by
  cases item with
  | obj fields => exact ⟨fields, rfl⟩
  | _ => simp [Kind.admits] at h

theorem Settings.Allows.objects {s : Settings} {value : Json} (h : s.Allows value)
    (hcomposite : s.kind.isComposite = true) (hm : s.memberKind = some .object) :
    ∀ items, value = .arr items → ∀ item ∈ items, ∃ fields, item = .obj fields := by
  rintro items rfl item hitem
  have hcoll : s.kind.isCollection = true := by
    have hkind := h.kind
    cases hk : s.kind <;> simp_all [Kind.isComposite, Kind.isCollection, Kind.admits]
  have hmember := (h.collection hcoll items rfl).members item hitem
  exact Kind.exists_fields_of_admits (hmember.kind .object hm)

/-- **The check finds nothing exactly in the values that conform.** -/
theorem Rule.Regular.findings_eq_nil_iff {rule : Rule} (h : rule.Regular) (value : Option Json) :
    rule.findings value = [] ↔ rule.Conforms value := by
  induction h generalizing value with
  | @intro rule patterns composite inside ih =>
    have hschema : ∀ schema ∈ rule.nested, ∀ fields,
        schema.findings fields = [] ↔ schema.Conforms fields := by
      intro schema hs fields
      rw [Schema.findings_eq_nil_iff, Schema.conforms_iff]
      exact forall₂_congr fun p hp => ih schema hs p hp (fields.get? p.1)
    have hmissing : (if rule.settings.required then [Finding.here .missing] else []) = [] ↔
        rule.settings.required = false := by
      cases rule.settings.required <;> simp
    match value with
    | none => rw [findings_none, conforms_none, hmissing]
    | some value =>
      by_cases hnull : value = .null
      · rw [hnull, findings_null, findings_none, conforms_null, hmissing]
      · rw [conforms_some hnull]
        by_cases hkind : rule.settings.kind.admits value = true
        · rw [findings_of_admits hnull hkind, List.append_eq_nil_iff,
            Settings.ownFindings_eq_nil_iff patterns hkind]
          refine and_congr_right fun hallows => ?_
          rw [insideFindings]
          cases hn : rule.nested with
          | none => simp
          | some schema =>
            have hobjects := fun hm => hallows.objects (composite schema hn) hm
            simp [nestedFindings_eq_nil_iff (hschema schema hn) hobjects]
        · rw [findings_of_not_admits hnull hkind]
          refine iff_of_false (by simp) fun hconforms => hkind hconforms.1.kind

theorem Rule.WellFormed.regular {rule : Rule} (h : rule.WellFormed) : rule.Regular := by
  induction rule using Rule.induction with
  | step rule ih =>
    refine .intro h.patterns h.composite fun schema hs p hp => ?_
    exact ih schema hs p hp ((h.nested schema hs).rules p hp)

theorem Rule.WellFormed.conforms_fallback {rule : Rule} (h : rule.WellFormed) :
    ∀ value ∈ rule.settings.fallback, rule.Conforms (some value) := by
  intro value hvalue
  have hdefects := h.defaultDefects_eq_nil
  rw [defaultDefects, Option.mem_def.mp hvalue] at hdefects
  rw [← h.regular.findings_eq_nil_iff]
  exact List.map_eq_nil_iff.mp hdefects

/-! ### Reports -/

/-- **A rule that callers can make accepts exactly the values that conform to it**, under whatever
name they are reported. -/
theorem violations_eq_nil_iff_conforms {rule : Rule} (h : rule.Built) (name : String)
    (value : Option Json) : rule.violations name value = [] ↔ rule.Conforms value := by
  rw [Rule.violations, List.map_eq_nil_iff]
  exact h.wellFormed.regular.findings_eq_nil_iff value

/-! ### Lists of texts

The smallest rule in which a pattern is held against members. -/

/-- Lists of texts that begin with `a`. -/
def textList : Json :=
  .obj [("type", .str "list"), ("member_type", .str "string"), ("regex", .str "a")]

/-- The rule that is described by `textList`. -/
def textListRule : Rule :=
  ⟨{ kind := .list, memberKind := some .string,
     pattern := some ⟨"a", .atom (.char [(0x61, 0x61)])⟩ }, none⟩

theorem ofDescription_textList : Rule.ofDescription textList = .ok textListRule := by
  cbv

/-- A list of texts is accepted, and conforms, if its items begin with `a` or are empty. -/
theorem textListRule_conforms :
    textListRule.Built ∧ textListRule.Conforms (some (.arr [.str "ab", .str ""])) ∧
      ¬ textListRule.Conforms (some (.arr [.str "ab", .str "ba"])) := by
  have distinct : textList.DistinctNames := by
    simp [textList, Json.DistinctNames, Json.fieldsDistinct, Fields.names]
  have built : textListRule.Built := .described distinct ofDescription_textList
  refine ⟨built, ?_, ?_⟩
  · rw [← violations_eq_nil_iff_conforms built "value"]
    decide +kernel
  · rw [← violations_eq_nil_iff_conforms built "value"]
    decide +kernel

/-- The empty text is accepted as a member although no match of the pattern begins there. -/
theorem empty_member_accepted :
    Rule.ofDescription textList = .ok textListRule ∧
      textListRule.settings.memberKind = some .string ∧
      (∃ p ∈ textListRule.settings.pattern, ¬ p.MatchesAtStart "") ∧
      textListRule.violations "value" (some (.arr [.str ""])) = [] := by
  refine ⟨ofDescription_textList, rfl, ⟨_, rfl, ?_⟩, by decide +kernel⟩
  rintro ⟨j, hm⟩
  cases hm with
  | char at_i mem => simp at at_i

/-! ### Numbers next to a limit

The smallest rule in which a number is rounded to its limit.
-/

/-- Whole numbers up to `2 ^ 53`. -/
def smallNumbers : Json :=
  .obj [("type", .str "integer"), ("max", .num (.int 9007199254740992))]

/-- The rule that is described by `smallNumbers`. -/
def smallNumbersRule : Rule :=
  ⟨{ kind := .integer, most := some (.finite (.ofInt 9007199254740992)) }, none⟩

theorem ofDescription_smallNumbers : Rule.ofDescription smallNumbers = .ok smallNumbersRule :=
  rfl

/-- The first whole number that has no place of its own in binary64 is accepted although it exceeds
the limit, to which it is rounded. -/
theorem rounded_number_accepted :
    Rule.ofDescription smallNumbers = .ok smallNumbersRule ∧
      (9007199254740992 : Int) < 9007199254740993 ∧
      smallNumbersRule.violations "value" (some (.num (.int 9007199254740993))) = [] :=
  ⟨ofDescription_smallNumbers, by decide, by decide +kernel⟩

end RecordSchema
