import RecordSchema.Proofs.Rule.Acceptance
import RecordSchema.Proofs.Rule.Location

/-!
# Findings are genuine

`Place.Fails` says, for each kind of violation, what is wrong at a place when a violation of that
kind is reported there: which setting of the rule that governs the place does not hold of what
stands there.

`Schema.findings_genuine`: every finding of a schema lies at a place that its location leads to, and
what its kind says fails there.  The proof follows the check: an issue of a single value comes from
one of its settings, and the findings of the schema inside are found in the same way one step
further in.
-/

namespace RecordSchema

/-! ### What fails -/

/-- The measure lies on the wrong side of one of two limits. -/
def Side.Passes {α : Type} (lt : α → α → Bool) (least most : Option α) (x : α) : Side → Prop
  | .least => ∃ l ∈ least, lt x l = true
  | .most => ∃ m ∈ most, lt m x = true

namespace Settings

/-- The measure of a value, or the point in time that it denotes, passes a limit. -/
def FailsLimit (s : Settings) (side : Side) (value : Json) : Prop :=
  (∃ x, s.kind.measure? value = some x ∧ side.Passes Bound.lt s.least s.most (.finite x)) ∨
    ∃ text t, value = .str text ∧ s.kind.readPoint? text = some t ∧
      side.Passes Temporal.lt s.earliest s.latest t

/-- The measure of a member passes a limit on members. -/
def FailsMemberLimit (s : Settings) (side : Side) (item : Json) : Prop :=
  ∃ x, s.memberMeasure? item = some x ∧ side.Passes Bound.lt s.memberLeast s.memberMost (.finite x)

/-- What is wrong with a value of the right kind. -/
def FailsValue (s : Settings) (value : Json) : ViolationKind → Prop
  | .enum => ¬ s.kind.isCollection = true ∧ ¬ value.IsListed s.enumeration
  | .min => s.FailsLimit .least value
  | .max => s.FailsLimit .most value
  | .regex => ¬ s.kind.isCollection = true ∧ ¬ value.FitsPattern s.pattern
  | _ => False

/-- What is wrong with a member of a collection; the members before it are given. -/
def FailsMember (s : Settings) (earlier : List Json) (item : Json) : ViolationKind → Prop
  | .duplicate => s.kind = .set ∧ ∃ other ∈ earlier, other.sameLiteral item = true
  | .memberType => ∃ k ∈ s.memberKind, ¬ k.admits item = true
  | .memberEnum => ¬ item.IsListed s.enumeration
  | .memberMin => s.FailsMemberLimit .least item
  | .memberMax => s.FailsMemberLimit .most item
  | .memberRegex => s.memberKind = some .string ∧ ¬ item.FitsPattern s.pattern
  | _ => False

end Settings

/-- What is wrong at a place when a violation of a kind is reported there. -/
def Place.Fails : Place → ViolationKind → Prop
  | .value rule held, .required =>
    rule.settings.required = true ∧ (held = none ∨ held = some .null)
  | .value rule held, .type =>
    ∃ x, held = some x ∧ x ≠ .null ∧ ¬ rule.settings.kind.admits x = true
  | .value rule held, kind =>
    ∃ x, held = some x ∧ x ≠ .null ∧ rule.settings.kind.admits x = true ∧
      rule.settings.FailsValue x kind
  | .item rule items i, .type =>
    rule.settings.kind = .list ∧ rule.nested.isSome = true ∧
      rule.settings.memberKind ≠ some .object ∧
      ∃ item, items[i]? = some item ∧ ∀ fields, item ≠ .obj fields
  | .item rule items i, kind =>
    rule.settings.kind.isCollection = true ∧
      ∃ item, items[i]? = some item ∧ rule.settings.FailsMember (items.take i) item kind

/-! ### Issues -/

theorem Side.passes_of_mem_passedLimits {α : Type} {lt : α → α → Bool} {x limit : α}
    {least most : Option α} {side : Side} (h : (side, limit) ∈ passedLimits lt x least most) :
    side.Passes lt least most x := by
  rcases mem_passedLimits.mp h with ⟨rfl, hl, hlt⟩ | ⟨rfl, hm, hlt⟩
  · exact ⟨limit, hl, hlt⟩
  · exact ⟨limit, hm, hlt⟩

theorem not_isListed_of_mem {scope : Scope} {enumeration : Option (List Json)} {value : Json}
    {issue : Issue} (h : issue ∈ unlistedIssues scope enumeration value) :
    ¬ value.IsListed enumeration := by
  intro hlisted
  rw [unlistedIssues_eq_nil_iff.mpr hlisted] at h
  cases h

theorem not_fitsPattern_of_mem {scope : Scope} {pattern : Option Pattern} {value : Json}
    {issue : Issue} (hread : ∀ p ∈ pattern, p.IsRead)
    (h : issue ∈ patternIssues scope pattern value) : ¬ value.FitsPattern pattern := by
  intro hfits
  rw [(patternIssues_eq_nil_iff hread).mpr hfits] at h
  cases h

namespace Settings

variable {s : Settings}

theorem failsValue_of_mem_issues (hread : ∀ p ∈ s.pattern, p.IsRead)
    (hcoll : ¬ s.kind.isCollection = true) {value : Json} {issue : Issue}
    (h : issue ∈ s.facets.issues .value value) : s.FailsValue value issue.kind := by
  rcases Facets.mem_issues.mp h with h | h | h | h
  · have hnot := not_isListed_of_mem h
    obtain ⟨listed, -, -, rfl⟩ := mem_unlistedIssues.mp h
    exact ⟨hcoll, hnot⟩
  · obtain ⟨what, x, hmeasured, side, limit, hpassed, rfl⟩ := mem_boundIssues.mp h
    have hx : s.kind.measure? value = some x := by
      rw [← facets_measure, hmeasured]
      rfl
    have hfails : s.FailsLimit side value := Or.inl ⟨x, hx, side.passes_of_mem_passedLimits hpassed⟩
    cases side <;> exact hfails
  · obtain ⟨text, t, htext, hpoint, side, limit, hpassed, rfl⟩ := mem_pointIssues.mp h
    have hfails : s.FailsLimit side value :=
      Or.inr ⟨text, t, htext, hpoint, side.passes_of_mem_passedLimits hpassed⟩
    cases side <;> exact hfails
  · have hnot := not_fitsPattern_of_mem hread h
    obtain ⟨p, -, text, -, -, -, rfl⟩ := mem_patternIssues.mp h
    exact ⟨hcoll, hnot⟩

theorem failsValue_of_mem_sizeIssues (hcoll : s.kind.isCollection = true) {items : List Json}
    {issue : Issue} (h : issue ∈ boundIssues .value
      (some (.itemCount items.length, .ofNat items.length)) s.least s.most) :
    s.FailsValue (.arr items) issue.kind := by
  obtain ⟨what, x, hmeasured, side, limit, hpassed, rfl⟩ := mem_boundIssues.mp h
  cases hmeasured
  have hx : s.kind.measure? (.arr items) = some (.ofNat items.length) := by
    cases hk : s.kind <;> simp_all [Kind.isCollection, Kind.measure?, Kind.isNumeric,
      Kind.hasLength, Json.length?]
  have hfails : s.FailsLimit side (.arr items) :=
    Or.inl ⟨_, hx, side.passes_of_mem_passedLimits hpassed⟩
  cases side <;> exact hfails

theorem failsMember_of_mem_issues (hread : ∀ p ∈ s.pattern, p.IsRead) {earlier : List Json}
    {item : Json} {issue : Issue} (h : issue ∈ s.memberIssues earlier item) :
    s.FailsMember earlier item issue.kind := by
  rcases mem_memberIssues.mp h with ⟨hset, hamong, rfl⟩ | ⟨k, hk, hadmits, rfl⟩ | ⟨-, h⟩
  · exact ⟨hset, Json.isAmong_iff.mp hamong⟩
  · exact ⟨k, hk, hadmits⟩
  · rcases Facets.mem_issues.mp h with h | h | h | h
    · have hnot := not_isListed_of_mem h
      obtain ⟨listed, -, -, rfl⟩ := mem_unlistedIssues.mp h
      exact hnot
    · obtain ⟨what, x, hmeasured, side, limit, hpassed, rfl⟩ := mem_boundIssues.mp h
      have hx : s.memberMeasure? item = some x := by
        rw [← memberFacets_measure, hmeasured]
        rfl
      have hfails : s.FailsMemberLimit side item :=
        ⟨x, hx, side.passes_of_mem_passedLimits hpassed⟩
      cases side <;> exact hfails
    · obtain ⟨text, t, -, hpoint, -⟩ := mem_pointIssues.mp h
      cases hpoint
    · have hstring : s.memberKind = some .string := by
        by_contra hne
        simp [memberFacets, hne, patternIssues] at h
      have hpattern : s.memberFacets.pattern = s.pattern := if_pos hstring
      rw [hpattern] at h
      have hnot := not_fitsPattern_of_mem hread h
      obtain ⟨p, -, text, -, -, -, rfl⟩ := mem_patternIssues.mp h
      exact ⟨hstring, hnot⟩

theorem fails_of_mem_ownFindings (hread : ∀ p ∈ s.pattern, p.IsRead) {value : Json}
    (hkind : s.kind.admits value = true) {f : Finding} (h : f ∈ s.ownFindings value) :
    (f.location = [] ∧ s.FailsValue value f.issue.kind) ∨
      ∃ items i item, value = .arr items ∧ s.kind.isCollection = true ∧ items[i]? = some item ∧
        f.location = [.item i] ∧ s.FailsMember (items.take i) item f.issue.kind := by
  by_cases hcoll : s.kind.isCollection = true
  · obtain ⟨items, rfl⟩ := Kind.eq_arr_of_admits hcoll hkind
    rw [ownFindings_collection hcoll, collectionFindings, List.mem_append] at h
    rcases h with h | h
    · obtain ⟨issue, hissue, rfl⟩ := List.mem_map.mp h
      exact Or.inl ⟨rfl, failsValue_of_mem_sizeIssues hcoll hissue⟩
    · obtain ⟨i, item, hitem, issue, hissue, rfl⟩ := mem_memberFindings.mp h
      rw [List.nil_append] at hissue
      refine Or.inr ⟨items, i, item, rfl, hcoll, hitem, ?_, failsMember_of_mem_issues hread hissue⟩
      rw [List.length_nil, Nat.zero_add]
  · rw [ownFindings_single hcoll] at h
    obtain ⟨issue, hissue, rfl⟩ := List.mem_map.mp h
    exact Or.inl ⟨rfl, failsValue_of_mem_issues hread hcoll hissue⟩

end Settings

/-! ### Findings -/

theorem Place.fails_value {rule : Rule} {value : Json} {kind : ViolationKind}
    (present : value ≠ .null) (hkind : rule.settings.kind.admits value = true)
    (h : rule.settings.FailsValue value kind) : (Place.value rule (some value)).Fails kind := by
  cases kind with
  | required => exact absurd h id
  | type => exact absurd h id
  | _ => exact ⟨value, rfl, present, hkind, h⟩

theorem Place.fails_item {rule : Rule} {items : List Json} {i : Nat} {item : Json}
    {kind : ViolationKind} (hcoll : rule.settings.kind.isCollection = true)
    (at_i : items[i]? = some item) (h : rule.settings.FailsMember (items.take i) item kind) :
    (Place.item rule items i).Fails kind := by
  cases kind with
  | type => exact absurd h id
  | _ => exact ⟨hcoll, item, at_i, h⟩

theorem Rule.mem_insideFindings {rule : Rule} {value : Json} {f : Finding}
    (h : f ∈ rule.insideFindings value) : ∃ schema ∈ rule.nested,
      (∃ fields, value = .obj fields ∧ f ∈ schema.findings fields) ∨
      ∃ items i item, value = .arr items ∧ items[i]? = some item ∧
        ((∃ fields, item = .obj fields ∧ ∃ g ∈ schema.findings fields, f = g.under (.item i)) ∨
          ((∀ fields, item ≠ .obj fields) ∧ rule.settings.memberKind ≠ some .object ∧
            f = ⟨[.item i], .noObject item⟩)) := by
  rw [insideFindings] at h
  cases hn : rule.nested with
  | none =>
    rw [hn] at h
    cases h
  | some schema =>
    rw [hn] at h
    refine ⟨schema, rfl, ?_⟩
    cases value with
    | obj fields => exact Or.inl ⟨fields, rfl, h⟩
    | arr items =>
      obtain ⟨⟨item, i⟩, hmem, hf⟩ := List.mem_flatMap.mp h
      obtain ⟨g, hg, rfl⟩ := List.mem_map.mp hf
      refine Or.inr ⟨items, i, item, rfl, List.mk_mem_zipIdx_iff_getElem?.mp hmem, ?_⟩
      cases item with
      | obj fields => exact Or.inl ⟨fields, rfl, g, hg, rfl⟩
      | _ =>
        refine Or.inr ⟨by simp, ?_⟩
        by_cases hm : rule.settings.memberKind = some .object
        · simp [itemFindings, hm] at hg
        · simp only [itemFindings, hm, ↓reduceIte, List.mem_singleton] at hg
          subst hg
          exact ⟨hm, rfl⟩
    | _ => cases h

theorem Rule.WellFormed.kind_eq_list {rule : Rule} (h : rule.WellFormed) {schema : Schema}
    (hs : schema ∈ rule.nested) {items : List Json}
    (hkind : rule.settings.kind.admits (.arr items) = true) : rule.settings.kind = .list := by
  have hcomposite := h.composite schema hs
  cases hk : rule.settings.kind <;> simp_all [Kind.isComposite, Kind.admits]

theorem Schema.findings_genuine_of_rules {schema : Schema} (hs : schema.WellFormed)
    (ih : ∀ p ∈ schema.properties, ∀ (value : Option Json) (f : Finding), f ∈ p.2.findings value →
      ∃ place, p.2.Reaches value f.location place ∧ place.Fails f.issue.kind)
    {fields : Fields} {f : Finding} (h : f ∈ schema.findings fields) :
    ∃ place, schema.Reaches fields f.location place ∧ place.Fails f.issue.kind := by
  obtain ⟨p, hp, g, hg, rfl⟩ := Schema.mem_findings_iff.mp h
  obtain ⟨place, hreaches, hfails⟩ := ih p hp _ g hg
  exact ⟨place, .property ((lookup_eq_some_iff_mem hs.distinct).mpr hp) hreaches, hfails⟩

theorem Rule.ownFindings_genuine {rule : Rule} (h : rule.WellFormed) {value : Json}
    (hnull : value ≠ .null) (hkind : rule.settings.kind.admits value = true) {f : Finding}
    (hf : f ∈ rule.settings.ownFindings value) :
    ∃ place, rule.Reaches (some value) f.location place ∧ place.Fails f.issue.kind := by
  rcases Settings.fails_of_mem_ownFindings h.patterns hkind hf with
    ⟨hl, hfails⟩ | ⟨items, i, item, rfl, hcoll, hitem, hl, hfails⟩
  · rw [hl]
    exact ⟨_, .here, Place.fails_value hnull hkind hfails⟩
  · rw [hl]
    exact ⟨_, .item hkind hitem, Place.fails_item hcoll hitem hfails⟩

theorem Rule.insideFindings_genuine {rule : Rule} (h : rule.WellFormed) {value : Json}
    (hkind : rule.settings.kind.admits value = true)
    (ih : ∀ schema ∈ rule.nested, ∀ (fields : Fields) (f : Finding), f ∈ schema.findings fields →
      ∃ place, schema.Reaches fields f.location place ∧ place.Fails f.issue.kind)
    {f : Finding} (hf : f ∈ rule.insideFindings value) :
    ∃ place, rule.Reaches (some value) f.location place ∧ place.Fails f.issue.kind := by
  obtain ⟨schema, hs, hcase⟩ := mem_insideFindings hf
  rcases hcase with ⟨fields, rfl, hmem⟩ | ⟨items, i, item, rfl, hitem, hcase⟩
  · obtain ⟨place, hreaches, hfails⟩ := ih schema hs fields f hmem
    exact ⟨place, .inside hkind hs hreaches, hfails⟩
  · rcases hcase with ⟨fields, rfl, g, hg, rfl⟩ | ⟨hobject, hm, rfl⟩
    · obtain ⟨place, hreaches, hfails⟩ := ih schema hs fields g hg
      exact ⟨place, .element hkind hitem hs hreaches, hfails⟩
    · exact ⟨_, .item hkind hitem, h.kind_eq_list hs hkind, Option.isSome_of_mem hs, hm, item,
        hitem, hobject⟩

/-- Every finding of a rule lies at a place inside the value, where what its kind says fails. -/
theorem Rule.findings_genuine {rule : Rule} (h : rule.WellFormed) (value : Option Json)
    (f : Finding) (hf : f ∈ rule.findings value) :
    ∃ place, rule.Reaches value f.location place ∧ place.Fails f.issue.kind := by
  induction rule using Rule.induction generalizing value f with
  | step rule ih =>
    have hmissing : rule.settings.required = true ∧ f = .here .missing ↔
        f ∈ rule.findings none := by
      rw [rule.findings_none]
      cases rule.settings.required <;> simp
    match value with
    | none =>
      obtain ⟨hrequired, rfl⟩ := hmissing.mpr hf
      exact ⟨_, .here, hrequired, Or.inl rfl⟩
    | some value =>
      by_cases hnull : value = .null
      · subst hnull
        rw [rule.findings_null] at hf
        obtain ⟨hrequired, rfl⟩ := hmissing.mpr hf
        exact ⟨_, .here, hrequired, Or.inr rfl⟩
      by_cases hkind : rule.settings.kind.admits value = true
      · rw [findings_of_admits hnull hkind, List.mem_append] at hf
        rcases hf with hf | hf
        · exact ownFindings_genuine h hnull hkind hf
        · refine insideFindings_genuine h hkind (fun schema hs fields f hf => ?_) hf
          have hwell := h.nested schema hs
          exact Schema.findings_genuine_of_rules hwell
            (fun p hp value f => ih schema hs p hp (hwell.rules p hp) value f) hf
      · rw [findings_of_not_admits hnull hkind] at hf
        obtain rfl := List.mem_singleton.mp hf
        exact ⟨_, .here, value, rfl, hnull, hkind⟩

/-- **Every finding of a schema is genuine**: its location leads to a place, and what its kind says
fails there. -/
theorem Schema.findings_genuine {schema : Schema} (h : schema.WellFormed) {fields : Fields}
    {f : Finding} (hf : f ∈ schema.findings fields) :
    ∃ place, schema.Reaches fields f.location place ∧ place.Fails f.issue.kind :=
  Schema.findings_genuine_of_rules h
    (fun p hp value f hf => Rule.findings_genuine (h.rules p hp) value f hf) hf

end RecordSchema
