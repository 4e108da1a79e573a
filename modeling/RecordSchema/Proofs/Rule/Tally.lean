import RecordSchema.Proofs.Rule.Members

/-!
# How often a kind is reported

A report says where something was found by a path, which is a text.  The path of an index is the
path of no other place inside the array, however the properties are named
(`Location.pathFrom_item_iff`).  So the reports at it are those of the member there, and they can be
counted.

* `Facets.unlisted_reported_iff`, `Facets.outside_reported_iff`: what facets report of a value.
* `Rule.tally`: how often a kind is reported at a path of a value.
* `Rule.tally_value`: at the path of the value itself, each kind is reported for an issue of its
  facets.
* `Rule.tally_member`: at the path of an index, each kind is reported for an issue of the member.
-/

namespace RecordSchema

/-! ### Paths of indices -/

theorem PathStep.text_ne_empty (step : PathStep) : step.text ≠ "" := by
  cases step <;> simp [text]

/-- Every step is written, so only no steps at all are written as nothing. -/
theorem Location.textAfter_eq_empty_iff {location : Location} :
    location.textAfter = "" ↔ location = [] := by
  cases location with
  | nil => exact iff_of_true rfl rfl
  | cons step rest =>
    refine iff_of_false (fun h => ?_) (List.cons_ne_nil step rest)
    rw [textAfter, String.append_eq_empty_iff] at h
    exact step.text_ne_empty h.1

theorem bracket_notMem_toDigits (n : Nat) : ']' ∉ Nat.toDigits 10 n := by
  intro h
  have hdigit := Nat.isDigit_of_mem_toDigits (by decide) (by decide) h
  exact absurd hdigit (by decide)

/-- **The path of an index is the path of no other place inside the array.** -/
theorem Location.pathFrom_item_iff {root : String} {i j : Nat} {rest : Location} :
    Location.pathFrom root (.item j :: rest) = Path.index root i ↔ j = i ∧ rest = [] := by
  constructor
  · intro h
    have hpath : Location.pathFrom root (.item j :: rest) = Path.index root j ++ textAfter rest :=
      pathFrom_of_ne_empty (Path.index_ne_empty root j) rest
    -- The first closing bracket ends the index, and no digit is one.
    have hchars : Nat.toDigits 10 j ++ ']' :: (textAfter rest).toList =
        Nat.toDigits 10 i ++ ']' :: [] := by
      have htext := congrArg String.toList (hpath.symm.trans h)
      simpa [Path.index, Nat.toList_repr] using htext
    obtain ⟨hdigits, -, hrest⟩ := (List.append_cons_inj_of_notMem (bracket_notMem_toDigits i)
      List.not_mem_nil).mp hchars.symm
    refine ⟨?_, textAfter_eq_empty_iff.mp (String.toList_eq_nil_iff.mp hrest.symm)⟩
    rw [← @Nat.ofDigitChars_ten_toDigits j, ← hdigits, Nat.ofDigitChars_ten_toDigits]
  · rintro ⟨rfl, rfl⟩
    rfl

/-! ### Counting reports -/

/-- How often a kind is reported at a path of a value. -/
def Rule.tally (rule : Rule) (name : String) (value : Json) (path : String)
    (kind : ViolationKind) : Nat :=
  ((rule.violations name (some value)).map Violation.heading).count (path, kind)

/-- Where each kind is found at most once, it is reported once if it is found. -/
theorem count_kinds {issues : List Issue} (distinct : (issues.map Issue.kind).Nodup)
    {kind : ViolationKind} {reported : Prop} [Decidable reported]
    (h : (∃ issue ∈ issues, issue.kind = kind) ↔ reported) :
    (issues.map Issue.kind).count kind = if reported then 1 else 0 := by
  have hmem : kind ∈ issues.map Issue.kind ↔ reported := List.mem_map.trans h
  by_cases hreported : reported
  · rw [if_pos hreported, List.count_eq_one_of_mem distinct (hmem.mpr hreported)]
  · rw [if_neg hreported, List.count_eq_zero]
    exact fun hkind => hreported (hmem.mp hkind)

/-! ### What facets report -/

theorem Side.exists_passed_iff {α : Type} {lt : α → α → Bool} {x : α} {least most : Option α}
    {side : Side} :
    (∃ limit, (side, limit) ∈ passedLimits lt x least most) ↔ side.Passes lt least most x := by
  constructor
  · rintro ⟨limit, hpassed⟩
    exact side.passes_of_mem_passedLimits hpassed
  · intro hpasses
    cases side with
    | least =>
      obtain ⟨l, hl, hlt⟩ := hpasses
      exact ⟨l, mem_passedLimits.mpr (Or.inl ⟨rfl, hl, hlt⟩)⟩
    | most =>
      obtain ⟨m, hm, hlt⟩ := hpasses
      exact ⟨m, mem_passedLimits.mpr (Or.inr ⟨rfl, hm, hlt⟩)⟩

section

variable {scope : Scope} {value : Json} {f : Facets}

theorem Scope.limitKind_inj {side other : Side} (h : scope.limitKind side = scope.limitKind other) :
    side = other := by
  cases scope <;> cases side <;> cases other <;> first | rfl | cases h

theorem Facets.unlisted_reported_iff :
    (∃ issue ∈ f.issues scope value, issue.kind = scope.listKind) ↔
      ∃ listed ∈ f.enumeration, ¬ value.isAmong listed = true := by
  have hlimit (side : Side) : scope.limitKind side ≠ scope.listKind := by
    cases scope <;> cases side <;> decide
  constructor
  · rintro ⟨issue, hissue, hkind⟩
    rcases Facets.mem_issues.mp hissue with h | h | h | h
    · obtain ⟨listed, hlisted, hnot, -⟩ := mem_unlistedIssues.mp h
      exact ⟨listed, hlisted, hnot⟩
    · obtain ⟨_, _, -, side, _, -, rfl⟩ := mem_boundIssues.mp h
      exact absurd (outside_kind.symm.trans hkind) (hlimit side)
    · obtain ⟨_, _, -, -, side, _, -, rfl⟩ := mem_pointIssues.mp h
      exact absurd (outside_kind.symm.trans hkind) (hlimit side)
    · obtain ⟨_, -, _, -, -, -, rfl⟩ := mem_patternIssues.mp h
      cases scope <;> cases hkind
  · rintro ⟨listed, hlisted, hnot⟩
    refine ⟨.unlisted scope value listed, ?_, by cases scope <;> rfl⟩
    exact Facets.mem_issues.mpr (Or.inl (mem_unlistedIssues.mpr ⟨listed, hlisted, hnot, rfl⟩))

theorem Facets.outside_reported_iff {n : Number} (measured : f.gauge = .number) {side : Side} :
    (∃ issue ∈ f.issues scope (.num n), issue.kind = scope.limitKind side) ↔
      side.Passes Bound.lt f.least f.most (.finite n.toBinary64) := by
  have hmeasure : f.gauge.measure? (.num n) = some (.number (.num n), n.toBinary64) := by
    rw [measured]
    rfl
  constructor
  · rintro ⟨issue, hissue, hkind⟩
    rcases Facets.mem_issues.mp hissue with h | h | h | h
    · obtain ⟨_, -, -, rfl⟩ := mem_unlistedIssues.mp h
      cases scope <;> cases side <;> cases hkind
    · obtain ⟨what, measure, hwhat, other, limit, hpassed, rfl⟩ := mem_boundIssues.mp h
      rw [hmeasure] at hwhat
      cases hwhat
      rw [outside_kind] at hkind
      rw [← Scope.limitKind_inj hkind]
      exact other.passes_of_mem_passedLimits hpassed
    · obtain ⟨_, _, hvalue, -⟩ := mem_pointIssues.mp h
      cases hvalue
    · obtain ⟨_, -, _, hvalue, -⟩ := mem_patternIssues.mp h
      cases hvalue
  · intro hpasses
    obtain ⟨limit, hpassed⟩ := Side.exists_passed_iff.mpr hpasses
    refine ⟨.outside scope side (.number (.num n)) (.bound limit), ?_, outside_kind⟩
    exact Facets.mem_issues.mpr (Or.inr (Or.inl (mem_boundIssues.mpr
      ⟨_, _, hmeasure, side, limit, hpassed, rfl⟩)))

/-- Of a member of the right kind, the issues of its facets are reported, besides that it may be a
duplicate. -/
theorem Settings.member_reported_iff {s : Settings} {earlier : List Json} {item : Json}
    {kind : ViolationKind} (admitted : ∀ k ∈ s.memberKind, k.admits item = true)
    (other : kind ≠ .duplicate) :
    (∃ issue ∈ s.memberIssues earlier item, issue.kind = kind) ↔
      ∃ issue ∈ s.memberFacets.issues .member item, issue.kind = kind := by
  constructor
  · rintro ⟨issue, hissue, hkind⟩
    rcases Settings.mem_memberIssues.mp hissue with ⟨-, -, rfl⟩ | ⟨k, hk, hnot, -⟩ | ⟨-, h⟩
    · exact absurd hkind.symm other
    · exact absurd (admitted k hk) hnot
    · exact ⟨issue, h, hkind⟩
  · rintro ⟨issue, hissue, hkind⟩
    exact ⟨issue, Settings.mem_memberIssues.mpr (Or.inr (Or.inr ⟨admitted, hissue⟩)), hkind⟩

theorem Settings.duplicate_reported_iff {s : Settings} {earlier : List Json} {item : Json} :
    (∃ issue ∈ s.memberIssues earlier item, issue.kind = .duplicate) ↔
      s.kind = .set ∧ item.isAmong earlier = true := by
  constructor
  · rintro ⟨issue, hissue, hkind⟩
    obtain ⟨other, rfl⟩ := Issue.eq_duplicate_of_kind hkind
    rcases Settings.mem_memberIssues.mp hissue with ⟨hset, hamong, -⟩ | ⟨_, -, -, he⟩ | ⟨-, h⟩
    · exact ⟨hset, hamong⟩
    · cases he
    · exact absurd rfl (Facets.ne_duplicate_of_mem_issues h other)
  · rintro ⟨hset, hamong⟩
    exact ⟨_, Settings.mem_memberIssues.mpr (Or.inl ⟨hset, hamong, rfl⟩), rfl⟩

end

/-! ### What is reported at a path -/

theorem Kind.admits_arr {k : Kind} (h : k.isCollection = true) (items : List Json) :
    k.admits (.arr items) = true := by
  cases k <;> first | rfl | cases h

namespace Rule

variable {rule : Rule}

theorem nested_eq_none (accepted : rule.definitionViolations = [])
    (h : rule.settings.kind ∉ [Kind.object, .list]) : rule.nested = none := by
  obtain ⟨-, htakes, -⟩ := defects_eq_nil_iff.mp (List.map_eq_nil_iff.mp accepted)
  by_contra hne
  rcases htakes (Option.isSome_iff_ne_none.mpr hne) with hobject | ⟨hlist, -⟩
  · exact h (List.mem_pair.mpr (Or.inl hobject))
  · exact h (List.mem_pair.mpr (Or.inr hlist))

section

variable (single : ¬ rule.settings.kind.isCollection = true) (plain : rule.nested = none)
  {value : Json} (present : value ≠ .null) (admitted : rule.settings.kind.admits value = true)
include single plain present admitted

theorem findings_value : rule.findings (some value) =
    (rule.settings.facets.issues .value value).map Finding.here := by
  rw [findings_of_admits present admitted, Settings.ownFindings_single single, insideFindings,
    plain, List.append_nil]

theorem tally_value (name : String) (kind : ViolationKind) :
    rule.tally name value name kind =
      ((rule.settings.facets.issues .value value).map Issue.kind).count kind := by
  have hheadings : (rule.violations name (some value)).map Violation.heading =
      ((rule.settings.facets.issues .value value).map Issue.kind).map (Prod.mk name) := by
    rw [violations, findings_value single plain present admitted, List.map_map, List.map_map,
      List.map_map]
    rfl
  rw [tally, hheadings, List.count_map_of_injective _ _ (Prod.mk_right_injective name)]

end

theorem location_of_mem_findings_arr {items : List Json} {f : Finding}
    (members : rule.settings.kind.isCollection = true)
    (h : f ∈ rule.findings (some (.arr items))) :
    f.location = [] ∨ ∃ i rest, f.location = .item i :: rest := by
  have admitted : rule.settings.kind.admits (.arr items) = true := Kind.admits_arr members items
  rw [findings_of_admits (by simp) admitted, Settings.ownFindings_collection members,
    Settings.collectionFindings, List.mem_append, List.mem_append] at h
  rcases h with (h | h) | h
  · obtain ⟨issue, -, rfl⟩ := List.mem_map.mp h
    exact Or.inl rfl
  · obtain ⟨i, item, -, issue, -, rfl⟩ := Settings.mem_memberFindings.mp h
    exact Or.inr ⟨_, [], rfl⟩
  · obtain ⟨schema, -, hinside⟩ := mem_insideFindings h
    rcases hinside with ⟨fields, he, -⟩ | ⟨_, i, _, -, -, ⟨_, -, g, -, rfl⟩ | ⟨-, -, rfl⟩⟩
    · cases he
    · exact Or.inr ⟨i, g.location, rfl⟩
    · exact Or.inr ⟨i, [], rfl⟩

theorem pathFrom_eq_index_iff {items : List Json} {f : Finding}
    (members : rule.settings.kind.isCollection = true)
    (h : f ∈ rule.findings (some (.arr items))) (name : String) (i : Nat) :
    f.location.pathFrom name = Path.index name i ↔ f.location = [.item i] := by
  rcases location_of_mem_findings_arr members h with hl | ⟨j, rest, hl⟩
  · rw [hl]
    refine iff_of_false (fun hpath => ?_) (by simp)
    have hlength := congrArg String.length hpath
    have hbracket : "[".length = 1 := rfl
    simp [Location.pathFrom, Path.index] at hlength
    omega
  · rw [hl, Location.pathFrom_item_iff]
    simp

/-- **What is reported at the path of an index is what is wrong with the member there.**  Only of
the wrong type an item may also be found by the schema inside. -/
theorem tally_member (members : rule.settings.kind.isCollection = true) {items : List Json}
    {i : Nat} {item : Json} (at_i : items[i]? = some item) {kind : ViolationKind}
    (other : kind ≠ .type) (name : String) :
    rule.tally name (.arr items) (Path.index name i) kind =
      ((rule.settings.memberIssues (items.take i) item).map Issue.kind).count kind := by
  have admitted : rule.settings.kind.admits (.arr items) = true := Kind.admits_arr members items
  have hfindings : rule.findings (some (.arr items)) =
      (boundIssues .value (some (.itemCount items.length, .ofNat items.length))
          rule.settings.least rule.settings.most).map Finding.here ++
        rule.settings.memberFindings [] items ++ rule.insideFindings (.arr items) := by
    rw [findings_of_admits (by simp) admitted, Settings.ownFindings_collection members,
      Settings.collectionFindings]
  -- Reports are counted as findings at the index.
  have hkeys : rule.tally name (.arr items) (Path.index name i) kind =
      (rule.findings (some (.arr items))).countP fun f =>
        f.issue.kind == kind && f.location == [.item i] := by
    rw [tally, violations, List.map_map, List.count, List.countP_map]
    refine List.countP_congr fun f hf => ?_
    have hpath := pathFrom_eq_index_iff members hf name i
    simp [Finding.heading_violation, hpath, and_comm]
  have hsize : ((boundIssues .value (some (.itemCount items.length, .ofNat items.length))
      rule.settings.least rule.settings.most).map Finding.here).countP (fun f =>
        f.issue.kind == kind && f.location == [.item i]) = 0 := by
    rw [List.countP_eq_zero]
    intro f hf
    obtain ⟨issue, -, rfl⟩ := List.mem_map.mp hf
    simp [Finding.here]
  have hinside : (rule.insideFindings (.arr items)).countP (fun f =>
      f.issue.kind == kind && f.location == [.item i]) = 0 := by
    rw [List.countP_eq_zero]
    intro f hf hat
    obtain ⟨hkind, hl⟩ : f.issue.kind = kind ∧ f.location = [.item i] := by simpa using hat
    obtain ⟨schema, -, hcase⟩ := mem_insideFindings hf
    rcases hcase with ⟨fields, he, -⟩ | ⟨_, j, _, -, -, ⟨_, -, g, hg, rfl⟩ | ⟨-, -, rfl⟩⟩
    · cases he
    · obtain ⟨property, rest, hname⟩ := Schema.exists_name_of_mem_findings hg
      rw [Finding.under, hname] at hl
      cases hl
    · exact other hkind.symm
  have hmember : (rule.settings.memberFindings [] items).countP (fun f =>
      f.issue.kind == kind && f.location == [.item i]) =
        ((rule.settings.memberIssues (items.take i) item).map Issue.kind).count kind := by
    have hat := @Settings.memberFindings_at rule.settings [] item items i at_i
    rw [List.length_nil, Nat.zero_add, List.nil_append] at hat
    rw [← List.countP_filter, hat, List.count, List.countP_map, List.countP_map]
    rfl
  rw [hkeys, hfindings, List.countP_append, List.countP_append, hsize, hinside, hmember,
    Nat.zero_add, Nat.add_zero]

end Rule

end RecordSchema
