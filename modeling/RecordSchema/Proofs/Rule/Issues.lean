import RecordSchema.Proofs.Rule.Structure

/-!
# The issues of one value

Each setting looks at a value on its own and gives a list of issues.  For every such list this file
says what is in it, and so when it is empty.

* `mem_unlistedIssues`, `mem_boundIssues`, `mem_pointIssues`, `mem_patternIssues`: the issues of one
  setting.
* `Facets.mem_issues`: the issues of all of them together.
-/

namespace RecordSchema

theorem Json.isAmong_iff {value : Json} {listed : List Json} :
    value.isAmong listed = true ↔ ∃ l ∈ listed, l.sameLiteral value = true := by
  rw [Json.isAmong, List.any_eq_true]

theorem mem_passedLimits {α : Type} {lt : α → α → Bool} {x : α} {least most : Option α}
    {side : Side} {limit : α} :
    (side, limit) ∈ passedLimits lt x least most ↔
      (side = .least ∧ limit ∈ least ∧ lt x limit = true) ∨
        (side = .most ∧ limit ∈ most ∧ lt limit x = true) := by
  simp only [passedLimits, List.mem_append, List.mem_map, Option.mem_toList,
    Option.mem_def, Option.filter_eq_some_iff, Prod.mk.injEq]
  refine ⟨?_, ?_⟩
  · rintro (⟨l, ⟨hl, hlt⟩, rfl, rfl⟩ | ⟨l, ⟨hl, hlt⟩, rfl, rfl⟩)
    · exact Or.inl ⟨rfl, hl, hlt⟩
    · exact Or.inr ⟨rfl, hl, hlt⟩
  · rintro (⟨rfl, hl, hlt⟩ | ⟨rfl, hl, hlt⟩)
    · exact Or.inl ⟨limit, ⟨hl, hlt⟩, rfl, rfl⟩
    · exact Or.inr ⟨limit, ⟨hl, hlt⟩, rfl, rfl⟩

section

variable {scope : Scope} {value : Json} {issue : Issue}

theorem mem_unlistedIssues {enumeration : Option (List Json)} :
    issue ∈ unlistedIssues scope enumeration value ↔
      ∃ listed ∈ enumeration, ¬ value.isAmong listed = true ∧
        issue = .unlisted scope value listed := by
  cases enumeration with
  | none => simp [unlistedIssues]
  | some listed =>
    rw [unlistedIssues]
    split <;> simp_all

theorem mem_boundIssues {measured : Option (Measured × Binary64)} {least most : Option Bound} :
    issue ∈ boundIssues scope measured least most ↔
      ∃ what measure, measured = some (what, measure) ∧ ∃ side limit,
        (side, limit) ∈ passedLimits Bound.lt (.finite measure) least most ∧
          issue = .outside scope side what (.bound limit) := by
  match measured with
  | none => simp [boundIssues]
  | some (what, measure) =>
    simp only [boundIssues, List.mem_map, Prod.exists, Option.some.injEq, Prod.mk.injEq]
    refine ⟨?_, ?_⟩
    · rintro ⟨side, limit, hmem, rfl⟩
      exact ⟨what, measure, ⟨rfl, rfl⟩, side, limit, hmem, rfl⟩
    · rintro ⟨_, _, ⟨rfl, rfl⟩, side, limit, hmem, rfl⟩
      exact ⟨side, limit, hmem, rfl⟩

theorem mem_pointIssues {scale : Option Scale} {earliest latest : Option Temporal} :
    issue ∈ pointIssues scope scale earliest latest value ↔
      ∃ text point, value = .str text ∧ scale.bind (Temporal.read? · text) = some point ∧
        ∃ side limit, (side, limit) ∈ passedLimits Temporal.lt point earliest latest ∧
          issue = .outside scope side (.point value) (.point limit) := by
  cases scale with
  | none => simp [pointIssues]
  | some scale =>
    cases value with
    | str text =>
      simp only [pointIssues, Json.str.injEq, Option.bind_some]
      cases hread : Temporal.read? scale text with
      | none =>
        simp only [List.not_mem_nil, false_iff]
        rintro ⟨_, _, rfl, h, _⟩
        rw [hread] at h
        cases h
      | some point =>
        simp only [List.mem_map, Prod.exists]
        refine ⟨?_, ?_⟩
        · rintro ⟨side, limit, hmem, rfl⟩
          exact ⟨text, point, rfl, hread, side, limit, hmem, rfl⟩
        · rintro ⟨_, _, rfl, h, side, limit, hmem, rfl⟩
          rw [hread] at h
          cases h
          exact ⟨side, limit, hmem, rfl⟩
    | _ => simp [pointIssues]

theorem mem_patternIssues {pattern : Option Pattern} :
    issue ∈ patternIssues scope pattern value ↔
      ∃ p ∈ pattern, ∃ text, value = .str text ∧ text ≠ "" ∧ ¬ p.matchesStart text = true ∧
        issue = .unmatched scope value p.source := by
  cases pattern with
  | none => simp [patternIssues]
  | some p =>
    cases value with
    | str text =>
      rw [patternIssues]
      by_cases hempty : text = ""
      · simp [hempty]
      · by_cases hmatch : p.matchesStart text = true <;> simp [hempty, hmatch]
    | _ => simp [patternIssues]

theorem Facets.mem_issues {f : Facets} :
    issue ∈ f.issues scope value ↔
      issue ∈ unlistedIssues scope f.enumeration value ∨
        issue ∈ boundIssues scope (f.gauge.measure? value) f.least f.most ∨
        issue ∈ pointIssues scope f.scale f.earliest f.latest value ∨
        issue ∈ patternIssues scope f.pattern value := by
  rw [Facets.issues, List.mem_append, List.mem_append, List.mem_append, or_assoc, or_assoc]

end

/-! ### Members -/

namespace Settings

variable {s : Settings}

theorem mem_memberFindings {earlier items : List Json} {f : Finding} :
    f ∈ s.memberFindings earlier items ↔
      ∃ i item, items[i]? = some item ∧
        ∃ issue ∈ s.memberIssues (earlier ++ items.take i) item,
          f = ⟨[.item (earlier.length + i)], issue⟩ := by
  induction items generalizing earlier with
  | nil => simp [memberFindings]
  | cons item rest ih =>
    rw [memberFindings, List.mem_append, ih, List.mem_map]
    refine ⟨?_, ?_⟩
    · rintro (⟨issue, hissue, rfl⟩ | ⟨i, item', hitem, issue, hissue, rfl⟩)
      · exact ⟨0, item, rfl, issue, by simpa using hissue, rfl⟩
      · refine ⟨i + 1, item', by simpa using hitem, issue, by simpa using hissue, ?_⟩
        rw [List.length_append, List.length_singleton, Nat.add_assoc, Nat.add_comm 1 i]
    · rintro ⟨i, item', hitem, issue, hissue, rfl⟩
      cases i with
      | zero =>
        cases hitem
        exact Or.inl ⟨issue, by simpa using hissue, rfl⟩
      | succ i =>
        refine Or.inr ⟨i, item', by simpa using hitem, issue, by simpa using hissue, ?_⟩
        rw [List.length_append, List.length_singleton, Nat.add_assoc, Nat.add_comm 1 i]

theorem mem_memberIssues {earlier : List Json} {item : Json} {issue : Issue} :
    issue ∈ s.memberIssues earlier item ↔
      (s.kind = .set ∧ item.isAmong earlier = true ∧ issue = .duplicate item) ∨
        (∃ kind ∈ s.memberKind, ¬ kind.admits item = true ∧ issue = .wrongMemberKind kind item) ∨
        ((∀ kind ∈ s.memberKind, kind.admits item = true) ∧
          issue ∈ s.memberFacets.issues .member item) := by
  have hrepeated : issue ∈ (if s.kind = .set ∧ item.isAmong earlier then [Issue.duplicate item]
      else []) ↔ s.kind = .set ∧ item.isAmong earlier = true ∧ issue = .duplicate item := by
    split <;> simp_all
  rw [memberIssues, List.mem_append, hrepeated]
  refine or_congr Iff.rfl ?_
  cases s.memberKind with
  | none => simp
  | some kind => by_cases h : kind.admits item = true <;> simp [h]

end Settings

end RecordSchema
