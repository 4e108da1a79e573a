import RecordSchema.Proofs.Rule.Genuine

/-!
# Each violation is reported once

`Finding.key` is the location of a finding and the kind of its violation, and no two findings share
it (`Schema.findings_keys_nodup`).  At one place the settings report in a fixed order of kinds, each
at most once, since no kind of values has both a measure and a point in time; different places have
different locations.  An item of an array is looked at twice, as a member and by the schema inside,
and only the latter reports it as of the wrong kind itself.

`violations_genuine` puts this together with what is known of single findings.
-/

namespace RecordSchema

/-! ### Kinds at one place -/

namespace Scope

/-- The kind that reports a passed limit. -/
def limitKind : Scope → Side → ViolationKind
  | .value, .least => .min
  | .value, .most => .max
  | .member, .least => .memberMin
  | .member, .most => .memberMax

/-- The kind that reports a value that is not listed. -/
def listKind : Scope → ViolationKind
  | .value => .enum
  | .member => .memberEnum

/-- The kind that reports a text that does not match. -/
def patternKind : Scope → ViolationKind
  | .value => .regex
  | .member => .memberRegex

end Scope

section

variable {scope : Scope} {value : Json}

theorem unlistedIssues_kinds {enumeration : Option (List Json)} :
    ((unlistedIssues scope enumeration value).map Issue.kind).Sublist [scope.listKind] := by
  cases enumeration with
  | none => simp [unlistedIssues]
  | some listed =>
    rw [unlistedIssues]
    cases scope <;> cases value.isAmong listed <;> simp [Scope.listKind, Issue.kind]

theorem patternIssues_kinds {pattern : Option Pattern} :
    ((patternIssues scope pattern value).map Issue.kind).Sublist [scope.patternKind] := by
  cases pattern with
  | none => simp [patternIssues]
  | some pattern =>
    cases value with
    | str text =>
      rw [patternIssues]
      cases scope <;> cases text.isEmpty || pattern.matchesStart text <;>
        simp [Scope.patternKind, Issue.kind]
    | _ => simp [patternIssues]

theorem passedLimits_kinds {α : Type} {lt : α → α → Bool} {x : α} {least most : Option α}
    {make : Side × α → Issue} (hmake : ∀ p, (make p).kind = scope.limitKind p.1) :
    (((passedLimits lt x least most).map make).map Issue.kind).Sublist
      [scope.limitKind .least, scope.limitKind .most] := by
  have hside (side : Side) (limit : Option α) :
      (((limit.toList.map (Prod.mk side)).map make).map Issue.kind).Sublist
        [scope.limitKind side] := by
    cases limit with
    | none => simp
    | some l => simp [hmake]
  rw [passedLimits, List.map_append, List.map_append]
  exact (hside .least _).append (hside .most _)

theorem outside_kind {side : Side} {measured : Measured} {limit : Limit} :
    (Issue.outside scope side measured limit).kind = scope.limitKind side := by
  cases scope <;> cases side <;> rfl

theorem boundIssues_kinds {measured : Option (Measured × Binary64)} {least most : Option Bound} :
    ((boundIssues scope measured least most).map Issue.kind).Sublist
      [scope.limitKind .least, scope.limitKind .most] := by
  match measured with
  | none => simp [boundIssues]
  | some (what, measure) => exact passedLimits_kinds fun _ => outside_kind

theorem pointIssues_kinds {scale : Option Scale} {earliest latest : Option Temporal} :
    ((pointIssues scope scale earliest latest value).map Issue.kind).Sublist
      [scope.limitKind .least, scope.limitKind .most] := by
  cases scale with
  | none => simp [pointIssues]
  | some scale =>
    cases value with
    | str text =>
      rw [pointIssues]
      cases Temporal.read? scale text with
      | none => simp
      | some point => exact passedLimits_kinds fun _ => outside_kind
    | _ => simp [pointIssues]

/-- The facets of a value report in a fixed order of kinds.  Only one of its measure and its point
in time is held against limits. -/
theorem Facets.issues_kinds {f : Facets} (h : f.gauge = .nothing ∨ f.scale = none) :
    ((f.issues scope value).map Issue.kind).Sublist
      [scope.listKind, scope.limitKind .least, scope.limitKind .most, scope.patternKind] := by
  have hlimits : ((boundIssues scope (f.gauge.measure? value) f.least f.most ++
      pointIssues scope f.scale f.earliest f.latest value).map Issue.kind).Sublist
      [scope.limitKind .least, scope.limitKind .most] := by
    rcases h with h | h
    · rw [h, Gauge.measure?, boundIssues, List.nil_append]
      exact pointIssues_kinds
    · rw [h, pointIssues, List.append_nil]
      · exact boundIssues_kinds
      · simp
  rw [issues, List.append_assoc, List.append_assoc, List.map_append, ← List.append_assoc,
    List.map_append]
  exact unlistedIssues_kinds.append (hlimits.append patternIssues_kinds)

end

namespace Settings

variable {s : Settings}

theorem facets_kinds {value : Json} :
    ((s.facets.issues .value value).map Issue.kind).Sublist [.enum, .min, .max, .regex] := by
  have h : s.facets.gauge = .nothing ∨ s.facets.scale = none := by
    rw [facets]
    cases s.kind <;> simp [Kind.isNumeric, Kind.hasLength, Kind.scale?]
  exact Facets.issues_kinds h

theorem facets_kinds_nodup {value : Json} :
    ((s.facets.issues .value value).map Issue.kind).Nodup :=
  facets_kinds.nodup (by decide)

theorem memberIssues_kinds_nodup {earlier : List Json} {item : Json} :
    ((s.memberIssues earlier item).map Issue.kind).Nodup := by
  have hfacets : ((s.memberFacets.issues .member item).map Issue.kind).Sublist
      [.memberType, .memberEnum, .memberMin, .memberMax, .memberRegex] :=
    List.Sublist.cons _ (Facets.issues_kinds (Or.inr rfl))
  have hrepeated : ((if s.kind = .set ∧ item.isAmong earlier then [Issue.duplicate item]
      else []).map Issue.kind).Sublist [.duplicate] := by
    split <;> simp [Issue.kind]
  have hsublist : ((s.memberIssues earlier item).map Issue.kind).Sublist
      ([.duplicate] ++ [.memberType, .memberEnum, .memberMin, .memberMax, .memberRegex]) := by
    rw [memberIssues, List.map_append]
    refine hrepeated.append ?_
    cases s.memberKind with
    | none => exact hfacets
    | some kind =>
      dsimp only
      split
      · exact hfacets
      · simp [Issue.kind]
  exact hsublist.nodup (by decide)

end Settings

/-! ### Keys -/

/-- Where a finding is, and the kind of violation that reports it. -/
def Finding.key (f : Finding) : Location × ViolationKind :=
  (f.location, f.issue.kind)

theorem nodup_keys_of_kinds {issues : List Issue} (h : (issues.map Issue.kind).Nodup)
    (location : Location) :
    ((issues.map fun issue => (⟨location, issue⟩ : Finding)).map Finding.key).Nodup := by
  have hkeys := h.map (f := fun kind => (location, kind)) fun a b hab => (Prod.mk.inj hab).2
  rw [List.map_map] at hkeys ⊢
  exact hkeys

theorem nodup_keys_under {findings : List Finding} (h : (findings.map Finding.key).Nodup)
    (step : PathStep) : ((findings.map (Finding.under step)).map Finding.key).Nodup := by
  have hkeys := h.map (f := fun key => (step :: key.1, key.2)) fun a b hab => by
    obtain ⟨hlocation, hkind⟩ := Prod.mk.inj hab
    exact Prod.ext (List.cons.inj hlocation).2 hkind
  rw [List.map_map] at hkeys ⊢
  exact hkeys

theorem disjoint_keys {findings others : List Finding}
    (h : ∀ f ∈ findings, ∀ g ∈ others, f.key ≠ g.key) :
    List.Disjoint (findings.map Finding.key) (others.map Finding.key) := by
  intro key hkey hother
  obtain ⟨f, hf, rfl⟩ := List.mem_map.mp hkey
  obtain ⟨g, hg, he⟩ := List.mem_map.mp hother
  exact h f hf g hg he.symm

theorem disjoint_keys_under {findings others : List Finding} {step other : PathStep}
    (h : step ≠ other) :
    List.Disjoint ((findings.map (Finding.under step)).map Finding.key)
      ((others.map (Finding.under other)).map Finding.key) := by
  refine disjoint_keys fun _ hmem _ hother hkey => ?_
  obtain ⟨f, -, rfl⟩ := List.mem_map.mp hmem
  obtain ⟨g, -, rfl⟩ := List.mem_map.mp hother
  exact h (List.cons.inj (Prod.mk.inj hkey).1).1

namespace Settings

variable {s : Settings}

/-- Each member is looked at once, at its own index. -/
theorem memberFindings_keys_nodup {earlier items : List Json} :
    ((s.memberFindings earlier items).map Finding.key).Nodup := by
  induction items generalizing earlier with
  | nil => exact List.nodup_nil
  | cons item rest ih =>
    rw [memberFindings, List.map_append, List.nodup_append']
    refine ⟨nodup_keys_of_kinds memberIssues_kinds_nodup _, ih, ?_⟩
    refine disjoint_keys fun _ hmem _ hother hkey => ?_
    obtain ⟨issue, -, rfl⟩ := List.mem_map.mp hmem
    obtain ⟨i, _, _, _, _, rfl⟩ := mem_memberFindings.mp hother
    have hlocation := (Prod.mk.inj hkey).1
    rw [List.length_append, List.length_singleton] at hlocation
    simp only [List.cons.injEq, PathStep.item.injEq, and_true] at hlocation
    omega

theorem ownFindings_keys_nodup {value : Json} (hkind : s.kind.admits value = true) :
    ((s.ownFindings value).map Finding.key).Nodup := by
  by_cases hcoll : s.kind.isCollection = true
  · obtain ⟨items, rfl⟩ := Kind.eq_arr_of_admits hcoll hkind
    rw [ownFindings_collection hcoll, collectionFindings, List.map_append, List.nodup_append']
    refine ⟨nodup_keys_of_kinds (boundIssues_kinds.nodup (by decide)) [],
      memberFindings_keys_nodup, ?_⟩
    refine disjoint_keys fun _ hmem _ hother hkey => ?_
    obtain ⟨issue, -, rfl⟩ := List.mem_map.mp hmem
    obtain ⟨i, _, _, _, _, rfl⟩ := mem_memberFindings.mp hother
    cases (Prod.mk.inj hkey).1
  · rw [ownFindings_single hcoll]
    exact nodup_keys_of_kinds facets_kinds_nodup []

end Settings

/-! ### Rules and schemas -/

theorem Schema.exists_name_of_mem_findings {schema : Schema} {fields : Fields} {f : Finding}
    (h : f ∈ schema.findings fields) : ∃ name rest, f.location = .property name :: rest := by
  obtain ⟨p, -, g, -, rfl⟩ := Schema.mem_findings_iff.mp h
  exact ⟨p.1, g.location, rfl⟩

theorem Schema.findings_keys_nodup_of_rules {schema : Schema} (distinct : schema.names.Nodup)
    (ih : ∀ p ∈ schema.properties, ∀ value : Option Json,
      ((p.2.findings value).map Finding.key).Nodup) (fields : Fields) :
    ((schema.findings fields).map Finding.key).Nodup := by
  rw [Schema.findings_eq, List.map_flatMap, List.nodup_flatMap]
  refine ⟨fun p hp => nodup_keys_under (ih p hp _) _, ?_⟩
  refine (List.pairwise_map.mp distinct).imp fun {p q} hne => disjoint_keys_under ?_
  exact fun he => hne (PathStep.property.inj he)

/-- The schema inside looks at each element once. -/
theorem nestedFindings_keys_nodup {memberKind : Option Kind} {shape : Fields → List Finding}
    (hshape : ∀ fields, ((shape fields).map Finding.key).Nodup) (value : Json) :
    ((nestedFindings memberKind shape value).map Finding.key).Nodup := by
  cases value with
  | obj fields => exact hshape fields
  | arr items =>
    have hitem : ∀ item, ((itemFindings memberKind shape item).map Finding.key).Nodup := by
      intro item
      cases item with
      | obj fields => exact hshape fields
      | _ =>
        by_cases hm : memberKind = some .object <;> simp [itemFindings, hm]
    have hindices : items.zipIdx.Pairwise fun p q => p.2 ≠ q.2 :=
      List.pairwise_map.mp (List.nodup_zipIdx_map_snd items)
    rw [nestedFindings, List.map_flatMap, List.nodup_flatMap]
    refine ⟨fun p _ => nodup_keys_under (hitem p.1) _, ?_⟩
    refine hindices.imp fun {p q} hne => disjoint_keys_under ?_
    exact fun he => hne (PathStep.item.inj he)
  | _ => exact List.nodup_nil

theorem Rule.disjoint_keys_inside {rule : Rule} (h : rule.WellFormed) {value : Json}
    (hkind : rule.settings.kind.admits value = true) :
    List.Disjoint ((rule.settings.ownFindings value).map Finding.key)
      ((rule.insideFindings value).map Finding.key) := by
  refine disjoint_keys fun f hf g hg hkey => ?_
  have hlocation : f.location = g.location := (Prod.mk.inj hkey).1
  have hissue : f.issue.kind = g.issue.kind := (Prod.mk.inj hkey).2
  obtain ⟨schema, -, hinside⟩ := mem_insideFindings hg
  rcases Settings.fails_of_mem_ownFindings h.patterns hkind hf with
    ⟨hl, -⟩ | ⟨items, i, item, rfl, -, -, hl, hfails⟩
  · rw [hl] at hlocation
    rcases hinside with ⟨fields, -, hmem⟩ | ⟨_, i, _, -, -, ⟨_, _, g', -, rfl⟩ | ⟨-, -, rfl⟩⟩
    · obtain ⟨name, rest, hname⟩ := Schema.exists_name_of_mem_findings hmem
      rw [hname] at hlocation
      cases hlocation
    · cases hlocation
    · cases hlocation
  · rw [hl] at hlocation
    rcases hinside with ⟨fields, he, -⟩ | ⟨_, j, _, -, -, ⟨_, _, g', hmem, rfl⟩ | ⟨-, -, rfl⟩⟩
    · cases he
    · obtain ⟨name, rest, hname⟩ := Schema.exists_name_of_mem_findings hmem
      rw [Finding.under, hname] at hlocation
      cases hlocation
    · rw [hissue] at hfails
      exact hfails

theorem Rule.findings_keys_nodup {rule : Rule} (h : rule.WellFormed) (value : Option Json) :
    ((rule.findings value).map Finding.key).Nodup := by
  induction rule using Rule.induction generalizing value with
  | step rule ih =>
    have hmissing : ((rule.findings none).map Finding.key).Nodup := by
      rw [findings_none]
      cases rule.settings.required <;> simp
    match value with
    | none => exact hmissing
    | some value =>
      by_cases hnull : value = .null
      · rw [hnull, findings_null]
        exact hmissing
      by_cases hkind : rule.settings.kind.admits value = true
      · rw [findings_of_admits hnull hkind, List.map_append, List.nodup_append']
        refine ⟨Settings.ownFindings_keys_nodup hkind, ?_, disjoint_keys_inside h hkind⟩
        rw [insideFindings]
        cases hn : rule.nested with
        | none => exact List.nodup_nil
        | some schema =>
          have hwell := h.nested schema hn
          have hshape := Schema.findings_keys_nodup_of_rules hwell.distinct
            fun p hp value => ih schema hn p hp (hwell.rules p hp) value
          exact nestedFindings_keys_nodup hshape value
      · rw [findings_of_not_admits hnull hkind]
        exact List.nodup_singleton _

/-- **No two findings of a schema share their location and kind.** -/
theorem Schema.findings_keys_nodup {schema : Schema} (h : schema.WellFormed) (fields : Fields) :
    ((schema.findings fields).map Finding.key).Nodup :=
  Schema.findings_keys_nodup_of_rules h.distinct
    (fun p hp value => Rule.findings_keys_nodup (h.rules p hp) value) fields

/-! ### Reports -/

/-- An element is not of the wrong kind twice: the schema inside reports it only where members may
be of any kind. -/
theorem Place.not_fails_type_and_memberType {place : Place} (h : place.rule.WellFormed)
    (htype : place.Fails .type) : ¬ place.Fails .memberType := by
  intro hmember
  cases place with
  | value rule held =>
    obtain ⟨_, -, -, -, hfails⟩ := hmember
    exact hfails
  | item rule items i =>
    obtain ⟨hlist, hnested, hobject, -⟩ := htype
    obtain ⟨-, _, -, k, hk, -⟩ := hmember
    obtain ⟨schema, hs⟩ := Option.isSome_iff_exists.mp hnested
    have hkobject : k = .object := h.memberKind hlist schema hs k hk
    rw [hkobject] at hk
    exact hobject hk

/-- **Every violation is genuine, located and reported once.**  Each violation that is reported of
an object has a location; its path is that location written out; the location leads to a place where
what its kind says fails; no two share location and kind; and none is reported as of the wrong kind
both as an element and as a member. -/
theorem violations_genuine {schema : Schema} (built : schema.Built) (fields : Fields) :
    ∃ reports : List (Location × Violation),
      schema.violations fields = reports.map Prod.snd ∧
      (reports.map fun r => (r.1, r.2.kind)).Nodup ∧
      (∀ r ∈ reports, r.2.path = r.1.text ∧
        ∃ place, schema.Reaches fields r.1 place ∧ place.Fails r.2.kind) ∧
      ∀ r ∈ reports, ∀ r' ∈ reports, r.1 = r'.1 →
        ¬ (r.2.kind = .type ∧ r'.2.kind = .memberType) := by
  have h := built.wellFormed
  have hgenuine : ∀ f ∈ schema.findings fields, (f.violation "").path = f.location.text ∧
      ∃ place, schema.Reaches fields f.location place ∧ place.Fails f.issue.kind := by
    intro f hf
    obtain ⟨place, hreaches, hfails⟩ := Schema.findings_genuine h hf
    exact ⟨hreaches.pathFrom_eq_text h, place, hreaches, hfails⟩
  refine ⟨(schema.findings fields).map fun f => (f.location, f.violation ""), ?_, ?_, ?_, ?_⟩
  · rw [List.map_map]
    rfl
  · have hnodup := Schema.findings_keys_nodup h fields
    rw [List.map_map]
    exact hnodup
  · intro r hr
    obtain ⟨f, hf, rfl⟩ := List.mem_map.mp hr
    exact hgenuine f hf
  · rintro r hr r' hr' hlocation ⟨htype, hmember⟩
    obtain ⟨f, hf, rfl⟩ := List.mem_map.mp hr
    obtain ⟨g, hg, rfl⟩ := List.mem_map.mp hr'
    obtain ⟨-, place, hreaches, hfails⟩ := hgenuine f hf
    obtain ⟨-, place', hreaches', hfails'⟩ := hgenuine g hg
    have hsame : f.location = g.location := hlocation
    rw [hsame] at hreaches
    obtain rfl := hreaches.unique hreaches'
    have htype : f.issue.kind = .type := htype
    have hmember : g.issue.kind = .memberType := hmember
    rw [htype] at hfails
    rw [hmember] at hfails'
    exact Place.not_fails_type_and_memberType (hreaches.wellFormed h) hfails hfails'

/-! ### Labels

A list of objects, one of which has a label of the wrong kind and one of which is no object.
-/

/-- Things with labels: each is an object of a list. -/
def labelled : Json :=
  .obj [("things", .obj [("type", .str "list"),
    ("schema", .obj [("label", .obj [("type", .str "string")])])])]

/-- The schema that is described by `labelled`. -/
def labelledSchema : Schema :=
  ⟨[("things", ⟨{ kind := .list }, some ⟨[("label", ⟨{ kind := .string }, none⟩)]⟩⟩)]⟩

/-- A thing whose label is a truth value, and a thing that is one. -/
def badlyLabelled : Fields :=
  [("things", .arr [.obj [("label", .bool true)], .bool true])]

theorem ofDescription_labelled : Schema.ofDescription labelled = .ok labelledSchema := rfl

/-- Both are reported where they stand. -/
theorem badlyLabelled_violations_genuine :
    labelledSchema.Built ∧ ∃ reports : List (Location × Violation),
      labelledSchema.violations badlyLabelled = reports.map Prod.snd ∧
      (reports.map fun r => r.1.text) = ["things[0].label", "things[1]"] ∧
      ∀ r ∈ reports, ∃ place,
        labelledSchema.Reaches badlyLabelled r.1 place ∧ place.Fails r.2.kind := by
  have distinct : labelled.DistinctNames := by
    simp [labelled, Json.DistinctNames, Json.fieldsDistinct, Fields.names]
  have built : labelledSchema.Built := .described distinct ofDescription_labelled
  obtain ⟨reports, hreports, -, hgenuine, -⟩ := violations_genuine built badlyLabelled
  have hpaths : (labelledSchema.violations badlyLabelled).map Violation.path =
      ["things[0].label", "things[1]"] := by
    decide +kernel
  refine ⟨built, reports, hreports, ?_, fun r hr => (hgenuine r hr).2⟩
  rw [← hpaths, hreports, List.map_map]
  exact List.map_congr_left fun r hr => (hgenuine r hr).1.symm

end RecordSchema
