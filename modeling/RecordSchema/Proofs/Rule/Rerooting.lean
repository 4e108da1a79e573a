import RecordSchema.Proofs.Rule.Consistency
import RecordSchema.Proofs.Rule.Reports

/-!
# Findings under another root

A finding is located from the value that is checked, and its path is written once the path of that
value is known.  So the same findings may be reported under any root, and a value that lies inside
another one is reported there as it is reported on its own, moved to where it lies.

* `Finding.violation_inside`: a finding inside a value is reported under the path of the place where
  the value lies.  Only a duplicate is reported of what is around it, and it never lies at the value
  that is checked (`Rule.ne_duplicate_of_mem_findings`).
* `Violation.heading`: the path and the kind of a violation.  `Schema.headings_findings` says what
  the headings of the findings of a schema are under a path, and so what an object and a list report
  (`Rule.WellFormed.headings_obj`, `Rule.WellFormed.headings_arr`).

`violations_rerooted` puts this together.
-/

namespace RecordSchema

/-! ### Locations -/

namespace Location

theorem pathFrom_append (root : String) (outer inner : Location) :
    pathFrom root (outer ++ inner) = pathFrom (pathFrom root outer) inner :=
  List.foldl_append

theorem pathFrom_property {root name : String} (hroot : root ≠ "") (hname : name ≠ "")
    (rest : Location) :
    pathFrom root (.property name :: rest) =
      root ++ "." ++ pathFrom "" (.property name :: rest) := by
  rw [pathFrom_of_ne_empty hroot, pathFrom_eq_text hname, textAfter, PathStep.text, text]
  simp only [String.append_assoc]

end Location

theorem Path.index_ne_empty (path : String) (i : Nat) : Path.index path i ≠ "" := by
  intro h
  have hlength := congrArg String.length h
  simp [Path.index] at hlength

/-! ### Messages -/

/-- Only a duplicate is reported of what is around it. -/
theorem Issue.message_eq {issue : Issue} (h : ∀ item, issue ≠ .duplicate item)
    (path around other : String) : issue.message path around = issue.message path other := by
  cases issue with
  | duplicate item => exact absurd rfl (h item)
  | _ => rfl

/-- Facets look at one value and know of no other. -/
theorem Facets.ne_duplicate_of_mem_issues {f : Facets} {scope : Scope} {value : Json}
    {issue : Issue} (h : issue ∈ f.issues scope value) (item : Json) :
    issue ≠ .duplicate item := by
  rcases Facets.mem_issues.mp h with h | h | h | h
  · obtain ⟨_, -, -, rfl⟩ := mem_unlistedIssues.mp h
    simp
  · obtain ⟨_, _, -, _, _, -, rfl⟩ := mem_boundIssues.mp h
    simp
  · obtain ⟨_, _, -, -, _, _, -, rfl⟩ := mem_pointIssues.mp h
    simp
  · obtain ⟨_, -, _, -, -, -, rfl⟩ := mem_patternIssues.mp h
    simp

theorem Settings.ne_duplicate_of_mem_ownFindings {s : Settings} {value : Json}
    (hkind : s.kind.admits value = true) {f : Finding} (h : f ∈ s.ownFindings value)
    (hl : f.location = []) (item : Json) : f.issue ≠ .duplicate item := by
  by_cases hcoll : s.kind.isCollection = true
  · obtain ⟨items, rfl⟩ := Kind.eq_arr_of_admits hcoll hkind
    rw [ownFindings_collection hcoll, collectionFindings, List.mem_append] at h
    rcases h with h | h
    · obtain ⟨issue, hissue, rfl⟩ := List.mem_map.mp h
      obtain ⟨_, _, -, _, _, -, rfl⟩ := mem_boundIssues.mp hissue
      simp [Finding.here]
    · obtain ⟨i, _, -, _, -, rfl⟩ := mem_memberFindings.mp h
      cases hl
  · rw [ownFindings_single hcoll] at h
    obtain ⟨issue, hissue, rfl⟩ := List.mem_map.mp h
    exact Facets.ne_duplicate_of_mem_issues hissue item

theorem Rule.insideFindings_eq {rule : Rule} {schema : Schema} (nested : rule.nested = some schema)
    (value : Json) :
    rule.insideFindings value =
      nestedFindings rule.settings.memberKind schema.findings value := by
  rw [insideFindings, nested]

theorem Rule.location_ne_nil_of_mem_insideFindings {rule : Rule} {value : Json} {f : Finding}
    (h : f ∈ rule.insideFindings value) : f.location ≠ [] := by
  obtain ⟨schema, -, hcase⟩ := mem_insideFindings h
  rcases hcase with ⟨fields, -, hmem⟩ | ⟨_, i, _, -, -, ⟨_, -, g, -, rfl⟩ | ⟨-, -, rfl⟩⟩
  · obtain ⟨name, rest, hname⟩ := Schema.exists_name_of_mem_findings hmem
    simp [hname]
  · simp [Finding.under]
  · simp

/-- A duplicate never lies at the value that is checked. -/
theorem Rule.ne_duplicate_of_mem_findings {rule : Rule} {value : Option Json} {f : Finding}
    (h : f ∈ rule.findings value) (hl : f.location = []) (item : Json) :
    f.issue ≠ .duplicate item := by
  have hmissing : f ∈ rule.findings none → f.issue ≠ .duplicate item := by
    rw [rule.findings_none]
    split
    · intro hf
      obtain rfl := List.mem_singleton.mp hf
      simp [Finding.here]
    · intro hf
      cases hf
  match value with
  | none => exact hmissing h
  | some value =>
    by_cases hnull : value = .null
    · subst hnull
      rw [rule.findings_null] at h
      exact hmissing h
    by_cases hkind : rule.settings.kind.admits value = true
    · rw [findings_of_admits hnull hkind, List.mem_append] at h
      rcases h with h | h
      · exact Settings.ne_duplicate_of_mem_ownFindings hkind h hl item
      · exact absurd hl (location_ne_nil_of_mem_insideFindings h)
    · rw [findings_of_not_admits hnull hkind] at h
      obtain rfl := List.mem_singleton.mp h
      simp [Finding.here]

namespace Finding

/-- A finding of a value that lies at a location inside another one. -/
def inside (location : Location) (f : Finding) : Finding :=
  ⟨location ++ f.location, f.issue⟩

/-- A finding inside a value is reported as it is reported under the path of its place. -/
theorem violation_inside {f : Finding} (h : f.location = [] → ∀ item, f.issue ≠ .duplicate item)
    (root : String) (location : Location) :
    (f.inside location).violation root = f.violation (location.pathFrom root) := by
  have hpath := Location.pathFrom_append root location f.location
  simp only [violation, inside]
  rw [hpath]
  congr 1
  -- The messages also name what is around the finding; at the value itself the two differ there.
  by_cases hl : f.location = []
  · exact Issue.message_eq (h hl) _ _ _
  · rw [List.dropLast_append_of_ne_nil hl, Location.pathFrom_append]

end Finding

/-- What a rule finds in a value that lies at a location inside another one is reported as it is
reported of the value alone, under the path of that location. -/
theorem Rule.map_violation_inside (rule : Rule) (value : Option Json) (root : String)
    (location : Location) :
    (rule.findings value).map (fun f => (f.inside location).violation root) =
      rule.violations (location.pathFrom root) value := by
  refine List.map_congr_left fun f hf => ?_
  exact Finding.violation_inside (ne_duplicate_of_mem_findings hf) root location

/-! ### Headings -/

namespace Violation

/-- The path and the kind of a violation. -/
def heading (v : Violation) : String × ViolationKind :=
  (v.path, v.kind)

/-- The path and the kind of a violation, with a text in front of the path. -/
def headingAfter (front : String) (v : Violation) : String × ViolationKind :=
  (front ++ v.path, v.kind)

end Violation

theorem Finding.heading_violation (f : Finding) (root : String) :
    (f.violation root).heading = (f.location.pathFrom root, f.issue.kind) :=
  rfl

/-- The headings for a length that passes limits: first the lower limit, then the upper one. -/
def lengthHeadings (path : String) (least most : Option Bound) (length : Nat) :
    List (String × ViolationKind) :=
  (if least.any fun limit => Bound.lt (.finite (.ofNat length)) limit then [(path, .min)]
    else []) ++
    if most.any fun limit => Bound.lt limit (.finite (.ofNat length)) then [(path, .max)] else []

/-- The headings for an item of a list with a schema inside: those of the item alone after its path,
if it is an object.  Any other item is of the wrong type, unless members must be objects. -/
def elementHeadings (path : String) (memberKind : Option Kind) (schema : Schema) :
    Json × Nat → List (String × ViolationKind)
  | (.obj fields, i) =>
    (schema.violations fields).map (Violation.headingAfter (Path.index path i ++ "."))
  | (_, i) => if memberKind = some .object then [] else [(Path.index path i, .type)]

theorem boundIssues_headings (path : String) (what : Measured) (length : Nat)
    (least most : Option Bound) :
    (boundIssues .value (some (what, .ofNat length)) least most).map
        (fun issue => (path, issue.kind)) =
      lengthHeadings path least most length := by
  have hside (side : Side) (limit : Option Bound) (passes : Bound → Bool) :
      ((limit.filter passes).toList.map fun l =>
          (path, (Issue.outside .value side what (.bound l)).kind)) =
        if limit.any passes then [(path, Scope.value.limitKind side)] else [] := by
    cases limit with
    | none => rfl
    | some l => cases hl : passes l <;> simp [Option.filter, hl, outside_kind]
  rw [boundIssues, passedLimits, lengthHeadings, List.map_append, List.map_append]
  simp only [List.map_map]
  exact congrArg₂ (· ++ ·) (hside .least least _) (hside .most most _)

/-- Under a path, a schema reports the fields of an object as it reports them alone, after the path
and a point. -/
theorem Schema.headings_findings {schema : Schema} (h : schema.WellFormed) {path : String}
    (hpath : path ≠ "") (fields : Fields) :
    (schema.findings fields).map (fun f => (f.violation path).heading) =
      (schema.violations fields).map (Violation.headingAfter (path ++ ".")) := by
  rw [Schema.violations, List.map_map]
  refine List.map_congr_left fun f hf => ?_
  obtain ⟨p, hp, g, -, rfl⟩ := Schema.mem_findings_iff.mp hf
  have hname : p.1 ≠ "" := fun he => h.named (List.mem_map.mpr ⟨p, hp, he⟩)
  exact Prod.ext (Location.pathFrom_property hpath hname g.location) rfl

namespace Rule.WellFormed

variable {rule : Rule} {schema : Schema} {path : String}

theorem facets_issues_obj (h : rule.WellFormed) (hkind : rule.settings.kind = .object)
    (fields : Fields) :
    rule.settings.facets.issues .value (.obj fields) =
      boundIssues .value (some (.length (.obj fields), .ofNat fields.length))
        rule.settings.least rule.settings.most := by
  have henum : rule.settings.enumeration = none := by
    cases he : rule.settings.enumeration with
    | none => rfl
    | some listed => exact absurd (by rw [hkind]; rfl) (h.consistent.enumeration listed he).2.1
  simp [Facets.issues, Settings.facets, henum, hkind, unlistedIssues, Kind.isNumeric,
    Kind.hasLength, Kind.scale?, Gauge.measure?, Json.length?, pointIssues, patternIssues]

/-- An object with a schema inside: its number of fields, and then what the schema reports. -/
theorem headings_obj (h : rule.WellFormed) (nested : rule.nested = some schema)
    (hkind : rule.settings.kind = .object) (hpath : path ≠ "") (fields : Fields) :
    (rule.violations path (some (.obj fields))).map Violation.heading =
      lengthHeadings path rule.settings.least rule.settings.most fields.length ++
        (schema.violations fields).map (Violation.headingAfter (path ++ ".")) := by
  have hadmits : rule.settings.kind.admits (.obj fields) = true := by rw [hkind]; rfl
  have hsingle : ¬ rule.settings.kind.isCollection = true := by rw [hkind]; decide
  rw [Rule.violations, findings_of_admits (by simp) hadmits, insideFindings_eq nested,
    nestedFindings, Settings.ownFindings_single hsingle, h.facets_issues_obj hkind, List.map_append,
    List.map_append]
  refine congrArg₂ (· ++ ·) ?_ ?_
  · rw [List.map_map, List.map_map]
    exact boundIssues_headings path _ _ _ _
  · rw [List.map_map]
    exact Schema.headings_findings (h.nested schema nested) hpath fields

/-- A list with a schema inside: what is reported of it as a collection, and then each item. -/
theorem headings_arr (h : rule.WellFormed) (nested : rule.nested = some schema)
    (hkind : rule.settings.kind = .list) (items : List Json) :
    (rule.violations path (some (.arr items))).map Violation.heading =
      ((⟨rule.settings, none⟩ : Rule).violations path (some (.arr items))).map Violation.heading ++
        items.zipIdx.flatMap (elementHeadings path rule.settings.memberKind schema) := by
  have hadmits : rule.settings.kind.admits (.arr items) = true := by rw [hkind]; rfl
  have hplain : (⟨rule.settings, none⟩ : Rule).findings (some (.arr items)) =
      rule.settings.ownFindings (.arr items) := by
    rw [Rule.findings_eq]
    exact (if_pos hadmits).trans (List.append_nil _)
  rw [Rule.violations, Rule.violations, hplain, findings_of_admits (by simp) hadmits,
    insideFindings_eq nested, List.map_append, List.map_append]
  refine congrArg _ ?_
  rw [nestedFindings, List.map_flatMap, List.map_flatMap]
  refine List.flatMap_congr fun p _ => ?_
  obtain ⟨item, i⟩ := p
  rw [List.map_map, List.map_map]
  cases item with
  | obj fields =>
    exact Schema.headings_findings (h.nested schema nested) (Path.index_ne_empty path i) fields
  | _ =>
    by_cases hm : rule.settings.memberKind = some .object
    · simp [itemFindings, elementHeadings, hm]
    · simp [itemFindings, elementHeadings, hm, Finding.heading_violation, Finding.under,
        Finding.here, Issue.kind, Location.pathFrom, PathStep.extend]

end Rule.WellFormed

/-- **Reports move with the path of the value.**  Under two names that are there, a rule reports
violations of the same kinds one by one, and their paths go on in the same way.  What is reported of
an object or a list with a schema inside is what its own settings report, followed by what the
schema reports of the object, or of each item, when it is checked alone: that is moved behind the
path of the object or the item. -/
theorem violations_rerooted {rule : Rule} (built : rule.Built) {p q : String} (hp : p ≠ "")
    (hq : q ≠ "") :
    (∀ value, List.Forall₂
      (fun v w => v.kind = w.kind ∧ ∃ rest, v.path = p ++ rest ∧ w.path = q ++ rest)
      (rule.violations p value) (rule.violations q value)) ∧
    ∀ schema, rule.nested = some schema →
      (rule.settings.kind = .object ∧ ∀ fields,
        (rule.violations p (some (.obj fields))).map Violation.heading =
          lengthHeadings p rule.settings.least rule.settings.most fields.length ++
            (schema.violations fields).map (Violation.headingAfter (p ++ "."))) ∨
      (rule.settings.kind = .list ∧ ∀ items,
        (rule.violations p (some (.arr items))).map Violation.heading =
          ((⟨rule.settings, none⟩ : Rule).violations p (some (.arr items))).map
              Violation.heading ++
            items.zipIdx.flatMap (elementHeadings p rule.settings.memberKind schema)) := by
  have h := built.wellFormed
  refine ⟨fun value => ?_, fun schema nested => ?_⟩
  · rw [Rule.violations, Rule.violations, List.forall₂_map_left_iff, List.forall₂_map_right_iff,
      List.forall₂_same]
    intro f _
    exact ⟨rfl, f.location.textAfter, Location.pathFrom_of_ne_empty hp f.location,
      Location.pathFrom_of_ne_empty hq f.location⟩
  · have hcomposite := h.composite schema nested
    cases hkind : rule.settings.kind with
    | object => exact Or.inl ⟨rfl, h.headings_obj nested hkind hp⟩
    | list => exact Or.inr ⟨rfl, h.headings_arr nested hkind⟩
    | _ => simp [hkind, Kind.isComposite] at hcomposite

/-! ### Boxes

Names that look like paths, in an object with a list of objects inside.
-/

/-- Boxes without room: each holds things under a name with a point, and each thing a number under a
name with a bracket. -/
def box : Json :=
  .obj [("type", .str "object"), ("max", .num (.int 0)),
    ("schema", .obj [("a.b", .obj [("type", .str "list"),
      ("schema", .obj [("[n", .obj [("type", .str "integer")])])])])]

/-- The schema of the things in a box. -/
def thingsSchema : Schema :=
  ⟨[("a.b", ⟨{ kind := .list }, some ⟨[("[n", ⟨{ kind := .integer }, none⟩)]⟩⟩)]⟩

/-- The rule that is described by `box`. -/
def boxRule : Rule :=
  ⟨{ kind := .object, most := some (.finite ⟨false, 0⟩) }, some thingsSchema⟩

/-- A thing without a number, and a number that is no thing. -/
def things : Fields :=
  [("a.b", .arr [.obj [("[n", .bool true)], .num (.int 3)])]

theorem ofDescription_box : Rule.ofDescription box = .ok boxRule := by
  cbv

/-- The box is too full, and its things are reported behind its path. -/
theorem boxRule_violations_rerooted :
    boxRule.Built ∧ "p" ≠ "" ∧ "q.r" ≠ "" ∧
      (boxRule.violations "p" (some (.obj things))).map Violation.heading =
        ("p", .max) ::
          (thingsSchema.violations things).map (Violation.headingAfter "p.") ∧
      (thingsSchema.violations things).map Violation.path = ["a.b[0].[n", "a.b[1]"] ∧
      (boxRule.violations "q.r" (some (.obj things))).length = 3 := by
  have distinct : box.DistinctNames := by
    simp [box, Json.DistinctNames, Json.fieldsDistinct, Fields.names]
  have built : boxRule.Built := .described distinct ofDescription_box
  obtain ⟨hroots, hinside⟩ := violations_rerooted built (p := "p") (q := "q.r")
    (by decide) (by decide)
  have hpaths : (thingsSchema.violations things).map Violation.path =
      ["a.b[0].[n", "a.b[1]"] := by
    decide +kernel
  have hlength : (thingsSchema.violations things).length = 2 := by
    rw [← List.length_map Violation.path, hpaths]
    rfl
  have hheadings : (boxRule.violations "p" (some (.obj things))).map Violation.heading =
      ("p", .max) :: (thingsSchema.violations things).map (Violation.headingAfter "p.") := by
    rcases hinside thingsSchema rfl with ⟨-, hobject⟩ | ⟨hlist, -⟩
    · rw [hobject things]
      have hfull : lengthHeadings "p" boxRule.settings.least boxRule.settings.most
          things.length = [("p", .max)] := by
        decide +kernel
      rw [hfull]
      rfl
    · cases hlist
  refine ⟨built, by decide, by decide, hheadings, hpaths, ?_⟩
  rw [← (hroots (some (.obj things))).length_eq, ← List.length_map Violation.heading, hheadings,
    List.length_cons, List.length_map, hlength]

end RecordSchema
