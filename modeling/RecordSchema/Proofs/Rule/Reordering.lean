import RecordSchema.Proofs.Json.Reordering
import RecordSchema.Proofs.Record.Agreement

/-!
# Findings in reordered values

The order in which the fields of objects stand does not matter to the check.  A message shows a
value as it is written, fields and all, but where something is found and of which kind it is depends
on nothing that the order changes: on the kind of a value, on its length, on what is found under a
name, and on what equality says, of a value and an enumeration or of two members of a set.

* `Facets.issues_kinds_eq`, `Settings.ownFindings_keys_eq`: the settings find the same in reordered
  values.
* `Rule.findings_keys_eq`: so does a rule, with the schema inside it.

`violations_reordered` says it of the reports of a schema.
-/

namespace RecordSchema

open Json (Reordered)

/-! ### What the settings look at -/

section

variable {x y : Json}

namespace Json.Reordered

theorem admits_eq (h : x.Reordered y) (k : Kind) : k.admits x = k.admits y := by
  cases h with
  | same => rfl
  | _ => cases k <;> rfl

theorem length?_eq (h : x.Reordered y) : x.length? = y.length? := by
  cases h with
  | same => rfl
  | arr length => exact congrArg some length
  | obj _ names => exact congrArg some (Fields.length_eq_of_perm names)

theorem ne_null (h : x.Reordered y) (present : x ≠ .null) : y ≠ .null := by
  cases h with
  | same => exact present
  | _ => simp

/-- What is measured is shown as it is written, but the measure is the same. -/
theorem measure_eq (h : x.Reordered y) (gauge : Gauge) :
    (gauge.measure? x).map Prod.snd = (gauge.measure? y).map Prod.snd := by
  cases gauge with
  | nothing => rfl
  | number => simp only [Gauge.measure?, Option.map_map, Function.comp_def, h.number?_eq]
  | length => simp only [Gauge.measure?, Option.map_map, Function.comp_def, h.length?_eq]

end Json.Reordered

/-! ### One value -/

theorem boundIssues_kinds_eq {measured other : Option (Measured × Binary64)}
    (h : measured.map Prod.snd = other.map Prod.snd) (scope : Scope) (least most : Option Bound) :
    (boundIssues scope measured least most).map Issue.kind =
      (boundIssues scope other least most).map Issue.kind := by
  match measured, other with
  | none, none => rfl
  | some (_, a), some (_, b) =>
    obtain rfl : a = b := Option.some.inj h
    simp only [boundIssues, List.map_map]
    refine List.map_congr_left fun p _ => ?_
    simp only [Function.comp_apply, outside_kind]

theorem unlistedIssues_kinds_eq (h : x.Reordered y) (scope : Scope)
    (enumeration : Option (List Json)) :
    (unlistedIssues scope enumeration x).map Issue.kind =
      (unlistedIssues scope enumeration y).map Issue.kind := by
  cases enumeration with
  | none => rfl
  | some listed =>
    have hlisted : x.isAmong listed = y.isAmong listed :=
      h.isAmong_congr (List.forall₂_same.mpr fun l _ => .same l)
    rw [unlistedIssues, unlistedIssues, hlisted]
    split
    · rfl
    · cases scope <;> rfl

theorem Facets.issues_kinds_eq (h : x.Reordered y) (scope : Scope) (f : Facets) :
    (f.issues scope x).map Issue.kind = (f.issues scope y).map Issue.kind := by
  -- Points in time and patterns are looked for in texts alone, where there is nothing to reorder.
  have hpoint : pointIssues scope f.scale f.earliest f.latest x =
      pointIssues scope f.scale f.earliest f.latest y := by
    cases h with
    | same => rfl
    | _ => cases f.scale <;> rfl
  have hpattern : (patternIssues scope f.pattern x).map Issue.kind =
      (patternIssues scope f.pattern y).map Issue.kind := by
    cases h with
    | same => rfl
    | _ => cases f.pattern <;> rfl
  simp only [Facets.issues, List.map_append]
  rw [unlistedIssues_kinds_eq h, boundIssues_kinds_eq (h.measure_eq f.gauge), hpoint, hpattern]

end

/-! ### Keys -/

theorem keys_eq_of_kinds {issues others : List Issue}
    (h : issues.map Issue.kind = others.map Issue.kind) (location : Location) :
    (issues.map fun issue => (⟨location, issue⟩ : Finding)).map Finding.key =
      (others.map fun issue => (⟨location, issue⟩ : Finding)).map Finding.key := by
  have hkeys := congrArg (List.map fun kind => (location, kind)) h
  rw [List.map_map, List.map_map] at hkeys ⊢
  exact hkeys

theorem keys_eq_under {findings others : List Finding}
    (h : findings.map Finding.key = others.map Finding.key) (step : PathStep) :
    (findings.map (Finding.under step)).map Finding.key =
      (others.map (Finding.under step)).map Finding.key := by
  have hkeys := congrArg (List.map fun key => (step :: key.1, key.2)) h
  rw [List.map_map, List.map_map] at hkeys ⊢
  exact hkeys

/-! ### Members -/

namespace Settings

variable (s : Settings)

theorem memberIssues_kinds_eq {x y : Json} {xs ys : List Json} (h : x.Reordered y)
    (earlier : List.Forall₂ Reordered xs ys) :
    (s.memberIssues xs x).map Issue.kind = (s.memberIssues ys y).map Issue.kind := by
  have hrepeated : (if s.kind = .set ∧ x.isAmong xs then [Issue.duplicate x] else []).map
        Issue.kind =
      (if s.kind = .set ∧ y.isAmong ys then [Issue.duplicate y] else []).map Issue.kind := by
    rw [h.isAmong_congr earlier]
    split <;> rfl
  have hfacets := Facets.issues_kinds_eq h .member s.memberFacets
  simp only [memberIssues, List.map_append]
  rw [hrepeated]
  refine congrArg _ ?_
  cases s.memberKind with
  | none => exact hfacets
  | some k =>
    simp only [h.admits_eq k]
    split
    · exact hfacets
    · rfl

theorem memberFindings_keys_eq {items others xs ys : List Json}
    (h : List.Forall₂ Reordered items others) (earlier : List.Forall₂ Reordered xs ys) :
    (s.memberFindings xs items).map Finding.key = (s.memberFindings ys others).map Finding.key := by
  induction h generalizing xs ys with
  | nil => rfl
  | cons hitem _ ih =>
    have hearlier := List.rel_append earlier (.cons hitem .nil)
    rw [memberFindings, memberFindings, List.map_append, List.map_append, earlier.length_eq,
      keys_eq_of_kinds (s.memberIssues_kinds_eq hitem earlier), ih hearlier]

theorem ownFindings_keys_eq {x y : Json} (h : x.Reordered y) :
    (s.ownFindings x).map Finding.key = (s.ownFindings y).map Finding.key := by
  have hfacets := keys_eq_of_kinds (Facets.issues_kinds_eq h .value s.facets) []
  cases h with
  | same => rfl
  | obj => exact hfacets
  | arr length items =>
    by_cases hcoll : s.kind.isCollection = true
    · have hitems := Reordered.arr_iff.mp (.arr length items)
      rw [ownFindings_collection hcoll, ownFindings_collection hcoll, collectionFindings,
        collectionFindings, List.map_append, List.map_append, s.memberFindings_keys_eq hitems .nil]
      refine congrArg (· ++ _) (keys_eq_of_kinds (boundIssues_kinds_eq ?_ .value s.least s.most) [])
      rw [length]
    · rw [ownFindings_single hcoll, ownFindings_single hcoll]
      exact hfacets

end Settings

/-! ### Schemas inside -/

theorem flatMap_zipIdx_congr {α β : Type} {R : α → α → Prop} {f : α × Nat → List β}
    (hf : ∀ x y i, R x y → f (x, i) = f (y, i)) {xs ys : List α} (h : List.Forall₂ R xs ys)
    (n : Nat) : (xs.zipIdx n).flatMap f = (ys.zipIdx n).flatMap f := by
  induction h generalizing n with
  | nil => rfl
  | cons hxy _ ih =>
    rw [List.zipIdx_cons, List.zipIdx_cons, List.flatMap_cons, List.flatMap_cons, hf _ _ n hxy, ih]

section

variable {shape : Fields → List Finding} {x y : Json}

theorem itemFindings_keys_eq
    (hshape : ∀ xs ys : Fields, (Json.obj xs).Reordered (.obj ys) →
      (shape xs).map Finding.key = (shape ys).map Finding.key)
    (memberKind : Option Kind) (h : x.Reordered y) :
    (itemFindings memberKind shape x).map Finding.key =
      (itemFindings memberKind shape y).map Finding.key := by
  cases h with
  | same => rfl
  | arr => simp only [itemFindings]; split <;> rfl
  | obj distinct names values => exact hshape _ _ (.obj distinct names values)

theorem nestedFindings_keys_eq
    (hshape : ∀ xs ys : Fields, (Json.obj xs).Reordered (.obj ys) →
      (shape xs).map Finding.key = (shape ys).map Finding.key)
    (memberKind : Option Kind) (h : x.Reordered y) :
    (nestedFindings memberKind shape x).map Finding.key =
      (nestedFindings memberKind shape y).map Finding.key := by
  cases h with
  | same => rfl
  | obj distinct names values => exact hshape _ _ (.obj distinct names values)
  | arr length items =>
    have hitems := Reordered.arr_iff.mp (.arr length items)
    simp only [nestedFindings, List.map_flatMap]
    refine flatMap_zipIdx_congr (fun item other i hitem => ?_) hitems 0
    exact keys_eq_under (itemFindings_keys_eq hshape memberKind hitem) (.item i)

end

/-! ### Rules and schemas -/

theorem Schema.findings_keys_eq_of_rules {schema : Schema} {fields others : Fields}
    (h : ∀ p ∈ schema.properties, (p.2.findings (fields.get? p.1)).map Finding.key =
      (p.2.findings (others.get? p.1)).map Finding.key) :
    (schema.findings fields).map Finding.key = (schema.findings others).map Finding.key := by
  rw [schema.findings_eq, schema.findings_eq, List.map_flatMap, List.map_flatMap]
  exact List.flatMap_congr fun p hp => keys_eq_under (h p hp) (.property p.1)

theorem Rule.insideFindings_keys_eq {rule : Rule} {x y : Json} (h : x.Reordered y)
    (hrules : ∀ schema ∈ rule.nested, ∀ p ∈ schema.properties, ∀ value other,
      Option.Rel Reordered value other →
        (p.2.findings value).map Finding.key = (p.2.findings other).map Finding.key) :
    (rule.insideFindings x).map Finding.key = (rule.insideFindings y).map Finding.key := by
  cases nested : rule.nested with
  | none => simp only [insideFindings, nested]
  | some schema =>
    rw [insideFindings_eq nested, insideFindings_eq nested]
    refine nestedFindings_keys_eq (fun xs ys hfields => ?_) _ h
    exact Schema.findings_keys_eq_of_rules fun p hp =>
      hrules schema nested p hp _ _ (hfields.get? p.1)

/-- **A rule finds the same in reordered values.** -/
theorem Rule.findings_keys_eq (rule : Rule) : ∀ value other : Option Json,
    Option.Rel Reordered value other →
      (rule.findings value).map Finding.key = (rule.findings other).map Finding.key := by
  induction rule using Rule.induction with
  | step rule ih =>
    intro value other h
    cases h with
    | none => rfl
    | @some x y h =>
      by_cases present : x = .null
      · subst present
        cases h
        rfl
      · rw [findings_some present, findings_some (h.ne_null present), h.admits_eq]
        split
        · rw [List.map_append, List.map_append, rule.settings.ownFindings_keys_eq h,
            insideFindings_keys_eq h ih]
        · rfl

theorem headings_eq_of_keys {findings others : List Finding}
    (h : findings.map Finding.key = others.map Finding.key) (root : String) :
    (findings.map (Finding.violation root)).map Violation.heading =
      (others.map (Finding.violation root)).map Violation.heading := by
  have hheadings := congrArg (List.map fun key => (Location.pathFrom root key.1, key.2)) h
  rw [List.map_map, List.map_map] at hheadings ⊢
  exact hheadings

/-- **The order of fields does not matter.**  If two objects have the same declared values but for
the order of fields at any depth, then the same kinds of violations are reported of them, at the
same paths and in the same order.  If the declared values are the same, so are the reports.  The
order of the fields themselves, and those that are not declared, never matter. -/
theorem violations_reordered (schema : Schema) (fields others : Fields) :
    ((∀ name ∈ schema.names, Option.Rel Reordered (fields.get? name) (others.get? name)) →
      (schema.violations fields).map Violation.heading =
        (schema.violations others).map Violation.heading) ∧
    ((∀ name ∈ schema.names, fields.get? name = others.get? name) →
      schema.violations fields = schema.violations others) := by
  refine ⟨fun h => ?_, Schema.violations_congr⟩
  refine headings_eq_of_keys (Schema.findings_keys_eq_of_rules fun p hp => ?_) ""
  exact p.2.findings_keys_eq _ _ (h p.1 (List.mem_map.mpr ⟨p, hp, rfl⟩))

/-! ### Shelves

A set of pairs and a list of boxes, on two shelves that differ only in the order of fields and in
what is not declared.
-/

/-- Shelves with a set of anything and a list of boxes, whose sizes are whole numbers. -/
def shelf : Schema :=
  ⟨[("pairs", ⟨{ kind := .set }, none⟩),
    ("boxes", ⟨{ kind := .list }, some ⟨[("size", ⟨{ kind := .integer }, none⟩)]⟩⟩)]⟩

/-- A pair. -/
def pair : Fields :=
  [("left", .num (.int 1)), ("right", .obj [("x", .null), ("y", .null)])]

/-- The same pair, written from right to left. -/
def pairBackwards : Fields :=
  [("right", .obj [("y", .null), ("x", .null)]), ("left", .num (.int 1))]

/-- A shelf on which a pair stands twice, in both ways, and a box has no number for its size. -/
def firstShelf : Fields :=
  [("pairs", .arr [.obj pair, .obj pairBackwards]),
    ("boxes", .arr [.obj [("size", .bool true), ("note", .null)]])]

/-- The same shelf with everything written the other way round, and a note. -/
def secondShelf : Fields :=
  [("note", .null), ("boxes", .arr [.obj [("note", .null), ("size", .bool true)]]),
    ("pairs", .arr [.obj pairBackwards, .obj pair])]

/-- Of both shelves the same is reported, but in other words; a note is not even looked at. -/
theorem shelf_violations_reordered :
    (∀ name ∈ shelf.names, Option.Rel Reordered (firstShelf.get? name) (secondShelf.get? name)) ∧
      (shelf.violations firstShelf).map Violation.heading =
        [("pairs[1]", .duplicate), ("boxes[0].size", .type)] ∧
      (shelf.violations secondShelf).map Violation.heading =
        [("pairs[1]", .duplicate), ("boxes[0].size", .type)] ∧
      shelf.violations firstShelf ≠ shelf.violations secondShelf ∧
      shelf.violations (("note", .null) :: firstShelf) = shelf.violations firstShelf := by
  have hinner : (Json.obj [("x", .null), ("y", .null)]).Reordered
      (.obj [("y", .null), ("x", .null)]) :=
    .of_fields (by decide) (.swap _ _ _) (.cons ⟨rfl, .same _⟩ (.cons ⟨rfl, .same _⟩ .nil))
  have hpair : (Json.obj pair).Reordered (.obj pairBackwards) :=
    .of_fields (by decide) (.swap _ _ _) (.cons ⟨rfl, hinner⟩ (.cons ⟨rfl, .same _⟩ .nil))
  have hbox : (Json.obj [("size", .bool true), ("note", .null)]).Reordered
      (.obj [("note", .null), ("size", .bool true)]) :=
    .of_fields (by decide) (.swap _ _ _) (.cons ⟨rfl, .same _⟩ (.cons ⟨rfl, .same _⟩ .nil))
  have hdeclared : ∀ name ∈ shelf.names,
      Option.Rel Reordered (firstShelf.get? name) (secondShelf.get? name) := by
    intro name hname
    obtain rfl | rfl : name = "pairs" ∨ name = "boxes" := by simpa [shelf, Schema.names] using hname
    · exact .some (Reordered.arr_iff.mpr (.cons hpair (.cons hpair.symm .nil)))
    · exact .some (Reordered.arr_iff.mpr (.cons hbox .nil))
  have hfirst : (shelf.violations firstShelf).map Violation.heading =
      [("pairs[1]", .duplicate), ("boxes[0].size", .type)] := by
    decide +kernel
  have hnote : ∀ name ∈ shelf.names,
      Fields.get? (("note", .null) :: firstShelf) name = firstShelf.get? name := by
    intro name hname
    rw [Fields.get?_cons, if_neg]
    rintro rfl
    exact absurd hname (by decide)
  refine ⟨hdeclared, hfirst, ?_, by decide +kernel, (violations_reordered shelf _ _).2 hnote⟩
  rw [← (violations_reordered shelf firstShelf secondShelf).1 hdeclared, hfirst]

end RecordSchema
