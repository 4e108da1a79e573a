import RecordSchema.Proofs.Rule.Rerooting

/-!
# Checking along paths

`Rule.findings` locates what it finds from the value that is checked, and paths are written
afterwards.  A check can as well carry the path of the place that it looks at, longer by a name or
an index at each step down, and put a violation at the end of those found before as soon as it comes
upon one.  `Rule.check` and `Schema.check` do so, and they report the same.

* `Adds`: a step of the check puts certain violations behind those found before.  Steps that follow
  one another add theirs one after another (`Adds.comp`, `Adds.foldl`).
* `Settings.adds_check`, `adds_checkNested`: what the settings and the schema inside add, if the
  rules inside add what they find.
* `Rule.adds_check`, `Schema.adds_check`: so all rules and schemas do, at every path.

`checked_along_paths` puts this together.
-/

namespace RecordSchema

/-! ### Checks that carry a path -/

/-- The report of an issue at a path, where the path of what is around it is given as well. -/
def Issue.violation (path around : String) (issue : Issue) : Violation :=
  ⟨path, issue.kind, issue.message path around⟩

/-- Issues of one place are reported behind what was found before. -/
def report (path around : String) (issues : List Issue) (found : List Violation) :
    List Violation :=
  found ++ issues.map (Issue.violation path around)

namespace Settings

/-- Members are checked from a given index on; the path is that of the collection. -/
def checkMembers (s : Settings) (path : String) (earlier : List Json) :
    List Json → List Violation → List Violation
  | [], found => found
  | item :: rest, found =>
    s.checkMembers path (earlier ++ [item]) rest
      (report (Path.index path earlier.length) path (s.memberIssues earlier item) found)

/-- A collection is checked: its size, and then its members. -/
def checkCollection (s : Settings) (path : String) (items : List Json) (found : List Violation) :
    List Violation :=
  s.checkMembers path [] items
    (report path path (boundIssues .value (some (.itemCount items.length, .ofNat items.length))
      s.least s.most) found)

/-- A value of the right kind is checked, the schema inside aside. -/
def checkOwn (s : Settings) (path : String) (value : Json) (found : List Violation) :
    List Violation :=
  match value with
  | .arr items =>
    if s.kind.isCollection then s.checkCollection path items found
    else report path path (s.facets.issues .value value) found
  | _ => report path path (s.facets.issues .value value) found

/-- A value is checked, where the check of the schema inside is given. -/
def check (s : Settings) (inside : String → Json → List Violation → List Violation)
    (path : String) (value : Option Json) (found : List Violation) : List Violation :=
  match value with
  | none => if s.required then report path path [.missing] found else found
  | some .null => if s.required then report path path [.missing] found else found
  | some value =>
    if s.kind.admits value then inside path value (s.checkOwn path value found)
    else report path path [.wrongKind s.kind value] found

end Settings

/-- An item is checked by the schema inside; the path is that of the item. -/
def checkItem (memberKind : Option Kind)
    (shape : String → Fields → List Violation → List Violation) (path : String) :
    Json → List Violation → List Violation
  | .obj fields, found => shape path fields found
  | item, found =>
    if memberKind = some .object then found else report path path [.noObject item] found

/-- A value is checked by the schema inside: by its fields, or item by item. -/
def checkNested (memberKind : Option Kind)
    (shape : String → Fields → List Violation → List Violation) (path : String) (value : Json)
    (found : List Violation) : List Violation :=
  match value with
  | .obj fields => shape path fields found
  | .arr items =>
    items.zipIdx.foldl
      (fun found (item, i) => checkItem memberKind shape (Path.index path i) item found) found
  | _ => found

mutual

/-- A value, which may be absent, is checked at a path. -/
def Rule.check : Rule → String → Option Json → List Violation → List Violation
  | ⟨settings, none⟩, path, value, found => settings.check (fun _ _ found => found) path value found
  | ⟨settings, some schema⟩, path, value, found =>
    settings.check (checkNested settings.memberKind fun path fields found =>
      schema.check path fields found) path value found
termination_by structural rule => rule

/-- The fields of an object are checked, where the object has the given path. -/
def Schema.check : Schema → String → Fields → List Violation → List Violation
  | ⟨properties⟩, path, fields, found => checkProperties properties path fields found
termination_by structural schema => schema

/-- Declared fields are checked one after another, each at the path that its name makes. -/
def checkProperties : List (String × Rule) → String → Fields → List Violation → List Violation
  | [], _, _, found => found
  | (name, rule) :: rest, path, fields, found =>
    checkProperties rest path fields
      (rule.check (Path.child path name) (fields.get? name) found)
termination_by structural properties => properties

end

/-! ### What a step adds -/

/-- A step of the check puts certain violations behind those found before. -/
def Adds (step : List Violation → List Violation) (reports : List Violation) : Prop :=
  ∀ found, step found = found ++ reports

namespace Adds

variable {step next : List Violation → List Violation} {reports more : List Violation}

theorem nothing : Adds (fun found => found) [] :=
  fun found => (List.append_nil found).symm

theorem report (path around : String) (issues : List Issue) :
    Adds (report path around issues) (issues.map (Issue.violation path around)) :=
  fun _ => rfl

/-- Two steps add their violations one after the other. -/
theorem comp (h : Adds step reports) (hnext : Adds next more) :
    Adds (fun found => next (step found)) (reports ++ more) := by
  intro found
  calc next (step found) = step found ++ more := hnext _
    _ = found ++ reports ++ more := by rw [h]
    _ = found ++ (reports ++ more) := List.append_assoc _ _ _

theorem ite {c : Prop} [Decidable c] (h : Adds step reports) (hnext : Adds next more) :
    Adds (fun found => if c then step found else next found) (if c then reports else more) := by
  split
  · exact h
  · exact hnext

theorem foldl {α : Type} {l : List α} {steps : α → List Violation → List Violation}
    {reports : α → List Violation} (h : ∀ a ∈ l, Adds (steps a) (reports a)) :
    Adds (fun found => l.foldl (fun found a => steps a found) found) (l.flatMap reports) := by
  induction l with
  | nil => exact nothing
  | cons a rest ih =>
    have hrest := ih fun b hb => h b (List.mem_cons_of_mem a hb)
    exact (h a List.mem_cons_self).comp hrest

end Adds

/-! ### Settings -/

/-- Issues of the value itself are reported at its path. -/
theorem map_violation_here (path : String) (issues : List Issue) :
    (issues.map Finding.here).map (Finding.violation path) =
      issues.map (Issue.violation path path) :=
  List.map_map

namespace Settings

variable {s : Settings}

theorem adds_checkMembers (path : String) (earlier items : List Json) :
    Adds (s.checkMembers path earlier items)
      ((s.memberFindings earlier items).map (Finding.violation path)) := by
  induction items generalizing earlier with
  | nil => exact Adds.nothing
  | cons item rest ih =>
    rw [memberFindings, List.map_append, List.map_map]
    exact (Adds.report _ path _).comp (ih (earlier ++ [item]))

theorem adds_checkCollection (path : String) (items : List Json) :
    Adds (s.checkCollection path items)
      ((s.collectionFindings items).map (Finding.violation path)) := by
  rw [collectionFindings, List.map_append, map_violation_here]
  exact (Adds.report path path _).comp (adds_checkMembers path [] items)

theorem adds_checkOwn (path : String) (value : Json) :
    Adds (s.checkOwn path value) ((s.ownFindings value).map (Finding.violation path)) := by
  have hfacets : Adds (report path path (s.facets.issues .value value))
      (((s.facets.issues .value value).map Finding.here).map (Finding.violation path)) := by
    rw [map_violation_here]
    exact Adds.report path path _
  cases value with
  | arr items =>
    rw [ownFindings, apply_ite (List.map (Finding.violation path))]
    exact (adds_checkCollection path items).ite hfacets
  | _ => exact hfacets

/-- The settings add what they find, if the check of the schema inside does. -/
theorem adds_check {inside : String → Json → List Violation → List Violation}
    {findings : Json → List Finding}
    (h : ∀ path value, Adds (inside path value) ((findings value).map (Finding.violation path)))
    (path : String) (value : Option Json) :
    Adds (s.check inside path value)
      ((s.findings findings value).map (Finding.violation path)) := by
  have hmissing : Adds
      (fun found => if s.required then report path path [.missing] found else found)
      ((if s.required then [Finding.here .missing] else []).map (Finding.violation path)) := by
    rw [apply_ite (List.map (Finding.violation path))]
    exact (Adds.report path path [.missing]).ite Adds.nothing
  have hpresent (value : Json) : Adds
      (fun found => if s.kind.admits value then inside path value (s.checkOwn path value found)
        else report path path [.wrongKind s.kind value] found)
      ((if s.kind.admits value then s.ownFindings value ++ findings value
        else [.here (.wrongKind s.kind value)]).map (Finding.violation path)) := by
    rw [apply_ite (List.map (Finding.violation path)), List.map_append]
    exact ((adds_checkOwn path value).comp (h path value)).ite (Adds.report path path _)
  cases value with
  | none => exact hmissing
  | some value =>
    cases value with
    | null => exact hmissing
    | _ => exact hpresent _

end Settings

/-! ### Schemas inside -/

section

variable {schema : Schema} {shape : String → Fields → List Violation → List Violation}
  (h : ∀ path fields,
    Adds (shape path fields) ((schema.findings fields).map (Finding.violation path)))

/-- What a schema finds behind a step is reported as it is under the path with that step. -/
theorem Schema.map_violation_under (schema : Schema) (path : String) (step : PathStep)
    (fields : Fields) :
    ((schema.findings fields).map (Finding.under step)).map (Finding.violation path) =
      (schema.findings fields).map (Finding.violation (step.extend path)) := by
  rw [List.map_map]
  -- Nothing is found at the object itself, where a duplicate would read differently.
  refine List.map_congr_left fun f hf => Finding.violation_inside (fun hl => ?_) path [step]
  obtain ⟨property, rest, hname⟩ := Schema.exists_name_of_mem_findings hf
  rw [hl] at hname
  cases hname

include h

theorem adds_checkItem (memberKind : Option Kind) (path : String) (i : Nat) (item : Json) :
    Adds (checkItem memberKind shape (Path.index path i) item)
      (((itemFindings memberKind schema.findings item).map (Finding.under (.item i))).map
        (Finding.violation path)) := by
  have hother : Adds
      (fun found => if memberKind = some .object then found
        else report (Path.index path i) (Path.index path i) [.noObject item] found)
      (((if memberKind = some .object then [] else [Finding.here (.noObject item)]).map
        (Finding.under (.item i))).map (Finding.violation path)) := by
    rw [apply_ite (List.map (Finding.under (.item i))),
      apply_ite (List.map (Finding.violation path))]
    exact Adds.nothing.ite (Adds.report _ _ _)
  cases item with
  | obj fields =>
    rw [itemFindings, schema.map_violation_under]
    exact h _ fields
  | _ => exact hother

/-- The schema inside adds what it finds, if it does so for objects. -/
theorem adds_checkNested (memberKind : Option Kind) (path : String) (value : Json) :
    Adds (checkNested memberKind shape path value)
      ((nestedFindings memberKind schema.findings value).map (Finding.violation path)) := by
  cases value with
  | obj fields => exact h path fields
  | arr items =>
    rw [nestedFindings, List.map_flatMap]
    exact Adds.foldl fun p _ => adds_checkItem h memberKind path p.2 p.1
  | _ => exact Adds.nothing

end

/-! ### Rules and schemas -/

theorem adds_checkProperties {properties : List (String × Rule)}
    (h : ∀ p ∈ properties, ∀ path value,
      Adds (p.2.check path value) (p.2.violations path value)) (path : String) (fields : Fields) :
    Adds (checkProperties properties path fields)
      ((propertyFindings properties fields).map (Finding.violation path)) := by
  induction properties with
  | nil => exact Adds.nothing
  | cons p rest ih =>
    obtain ⟨name, rule⟩ := p
    have hrule := h _ List.mem_cons_self (Path.child path name) (fields.get? name)
    have hrest := ih fun q hq => h q (List.mem_cons_of_mem _ hq)
    have hviolations : ((rule.findings (fields.get? name)).map
        (Finding.under (.property name))).map (Finding.violation path) =
          rule.violations (Path.child path name) (fields.get? name) := by
      rw [List.map_map]
      exact rule.map_violation_inside (fields.get? name) path [.property name]
    rw [propertyFindings, List.map_append, hviolations]
    exact hrule.comp hrest

theorem Schema.adds_check_of_rules {schema : Schema}
    (h : ∀ p ∈ schema.properties, ∀ path value,
      Adds (p.2.check path value) (p.2.violations path value)) (path : String) (fields : Fields) :
    Adds (schema.check path fields) ((schema.findings fields).map (Finding.violation path)) := by
  obtain ⟨properties⟩ := schema
  exact adds_checkProperties h path fields

/-- **A rule that is checked at a path adds what it reports under that path.** -/
theorem Rule.adds_check (rule : Rule) :
    ∀ path value, Adds (rule.check path value) (rule.violations path value) := by
  -- The path grows on the way down, so the induction is for all paths.
  induction rule using Rule.induction with
  | step rule ih =>
    obtain ⟨settings, nested⟩ := rule
    intro path value
    cases nested with
    | none =>
      have hinside (path : String) (_ : Json) :
          Adds (fun found => found) (([] : List Finding).map (Finding.violation path)) :=
        Adds.nothing
      exact Settings.adds_check hinside path value
    | some schema =>
      have hinside := adds_checkNested (Schema.adds_check_of_rules (ih schema rfl))
        settings.memberKind
      exact Settings.adds_check hinside path value

/-- **A schema that is checked at a path adds what it finds, reported under that path.** -/
theorem Schema.adds_check (schema : Schema) (path : String) (fields : Fields) :
    Adds (schema.check path fields) ((schema.findings fields).map (Finding.violation path)) :=
  adds_check_of_rules (fun p _ => p.2.adds_check) path fields

/-- **A check that carries its path reports the same.**  Whatever was found before, a rule that is
checked at a path puts behind it what it reports of the value under that path, and a schema what it
finds in the fields, reported under that path.  At the empty path, where nothing was found before,
this is what the schema reports of an object. -/
theorem checked_along_paths :
    (∀ (rule : Rule) path value found,
      rule.check path value found = found ++ rule.violations path value) ∧
    (∀ (schema : Schema) path fields found,
      schema.check path fields found =
        found ++ (schema.findings fields).map (Finding.violation path)) ∧
    ∀ (schema : Schema) fields, schema.check "" fields [] = schema.violations fields :=
  ⟨fun rule path value => rule.adds_check path value,
    fun schema path fields => schema.adds_check path fields,
    fun schema fields => schema.adds_check "" fields []⟩

end RecordSchema
