import RecordSchema.Description
import RecordSchema.Proofs.Json.Fields

/-!
# Entries of descriptions

Reading a description goes through its entries and collects the reports of those that cannot be read
and the results of the others.  Both are plain list operations on the entries
(`collectSettings_violations`, `collectSettings_results`), and so is what is read in the end:

* `Rule.decode_obj_eq_ok_iff`: a rule is read if every setting can be read by itself and the draft
  of the settings has no defects.
* `Schema.decode_obj_eq_ok_iff`: a schema is read if every name is there and every rule is read, and
  its properties are then these rules in order.

What cannot be read reports something (`Rule.decode_error_ne_nil`, `Schema.decode_error_ne_nil`,
`readSetting_error_ne_nil`), so no reports mean that everything was read (`reportsOf_eq_nil_iff`).
-/

namespace RecordSchema

/-- The result of an entry that declares something and could be read. -/
def entryResult {α : Type} : Except (List Violation) (Option α) → Option α
  | .ok result => result
  | .error _ => none

namespace Collected

variable {α : Type}

theorem add_violations (rest : Collected α) (entry : Except (List Violation) (Option α)) :
    (rest.add entry).violations = reportsOf entry ++ rest.violations := by
  match entry with
  | .ok (some _) => rfl
  | .ok none => rfl
  | .error _ => rfl

theorem add_results (rest : Collected α) (entry : Except (List Violation) (Option α)) :
    (rest.add entry).results = (entryResult entry).toList ++ rest.results := by
  match entry with
  | .ok (some _) => rfl
  | .ok none => rfl
  | .error _ => rfl

theorem finish_eq_ok_iff {β : Type} {make : List α → Except (List Violation) β} {c : Collected α}
    {b : β} : c.finish make = .ok b ↔ c.violations = [] ∧ make c.results = .ok b := by
  rw [finish]
  cases hv : c.violations with
  | nil => simp
  | cons v rest => simp

theorem finish_error_ne_nil {β : Type} {make : List α → Except (List Violation) β}
    (hmake : ∀ {results violations}, make results = .error violations → violations ≠ [])
    {c : Collected α} {violations : List Violation} (h : c.finish make = .error violations) :
    violations ≠ [] := by
  rw [finish] at h
  cases hv : c.violations with
  | nil =>
    rw [hv] at h
    exact hmake h
  | cons v rest =>
    rw [hv] at h
    cases h
    simp

end Collected

/-! ### Drafts -/

theorem Draft.assemble_eq_ok_iff {d : Draft} {rule : Rule} :
    d.assemble = .ok rule ↔ d.defects = [] ∧ d.rule = rule := by
  rw [assemble]
  cases d.defects with
  | nil => simp
  | cons defect rest => simp

theorem Draft.assemble_error_ne_nil {d : Draft} {violations : List Violation}
    (h : d.assemble = .error violations) : violations ≠ [] := by
  rw [assemble] at h
  cases hd : d.defects with
  | nil =>
    rw [hd] at h
    cases h
  | cons defect rest =>
    rw [hd] at h
    cases h
    simp

/-! ### Rules -/

/-- One setting of a description, where the schema inside is read as well. -/
abbrev readSetting (p : String × Json) : Except (List Violation) (Option Setting) :=
  settingEntry p.1 p.2 fun _ => Schema.decode p.2

theorem collectSettings_violations (fields : Fields) :
    (collectSettings fields).violations = fields.flatMap fun p => reportsOf (readSetting p) := by
  induction fields with
  | nil => rfl
  | cons p rest ih => rw [collectSettings, Collected.add_violations, ih, List.flatMap_cons]

theorem collectSettings_results (fields : Fields) :
    (collectSettings fields).results = fields.filterMap fun p => entryResult (readSetting p) := by
  induction fields with
  | nil => rfl
  | cons p rest ih =>
    rw [collectSettings, Collected.add_results, ih, List.filterMap_cons]
    cases entryResult (readSetting p) <;> rfl

/-- The draft of a description: its settings as far as they can be read. -/
def draftOf (fields : Fields) : Draft :=
  Draft.ofSettings (fields.filterMap fun p => entryResult (readSetting p))

/-- If what cannot be read reports something, then no reports mean that all was read. -/
theorem reportsOf_eq_nil_iff {α : Type} {x : Except (List Violation) α}
    (present : ∀ {found}, x = .error found → found ≠ []) :
    reportsOf x = [] ↔ ∃ a, x = .ok a := by
  cases x with
  | ok a => exact iff_of_true rfl ⟨a, rfl⟩
  | error found => exact iff_of_false (present rfl) (by simp)

theorem Rule.decode_error_ne_nil {description : Json} {violations : List Violation}
    (h : Rule.decode description = .error violations) : violations ≠ [] := by
  cases description with
  | obj fields =>
    rw [Rule.decode] at h
    exact Collected.finish_error_ne_nil Draft.assemble_error_ne_nil h
  | _ =>
    cases h
    simp

theorem Schema.decode_error_ne_nil {description : Json} {violations : List Violation}
    (h : Schema.decode description = .error violations) : violations ≠ [] := by
  cases description with
  | obj fields =>
    rw [Schema.decode] at h
    exact Collected.finish_error_ne_nil (fun hmake => by cases hmake) h
  | _ =>
    cases h
    simp

theorem Rule.exists_obj_of_decode {description : Json} {rule : Rule}
    (h : Rule.decode description = .ok rule) : ∃ fields, description = .obj fields := by
  cases description with
  | obj fields => exact ⟨fields, rfl⟩
  | _ => cases h

theorem Schema.exists_obj_of_decode {description : Json} {schema : Schema}
    (h : Schema.decode description = .ok schema) : ∃ fields, description = .obj fields := by
  cases description with
  | obj fields => exact ⟨fields, rfl⟩
  | _ => cases h

theorem readSetting_error_ne_nil {p : String × Json} {violations : List Violation}
    (h : readSetting p = .error violations) : violations ≠ [] := by
  unfold readSetting settingEntry at h
  split at h
  · cases h
    simp
  · split at h
    · cases h
    · next hinside =>
      cases h
      simpa using Schema.decode_error_ne_nil hinside
  · next setting _ _ =>
    cases hread : setting.read p.2 with
    | ok result =>
      rw [hread] at h
      cases h
    | error d =>
      rw [hread] at h
      cases h
      simp

theorem readSetting_reports_eq_nil_iff {p : String × Json} :
    reportsOf (readSetting p) = [] ↔ ∃ result, readSetting p = .ok result :=
  reportsOf_eq_nil_iff readSetting_error_ne_nil

theorem Rule.decode_obj_eq_ok_iff {fields : Fields} {rule : Rule} :
    Rule.decode (.obj fields) = .ok rule ↔
      (∀ p ∈ fields, ∃ result, readSetting p = .ok result) ∧
        (draftOf fields).defects = [] ∧ (draftOf fields).rule = rule := by
  rw [Rule.decode, Collected.finish_eq_ok_iff, collectSettings_violations, collectSettings_results,
    List.flatMap_eq_nil_iff, Draft.assemble_eq_ok_iff]
  simp only [readSetting_reports_eq_nil_iff, draftOf]

/-! ### Schemas -/

/-- One property of a description. -/
abbrev readProperty (p : String × Json) : Except (List Violation) (Option (String × Rule)) :=
  propertyEntry p.1 (Rule.decode p.2)

theorem collectProperties_violations (fields : Fields) :
    (collectProperties fields).violations = fields.flatMap fun p => reportsOf (readProperty p) := by
  induction fields with
  | nil => rfl
  | cons p rest ih => rw [collectProperties, Collected.add_violations, ih, List.flatMap_cons]

theorem collectProperties_results (fields : Fields) :
    (collectProperties fields).results =
      fields.filterMap fun p => entryResult (readProperty p) := by
  induction fields with
  | nil => rfl
  | cons p rest ih =>
    rw [collectProperties, Collected.add_results, ih, List.filterMap_cons]
    cases entryResult (readProperty p) <;> rfl

theorem readProperty_reports_eq_nil_iff {p : String × Json} :
    reportsOf (readProperty p) = [] ↔
      p.1 ≠ "" ∧ ∃ rule, Rule.decode p.2 = .ok rule ∧ readProperty p = .ok (some (p.1, rule)) := by
  unfold readProperty propertyEntry
  cases hrule : Rule.decode p.2 with
  | ok rule =>
    by_cases hname : p.1 = ""
    · simp [hname, nameViolations, reportsOf]
    · simp [hname, reportsOf]
  | error violations =>
    have hne := Rule.decode_error_ne_nil hrule
    simp [reportsOf, hne]

/-- A property of a description and what it is read as. -/
def ReadAs (p : String × Json) (q : String × Rule) : Prop :=
  p.1 ≠ "" ∧ p.1 = q.1 ∧ Rule.decode p.2 = .ok q.2

theorem exists_readAs {fields : Fields} {properties : List (String × Rule)}
    (h : List.Forall₂ ReadAs fields properties) : ∀ q ∈ properties, ∃ p ∈ fields, ReadAs p q := by
  induction h with
  | nil =>
    intro q hq
    cases hq
  | @cons p q _ _ hread _ ih =>
    intro q' hq'
    rcases List.mem_cons.mp hq' with rfl | hq'
    · exact ⟨p, List.mem_cons_self, hread⟩
    · obtain ⟨p', hp', hread'⟩ := ih q' hq'
      exact ⟨p', List.mem_cons_of_mem p hp', hread'⟩

theorem Schema.decode_obj_eq_ok_iff {fields : Fields} {schema : Schema} :
    Schema.decode (.obj fields) = .ok schema ↔ List.Forall₂ ReadAs fields schema.properties := by
  rw [Schema.decode, Collected.finish_eq_ok_iff, collectProperties_violations,
    collectProperties_results]
  obtain ⟨properties⟩ := schema
  simp only [Except.ok.injEq, Schema.mk.injEq]
  induction fields generalizing properties with
  | nil => simp [eq_comm]
  | cons p rest ih =>
    rw [List.flatMap_cons, List.append_eq_nil_iff, readProperty_reports_eq_nil_iff,
      List.filterMap_cons]
    refine ⟨?_, ?_⟩
    · rintro ⟨⟨⟨hname, rule, hrule, hp⟩, hrest⟩, hresults⟩
      rw [hp] at hresults
      subst hresults
      exact .cons ⟨hname, rfl, hrule⟩ ((ih _).mp ⟨hrest, rfl⟩)
    · intro h
      cases h with
      | @cons _ q _ properties hread hforall =>
        obtain ⟨name, rule⟩ := q
        obtain ⟨hname, rfl, hrule⟩ := hread
        obtain ⟨hrest, hresults⟩ := (ih properties).mpr hforall
        have hp : readProperty p = .ok (some (p.1, rule)) := by
          rw [readProperty, hrule, propertyEntry, if_neg (by simpa using hname)]
        refine ⟨⟨⟨hname, rule, hrule, hp⟩, hrest⟩, ?_⟩
        rw [hp, hresults]
        rfl

end RecordSchema
