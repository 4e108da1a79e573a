import RecordSchema.Proofs.Record.Reachable

/-!
# Schemas that are declared and schemas that are described

A schema can be declared as a list of named rules, all at once or one after another, or it can be
described.  The two are made in different ways.  Declarations are examined as a whole, names and
rules alike; a description is read entry by entry, and the schema that it gives is not examined any
more.  They come to the same:

* A rule that callers can make has no defects (`Rule.Reachable.defects_eq_nil`), nor has one that is
  read (`Rule.defects_eq_nil_of_decode`), so of declarations only names are reported
  (`Schema.declarationViolations_of_clean`).
* `nameReports` says which reports these are by the places of the names: an empty name is reported
  wherever it stands, and every other name wherever it stands again.
* The fields of an object have distinct names, so a description reports empty names only, and these
  are the reports of the same declarations (`nameReports_of_nodup`).

`declarations_agree` puts this together.
-/

namespace RecordSchema

/-! ### Reports of names -/

/-- The report of a name that follows other ones. -/
def nameReport (earlier : List String) (name : String) : List Violation :=
  if name = "" then [Defect.emptyName.violation]
  else if name ∈ earlier then [(Defect.duplicateName name).violation]
  else []

/-- The reports of names, in their order: each is looked at with those that stand before it. -/
def nameReports (names : List String) : List Violation :=
  names.zipIdx.flatMap fun p => nameReport (names.take p.2) p.1

theorem nameReport_congr {earlier others : List String} (h : ∀ n, n ∈ earlier ↔ n ∈ others)
    (name : String) : nameReport earlier name = nameReport others name := by
  simp only [nameReport, h]

theorem nameDefects_violations (seen : List String) (name : String) :
    (nameDefects seen name).map Defect.violation = nameReport seen name := by
  rw [nameDefects, nameReport]
  by_cases hempty : name = ""
  · simp [hempty]
  · by_cases hseen : name ∈ seen <;> simp [hempty, hseen]

theorem nameReport_of_not_mem {earlier : List String} {name : String} (h : name ∉ earlier) :
    nameReport earlier name = nameViolations name := by
  rw [nameReport, nameViolations, if_neg h]
  by_cases hempty : name = "" <;> simp [hempty]

theorem nameReports_of_nodup {names : List String} (distinct : names.Nodup) :
    nameReports names = names.flatMap nameViolations := by
  have hnew : ∀ p ∈ names.zipIdx, nameReport (names.take p.2) p.1 = nameViolations p.1 := by
    rintro ⟨name, i⟩ hp
    refine nameReport_of_not_mem fun hmem => ?_
    have hi := List.mk_mem_zipIdx_iff_getElem?.mp hp
    obtain ⟨j, hj, hname⟩ := List.mem_take_iff_getElem.mp hmem
    obtain ⟨hlt, hname'⟩ := List.getElem?_eq_some_iff.mp hi
    have hij : j = i := (List.Nodup.getElem_inj_iff distinct).mp (hname.trans hname'.symm)
    omega
  calc nameReports names
      = names.zipIdx.flatMap fun p => nameViolations p.1 := List.flatMap_congr hnew
    _ = (names.zipIdx.map Prod.fst).flatMap nameViolations := by rw [List.flatMap_map]
    _ = names.flatMap nameViolations := by rw [List.zipIdx_map_fst]

/-! ### Rules without defects -/

theorem Rule.defects_eq_nil_of_decode {description : Json} {rule : Rule}
    (h : Rule.decode description = .ok rule) : rule.defects = [] := by
  obtain ⟨fields, rfl⟩ := Rule.exists_obj_of_decode h
  obtain ⟨-, clean, rfl⟩ := Rule.decode_obj_eq_ok_iff.mp h
  exact (Draft.defects_eq_nil_iff.mp clean).2

theorem Rule.Reachable.defects_eq_nil {rule : Rule} (h : rule.Reachable) : rule.defects = [] :=
  h.built.wellFormed.defects_eq_nil

namespace Schema

theorem declarationViolations_of_clean {seen : List String} {properties : List (String × Rule)}
    (clean : ∀ p ∈ properties, p.2.defects = []) :
    declarationViolations seen properties =
      (properties.map Prod.fst).zipIdx.flatMap fun p =>
        nameReport (seen ++ (properties.map Prod.fst).take p.2) p.1 := by
  induction properties generalizing seen with
  | nil => rfl
  | cons p rest ih =>
    obtain ⟨hp, hrest⟩ := List.forall_mem_cons.mp clean
    have hrule : p.2.definitionViolations = [] := by
      rw [Rule.definitionViolations, hp, List.map_nil]
    -- The names that were seen are kept in reverse; what counts is which they are.
    have hseen : ∀ i name, nameReport (p.1 :: seen ++ (rest.map Prod.fst).take i) name =
        nameReport (seen ++ p.1 :: (rest.map Prod.fst).take i) name := fun i name =>
      nameReport_congr (fun n => by simp only [List.mem_append, List.mem_cons]; tauto) name
    rw [declarationViolations, hrule, List.map_nil, List.append_nil, nameDefects_violations,
      ih hrest, List.map_cons, List.zipIdx_cons, List.flatMap_cons, List.zipIdx_succ,
      List.flatMap_map]
    simp only [hseen, List.take_zero, List.append_nil, List.take_succ_cons]

/-- Where the rules have no defects, a schema is reported for its names alone. -/
theorem definitionViolations_of_clean {properties : List (String × Rule)}
    (clean : ∀ p ∈ properties, p.2.defects = []) :
    definitionViolations ⟨properties⟩ = nameReports (properties.map Prod.fst) :=
  declarationViolations_of_clean clean

theorem ofProperties_eq (properties : List (String × Rule)) :
    ofProperties properties =
      if definitionViolations ⟨properties⟩ = [] then .ok ⟨properties⟩
      else .error (.invalidDefinition (definitionViolations ⟨properties⟩)) := by
  rw [ofProperties]
  split
  · next h => rw [if_pos h]
  · next h => rw [if_neg h]

end Schema

/-! ### Entries that are read -/

/-- An entry of a description and the property that it gives if its name is there. -/
def Describes (p : String × Json) (q : String × Rule) : Prop :=
  p.1 = q.1 ∧ Rule.ofDescription p.2 = .ok q.2

theorem Describes.readProperty_eq {p : String × Json} {q : String × Rule} (h : Describes p q) :
    readProperty p = if q.1 = "" then .error (nameViolations q.1) else .ok (some q) := by
  obtain ⟨hname, hrule⟩ := h
  rw [readProperty, Rule.ofDescription_eq_ok_iff.mp hrule, propertyEntry, hname]
  simp

section

variable {fields : Fields} {properties : List (String × Rule)}

theorem collectProperties_violations_of_describes (h : List.Forall₂ Describes fields properties) :
    (collectProperties fields).violations =
      (properties.map Prod.fst).flatMap nameViolations := by
  rw [collectProperties_violations]
  induction h with
  | nil => rfl
  | @cons p q _ _ hp _ ih =>
    rw [List.flatMap_cons, ih, List.map_cons, List.flatMap_cons, hp.readProperty_eq]
    by_cases hempty : q.1 = "" <;> simp [hempty, reportsOf, nameViolations]

theorem collectProperties_results_of_describes (h : List.Forall₂ Describes fields properties)
    (named : ∀ q ∈ properties, q.1 ≠ "") : (collectProperties fields).results = properties := by
  rw [collectProperties_results]
  induction h with
  | nil => rfl
  | @cons p q _ _ hp _ ih =>
    obtain ⟨hq, hrest⟩ := List.forall_mem_cons.mp named
    have hresult : entryResult (readProperty p) = some q := by
      rw [hp.readProperty_eq, if_neg hq, entryResult]
    rw [List.filterMap_cons, hresult, ih hrest]

theorem names_eq_of_describes (h : List.Forall₂ Describes fields properties) :
    fields.names = properties.map Prod.fst := by
  induction h with
  | nil => rfl
  | cons hp _ ih => rw [Fields.names, List.map_cons, List.map_cons, hp.1, ← ih, Fields.names]

theorem clean_of_describes (h : List.Forall₂ Describes fields properties) :
    ∀ q ∈ properties, q.2.defects = [] := by
  induction h with
  | nil => simp
  | cons hp _ ih =>
    have hrule := Rule.defects_eq_nil_of_decode (Rule.ofDescription_eq_ok_iff.mp hp.2)
    exact List.forall_mem_cons.mpr ⟨hrule, ih⟩

theorem Schema.ofDescription_eq_ofProperties (distinct : fields.names.Nodup)
    (h : List.Forall₂ Describes fields properties) :
    Schema.ofDescription (.obj fields) = Schema.ofProperties properties := by
  have hreports : definitionViolations ⟨properties⟩ = (collectProperties fields).violations := by
    rw [definitionViolations_of_clean (clean_of_describes h),
      collectProperties_violations_of_describes h,
      nameReports_of_nodup (names_eq_of_describes h ▸ distinct)]
  rw [ofDescription, Schema.decode, Collected.finish, ofProperties_eq, hreports]
  by_cases hnil : (collectProperties fields).violations = []
  · have hnamed : ∀ q ∈ properties, q.1 ≠ "" := by
      rw [collectProperties_violations_of_describes h, List.flatMap_eq_nil_iff] at hnil
      intro q hq hempty
      have hreport := hnil q.1 (List.mem_map_of_mem hq)
      simp [nameViolations, hempty] at hreport
    rw [if_pos (List.isEmpty_iff.mpr hnil), if_pos hnil,
      collectProperties_results_of_describes h hnamed]
    rfl
  · rw [if_neg (by simpa using hnil), if_neg hnil]
    rfl

end

/-! ### Agreement -/

theorem Schema.definitionViolations_eq_nil_iff {properties : List (String × Rule)}
    (clean : ∀ p ∈ properties, p.2.defects = []) :
    definitionViolations ⟨properties⟩ = [] ↔
      "" ∉ properties.map Prod.fst ∧ (properties.map Prod.fst).Nodup := by
  rw [definitionViolations, declarationViolations_eq_nil_iff]
  refine ⟨?_, ?_⟩
  · rintro ⟨hnames, distinct, -⟩
    refine ⟨fun hmem => ?_, distinct⟩
    obtain ⟨p, hp, hempty⟩ := List.mem_map.mp hmem
    exact (hnames p hp).1 hempty
  · rintro ⟨named, distinct⟩
    refine ⟨fun p hp => ⟨fun hempty => ?_, List.not_mem_nil⟩, distinct, clean⟩
    exact named (List.mem_map.mpr ⟨p, hp, hempty⟩)

/-- **Described schemas and declared ones agree.**  A description whose rules are all read gives the
schema, or the reports, that the declarations of these rules give, be they declared at once or one
after another.  And declarations of rules that callers can make give the schema of just these if the
names are there and distinct; otherwise nothing but the names is reported. -/
theorem declarations_agree :
    (∀ (fields : Fields) (properties : List (String × Rule)), fields.names.Nodup →
      List.Forall₂ Describes fields properties →
        Schema.ofDescription (.obj fields) = Schema.ofProperties properties ∧
          (properties.foldl (fun d p => d.property p.1 p.2) (⟨[]⟩ : SchemaDraft)).build =
            Schema.ofProperties properties) ∧
    ∀ properties : List (String × Rule), (∀ p ∈ properties, p.2.Reachable) →
      Schema.ofProperties properties =
        if "" ∉ properties.map Prod.fst ∧ (properties.map Prod.fst).Nodup then .ok ⟨properties⟩
        else .error (.invalidDefinition (nameReports (properties.map Prod.fst))) := by
  refine ⟨fun fields properties distinct h => ⟨?_, ?_⟩, fun properties reachable => ?_⟩
  · exact Schema.ofDescription_eq_ofProperties distinct h
  · rw [SchemaDraft.build, SchemaDraft.properties_foldl, List.nil_append]
  · have clean : ∀ p ∈ properties, p.2.defects = [] := fun p hp =>
      (reachable p hp).defects_eq_nil
    rw [Schema.ofProperties_eq, if_congr (Schema.definitionViolations_eq_nil_iff clean) rfl rfl,
      Schema.definitionViolations_of_clean clean]

/-! ### Ages

A description in which one of two ages has no name, and declarations that repeat names.
-/

/-- Whole numbers. -/
def age : Json :=
  .obj [("type", .str "integer")]

/-- The rule that is described by `age`. -/
def ageRule : Rule :=
  ⟨{ kind := .integer }, none⟩

/-- An age without a name, and one with a name. -/
def ages : Fields :=
  [("", age), ("age", age)]

/-- Ages under names that stand again. -/
def repeatedAges : List (String × Rule) :=
  [("age", ageRule), ("", ageRule), ("age", ageRule), ("", ageRule)]

theorem ofDescription_age : Rule.ofDescription age = .ok ageRule :=
  rfl

/-- The description is refused for the missing name, as the declarations are, and each name that
stands again is reported where it does. -/
theorem ages_declarations_agree :
    ages.names.Nodup ∧ List.Forall₂ Describes ages [("", ageRule), ("age", ageRule)] ∧
      Schema.ofDescription (.obj ages) =
        .error (.invalidDefinition [Defect.emptyName.violation]) ∧
      ageRule.Reachable ∧
      Schema.ofProperties repeatedAges =
        .error (.invalidDefinition [Defect.emptyName.violation,
          (Defect.duplicateName "age").violation, Defect.emptyName.violation]) := by
  have distinct : age.DistinctNames := by
    simp [age, Json.DistinctNames, Json.fieldsDistinct, Fields.names]
  have reachable : ageRule.Reachable := .described distinct ofDescription_age
  have hnames : ages.names.Nodup := by decide
  have hdescribes : List.Forall₂ Describes ages [("", ageRule), ("age", ageRule)] :=
    .cons ⟨rfl, ofDescription_age⟩ (.cons ⟨rfl, ofDescription_age⟩ .nil)
  obtain ⟨hdescribed, hdeclared⟩ := declarations_agree
  have hages : nameReports ["", "age"] = [Defect.emptyName.violation] := by decide +kernel
  have hrepeated : nameReports ["age", "", "age", ""] =
      [Defect.emptyName.violation, (Defect.duplicateName "age").violation,
        Defect.emptyName.violation] := by
    decide +kernel
  refine ⟨hnames, hdescribes, ?_, reachable, ?_⟩
  · rw [(hdescribed ages _ hnames hdescribes).1, hdeclared _ (by simp [reachable]),
      if_neg (by decide), ← hages]
    rfl
  · rw [hdeclared repeatedAges (by simp [repeatedAges, reachable]), if_neg (by decide),
      ← hrepeated]
    rfl

end RecordSchema
