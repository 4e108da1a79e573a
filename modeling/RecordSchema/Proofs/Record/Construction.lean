import RecordSchema.Proofs.Record.Reachable
import RecordSchema.Proofs.Record.Registration

/-!
# What becomes of a description

A description can be handed to several calls: one lists what is wrong with it, one makes a schema of
it, and two make a record type.  They all read it in the same way, so they judge it alike.

* `Schema.descriptionViolations_eq_nil_iff`: what cannot be read reports something.  So a list of
  reports tells whether reading succeeded, although it does not carry the result.
* `Schema.ofDescription_cases`: a description is no object, or it is refused with its reports, or it
  is read.
* `ReadOff`: a schema has the names of an object in their order, and under each name the rule that
  is described there (`ReadOff.of_decode`).
* `Judged`: the outcome of making a record type, said by the name and the description alone;
  `judged_createType` is the one call, and `register_of_new` makes the other one the same.

`descriptions_judged_alike` puts this together, with the descriptions of single rules.
-/

namespace RecordSchema

/-- The value is an object. -/
def Json.IsObject (value : Json) : Prop :=
  ∃ fields, value = .obj fields

/-! ### Reports and results -/

theorem mapError_of_reports {α : Type} {x : Except (List Violation) α} (h : reportsOf x ≠ []) :
    x.mapError Error.invalidDefinition = .error (.invalidDefinition (reportsOf x)) := by
  cases x with
  | ok a => exact absurd rfl h
  | error found => rfl

theorem Rule.descriptionViolations_eq_nil_iff {description : Json} :
    Rule.descriptionViolations description = [] ↔
      ∃ rule, Rule.ofDescription description = .ok rule := by
  rw [descriptionViolations, reportsOf_eq_nil_iff Rule.decode_error_ne_nil]
  simp only [Rule.ofDescription_eq_ok_iff]

theorem Schema.descriptionViolations_eq_nil_iff {description : Json} :
    Schema.descriptionViolations description = [] ↔
      ∃ schema, Schema.ofDescription description = .ok schema := by
  rw [descriptionViolations, reportsOf_eq_nil_iff Schema.decode_error_ne_nil]
  simp only [Schema.ofDescription_eq_ok_iff]

theorem Schema.ofDescription_of_not_object {description : Json} (h : ¬ description.IsObject) :
    ∃ fault, Schema.ofDescription description = .error (.invalidArgument fault) := by
  cases description with
  | obj fields => exact absurd ⟨fields, rfl⟩ h
  | null => exact ⟨_, rfl⟩
  | _ => exact ⟨_, rfl⟩

theorem Schema.ofDescription_of_refused {description : Json} (object : description.IsObject)
    (refused : Schema.descriptionViolations description ≠ []) :
    Schema.ofDescription description =
      .error (.invalidDefinition (Schema.descriptionViolations description)) := by
  obtain ⟨fields, rfl⟩ := object
  exact mapError_of_reports refused

/-- **A description is no object, or it is refused with its reports, or it is read.** -/
theorem Schema.ofDescription_cases (description : Json) :
    (¬ description.IsObject ∧
      ∃ fault, Schema.ofDescription description = .error (.invalidArgument fault)) ∨
    (description.IsObject ∧ Schema.descriptionViolations description ≠ [] ∧
      Schema.ofDescription description =
        .error (.invalidDefinition (Schema.descriptionViolations description))) ∨
    (description.IsObject ∧ Schema.descriptionViolations description = [] ∧
      ∃ schema, Schema.ofDescription description = .ok schema) := by
  by_cases hobject : description.IsObject
  · by_cases hreports : Schema.descriptionViolations description = []
    · have hread := Schema.descriptionViolations_eq_nil_iff.mp hreports
      exact Or.inr (Or.inr ⟨hobject, hreports, hread⟩)
    · have hrefused := Schema.ofDescription_of_refused hobject hreports
      exact Or.inr (Or.inl ⟨hobject, hreports, hrefused⟩)
  · exact Or.inl ⟨hobject, Schema.ofDescription_of_not_object hobject⟩

/-! ### Schemas that were read -/

/-- A schema is read off an object: it has the names of the object in their order, and under each
name the rule that is described there. -/
structure ReadOff (fields : Fields) (schema : Schema) : Prop where
  names : schema.names = fields.names
  rules : ∀ name value, fields.get? name = some value →
    ∃ rule, Rule.ofDescription value = .ok rule ∧ schema.get? name = some rule

theorem ReadOff.of_forall₂ {fields : Fields} {properties : List (String × Rule)}
    (h : List.Forall₂ ReadAs fields properties) : ReadOff fields ⟨properties⟩ := by
  refine ⟨(names_of_forall₂_readAs h).1, fun name value hvalue => ?_⟩
  change ∃ rule, _ ∧ properties.lookup name = some rule
  induction h with
  | nil => cases hvalue
  | @cons p q _ _ hread _ ih =>
    obtain ⟨-, hname, hdecode⟩ := hread
    rw [Fields.get?_cons] at hvalue
    rw [lookup_cons_eq, ← hname]
    split at hvalue
    · next heq =>
      obtain rfl := Option.some.inj hvalue
      exact ⟨q.2, Rule.ofDescription_eq_ok_iff.mpr hdecode, if_pos heq⟩
    · next hne =>
      rw [if_neg hne]
      exact ih hvalue

theorem ReadOff.of_ofDescription {fields : Fields} {schema : Schema}
    (h : Schema.ofDescription (.obj fields) = .ok schema) : ReadOff fields schema := by
  obtain ⟨properties⟩ := schema
  have hforall := Schema.decode_obj_eq_ok_iff.mp (Schema.ofDescription_eq_ok_iff.mp h)
  exact ReadOff.of_forall₂ hforall

/-! ### Record types -/

/-- The outcome of making a record type of a description under a name.  It fails for an empty name
and for a description that is no object; it fails for a refused object with the reports of that
object; and otherwise there is a type of that name, whose schema is the one that is read. -/
structure Judged (name : String) (description : Json) (outcome : Except Error RecordType) :
    Prop where
  unusable : (∃ fault, outcome = .error (.invalidArgument fault)) ↔
    name = "" ∨ ¬ description.IsObject
  refused : (∃ found, outcome = .error (.invalidDefinition found)) ↔
    name ≠ "" ∧ description.IsObject ∧ Schema.descriptionViolations description ≠ []
  carried : ∀ found, outcome = .error (.invalidDefinition found) →
    Schema.ofDescription description = .error (.invalidDefinition found) ∧
      found = Schema.descriptionViolations description
  made : name ≠ "" → description.IsObject → Schema.descriptionViolations description = [] →
    ∃ type, outcome = .ok type ∧ type.name = name ∧
      Schema.ofDescription description = .ok type.shape.schema ∧
      ∀ fields, description = .obj fields → ReadOff fields type.shape.schema

theorem Judged.of_empty_name (description : Json) (fault : ArgumentFault) :
    Judged "" description (.error (.invalidArgument fault)) where
  unusable := iff_of_true ⟨fault, rfl⟩ (Or.inl rfl)
  refused := iff_of_false (by simp) (by simp)
  carried := by simp
  made := fun h => absurd rfl h

theorem Judged.of_ofDescription {name : String} (named : name ≠ "") (description : Json)
    (identity : Nat) :
    Judged name description
      ((Schema.ofDescription description).map fun schema => ⟨name, ⟨identity, schema⟩⟩) := by
  rcases Schema.ofDescription_cases description with
    ⟨hobject, fault, he⟩ | ⟨hobject, hreports, he⟩ | ⟨hobject, hreports, schema, he⟩
  · rw [he]
    exact {
      unusable := iff_of_true ⟨fault, rfl⟩ (Or.inr hobject)
      refused := iff_of_false (by simp [Except.map]) fun h => hobject h.2.1
      carried := by simp [Except.map]
      made := fun _ h => absurd h hobject }
  · rw [he]
    exact {
      unusable := iff_of_false (by simp [Except.map]) (by simp [named, hobject])
      refused := iff_of_true ⟨_, rfl⟩ ⟨named, hobject, hreports⟩
      carried := by
        intro found hfound
        cases hfound
        exact ⟨he, rfl⟩
      made := fun _ _ h => absurd h hreports }
  · rw [he]
    exact {
      unusable := iff_of_false (by simp [Except.map]) (by simp [named, hobject])
      refused := iff_of_false (by simp [Except.map]) fun h => h.2.2 hreports
      carried := by simp [Except.map]
      made := by
        refine fun _ _ _ => ⟨_, rfl, rfl, he, fun fields hfields => ?_⟩
        subst hfields
        exact ReadOff.of_ofDescription he }

theorem judged_createType (identity : Nat) (name : String) (description : Json) :
    Judged name description (createType identity name (.described description)) := by
  rw [createType]
  by_cases hname : name = ""
  · subst hname
    exact .of_empty_name description .emptyTypeName
  · have hmade := Judged.of_ofDescription hname description identity
    rw [if_neg (by simpa using hname), SchemaSource.shape]
    cases hread : Schema.ofDescription description with
    | ok schema =>
      rw [hread] at hmade
      exact hmade
    | error e =>
      rw [hread] at hmade
      exact hmade

theorem register_of_new {registry : TypeRegistry} {name : String} (new : name ∉ registry.names)
    (identity : Nat) (source : SchemaSource) :
    (registry.register identity name source).map Prod.fst = createType identity name source := by
  rw [TypeRegistry.register, if_neg fun h => new (TypeRegistry.isSome_get?_iff.mp h)]
  cases createType identity name source <;> rfl

/-! ### All calls together -/

/-- **All calls judge a description alike.**  Nothing is reported of the description of a schema
exactly if a schema is made of it.  What is no object is no usable argument, and an object that is
refused is refused with just what is reported of it.  A record type that is created, or registered
under a new name, is made or refused for the same reasons, besides that its name must be there; its
schema has the names of the object in their order and the rules that are described under them.  The
description of a rule is refused with just what is reported of it, if anything is. -/
theorem descriptions_judged_alike (name : String) (description : Json) :
    (Schema.descriptionViolations description = [] ↔
      ∃ schema, Schema.ofDescription description = .ok schema) ∧
    (¬ description.IsObject →
      ∃ fault, Schema.ofDescription description = .error (.invalidArgument fault)) ∧
    (description.IsObject → Schema.descriptionViolations description ≠ [] →
      Schema.ofDescription description =
        .error (.invalidDefinition (Schema.descriptionViolations description))) ∧
    (∀ identity, Judged name description (createType identity name (.described description))) ∧
    (∀ identity registry, name ∉ TypeRegistry.names registry →
      Judged name description
        ((registry.register identity name (.described description)).map Prod.fst)) ∧
    (Rule.descriptionViolations description = [] ↔
      ∃ rule, Rule.ofDescription description = .ok rule) ∧
    (Rule.descriptionViolations description ≠ [] →
      Rule.ofDescription description =
        .error (.invalidDefinition (Rule.descriptionViolations description))) := by
  refine ⟨Schema.descriptionViolations_eq_nil_iff, Schema.ofDescription_of_not_object,
    Schema.ofDescription_of_refused, fun identity => judged_createType identity name description,
    fun identity registry new => ?_, Rule.descriptionViolations_eq_nil_iff, mapError_of_reports⟩
  rw [register_of_new new]
  exact judged_createType identity name description

/-! ### Slips

Two descriptions that are registered beside events: one is read, and one is refused for two of its
properties.
-/

/-- Slips: a receiver, and items with a number. -/
def slip : Json :=
  .obj [("to", .obj [("type", .str "str"), ("required", .bool true)]),
    ("items", .obj [("type", .str "list"), ("schema", .obj [("number", .obj [])])])]

/-- Slips whose receiver is of an unknown kind, and with a property that has no name. -/
def spoiltSlip : Json :=
  .obj [("to", .obj [("type", .str "text")]), ("", .obj [])]

/-- The slip is registered with both of its properties, and the other one is refused with the two
reports of its description. -/
theorem slips_judged_alike :
    "Slip" ∉ eventRegistry.names ∧
    (∃ type, (eventRegistry.register 1 "Slip" (.described slip)).map Prod.fst = .ok type ∧
      type.name = "Slip" ∧ type.shape.schema.names = ["to", "items"]) ∧
    (Schema.descriptionViolations spoiltSlip).map Violation.path = ["to.type", "[\"\"]"] ∧
    ∀ found, (eventRegistry.register 1 "Slip" (.described spoiltSlip)).map Prod.fst =
      .error (.invalidDefinition found) → found = Schema.descriptionViolations spoiltSlip := by
  have hnew : "Slip" ∉ eventRegistry.names := by decide +kernel
  have hclean : Schema.descriptionViolations slip = [] := by decide +kernel
  obtain ⟨-, -, -, -, hslip, -⟩ := descriptions_judged_alike "Slip" slip
  obtain ⟨-, -, -, -, hspoilt, -⟩ := descriptions_judged_alike "Slip" spoiltSlip
  obtain ⟨type, hmade, hname, -, hread⟩ :=
    (hslip 1 eventRegistry hnew).made (by decide) ⟨_, rfl⟩ hclean
  refine ⟨hnew, ⟨type, hmade, hname, (hread _ rfl).names⟩, by decide +kernel, fun found h => ?_⟩
  exact ((hspoilt 1 eventRegistry hnew).carried found h).2

end RecordSchema
