import RecordSchema.Proofs.Record.Reachable
import RecordSchema.Workspace.Basic

/-!
# Reports of definitions and reports of values

A violation concerns a definition or a value, and its kind tells which.  The two never mix, although
a definition is examined by checking its default as a value would be: what is found there, at any
depth, becomes a defect of the definition.

* `Defect.concernsDefinition`, `Issue.not_concernsDefinition`: the kinds of the two sorts of
  reports.  Whatever moves a report outwards keeps its kind.
* `reportsDefinitions_decode`: descriptions are read with reports of definitions only, by induction
  over the description.
* `Error.Proper`: an error carries reports of its own sort, and it does carry some.
* `Raised`: the errors of all calls, and `Raised.proper`: they are proper.

`definitions_and_values_apart` puts this together, for single calls and for the commands of a
workspace.
-/

namespace RecordSchema

/-! ### The two sorts of reports -/

/-- All reports are of definitions. -/
def ReportsDefinitions (found : List Violation) : Prop :=
  ∀ v ∈ found, v.kind.concernsDefinition = true

/-- All reports are of values. -/
def ReportsValues (found : List Violation) : Prop :=
  ∀ v ∈ found, v.kind.concernsDefinition = false

/-- An error carries what it stands for: reports of a definition or of a value, and never none. -/
def Error.Proper : Error → Prop
  | .invalidDefinition found => found ≠ [] ∧ ReportsDefinitions found
  | .invalidArgument _ => True
  | .validationFailed found => found ≠ [] ∧ ReportsValues found

theorem Defect.concernsDefinition (d : Defect) : d.kind.concernsDefinition = true := by
  cases d <;> rfl

theorem Issue.not_concernsDefinition (i : Issue) : i.kind.concernsDefinition = false := by
  cases i with
  | unlisted scope => cases scope <;> rfl
  | outside scope side => cases scope <;> cases side <;> rfl
  | unmatched scope => cases scope <;> rfl
  | _ => rfl

namespace ReportsDefinitions

variable {found others : List Violation}

theorem nil : ReportsDefinitions [] := by
  simp [ReportsDefinitions]

theorem append (h : ReportsDefinitions found) (h' : ReportsDefinitions others) :
    ReportsDefinitions (found ++ others) :=
  List.forall_mem_append.mpr ⟨h, h'⟩

theorem flatMap {α : Type} {l : List α} {f : α → List Violation}
    (h : ∀ a ∈ l, ReportsDefinitions (f a)) : ReportsDefinitions (l.flatMap f) := by
  intro v hv
  obtain ⟨a, ha, hv⟩ := List.mem_flatMap.mp hv
  exact h a ha v hv

theorem under (h : ReportsDefinitions found) (outer : String) :
    ReportsDefinitions (found.map (Violation.under outer)) := by
  intro v hv
  obtain ⟨w, hw, rfl⟩ := List.mem_map.mp hv
  exact h w hw

/-- Defects are reported of definitions, also those that were found as issues of a default. -/
theorem ofDefects (defects : List Defect) : ReportsDefinitions (defects.map Defect.violation) := by
  intro v hv
  obtain ⟨d, -, rfl⟩ := List.mem_map.mp hv
  exact d.concernsDefinition

end ReportsDefinitions

theorem reportsValues_findings (root : String) (findings : List Finding) :
    ReportsValues (findings.map (Finding.violation root)) := by
  intro v hv
  obtain ⟨f, -, rfl⟩ := List.mem_map.mp hv
  exact f.issue.not_concernsDefinition

/-! ### Definitions and descriptions -/

theorem reportsDefinitions_declarations (seen : List String) (properties : List (String × Rule)) :
    ReportsDefinitions (Schema.declarationViolations seen properties) := by
  induction properties generalizing seen with
  | nil => exact .nil
  | cons p rest ih =>
    have hrule : ReportsDefinitions p.2.definitionViolations := .ofDefects _
    rw [Schema.declarationViolations]
    exact ((ReportsDefinitions.ofDefects _).append (hrule.under _)).append (ih _)

theorem Collected.reportsDefinitions_finish {α β : Type} {c : Collected α}
    {make : List α → Except (List Violation) β} (hc : ReportsDefinitions c.violations)
    (hmake : ∀ results, ReportsDefinitions (reportsOf (make results))) :
    ReportsDefinitions (reportsOf (c.finish make)) := by
  rw [finish]
  split
  · exact hmake c.results
  · exact hc

theorem Draft.reportsDefinitions_assemble (d : Draft) :
    ReportsDefinitions (reportsOf d.assemble) := by
  rw [assemble]
  split
  · exact .nil
  · exact .ofDefects _

theorem reportsDefinitions_readSetting {p : String × Json}
    (inside : ReportsDefinitions (reportsOf (Schema.decode p.2))) :
    ReportsDefinitions (reportsOf (readSetting p)) := by
  unfold readSetting settingEntry
  split
  · exact .ofDefects [_]
  · cases hread : Schema.decode p.2 with
    | ok schema => exact .nil
    | error found =>
      rw [hread] at inside
      exact inside.under _
  · next setting _ _ =>
    cases setting.read p.2 with
    | ok result => exact .nil
    | error defect => exact .ofDefects [defect]

theorem reportsDefinitions_readProperty {p : String × Json}
    (rule : ReportsDefinitions (reportsOf (Rule.decode p.2))) :
    ReportsDefinitions (reportsOf (readProperty p)) := by
  have hname : ReportsDefinitions (nameViolations p.1) := by
    rw [nameViolations]
    split
    · exact .ofDefects [_]
    · exact .nil
  unfold readProperty propertyEntry
  cases hread : Rule.decode p.2 with
  | ok rule =>
    dsimp only
    split
    · exact hname
    · exact .nil
  | error found =>
    rw [hread] at rule
    exact hname.append (rule.under _)

/-- **Descriptions are read with reports of definitions only.** -/
theorem reportsDefinitions_decode (description : Json) :
    ReportsDefinitions (Rule.descriptionViolations description) ∧
      ReportsDefinitions (Schema.descriptionViolations description) := by
  rw [Rule.descriptionViolations, Schema.descriptionViolations]
  induction description using Json.induction with
  | object fields ih =>
    rw [Rule.decode, Schema.decode]
    refine ⟨Collected.reportsDefinitions_finish ?_ fun settings => ?_,
      Collected.reportsDefinitions_finish ?_ fun properties => ?_⟩
    · rw [collectSettings_violations]
      exact .flatMap fun p hp => reportsDefinitions_readSetting (ih p hp).2
    · exact Draft.reportsDefinitions_assemble _
    · rw [collectProperties_violations]
      exact .flatMap fun p hp => reportsDefinitions_readProperty (ih p hp).1
    · exact .nil
  | other value hvalue =>
    cases value with
    | obj fields => exact absurd rfl (hvalue fields)
    | _ => exact ⟨.ofDefects [_], .ofDefects [_]⟩

/-! ### Calls -/

/-- A call ends well: its result is as it should be, or its error is. -/
def Ends {ε α : Type} (x : Except ε α) (good : α → Prop) (bad : ε → Prop) : Prop :=
  match x with
  | .ok a => good a
  | .error e => bad e

namespace Ends

variable {ε δ α β : Type} {x : Except ε α} {good : α → Prop} {bad : ε → Prop}

theorem self (x : Except ε α) : Ends x (fun a => x = .ok a) (fun _ => True) := by
  cases x with
  | ok a => rfl
  | error e => trivial

theorem mapError {f : ε → δ} {other : δ → Prop} (h : Ends x good bad)
    (hf : ∀ e, bad e → other (f e)) : Ends (x.mapError f) good other := by
  cases x with
  | ok a => exact h
  | error e => exact hf e h

theorem map {f : α → β} {other : β → Prop} (h : Ends x good bad)
    (hf : ∀ a, good a → other (f a)) : Ends (x.map f) other bad := by
  cases x with
  | ok a => exact hf a h
  | error e => exact h

theorem bind {f : α → Except ε β} {other : β → Prop} (h : Ends x good bad)
    (hf : ∀ a, good a → Ends (f a) other bad) : Ends (x >>= f) other bad := by
  cases x with
  | ok a => exact hf a h
  | error e => exact h

theorem error {e : ε} (h : Ends x good bad) (he : x = .error e) : bad e := by
  subst he
  exact h

end Ends

/-- A call that may give anything, but that fails with proper errors only. -/
def EndsProperly {α : Type} (x : Except Error α) : Prop :=
  Ends x (fun _ => True) Error.Proper

namespace EndsProperly

variable {α β : Type}

theorem ok (a : α) : EndsProperly (.ok a) :=
  trivial

theorem invalidArgument (fault : ArgumentFault) :
    EndsProperly (.error (.invalidArgument fault) : Except Error α) :=
  trivial

theorem map {x : Except Error α} (h : EndsProperly x) (f : α → β) : EndsProperly (x.map f) :=
  Ends.map h fun _ _ => trivial

theorem ofReports {x : Except (List Violation) α} (reports : ReportsDefinitions (reportsOf x))
    (present : ∀ {found}, x = .error found → found ≠ []) :
    EndsProperly (x.mapError .invalidDefinition) := by
  cases x with
  | ok a => exact ok a
  | error found => exact ⟨present rfl, reports⟩

theorem passOn {x : Except Error α} (h : EndsProperly x) {e : Error} (he : x = .error e) :
    EndsProperly (.error e : Except Error β) := by
  subst he
  exact h

theorem ofEnds {x : Except Error α} {good : α → Prop} (h : Ends x good Error.Proper) :
    EndsProperly x := by
  cases x with
  | ok a => exact ok a
  | error e => exact h

end EndsProperly

/-! ### Calls that make definitions -/

theorem endsProperly_ruleOfDescription (description : Json) :
    EndsProperly (Rule.ofDescription description) :=
  .ofReports (reportsDefinitions_decode description).1 Rule.decode_error_ne_nil

theorem endsProperly_build (d : Draft) : EndsProperly d.build :=
  .ofReports d.reportsDefinitions_assemble Draft.assemble_error_ne_nil

theorem endsProperly_schemaOfDescription (description : Json) :
    EndsProperly (Schema.ofDescription description) := by
  cases description with
  | obj fields => exact .ofReports (reportsDefinitions_decode _).2 Schema.decode_error_ne_nil
  | _ => exact .invalidArgument _

theorem endsProperly_ofProperties (properties : List (String × Rule)) :
    EndsProperly (Schema.ofProperties properties) := by
  rw [Schema.ofProperties]
  split
  · exact .ok _
  · next hne => exact ⟨hne, reportsDefinitions_declarations [] properties⟩

/-! ### Calls that make types and records -/

theorem endsProperly_shape (identity : Nat) (source : SchemaSource) :
    EndsProperly (source.shape identity) := by
  cases source with
  | described description => exact (endsProperly_schemaOfDescription description).map _
  | made schema => exact .ok _
  | shared shape => exact .ok _

theorem endsProperly_createType (identity : Nat) (name : String) (source : SchemaSource) :
    EndsProperly (createType identity name source) := by
  rw [createType]
  split
  · exact .invalidArgument _
  · exact (endsProperly_shape identity source).map _

theorem endsProperly_register (registry : TypeRegistry) (identity : Nat) (name : String)
    (source : SchemaSource) : EndsProperly (registry.register identity name source) := by
  rw [TypeRegistry.register]
  split
  · exact .invalidArgument _
  · exact (endsProperly_createType identity name source).map _

theorem endsProperly_createRecord (registry : TypeRegistry) (name : String) :
    EndsProperly (registry.createRecord name) := by
  rw [TypeRegistry.createRecord]
  split
  · exact .ok _
  · exact .invalidArgument _

theorem endsProperly_recordFromValue (type : RecordType) (value : Json) :
    EndsProperly (type.recordFromValue value) := by
  cases value with
  | obj fields => exact .ok _
  | _ => exact .invalidArgument _

/-! ### Calls that check values -/

theorem ends_outcome (raised : Bool) {found : List Violation} (h : ReportsValues found) :
    Ends (outcome raised found) ReportsValues Error.Proper := by
  rw [outcome]
  split
  · next hraised =>
    have hne : found ≠ [] := by
      rintro rfl
      simp at hraised
    exact ⟨hne, h⟩
  · exact h

theorem ends_validateStandalone (rule : Rule) (value : Option Json) (raised : Bool) :
    Ends (validateStandalone rule value raised) ReportsValues Error.Proper :=
  ends_outcome raised (reportsValues_findings _ _)

theorem ends_validateWith (r : Record) (raised : Bool) :
    Ends (r.validateWith raised) ReportsValues Error.Proper := by
  rw [Record.validateWith]
  split
  · exact trivial
  · exact ends_outcome raised (reportsValues_findings _ _)

theorem endsProperly_ruleOf (r : Record) (name : String) : EndsProperly (r.ruleOf name) := by
  rw [Record.ruleOf]
  split
  · exact .invalidArgument _
  · split
    · exact .invalidArgument _
    · split
      · exact .invalidArgument _
      · exact .ok _

theorem ends_validatePropertyWith (r : Record) (name : String) (raised : Bool) :
    Ends (r.validatePropertyWith name raised) ReportsValues Error.Proper := by
  have hrule := endsProperly_ruleOf r name
  rw [Record.validatePropertyWith]
  split
  · next e he =>
    rw [he] at hrule
    exact hrule
  · exact ends_outcome raised (reportsValues_findings _ _)

theorem endsProperly_perfect (r : Record) : EndsProperly r.perfect := by
  rw [Record.perfect]
  split
  · exact .invalidArgument _
  · exact .ok _

/-! ### Errors of all calls -/

/-- The errors that the calls of the library fail with. -/
inductive Raised : Error → Prop
  | ruleOfDescription {description : Json} {e : Error}
      (h : Rule.ofDescription description = .error e) : Raised e
  | build {d : Draft} {e : Error} (h : d.build = .error e) : Raised e
  | schemaOfDescription {description : Json} {e : Error}
      (h : Schema.ofDescription description = .error e) : Raised e
  | ofProperties {properties : List (String × Rule)} {e : Error}
      (h : Schema.ofProperties properties = .error e) : Raised e
  | schemaBuild {d : SchemaDraft} {e : Error} (h : d.build = .error e) : Raised e
  | shape {identity : Nat} {source : SchemaSource} {e : Error}
      (h : source.shape identity = .error e) : Raised e
  | createType {identity : Nat} {name : String} {source : SchemaSource} {e : Error}
      (h : createType identity name source = .error e) : Raised e
  | register {registry : TypeRegistry} {identity : Nat} {name : String} {source : SchemaSource}
      {e : Error} (h : registry.register identity name source = .error e) : Raised e
  | createRecord {registry : TypeRegistry} {name : String} {e : Error}
      (h : registry.createRecord name = .error e) : Raised e
  | recordFromValue {type : RecordType} {value : Json} {e : Error}
      (h : type.recordFromValue value = .error e) : Raised e
  | perfect {r : Record} {e : Error} (h : r.perfect = .error e) : Raised e
  | validateWith {r : Record} {raised : Bool} {e : Error}
      (h : r.validateWith raised = .error e) : Raised e
  | validatePropertyWith {r : Record} {name : String} {raised : Bool} {e : Error}
      (h : r.validatePropertyWith name raised = .error e) : Raised e
  | validateStandalone {rule : Rule} {value : Option Json} {raised : Bool} {e : Error}
      (h : validateStandalone rule value raised = .error e) : Raised e
  | validate {r : Record} {e : Error} (h : r.validate = .error e) : Raised e
  | violations {r : Record} {e : Error} (h : r.violations = .error e) : Raised e
  | validateProperty {r : Record} {name : String} {e : Error}
      (h : r.validateProperty name = .error e) : Raised e

/-- **Every error is proper.** -/
theorem Raised.proper {e : Error} (raised : Raised e) : e.Proper := by
  cases raised with
  | ruleOfDescription h => exact Ends.error (endsProperly_ruleOfDescription _) h
  | build h => exact Ends.error (endsProperly_build _) h
  | schemaOfDescription h => exact Ends.error (endsProperly_schemaOfDescription _) h
  | ofProperties h => exact Ends.error (endsProperly_ofProperties _) h
  | schemaBuild h => exact Ends.error (endsProperly_ofProperties _) h
  | shape h => exact Ends.error (endsProperly_shape _ _) h
  | createType h => exact Ends.error (endsProperly_createType _ _ _) h
  | register h => exact Ends.error (endsProperly_register _ _ _ _) h
  | createRecord h => exact Ends.error (endsProperly_createRecord _ _) h
  | recordFromValue h => exact Ends.error (endsProperly_recordFromValue _ _) h
  | perfect h => exact Ends.error (endsProperly_perfect _) h
  | validateWith h => exact Ends.error (ends_validateWith _ _) h
  | validatePropertyWith h => exact Ends.error (ends_validatePropertyWith _ _ _) h
  | validateStandalone h => exact Ends.error (ends_validateStandalone _ _ _) h
  | validate h =>
    exact Ends.error (EndsProperly.map (.ofEnds (ends_validateWith _ _)) fun _ => ()) h
  | violations h => exact Ends.error (ends_validateWith _ _) h
  | validateProperty h =>
    exact Ends.error (EndsProperly.map (.ofEnds (ends_validatePropertyWith _ _ _)) fun _ => ()) h

/-! ### Workspaces -/

/-- A failure of a command is proper if the error of the call is. -/
def Failure.Proper : Failure → Prop
  | .error e => e.Proper
  | .nothingKept _ => True

/-- A reply that gives violations gives those of a value. -/
def Reply.Proper : Reply → Prop
  | .violations reported => ReportsValues reported
  | _ => True

theorem endsProperly_settingsOf (calls : List DraftCall) : EndsProperly (settingsOf calls) := by
  induction calls with
  | nil => exact .ok _
  | cons call rest ih =>
    have hcall : EndsProperly call.toSetting := by
      cases call with
      | plain setting => exact .ok _
      | described description => exact (endsProperly_schemaOfDescription description).map _
    rw [settingsOf]
    split
    · next e he => exact hcall.passOn he
    · exact ih.map _

theorem endsProperly_ruleSource (source : RuleSource) : EndsProperly source.rule := by
  cases source with
  | described description => exact endsProperly_ruleOfDescription description
  | drafted kind calls =>
    have hcalls := endsProperly_settingsOf calls
    rw [RuleSource.rule]
    split
    · next e he => exact hcalls.passOn he
    · exact endsProperly_build _
  | unrestricted => exact .ok _

theorem endsProperly_rulesOf (sources : List (String × RuleSource)) :
    EndsProperly (rulesOf sources) := by
  induction sources with
  | nil => exact .ok _
  | cons p rest ih =>
    have hrule := endsProperly_ruleSource p.2
    rw [rulesOf]
    split
    · next e he => exact hrule.passOn he
    · exact ih.map _

theorem endsProperly_shapeSource (source : ShapeSource) : EndsProperly source.schema := by
  cases source with
  | described description => exact endsProperly_schemaOfDescription description
  | listed rules =>
    have hrules := endsProperly_rulesOf rules
    rw [ShapeSource.schema]
    split
    · next e he => exact hrules.passOn he
    · exact endsProperly_ofProperties _

namespace Workspace

theorem ends_lookUp {α : Type} (kept : List (String × α)) (name : String) :
    Ends (lookUp kept name) (fun _ => True) Failure.Proper := by
  rw [lookUp]
  split
  · exact trivial
  · exact trivial

theorem ends_typeAt (w : Workspace) (reference : TypeReference) :
    Ends (w.typeAt reference) (fun _ => True) Failure.Proper := by
  cases reference with
  | kept name => exact ends_lookUp w.types name
  | registered name =>
    rw [typeAt]
    split
    · exact trivial
    · exact trivial

theorem ends_called {α : Type} {x : Except Error α} {good : α → Prop}
    (h : Ends x good Error.Proper) : Ends (x.mapError Failure.error) good Failure.Proper :=
  h.mapError fun _ he => he

theorem ends_sourceOf (w : Workspace) (source : TypeSource) :
    Ends (w.sourceOf source) (fun _ => True) Failure.Proper := by
  match source with
  | .kept shape => exact (ends_lookUp w.shapes shape).map fun _ _ => trivial
  | .given (.described description) => exact trivial
  | .given (.listed rules) =>
    exact (ends_called (endsProperly_shapeSource (.listed rules))).map fun _ _ => trivial

/-- **Every command** fails with a proper error, and gives violations of values only. -/
theorem ends_perform (w : Workspace) (command : Command) :
    Ends (w.perform command) (fun outcome => outcome.1.Proper) Failure.Proper := by
  have hrecord := fun name => ends_lookUp w.records name
  cases command with
  | keepSchema source keptAs =>
    exact (ends_called (endsProperly_shapeSource source)).bind fun _ _ => trivial
  | register name source =>
    refine (w.ends_sourceOf source).bind fun source _ => ?_
    exact (ends_called (endsProperly_register _ _ name source)).bind fun _ _ => trivial
  | createType name source keptAs =>
    refine (w.ends_sourceOf source).bind fun source _ => ?_
    exact (ends_called (endsProperly_createType _ name source)).bind fun _ _ => trivial
  | showRegistry => exact trivial
  | getType name =>
    rw [perform]
    split
    · exact trivial
    · exact trivial
  | createRecord type keptAs =>
    exact (ends_called (endsProperly_createRecord w.registry type)).bind fun _ _ => trivial
  | newRecord type value keptAs =>
    refine (w.ends_typeAt type).bind fun type _ => ?_
    cases value with
    | none => exact trivial
    | some value =>
      exact (ends_called (endsProperly_recordFromValue type value)).bind fun _ _ => trivial
  | unbound attributes keptAs => exact trivial
  | copy record keptAs => exact (hrecord record).bind fun _ _ => trivial
  | set record name value => exact (hrecord record).bind fun _ _ => trivial
  | remove record name => exact (hrecord record).bind fun _ _ => trivial
  | get record name => exact (hrecord record).bind fun _ _ => trivial
  | getOr record name default => exact (hrecord record).bind fun _ _ => trivial
  | showRecord record => exact (hrecord record).bind fun _ _ => trivial
  | validate record =>
    refine (hrecord record).bind fun r _ => ?_
    have hvalid := EndsProperly.ofEnds (ends_validateWith r true)
    exact (ends_called (hvalid.map fun _ => ())).bind fun _ _ => trivial
  | violations record =>
    refine (hrecord record).bind fun r _ => ?_
    exact (ends_called (ends_validateWith r false)).bind fun _ h => h
  | validateObject record raised =>
    refine (hrecord record).bind fun r _ => ?_
    exact (ends_called (ends_validateWith r raised)).bind fun _ h => h
  | validateProperty record name raised =>
    refine (hrecord record).bind fun r _ => ?_
    exact (ends_called (ends_validatePropertyWith r name raised)).bind fun _ h => h
  | requireProperty record name =>
    refine (hrecord record).bind fun r _ => ?_
    have hvalid := EndsProperly.ofEnds (ends_validatePropertyWith r name true)
    exact (ends_called (hvalid.map fun _ => ())).bind fun _ _ => trivial
  | perfect record =>
    refine (hrecord record).bind fun r _ => ?_
    exact (ends_called (endsProperly_perfect r)).bind fun _ _ => trivial
  | sameSchema record other =>
    refine (hrecord record).bind fun r _ => ?_
    exact (hrecord other).bind fun _ _ => trivial

end Workspace

/-! ### Both sorts together -/

/-- **Reports of definitions and reports of values never mix.**  Whatever is given of a description
or a definition is of definitions, whatever is given of a value or a record is of values, and the
errors of all calls carry reports of the sort that they stand for, never none.  The same holds of
everything that a workspace answers. -/
theorem definitions_and_values_apart :
    (∀ description, ReportsDefinitions (Rule.descriptionViolations description) ∧
      ReportsDefinitions (Schema.descriptionViolations description)) ∧
    (∀ rule : Rule, ReportsDefinitions rule.definitionViolations) ∧
    (∀ schema : Schema, ReportsDefinitions schema.definitionViolations) ∧
    (∀ (rule : Rule) name value, ReportsValues (rule.violations name value)) ∧
    (∀ (schema : Schema) fields, ReportsValues (schema.violations fields)) ∧
    (∀ (r : Record) raised, Ends (r.validateWith raised) ReportsValues Error.Proper ∧
      ∀ name, Ends (r.validatePropertyWith name raised) ReportsValues Error.Proper) ∧
    (∀ rule value raised,
      Ends (validateStandalone rule value raised) ReportsValues Error.Proper) ∧
    (∀ e, Raised e → e.Proper) ∧
    ∀ (w : Workspace) command,
      Ends (w.perform command) (fun outcome => outcome.1.Proper) Failure.Proper := by
  refine ⟨reportsDefinitions_decode, fun rule => .ofDefects _, fun schema => ?_, ?_, ?_, ?_, ?_,
    fun e raised => raised.proper, Workspace.ends_perform⟩
  · exact reportsDefinitions_declarations [] schema.properties
  · exact fun rule name value => reportsValues_findings name _
  · exact fun schema fields => reportsValues_findings "" _
  · exact fun r raised => ⟨ends_validateWith r raised, fun name =>
      ends_validatePropertyWith r name raised⟩
  · exact ends_validateStandalone

/-! ### Stock

A default that fails through the schema inside.
-/

/-- Stock of at least one piece, of which there is none by default. -/
def stock : Json :=
  .obj [("type", .str "object"), ("default", .obj [("pieces", .num (.int 0))]),
    ("schema", .obj [("pieces", .obj [("type", .str "integer"), ("min", .num (.int 1))])])]

/-- The schema inside `stock`. -/
def stockSchema : Schema :=
  ⟨[("pieces", ⟨{ kind := .integer, least := some (.finite (.ofInt 1)) }, none⟩)]⟩

/-- The defect of the default of `stock`. -/
def stockDefect : Defect :=
  .badDefault "The value of 0 for \"default.pieces\" fails min of 1."

theorem ofDescription_stock :
    Rule.ofDescription stock = .error (.invalidDefinition [stockDefect.violation]) := by
  have hreports : reportsOf (Rule.decode stock) = [stockDefect.violation] := by decide +kernel
  rw [Rule.ofDescription]
  cases hread : Rule.decode stock with
  | ok rule =>
    rw [hread] at hreports
    cases hreports
  | error found =>
    rw [hread] at hreports
    rw [Except.mapError, ← hreports, reportsOf]

/-- What is found in the default is a value that is too low, and what is reported is a setting that
is not valid. -/
theorem stock_definitions_and_values_apart :
    Raised (.invalidDefinition [stockDefect.violation]) ∧
      Error.Proper (.invalidDefinition [stockDefect.violation]) ∧
      (stockSchema.violations [("pieces", .num (.int 0))]).map Violation.kind = [.min] ∧
      ReportsValues (stockSchema.violations [("pieces", .num (.int 0))]) := by
  have raised : Raised (.invalidDefinition [stockDefect.violation]) :=
    .ruleOfDescription ofDescription_stock
  obtain ⟨-, -, -, -, hvalues, -, -, hproper, -⟩ := definitions_and_values_apart
  exact ⟨raised, hproper _ raised, by decide +kernel, hvalues stockSchema _⟩

end RecordSchema
