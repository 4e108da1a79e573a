import RecordSchema.Proofs.Record.Agreement
import RecordSchema.Proofs.Rule.Visits
import RecordSchema.Proofs.Workspace.Records

/-!
# What a check notes down

The check of a whole record notes down each property that it comes to, and at the end how many
violations it found.  Both come from the same walk through the record: `Schema.checked` are the
locations of the properties, and a violation lies at one of these or at an item of the value there.

* `Event.isChecking`: the events of checking a property.
* `Schema.Reaches.exists_of_item`: an item is reached through the value that holds it.
* `Schema.path_of_mem_violations`: the path of a violation is one that was noted down, or the path
  of an item after it.

`checks_traced` puts this together with the order of the visits.
-/

namespace RecordSchema

/-! ### Events -/

/-- The event of checking a property. -/
def Event.isChecking : Event → Bool
  | .checkingProperty _ => true
  | _ => false

theorem filter_isChecking_visits (root : String) (visits : List Visit) :
    (visits.map (Visit.event root)).filter Event.isChecking =
      (propertyLocations visits).map fun location =>
        .checkingProperty (location.pathFrom root) := by
  induction visits with
  | nil => rfl
  | cons v rest ih =>
    obtain ⟨location, target⟩ := v
    cases target with
    | property => exact congrArg (List.cons _) ih
    | _ => exact ih

theorem filter_isChecking_outcome (found : List Violation) :
    (outcomeEvents found).filter Event.isChecking = [] := by
  rw [outcomeEvents]
  split <;> rfl

theorem Visit.event_ne_foundViolations (root : String) (v : Visit) (n : Nat) :
    v.event root ≠ .foundViolations n := by
  obtain ⟨location, target⟩ := v
  cases target <;> simp [Visit.event]

theorem getLast?_outcomeEvents {events : List Event} (h : ∀ n, .foundViolations n ∉ events)
    (found : List Violation) (n : Nat) :
    (events ++ outcomeEvents found).getLast? = some (.foundViolations n) ↔
      n ≠ 0 ∧ n = found.length := by
  rw [outcomeEvents]
  cases found with
  | nil =>
    rw [List.isEmpty_nil, if_pos rfl, List.append_nil]
    refine iff_of_false (fun hlast => h n (List.mem_of_getLast? hlast)) ?_
    rintro ⟨hne, rfl⟩
    exact hne rfl
  | cons v rest =>
    rw [if_neg (by simp), List.getLast?_concat, Option.some.injEq, Event.foundViolations.injEq]
    constructor
    · rintro rfl
      exact ⟨by simp, rfl⟩
    · rintro ⟨-, rfl⟩
      rfl

/-! ### Paths -/

mutual

theorem Rule.Reaches.exists_of_item : ∀ {rule inner : Rule} {value : Option Json}
    {location : Location} {items : List Json} {i : Nat},
      rule.Reaches value location (.item inner items i) →
      ∃ outer, location = outer ++ [.item i] ∧
        rule.Reaches value outer (.value inner (some (.arr items)))
  | _, _, _, _, _, _, .item _ _ => ⟨[], rfl, .here⟩
  | _, _, _, _, _, _, .inside kind nested h => by
    obtain ⟨outer, hlocation, hreaches⟩ := h.exists_of_item
    exact ⟨outer, hlocation, .inside kind nested hreaches⟩
  | _, _, _, _, _, _, .element kind at_i nested h => by
    obtain ⟨outer, rfl, hreaches⟩ := h.exists_of_item
    exact ⟨_ :: outer, rfl, .element kind at_i nested hreaches⟩

theorem Schema.Reaches.exists_of_item : ∀ {schema : Schema} {inner : Rule} {fields : Fields}
    {location : Location} {items : List Json} {i : Nat},
      schema.Reaches fields location (.item inner items i) →
      ∃ outer, location = outer ++ [.item i] ∧
        schema.Reaches fields outer (.value inner (some (.arr items)))
  | _, _, _, _, _, _, .property declared h => by
    obtain ⟨outer, rfl, hreaches⟩ := h.exists_of_item
    exact ⟨_ :: outer, rfl, .property declared hreaches⟩

end

/-- **A violation lies at a property that was checked, or at an item of its value.** -/
theorem Schema.path_of_mem_violations {schema : Schema} (h : schema.WellFormed) {fields : Fields}
    {v : Violation} (hv : v ∈ schema.violations fields) :
    ∃ location ∈ schema.checked fields,
      v.path = location.text ∨ ∃ i, v.path = Path.index location.text i := by
  obtain ⟨f, hf, rfl⟩ := List.mem_map.mp hv
  obtain ⟨place, hreaches, -⟩ := Schema.findings_genuine h hf
  cases place with
  | value inner held =>
    exact ⟨f.location, hreaches.mem_checked, Or.inl (hreaches.pathFrom_eq_text h)⟩
  | item inner items i =>
    obtain ⟨outer, hlocation, houter⟩ := hreaches.exists_of_item
    refine ⟨outer, houter.mem_checked, Or.inr ⟨i, ?_⟩⟩
    have hpath : (f.violation "").path = f.location.pathFrom "" := rfl
    rw [hpath, hlocation, Location.pathFrom_append, houter.pathFrom_eq_text h]
    rfl

/-! ### Whole records -/

/-- The line for a property that is checked. -/
def checkingLine (location : Location) : String :=
  "TRACE Checking property '" ++ location.text ++ "'"

section

variable {r : Record} {schema : Schema}

theorem Record.validationEvents_eq (bound : r.schema? = some schema) :
    r.validationEvents = .validatingRecord r.typeName? schema.size ::
      schema.checkEvents r.attributes ++ outcomeEvents (schema.violations r.attributes) := by
  rw [validationEvents, bound]

theorem Record.checkingLines_eq (bound : r.schema? = some schema) (h : schema.WellFormed) :
    (r.validationEvents.filter Event.isChecking).map Event.text =
      (schema.checked r.attributes).map checkingLine := by
  rw [validationEvents_eq bound, List.filter_append, filter_isChecking_outcome, List.append_nil,
    List.filter_cons, if_neg (by simp [Event.isChecking]), Schema.checkEvents,
    filter_isChecking_visits, List.map_map]
  refine List.map_congr_left fun location hlocation => ?_
  obtain ⟨inner, held, hreaches⟩ := (Schema.mem_checked_iff h).mp hlocation
  rw [Function.comp_apply, hreaches.pathFrom_eq_text h]
  rfl

theorem Record.getLast?_validationEvents (bound : r.schema? = some schema) (n : Nat) :
    r.validationEvents.getLast? = some (.foundViolations n) ↔
      n ≠ 0 ∧ n = (schema.violations r.attributes).length := by
  rw [validationEvents_eq bound]
  refine getLast?_outcomeEvents (fun n hn => ?_) _ n
  rcases List.mem_cons.mp hn with hn | hn
  · cases hn
  · obtain ⟨v, -, hv⟩ := List.mem_map.mp hn
    exact v.event_ne_foundViolations "" n hv

/-- A check of a whole record replies with its violations, notes down its events, and changes
nothing. -/
theorem Workspace.run_validateObject {w : Workspace} {name : String}
    (kept : w.recordAt name = .ok r) (raised : Bool) :
    w.run (.validateObject name raised) =
      (((r.validateWith raised).mapError Failure.error).map Reply.violations, r.validationEvents,
        w) := by
  have hperform : w.perform (.validateObject name raised) =
      ((r.validateWith raised).mapError Failure.error).map fun found => (.violations found, w) := by
    rw [perform, kept]
    show ((r.validateWith raised).mapError Failure.error >>= _) = _
    cases r.validateWith raised <;> rfl
  have hevents : w.events (.validateObject name raised) = r.validationEvents := by
    rw [events, recordEvents, kept]
  rw [run, hperform, hevents]
  cases r.validateWith raised <;> rfl

end

/-- **A check notes down exactly what was checked.**  Whether or not violations are raised, the
check of a bound record notes down the same.  The properties among it are those that a location
leads to, in order and each of them once; each violation lies at one of them or at an item of its
value; and the number of violations comes last, if it is not zero. -/
theorem checks_traced {w : Workspace} {name : String} {r : Record} {schema : Schema}
    (kept : w.recordAt name = .ok r) (bound : r.schema? = some schema) (built : schema.Built) :
    ∃ (log : List Event) (locations : List Location) (found : List Violation),
      (∀ raised, w.run (.validateObject name raised) =
        (((r.validateWith raised).mapError Failure.error).map Reply.violations, log, w)) ∧
      Reports r.validateWith found ∧
      (log.filter Event.isChecking).map Event.text = locations.map checkingLine ∧
      (∀ location : Location, location ∈ locations ↔
        ∃ rule value, schema.Reaches r.attributes location (.value rule value)) ∧
      locations.Pairwise (Location.Precedes (some schema)) ∧ locations.Nodup ∧
      (∀ v ∈ found, ∃ location ∈ locations,
        v.path = location.text ∨ ∃ i, v.path = Path.index location.text i) ∧
      ∀ n, log.getLast? = some (.foundViolations n) ↔ n ≠ 0 ∧ n = found.length := by
  have h := built.wellFormed
  have hordered := Schema.checked_pairwise h r.attributes
  exact ⟨r.validationEvents, schema.checked r.attributes, schema.violations r.attributes,
    Workspace.run_validateObject kept, Record.reports_validateWith bound,
    Record.checkingLines_eq bound h, fun location => Schema.mem_checked_iff h, hordered,
    hordered.imp Location.Precedes.ne, fun v hv => Schema.path_of_mem_violations h hv,
    Record.getLast?_validationEvents bound⟩

/-! ### Carts

The lines of a cart are objects, so a check goes into those that are and reports those that are not.
-/

/-- Carts: an owner, and lines with what is ordered and where it goes. -/
def cart : Json :=
  .obj [("lines", .obj [("type", .str "list"),
      ("schema", .obj [("sku", .obj [("type", .str "string")]),
        ("to", .obj [("type", .str "object"),
          ("schema", .obj [("city", .obj [("required", .bool true)])])])])]),
    ("owner", .obj [("type", .str "string"), ("required", .bool true)])]

/-- The schema that is described by `cart`. -/
def cartSchema : Schema :=
  ⟨[("lines", ⟨{ kind := .list }, some ⟨[
      ("sku", ⟨{ kind := .string }, none⟩),
      ("to", ⟨{ kind := .object }, some ⟨[("city", ⟨{ required := true }, none⟩)]⟩⟩)]⟩⟩),
    ("owner", ⟨{ kind := .string, required := true }, none⟩)]⟩

/-- A line that goes nowhere, an item that is no line, and a line with nothing in it. -/
def cartFields : Fields :=
  [("lines", .arr [.obj [("to", .obj []), ("sku", .bool true)], .bool false, .obj []])]

/-- A workspace in which a cart is kept. -/
def cartWorkspace : Workspace :=
  .ofCommands [.createType "cart" (.given (.described cart)) "c",
    .newRecord (.kept "c") (some (.obj cartFields)) "a"]

theorem ofDescription_cart : Schema.ofDescription cart = .ok cartSchema := rfl

/-- The type of carts. -/
def cartType : RecordType :=
  ⟨"cart", 0, cartSchema⟩

/-- The second line is no object: nothing is checked inside it, and a violation lies at it. -/
theorem cart_checks_traced :
    cartWorkspace.recordAt "a" = .ok ⟨some cartType, cartFields⟩ ∧ cartSchema.Built ∧
    ((cartWorkspace.run (.validateObject "a" true)).2.1.filter Event.isChecking).map Event.text =
      ["TRACE Checking property 'lines'", "TRACE Checking property 'lines[0].sku'",
        "TRACE Checking property 'lines[0].to'", "TRACE Checking property 'lines[0].to.city'",
        "TRACE Checking property 'lines[2].sku'", "TRACE Checking property 'lines[2].to'",
        "TRACE Checking property 'owner'"] ∧
    (cartSchema.violations cartFields).map Violation.path =
      ["lines[0].sku", "lines[0].to.city", "lines[1]", "owner"] ∧
    (cartWorkspace.run (.validateObject "a" true)).2.1 =
      (cartWorkspace.run (.validateObject "a" false)).2.1 ∧
    (cartWorkspace.run (.validateObject "a" true)).2.1.getLast? = some (.foundViolations 4) := by
  have kept : cartWorkspace.recordAt "a" = .ok ⟨some cartType, cartFields⟩ := rfl
  have built : cartSchema.Built :=
    .described (by simp [cart, Json.DistinctNames, Json.fieldsDistinct, Fields.names])
      ofDescription_cart
  obtain ⟨log, locations, found, hrun, hreports, -, -, -, -, -, hlast⟩ :=
    checks_traced kept rfl built
  have hfound : found = cartSchema.violations cartFields :=
    Except.ok.inj (hreports.listed.symm.trans (Record.reports_validateWith rfl).listed)
  refine ⟨kept, built, by decide +kernel, by decide +kernel, by rw [hrun, hrun], ?_⟩
  rw [hrun]
  exact (hlast 4).mpr ⟨by decide, by rw [hfound]; decide +kernel⟩

end RecordSchema
