import RecordSchema.Proofs.Rule.WellFormed

/-!
# Locations

A location is walked in a value and in its rule at the same time.  A name enters a declared property
of an object, an index an item of an array, and each value on the way must be there and of the kind
of its rule.  `Rule.Reaches` and `Schema.Reaches` relate a location to the place that it leads to.

* `Schema.Reaches.unique`: a location leads to one place only.
* `Schema.Reaches.wellFormed`: the rule that governs a place is as well formed as the schema.
* `Location.pathFrom_eq_text`: the path by which a place is reported is the location written out.
-/

namespace RecordSchema

/-! ### Places -/

/-- What a location leads to: the value of a property, which may be absent, or an item of an array;
and the rule that governs the property or the array. -/
inductive Place where
  | value (rule : Rule) (value : Option Json)
  | item (rule : Rule) (items : List Json) (i : Nat)

/-- The rule that governs a place. -/
def Place.rule : Place → Rule
  | .value rule _ => rule
  | .item rule _ _ => rule

mutual

/-- The places inside the value of a property. -/
inductive Rule.Reaches : Rule → Option Json → Location → Place → Prop
  | here {rule : Rule} {value : Option Json} : Rule.Reaches rule value [] (.value rule value)
  | item {rule : Rule} {items : List Json} {i : Nat} {item : Json}
      (kind : rule.settings.kind.admits (.arr items) = true) (at_i : items[i]? = some item) :
      Rule.Reaches rule (some (.arr items)) [.item i] (.item rule items i)
  | inside {rule : Rule} {schema : Schema} {fields : Fields} {location : Location} {place : Place}
      (kind : rule.settings.kind.admits (.obj fields) = true) (nested : rule.nested = some schema)
      (h : Schema.Reaches schema fields location place) :
      Rule.Reaches rule (some (.obj fields)) location place
  | element {rule : Rule} {schema : Schema} {items : List Json} {i : Nat} {fields : Fields}
      {location : Location} {place : Place}
      (kind : rule.settings.kind.admits (.arr items) = true)
      (at_i : items[i]? = some (.obj fields)) (nested : rule.nested = some schema)
      (h : Schema.Reaches schema fields location place) :
      Rule.Reaches rule (some (.arr items)) (.item i :: location) place

/-- The places inside the fields of an object. -/
inductive Schema.Reaches : Schema → Fields → Location → Place → Prop
  | property {schema : Schema} {fields : Fields} {name : String} {rule : Rule}
      {location : Location} {place : Place} (declared : schema.get? name = some rule)
      (h : Rule.Reaches rule (fields.get? name) location place) :
      Schema.Reaches schema fields (.property name :: location) place

end

theorem Schema.Reaches.ne_nil {schema : Schema} {fields : Fields} {location : Location}
    {place : Place} (h : schema.Reaches fields location place) : location ≠ [] := by
  cases h
  simp

/-! ### One place for a location -/

mutual

theorem Rule.Reaches.unique : ∀ {rule : Rule} {value : Option Json} {location : Location}
    {p q : Place}, rule.Reaches value location p → rule.Reaches value location q → p = q
  | _, _, _, _, _, .here, h => by
    cases h with
    | here => rfl
    | inside _ _ h => exact absurd rfl h.ne_nil
  | _, _, _, _, _, .item _ _, h => by
    cases h with
    | item => rfl
    | element _ _ _ h => exact absurd rfl h.ne_nil
  | _, _, _, _, _, .inside _ nested h, h' => by
    cases h' with
    | here => exact absurd rfl h.ne_nil
    | inside _ nested' h' =>
      obtain rfl := Option.some.inj (nested.symm.trans nested')
      exact h.unique h'
  | _, _, _, _, _, .element _ at_i nested h, h' => by
    cases h' with
    | item => exact absurd rfl h.ne_nil
    | element _ at_i' nested' h' =>
      obtain rfl := Option.some.inj (nested.symm.trans nested')
      cases Option.some.inj (at_i.symm.trans at_i')
      exact h.unique h'

/-- **A location leads to one place only.** -/
theorem Schema.Reaches.unique : ∀ {schema : Schema} {fields : Fields} {location : Location}
    {p q : Place}, schema.Reaches fields location p → schema.Reaches fields location q → p = q
  | _, _, _, _, _, .property declared h, .property declared' h' => by
    obtain rfl := Option.some.inj (declared.symm.trans declared')
    exact h.unique h'

end

/-! ### Rules on the way -/

mutual

theorem Rule.Reaches.wellFormed : ∀ {rule : Rule} {value : Option Json} {location : Location}
    {place : Place}, rule.Reaches value location place → rule.WellFormed → place.rule.WellFormed
  | _, _, _, _, .here, hw => hw
  | _, _, _, _, .item _ _, hw => hw
  | _, _, _, _, .inside _ nested h, hw => h.wellFormed (hw.nested _ nested)
  | _, _, _, _, .element _ _ nested h, hw => h.wellFormed (hw.nested _ nested)

theorem Schema.Reaches.wellFormed : ∀ {schema : Schema} {fields : Fields} {location : Location}
    {place : Place}, schema.Reaches fields location place → schema.WellFormed →
      place.rule.WellFormed
  | _, _, _, _, .property declared h, hw =>
    h.wellFormed (hw.rules _ (mem_of_lookup declared))

end

/-! ### Paths -/

/-- One step as it is written after others. -/
def PathStep.text : PathStep → String
  | .property name => "." ++ name
  | .item i => "[" ++ toString i ++ "]"

namespace Location

/-- Steps as they are written after others. -/
def textAfter : Location → String
  | [] => ""
  | step :: rest => step.text ++ textAfter rest

/-- A location written out: names are joined by points, and an index stands in brackets. -/
def text : Location → String
  | .property name :: rest => name ++ textAfter rest
  | location => textAfter location

end Location

theorem PathStep.extend_eq {path : String} (h : path ≠ "") (step : PathStep) :
    step.extend path = path ++ step.text := by
  cases step with
  | property name =>
    rw [extend, Path.child, if_neg (by simpa using h), text, String.append_assoc]
  | item i =>
    rw [extend, Path.index, text, String.append_assoc, String.append_assoc, String.append_assoc]

theorem Location.pathFrom_of_ne_empty {root : String} (h : root ≠ "") (location : Location) :
    location.pathFrom root = root ++ location.textAfter := by
  induction location generalizing root with
  | nil => exact String.append_empty.symm
  | cons step rest ih =>
    have hextend := step.extend_eq h
    have hne : step.extend root ≠ "" := by
      rw [hextend]
      simp [h]
    have hstep := ih hne
    rw [pathFrom, List.foldl_cons, ← pathFrom, hstep, hextend, textAfter, String.append_assoc]

/-- The path of a place inside an object whose first name is there is its location written out. -/
theorem Location.pathFrom_eq_text {name : String} (h : name ≠ "") (rest : Location) :
    Location.pathFrom "" (.property name :: rest) = text (.property name :: rest) := by
  rw [pathFrom, List.foldl_cons, ← pathFrom, PathStep.extend, Path.child, if_pos (by decide),
    pathFrom_of_ne_empty h]
  rfl

theorem Schema.Reaches.pathFrom_eq_text {schema : Schema} {fields : Fields} {location : Location}
    {place : Place} (hs : schema.WellFormed) (h : schema.Reaches fields location place) :
    location.pathFrom "" = location.text := by
  cases h with
  | @property _ _ name rule _ _ declared h =>
    refine Location.pathFrom_eq_text ?_ _
    rintro rfl
    exact hs.named (List.mem_map.mpr ⟨_, mem_of_lookup declared, rfl⟩)

end RecordSchema
