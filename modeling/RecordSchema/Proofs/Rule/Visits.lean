import RecordSchema.Proofs.Rule.Location
import RecordSchema.Proofs.Rule.Structure
import RecordSchema.Rule.Visit

/-!
# What a check goes through

A check visits the properties of an object in the order of their declarations, and once it has
looked at the value of a property it goes on with the schema inside.  `Schema.checked` are the
locations of the properties that are visited, in the order in which the check comes to them.

* `Schema.checked_eq`, `Rule.checked_eq`: the equations for schemas and for rules.
* `Schema.mem_checked_iff`: these are the locations at which a rule governs a value.
* `Location.ordinals`: a location by numbers, where a name counts as the place at which it is
  declared.  `Location.Precedes` compares locations by their ordinals, an outer one before those
  inside it.
* `Schema.checked_pairwise`: the check comes to the locations in this order.
-/

namespace RecordSchema

/-! ### Visited properties -/

/-- The locations of the properties among visits. -/
def propertyLocations (visits : List Visit) : List Location :=
  (visits.filter (·.target = .property)).map Visit.location

/-- The locations of the properties that are visited in the fields of an object. -/
def Schema.checked (schema : Schema) (fields : Fields) : List Location :=
  propertyLocations (schema.visits fields)

/-- The locations of the properties that are visited inside a value. -/
def Rule.checked (rule : Rule) (value : Option Json) : List Location :=
  propertyLocations (rule.visits value)

/-- The locations of the properties that are visited in an item, which must be an object. -/
def elementLocations (shape : Fields → List Location) : Json × Nat → List Location
  | (.obj fields, i) => (shape fields).map (.item i :: ·)
  | _ => []

section

variable {visits others : List Visit}

theorem propertyLocations_append :
    propertyLocations (visits ++ others) =
      propertyLocations visits ++ propertyLocations others := by
  rw [propertyLocations, List.filter_append, List.map_append]
  rfl

theorem propertyLocations_flatMap {α : Type} {l : List α} {f : α → List Visit} :
    propertyLocations (l.flatMap f) = l.flatMap fun a => propertyLocations (f a) := by
  induction l with
  | nil => rfl
  | cons a rest ih => rw [List.flatMap_cons, List.flatMap_cons, propertyLocations_append, ih]

theorem propertyLocations_under (step : PathStep) :
    propertyLocations (visits.map (Visit.under step)) =
      (propertyLocations visits).map (step :: ·) := by
  rw [propertyLocations, propertyLocations, List.filter_map, List.map_map, List.map_map]
  rfl

end

theorem propertyVisits_eq (properties : List (String × Rule)) (fields : Fields) :
    propertyVisits properties fields = properties.flatMap fun p =>
      ⟨[.property p.1], .property⟩ ::
        (p.2.visits (fields.get? p.1)).map (Visit.under (.property p.1)) := by
  induction properties with
  | nil => rfl
  | cons p rest ih => rw [propertyVisits, ih, List.flatMap_cons, List.cons_append]

/-- The locations that are visited for one property: its own, and those inside its value. -/
def entryLocations (fields : Fields) (p : String × Rule) : List Location :=
  [.property p.1] :: (p.2.checked (fields.get? p.1)).map (.property p.1 :: ·)

theorem Schema.checked_eq (schema : Schema) (fields : Fields) :
    schema.checked fields = schema.properties.flatMap (entryLocations fields) := by
  obtain ⟨properties⟩ := schema
  rw [checked, visits, propertyVisits_eq, propertyLocations_flatMap]
  refine List.flatMap_congr fun p _ => ?_
  rw [entryLocations, Rule.checked, ← propertyLocations_under]
  rfl

namespace Rule

variable {rule : Rule} {schema : Schema}

theorem checked_of_nested_none (h : rule.nested = none) (value : Option Json) :
    rule.checked value = [] := by
  obtain ⟨settings, nested⟩ := rule
  obtain rfl : nested = none := h
  rfl

theorem visits_eq (nested : rule.nested = some schema) (value : Option Json) :
    rule.visits value = rule.settings.visits (nestedVisits schema.visits) value := by
  obtain ⟨settings, inside⟩ := rule
  obtain rfl : inside = some schema := nested
  rfl

theorem checked_some (nested : rule.nested = some schema) {value : Json} (present : value ≠ .null) :
    rule.checked (some value) =
      if rule.settings.kind.admits value then
        propertyLocations (nestedVisits schema.visits value)
      else [] := by
  rw [checked, visits_eq nested]
  cases value with
  | null => exact absurd rfl present
  | _ =>
    rw [Settings.visits]
    · split <;> rfl
    · simp

theorem checked_obj (nested : rule.nested = some schema) {fields : Fields}
    (kind : rule.settings.kind.admits (.obj fields) = true) :
    rule.checked (some (.obj fields)) = schema.checked fields := by
  rw [checked_some nested (by simp), if_pos kind]
  rfl

theorem checked_arr (nested : rule.nested = some schema) {items : List Json}
    (kind : rule.settings.kind.admits (.arr items) = true) :
    rule.checked (some (.arr items)) = items.zipIdx.flatMap (elementLocations schema.checked) := by
  rw [checked_some nested (by simp), if_pos kind, nestedVisits, propertyLocations_flatMap]
  refine List.flatMap_congr fun p _ => ?_
  obtain ⟨item, i⟩ := p
  cases item with
  | obj fields =>
    rw [elementLocations, Schema.checked, ← propertyLocations_under]
    rfl
  | _ => rfl

/-- Something is visited only if a schema inside is entered, for an object or for the items of an
array. -/
theorem checked_cases (rule : Rule) (value : Option Json) :
    rule.checked value = [] ∨ ∃ schema, rule.nested = some schema ∧
      ((∃ fields, value = some (.obj fields) ∧ rule.settings.kind.admits (.obj fields) = true) ∨
        ∃ items, value = some (.arr items) ∧ rule.settings.kind.admits (.arr items) = true) := by
  cases nested : rule.nested with
  | none => exact Or.inl (checked_of_nested_none nested value)
  | some schema =>
    match value with
    | none =>
      rw [checked, visits_eq nested]
      exact Or.inl rfl
    | some value =>
      by_cases present : value = .null
      · subst present
        rw [checked, visits_eq nested]
        exact Or.inl rfl
      rw [checked_some nested present]
      by_cases kind : rule.settings.kind.admits value = true
      · rw [if_pos kind]
        cases value with
        | obj fields => exact Or.inr ⟨schema, rfl, Or.inl ⟨fields, rfl, kind⟩⟩
        | arr items => exact Or.inr ⟨schema, rfl, Or.inr ⟨items, rfl, kind⟩⟩
        | _ => exact Or.inl rfl
      · exact Or.inl (if_neg kind)

end Rule

/-! ### Locations that are visited -/

theorem mem_entryLocations {fields : Fields} {p : String × Rule} {location : Location} :
    location ∈ entryLocations fields p ↔
      ∃ rest, location = .property p.1 :: rest ∧
        (rest = [] ∨ rest ∈ p.2.checked (fields.get? p.1)) := by
  rw [entryLocations, List.mem_cons, List.mem_map]
  constructor
  · rintro (rfl | ⟨rest, hrest, rfl⟩)
    · exact ⟨[], rfl, Or.inl rfl⟩
    · exact ⟨rest, rfl, Or.inr hrest⟩
  · rintro ⟨rest, rfl, rfl | hrest⟩
    · exact Or.inl rfl
    · exact Or.inr ⟨rest, hrest, rfl⟩

theorem mem_elementLocations {shape : Fields → List Location} {p : Json × Nat}
    {location : Location} :
    location ∈ elementLocations shape p ↔
      ∃ rest, location = .item p.2 :: rest ∧ ∃ fields, p.1 = .obj fields ∧ rest ∈ shape fields := by
  obtain ⟨item, i⟩ := p
  constructor
  · intro h
    cases item with
    | obj fields =>
      obtain ⟨rest, hrest, rfl⟩ := List.mem_map.mp h
      exact ⟨rest, rfl, fields, rfl, hrest⟩
    | _ => cases h
  · rintro ⟨rest, rfl, fields, hobj, hrest⟩
    obtain rfl : item = .obj fields := hobj
    exact List.mem_map_of_mem hrest

theorem Schema.ne_nil_of_mem_checked {schema : Schema} {fields : Fields} {location : Location}
    (h : location ∈ schema.checked fields) : location ≠ [] := by
  rw [schema.checked_eq] at h
  obtain ⟨p, -, hlocation⟩ := List.mem_flatMap.mp h
  obtain ⟨rest, rfl, -⟩ := mem_entryLocations.mp hlocation
  simp

theorem Rule.ne_nil_of_mem_checked {rule : Rule} {value : Option Json} {location : Location}
    (h : location ∈ rule.checked value) : location ≠ [] := by
  rcases rule.checked_cases value with
    hnil | ⟨schema, nested, ⟨fields, rfl, kind⟩ | ⟨items, rfl, kind⟩⟩
  · rw [hnil] at h
    cases h
  · rw [checked_obj nested kind] at h
    exact Schema.ne_nil_of_mem_checked h
  · rw [checked_arr nested kind] at h
    obtain ⟨p, -, hlocation⟩ := List.mem_flatMap.mp h
    obtain ⟨rest, rfl, -⟩ := mem_elementLocations.mp hlocation
    simp

mutual

theorem Rule.Reaches.mem_checked : ∀ {rule inner : Rule} {value held : Option Json}
    {location : Location}, rule.Reaches value location (.value inner held) → location ≠ [] →
      location ∈ rule.checked value
  | _, _, _, _, _, .here, hne => absurd rfl hne
  | _, _, _, _, _, .inside kind nested h, _ => by
    rw [Rule.checked_obj nested kind]
    exact h.mem_checked
  | _, _, _, _, _, .element kind at_i nested h, _ => by
    rw [Rule.checked_arr nested kind]
    exact List.mem_flatMap.mpr ⟨_, List.mk_mem_zipIdx_iff_getElem?.mpr at_i,
      mem_elementLocations.mpr ⟨_, rfl, _, rfl, h.mem_checked⟩⟩

theorem Schema.Reaches.mem_checked : ∀ {schema : Schema} {inner : Rule} {fields : Fields}
    {held : Option Json} {location : Location},
      schema.Reaches fields location (.value inner held) → location ∈ schema.checked fields
  | schema, _, fields, _, _, @Schema.Reaches.property _ _ _ _ rest _ declared h => by
    rw [schema.checked_eq fields]
    refine List.mem_flatMap.mpr ⟨_, mem_of_lookup declared, mem_entryLocations.mpr ⟨rest, rfl, ?_⟩⟩
    exact or_iff_not_imp_left.mpr h.mem_checked

end

theorem Schema.exists_reaches_of_checked_of_rules {schema : Schema} (hs : schema.WellFormed)
    (ih : ∀ p ∈ schema.properties, ∀ (value : Option Json) (location : Location),
      location ∈ p.2.checked value → ∃ inner held, p.2.Reaches value location (.value inner held))
    {fields : Fields} {location : Location} (h : location ∈ schema.checked fields) :
    ∃ inner held, schema.Reaches fields location (.value inner held) := by
  rw [schema.checked_eq] at h
  obtain ⟨p, hp, hlocation⟩ := List.mem_flatMap.mp h
  have declared : schema.get? p.1 = some p.2 := (lookup_eq_some_iff_mem hs.distinct).mpr hp
  obtain ⟨rest, rfl, rfl | hrest⟩ := mem_entryLocations.mp hlocation
  · exact ⟨_, _, .property declared .here⟩
  · obtain ⟨inner, held, hreaches⟩ := ih p hp _ rest hrest
    exact ⟨inner, held, .property declared hreaches⟩

theorem Rule.exists_reaches_of_checked {rule : Rule} (h : rule.WellFormed) (value : Option Json)
    (location : Location) (hlocation : location ∈ rule.checked value) :
    ∃ inner held, rule.Reaches value location (.value inner held) := by
  induction rule using Rule.induction generalizing value location with
  | step rule ih =>
    rcases rule.checked_cases value with hnil | ⟨schema, nested, hvalue⟩
    · rw [hnil] at hlocation
      cases hlocation
    have hwell := h.nested schema nested
    have hinside : ∀ {fields : Fields} {location : Location}, location ∈ schema.checked fields →
        ∃ inner held, schema.Reaches fields location (.value inner held) :=
      Schema.exists_reaches_of_checked_of_rules hwell fun p hp value location =>
        ih schema nested p hp (hwell.rules p hp) value location
    rcases hvalue with ⟨fields, rfl, kind⟩ | ⟨items, rfl, kind⟩
    · rw [checked_obj nested kind] at hlocation
      obtain ⟨inner, held, hreaches⟩ := hinside hlocation
      exact ⟨inner, held, .inside kind nested hreaches⟩
    · rw [checked_arr nested kind] at hlocation
      obtain ⟨⟨item, i⟩, hmem, hlocation⟩ := List.mem_flatMap.mp hlocation
      obtain ⟨rest, rfl, fields, rfl, hrest⟩ := mem_elementLocations.mp hlocation
      have at_i := List.mk_mem_zipIdx_iff_getElem?.mp hmem
      obtain ⟨inner, held, hreaches⟩ := hinside hrest
      exact ⟨inner, held, .element kind at_i nested hreaches⟩

/-- **The properties that are visited are those that a location leads to.** -/
theorem Schema.mem_checked_iff {schema : Schema} (h : schema.WellFormed) {fields : Fields}
    {location : Location} :
    location ∈ schema.checked fields ↔
      ∃ inner held, schema.Reaches fields location (.value inner held) := by
  constructor
  · exact Schema.exists_reaches_of_checked_of_rules h fun p hp value location =>
      Rule.exists_reaches_of_checked (h.rules p hp) value location
  · rintro ⟨inner, held, hreaches⟩
    exact hreaches.mem_checked

/-! ### The order of visits -/

/-- The place of a step among those beside it: a name counts as it is declared. -/
def PathStep.ordinal (inside : Option Schema) : PathStep → Nat
  | .property name => (inside.elim [] Schema.names).idxOf name
  | .item i => i

/-- The schema that is inside after a step. -/
def PathStep.enter (inside : Option Schema) : PathStep → Option Schema
  | .property name => (inside.bind (·.get? name)).bind Rule.nested
  | .item _ => inside

/-- A location by numbers, from the outside in. -/
def Location.ordinals : Option Schema → Location → List Nat
  | _, [] => []
  | inside, step :: rest => step.ordinal inside :: ordinals (step.enter inside) rest

/-- A location comes before another one: it lies around it, or where they part it takes the earlier
step. -/
def Location.Precedes (inside : Option Schema) (location other : Location) : Prop :=
  location.ordinals inside < other.ordinals inside

namespace Location

variable {inside : Option Schema} {location other : Location}

theorem Precedes.ne (h : Precedes inside location other) : location ≠ other := by
  rintro rfl
  exact lt_irrefl _ h

theorem Precedes.cons {step : PathStep} (h : Precedes (step.enter inside) location other) :
    Precedes inside (step :: location) (step :: other) :=
  List.cons_lt_cons_iff.mpr (Or.inr ⟨rfl, h⟩)

theorem precedes_of_ordinal_lt {step next : PathStep}
    (h : step.ordinal inside < next.ordinal inside) :
    Precedes inside (step :: location) (next :: other) :=
  List.cons_lt_cons_iff.mpr (Or.inl h)

theorem nil_precedes_cons (inside : Option Schema) (step : PathStep) (rest : Location) :
    Precedes inside [] (step :: rest) :=
  List.nil_lt_cons _ _

end Location

theorem Schema.pairwise_ordinals {schema : Schema} (distinct : schema.names.Nodup) :
    schema.properties.Pairwise fun p q =>
      (PathStep.property p.1).ordinal (some schema) <
        (PathStep.property q.1).ordinal (some schema) := by
  have hordinal (i : Nat) (h : i < schema.properties.length) :
      (PathStep.property schema.properties[i].1).ordinal (some schema) = i := by
    have hlength : i < schema.names.length := by simpa [names] using h
    have hname : schema.properties[i].1 = schema.names[i] := by simp [names]
    rw [PathStep.ordinal, Option.elim_some, hname, distinct.idxOf_getElem]
  rw [List.pairwise_iff_getElem]
  intro i j hi hj hij
  rw [hordinal, hordinal]
  exact hij

theorem pairwise_zipIdx (items : List Json) : items.zipIdx.Pairwise fun p q => p.2 < q.2 := by
  refine List.pairwise_map.mp ?_
  rw [List.zipIdx_map_snd]
  exact List.pairwise_lt_range'

theorem Schema.checked_pairwise_of_rules {schema : Schema} (hs : schema.WellFormed)
    (ih : ∀ p ∈ schema.properties, ∀ value : Option Json,
      (p.2.checked value).Pairwise (Location.Precedes p.2.nested)) (fields : Fields) :
    (schema.checked fields).Pairwise (Location.Precedes (some schema)) := by
  rw [schema.checked_eq, List.pairwise_flatMap]
  constructor
  · -- In one property: the property itself comes first.
    intro p hp
    have henter : (PathStep.property p.1).enter (some schema) = p.2.nested := by
      have declared : schema.get? p.1 = some p.2 := (lookup_eq_some_iff_mem hs.distinct).mpr hp
      rw [PathStep.enter, Option.bind_some, declared, Option.bind_some]
    rw [entryLocations]
    refine List.pairwise_cons.mpr ⟨fun location hlocation => ?_, ?_⟩
    · obtain ⟨rest, hrest, rfl⟩ := List.mem_map.mp hlocation
      obtain ⟨step, rest, rfl⟩ := List.exists_cons_of_ne_nil (Rule.ne_nil_of_mem_checked hrest)
      exact .cons (Location.nil_precedes_cons _ step rest)
    · rw [List.pairwise_map]
      exact (ih p hp (fields.get? p.1)).imp fun h => .cons (henter ▸ h)
  · -- Of two properties, the one that is declared first comes first, with all that is inside it.
    refine (Schema.pairwise_ordinals hs.distinct).imp fun {p q} hordinal location hp other hq => ?_
    obtain ⟨rest, rfl, -⟩ := mem_entryLocations.mp hp
    obtain ⟨rest', rfl, -⟩ := mem_entryLocations.mp hq
    exact Location.precedes_of_ordinal_lt hordinal

theorem Rule.checked_pairwise {rule : Rule} (h : rule.WellFormed) (value : Option Json) :
    (rule.checked value).Pairwise (Location.Precedes rule.nested) := by
  induction rule using Rule.induction generalizing value with
  | step rule ih =>
    rcases rule.checked_cases value with hnil | ⟨schema, nested, hvalue⟩
    · rw [hnil]
      exact .nil
    have hwell := h.nested schema nested
    have hinside := Schema.checked_pairwise_of_rules hwell fun p hp value =>
      ih schema nested p hp (hwell.rules p hp) value
    rw [nested]
    rcases hvalue with ⟨fields, rfl, kind⟩ | ⟨items, rfl, kind⟩
    · rw [checked_obj nested kind]
      exact hinside fields
    · rw [checked_arr nested kind, List.pairwise_flatMap]
      constructor
      · rintro ⟨item, i⟩ -
        cases item with
        | obj fields =>
          rw [elementLocations, List.pairwise_map]
          exact (hinside fields).imp fun h => .cons h
        | _ => exact .nil
      · refine (pairwise_zipIdx items).imp fun {p q} hindex location hp other hq => ?_
        obtain ⟨rest, rfl, -⟩ := mem_elementLocations.mp hp
        obtain ⟨rest', rfl, -⟩ := mem_elementLocations.mp hq
        exact Location.precedes_of_ordinal_lt hindex

/-- **The check comes to the locations in order**, and so to none of them twice. -/
theorem Schema.checked_pairwise {schema : Schema} (h : schema.WellFormed) (fields : Fields) :
    (schema.checked fields).Pairwise (Location.Precedes (some schema)) :=
  Schema.checked_pairwise_of_rules h
    (fun p hp value => Rule.checked_pairwise (h.rules p hp) value) fields

end RecordSchema
