import RecordSchema.Proofs.Record.Repair
import RecordSchema.Proofs.Record.Storage
import RecordSchema.Proofs.Rule.Coherence
import RecordSchema.Workspace.Basic

/-!
# The attributes of a perfected record

Whatever a property holds, filling it sets what `filled` says (`fillProperty_eq`); for a value that
is neither absent nor null, that sets what is there already.  So the order of a perfected record
follows from the order that setting gives: declared names keep their places, and those that are
missing go last, as they are declared (`names_fill`).  And where everything is filled, filling
changes nothing (`fill_eq_self`), which is why perfecting twice is perfecting once.

`Perfected` collects what callers see, and `perfect_effect` says that it holds of every bound record,
and that a record that is not bound stays as it is.
-/

namespace RecordSchema

/-! ### Filling -/

section

variable {attributes : Fields} {name : String} {rule : Rule} {value : Json}

theorem filled_filled (rule : Rule) (value : Option Json) :
    filled rule (filled rule value) = filled rule value := by
  by_cases habsent : isAbsent value = true
  · have hfilled : filled rule value = some (rule.settings.fallback.getD .null) := if_pos habsent
    rw [hfilled, filled]
    split
    · rfl
    · rfl
  · have hfilled : filled rule value = value := if_neg habsent
    rw [hfilled, hfilled]

theorem exists_filled (rule : Rule) (value : Option Json) : ∃ v, filled rule value = some v := by
  cases value with
  | none => exact ⟨_, rfl⟩
  | some v =>
    rw [filled]
    split
    · exact ⟨_, rfl⟩
    · exact ⟨v, rfl⟩

/-- **To fill a property is to set it**, also where there is nothing to fill. -/
theorem fillProperty_eq (h : filled rule (attributes.get? name) = some value) :
    fillProperty attributes name rule = attributes.put name value := by
  rw [filled] at h
  rw [fillProperty]
  by_cases habsent : isAbsent (attributes.get? name) = true
  · rw [if_pos habsent] at h ⊢
    cases hfallback : rule.settings.fallback with
    | some default =>
      rw [hfallback] at h
      cases h
      rfl
    | none =>
      rw [hfallback] at h
      cases h
      rw [Option.getD_none]
      dsimp only
      rcases isAbsent_iff.mp habsent with hget | hget
      · rw [Fields.has, hget]
        rfl
      · rw [Fields.put_of_get? hget, ite_self]
  · rw [if_neg habsent] at h ⊢
    exact (Fields.put_of_get? h).symm

theorem names_fillProperty : (fillProperty attributes name rule).names =
    if name ∈ attributes.names then attributes.names else attributes.names ++ [name] := by
  obtain ⟨value, hfilled⟩ := exists_filled rule (attributes.get? name)
  rw [fillProperty_eq hfilled, Fields.names_put]

theorem fillProperty_eq_self (h : filled rule (attributes.get? name) = attributes.get? name) :
    fillProperty attributes name rule = attributes := by
  obtain ⟨value, hfilled⟩ := exists_filled rule (attributes.get? name)
  have hget : attributes.get? name = some value := h.symm.trans hfilled
  rw [fillProperty_eq hfilled, Fields.put_of_get? hget]

end

/-- **Names that are there keep their places**, and the declared names that are missing follow in
the order of their declaration. -/
theorem names_fill {properties : List (String × Rule)}
    (distinct : (properties.map Prod.fst).Nodup) (attributes : Fields) :
    (fill properties attributes).names =
      attributes.names ++ (properties.map Prod.fst).filter (· ∉ attributes.names) := by
  induction properties generalizing attributes with
  | nil => exact (List.append_nil _).symm
  | cons p rest ih =>
    obtain ⟨hnot, hrest⟩ := List.nodup_cons.mp distinct
    show (fill rest (fillProperty attributes p.1 p.2)).names = _
    rw [ih hrest, names_fillProperty, List.map_cons]
    by_cases hp : p.1 ∈ attributes.names
    · rw [if_pos hp, List.filter_cons_of_neg (by simpa using hp)]
    · -- The name that is appended is not declared again, so the rest is filled as without it.
      have hsame : (rest.map Prod.fst).filter (· ∉ attributes.names ++ [p.1]) =
          (rest.map Prod.fst).filter (· ∉ attributes.names) := by
        refine List.filter_congr fun name hname => ?_
        have hne : name ≠ p.1 := by
          rintro rfl
          exact hnot hname
        simp [hne]
      rw [if_neg hp, hsame, List.filter_cons_of_pos (by simpa using hp), List.append_assoc,
        List.singleton_append]

theorem fill_eq_self {properties : List (String × Rule)} {attributes : Fields}
    (h : ∀ p ∈ properties, filled p.2 (attributes.get? p.1) = attributes.get? p.1) :
    fill properties attributes = attributes := by
  induction properties with
  | nil => rfl
  | cons p rest ih =>
    obtain ⟨hp, hrest⟩ := List.forall_mem_cons.mp h
    show fill rest (fillProperty attributes p.1 p.2) = attributes
    rw [fillProperty_eq_self hp, ih hrest]

/-! ### Declared attributes -/

theorem names_declaredOnly (schema : Schema) (attributes : Fields) :
    (declaredOnly schema attributes).names = attributes.names.filter schema.contains := by
  rw [declaredOnly, Fields.names, Fields.names, List.filter_map]
  rfl

theorem declaredOnly_eq_self {schema : Schema} {attributes : Fields}
    (h : ∀ name ∈ attributes.names, schema.contains name = true) :
    declaredOnly schema attributes = attributes := by
  refine List.filter_eq_self.mpr fun p hp => ?_
  exact h p.1 (List.mem_map_of_mem hp)

theorem nodup_names_fill {properties : List (String × Rule)} {attributes : Fields}
    (distinct : attributes.names.Nodup) : (fill properties attributes).names.Nodup := by
  induction properties generalizing attributes with
  | nil => exact distinct
  | cons p rest ih =>
    have hp : (fillProperty attributes p.1 p.2).names.Nodup := by
      obtain ⟨value, hfilled⟩ := exists_filled p.2 (attributes.get? p.1)
      rw [fillProperty_eq hfilled]
      exact Fields.nodup_names_put distinct
    exact ih hp

/-- A perfected record is bound as before, and its names are distinct if they were. -/
theorem Record.of_perfect_eq_ok {r r' : Record} (h : r.perfect = .ok r') :
    r'.type = r.type ∧ (r.attributes.names.Nodup → r'.attributes.names.Nodup) := by
  rw [perfect] at h
  split at h
  · cases h
  · next schema _ =>
    cases h
    refine ⟨rfl, fun distinct => nodup_names_fill ?_⟩
    rw [names_declaredOnly]
    exact distinct.filter _

/-! ### Perfecting -/

/-- What callers see of attributes that were perfected in line with a schema: the declared names that
were there in their old order, the others in the order of their declaration; the values that were
there, and defaults or null for the rest. -/
structure Perfected (schema : Schema) (before after : Fields) : Prop where
  order : after.names =
    before.names.filter (· ∈ schema.names) ++ schema.names.filter (· ∉ before.names)
  declared : after.names.Perm schema.names
  distinct : after.names.Nodup
  size : after.length = schema.size
  kept : ∀ name ∈ schema.names, ∀ value, before.get? name = some value → value ≠ .null →
    after.get? name = some value
  filled : ∀ name rule, schema.get? name = some rule →
    before.get? name = none ∨ before.get? name = some .null →
    after.get? name = some (rule.settings.fallback.getD .null)

namespace Schema.WellFormed

variable {schema : Schema} {attributes : Fields}

theorem get?_perfected (h : schema.WellFormed) {p : String × Rule} (hp : p ∈ schema.properties)
    (attributes : Fields) : (fill schema.properties (declaredOnly schema attributes)).get? p.1 =
      RecordSchema.filled p.2 (attributes.get? p.1) :=
  Record.get?_perfect (r := Record.ofAttributes attributes) h hp

theorem names_perfected (h : schema.WellFormed) (attributes : Fields) :
    (fill schema.properties (declaredOnly schema attributes)).names =
      attributes.names.filter (· ∈ schema.names) ++
        schema.names.filter (· ∉ attributes.names) := by
  have hdeclared : (declaredOnly schema attributes).names =
      attributes.names.filter (· ∈ schema.names) := by
    rw [names_declaredOnly]
    refine List.filter_congr fun name _ => ?_
    rw [Bool.eq_iff_iff, h.coherent.contains name, decide_eq_true_iff]
  rw [names_fill h.distinct, hdeclared]
  congr 1
  refine List.filter_congr fun name hname => ?_
  have hname : name ∈ schema.names := hname
  simp [hname]

theorem names_perm_perfected (h : schema.WellFormed) (distinct : attributes.names.Nodup) :
    (fill schema.properties (declaredOnly schema attributes)).names.Perm schema.names := by
  rw [h.names_perfected attributes]
  have hthere : (attributes.names.filter (· ∈ schema.names)).Perm
      (schema.names.filter (· ∈ attributes.names)) := by
    refine (List.perm_ext_iff_of_nodup (distinct.filter _) (h.distinct.filter _)).mpr ?_
    intro name
    simp [and_comm]
  refine (hthere.append_right _).trans ?_
  have hsplit := List.filter_append_perm (fun name => decide (name ∈ attributes.names)) schema.names
  simpa using hsplit

theorem perfected (h : schema.WellFormed) (distinct : attributes.names.Nodup) :
    Perfected schema attributes (fill schema.properties (declaredOnly schema attributes)) := by
  have hperm := h.names_perm_perfected distinct
  refine ⟨h.names_perfected attributes, hperm, hperm.nodup_iff.mpr h.distinct, ?_, ?_, ?_⟩
  · have hlength := hperm.length_eq
    rw [Fields.names, Schema.names, List.length_map, List.length_map] at hlength
    exact hlength
  · intro name hname value hvalue hnull
    obtain ⟨p, hp, rfl⟩ := List.mem_map.mp hname
    have hpresent : ¬ isAbsent (attributes.get? p.1) = true := by
      rw [isAbsent_iff, hvalue]
      simpa using hnull
    rw [h.get?_perfected hp, RecordSchema.filled, if_neg hpresent, hvalue]
  · intro name rule hrule habsent
    have hget := h.get?_perfected ((Schema.get?_eq_some_iff h).mp hrule) attributes
    rw [hget, RecordSchema.filled, if_pos (isAbsent_iff.mpr habsent)]

/-- **Perfecting twice is perfecting once.** -/
theorem perfected_again (h : schema.WellFormed) (distinct : attributes.names.Nodup) :
    fill schema.properties
        (declaredOnly schema (fill schema.properties (declaredOnly schema attributes))) =
      fill schema.properties (declaredOnly schema attributes) := by
  have hdeclared : ∀ name ∈ (fill schema.properties (declaredOnly schema attributes)).names,
      schema.contains name = true := by
    intro name hname
    exact (h.coherent.contains name).mpr ((h.names_perm_perfected distinct).mem_iff.mp hname)
  rw [declaredOnly_eq_self hdeclared]
  refine fill_eq_self fun p hp => ?_
  rw [h.get?_perfected hp, filled_filled]

end Schema.WellFormed

/-- **The effect of perfecting.**  A record that is bound to a schema is perfected: of its attributes
stay the declared ones, in their order, and those that are missing follow in the order of their
declaration; what is absent or null takes the default, or null, and all else stays.  To do it again
changes nothing.  A record that is not bound is refused, and stays in its workspace as it is. -/
theorem perfect_effect (r : Record) :
    (∀ schema, r.schema? = some schema → schema.Built → r.attributes.names.Nodup →
      ∃ r', r.perfect = .ok r' ∧ r'.type = r.type ∧
        Perfected schema r.attributes r'.attributes ∧ r'.size = schema.size ∧
        r'.perfect = .ok r') ∧
    (r.schema? = none →
      r.perfect = .error (.invalidArgument .unboundPerfecting) ∧
      ∀ (w : Workspace) name, w.recordAt name = .ok r →
        ∃ events, w.run (.perfect name) =
          (.error (.error (.invalidArgument .unboundPerfecting)), events, w)) := by
  constructor
  · intro schema bound built distinct
    have h := built.wellFormed
    have hperfected := h.perfected distinct
    let r' : Record :=
      { r with attributes := fill schema.properties (declaredOnly schema r.attributes) }
    have bound' : r'.schema? = some schema := bound
    refine ⟨r', Record.perfect_eq bound, rfl, hperfected, hperfected.size, ?_⟩
    have hagain := h.perfected_again distinct
    rw [Record.perfect_eq bound', hagain]
  · intro unbound
    have hperfect : r.perfect = .error (.invalidArgument .unboundPerfecting) := by
      rw [Record.perfect, unbound]
    refine ⟨hperfect, fun w name kept => ⟨w.events (.perfect name), ?_⟩⟩
    have hperform : w.perform (.perfect name) =
        .error (.error (.invalidArgument .unboundPerfecting)) := by
      rw [Workspace.perform, kept]
      show (r.perfect.mapError Failure.error >>= _) = _
      rw [hperfect]
      rfl
    rw [Workspace.run, hperform]

/-- A person with an attribute that is not declared and an age that is not known. -/
def ageless : Record :=
  (RecordType.mk "person" ⟨0, personSchema⟩).recordFrom [("extra", .bool true), ("age", .null)]

/-- A record that no type made. -/
def loose : Record :=
  .ofAttributes [("age", .null)]

/-- The age stays null in its place, and the name follows with its default. -/
theorem ageless_perfect_effect :
    ageless.schema? = some personSchema ∧ personSchema.Built ∧ ageless.attributes.names.Nodup ∧
      (∃ r', ageless.perfect = .ok r' ∧ r'.attributes.names = ["age", "name"] ∧
        r'.attributes.get? "age" = some .null ∧
        r'.attributes.get? "name" = some (.str "anon") ∧ r'.perfect = .ok r') ∧
      loose.schema? = none ∧
      ∃ events, Workspace.run { records := [("x", loose)] } (.perfect "x") =
        (.error (.error (.invalidArgument .unboundPerfecting)), events,
          { records := [("x", loose)] }) := by
  have names : person.DistinctNames := by
    simp [person, Json.DistinctNames, Json.fieldsDistinct, Fields.names]
  have built : personSchema.Built := .described names ofDescription_person
  have distinct : ageless.attributes.names.Nodup := by decide
  obtain ⟨r', hperfect, -, hperfected, -, hagain⟩ :=
    (perfect_effect ageless).1 personSchema rfl built distinct
  refine ⟨rfl, built, distinct, ⟨r', hperfect, ?_, ?_, ?_, hagain⟩, rfl, ?_⟩
  · rw [hperfected.order]
    decide
  · exact hperfected.filled "age" _ rfl (Or.inr rfl)
  · exact hperfected.filled "name" _ rfl (Or.inl rfl)
  · exact ((perfect_effect loose).2 rfl).2 _ "x" rfl

end RecordSchema
