import RecordSchema.Proofs.Rule.Rerooting

/-!
# Reports below a place

A value that is checked as a whole may hold other values, each of them governed by a rule inside.
What is found at the place of such a value or below it is what the rule that governs the value finds
there (`Rule.Reaches.mem_findings_iff`, `Schema.Reaches.mem_findings_iff`): settings look at a value
and at its items only, so whatever lies behind a name comes from the schema inside, and names are
distinct.

`Rule.violationsBelow` are the reports at a place and below it, and
`Rule.Reaches.mem_violationsBelow_iff` says which they are.
-/

namespace RecordSchema

/-! ### Findings inside values -/

theorem Finding.under_inj {f g : Finding} {step other : PathStep} :
    f.under step = g.under other ↔ step = other ∧ f = g := by
  obtain ⟨location, issue⟩ := f
  obtain ⟨location', issue'⟩ := g
  simp [under, and_assoc]

namespace Rule.WellFormed

variable {rule : Rule} {schema : Schema} {f : Finding}

/-- What is found behind a name comes from the schema inside: the settings look at the value and at
its items only. -/
theorem mem_findings_iff_inside (h : rule.WellFormed) {value : Json} (present : value ≠ .null)
    (kind : rule.settings.kind.admits value = true) (hname : ∃ name, .property name ∈ f.location) :
    f ∈ rule.findings (some value) ↔ f ∈ rule.insideFindings value := by
  rw [Rule.findings_of_admits present kind, List.mem_append]
  refine or_iff_right fun hown => ?_
  obtain ⟨name, hname⟩ := hname
  rcases Settings.fails_of_mem_ownFindings h.patterns kind hown with
    ⟨hl, -⟩ | ⟨_, i, _, -, -, -, hl, -⟩
  · simp [hl] at hname
  · simp [hl] at hname

theorem mem_findings_obj_iff (h : rule.WellFormed) (nested : rule.nested = some schema)
    {fields : Fields} (kind : rule.settings.kind.admits (.obj fields) = true)
    (hname : ∃ name, .property name ∈ f.location) :
    f ∈ rule.findings (some (.obj fields)) ↔ f ∈ schema.findings fields := by
  rw [h.mem_findings_iff_inside (by simp) kind hname, Rule.insideFindings_eq nested]
  rfl

theorem mem_findings_arr_iff (h : rule.WellFormed) (nested : rule.nested = some schema)
    {items : List Json} (kind : rule.settings.kind.admits (.arr items) = true) {i : Nat}
    {fields : Fields} (at_i : items[i]? = some (.obj fields))
    (hname : ∃ name, .property name ∈ f.location) :
    f.under (.item i) ∈ rule.findings (some (.arr items)) ↔ f ∈ schema.findings fields := by
  obtain ⟨name, hname⟩ := hname
  rw [h.mem_findings_iff_inside (by simp) kind ⟨name, List.mem_cons_of_mem _ hname⟩]
  refine ⟨fun hf => ?_, fun hf => ?_⟩
  · obtain ⟨schema', hs, hcase⟩ := mem_insideFindings hf
    cases nested.symm.trans hs
    rcases hcase with ⟨_, harr, -⟩ | ⟨items', j, item, harr, hitem, hcase⟩
    · cases harr
    · cases harr
      rcases hcase with ⟨fields', rfl, g, hg, hunder⟩ | ⟨-, -, hunder⟩
      · obtain ⟨hstep, rfl⟩ := Finding.under_inj.mp hunder
        cases hstep
        cases at_i.symm.trans hitem
        exact hg
      · -- That an item is no object is found at the item itself.
        have hnil : f.location = [] := (List.cons.inj (congrArg Finding.location hunder)).2
        rw [hnil] at hname
        cases hname
  · rw [Rule.insideFindings_eq nested]
    exact List.mem_flatMap.mpr ⟨(.obj fields, i), List.mk_mem_zipIdx_iff_getElem?.mpr at_i,
      List.mem_map_of_mem hf⟩

end Rule.WellFormed

theorem Schema.WellFormed.mem_findings_iff {schema : Schema} (hs : schema.WellFormed)
    {name : String} {rule : Rule} (declared : schema.get? name = some rule) {fields : Fields}
    {f : Finding} :
    f.under (.property name) ∈ schema.findings fields ↔ f ∈ rule.findings (fields.get? name) := by
  rw [Schema.mem_findings_iff]
  refine ⟨?_, fun hf => ⟨_, mem_of_lookup declared, f, hf, rfl⟩⟩
  rintro ⟨p, hp, g, hg, hunder⟩
  obtain ⟨hstep, rfl⟩ := Finding.under_inj.mp hunder
  have hfound := (lookup_eq_some_iff_mem hs.distinct).mpr hp
  obtain rfl := PathStep.property.inj hstep
  obtain rfl := Option.some.inj (declared.symm.trans hfound)
  exact hg

theorem Schema.Reaches.exists_name {schema : Schema} {fields : Fields} {location : Location}
    {place : Place} (h : schema.Reaches fields location place) (f : Finding) :
    ∃ name, .property name ∈ (f.inside location).location := by
  cases h
  exact ⟨_, List.mem_cons_self⟩

mutual

theorem Rule.Reaches.mem_findings_iff : ∀ {rule inner : Rule} {value held : Option Json}
    {location : Location}, rule.Reaches value location (.value inner held) → rule.WellFormed →
      ∀ f : Finding, f.inside location ∈ rule.findings value ↔ f ∈ inner.findings held
  | _, _, _, _, _, .here, _, _ => Iff.rfl
  | _, _, _, _, _, .inside kind nested h, hw, f =>
    (hw.mem_findings_obj_iff nested kind (h.exists_name f)).trans
      (h.mem_findings_iff (hw.nested _ nested) f)
  | _, _, _, _, _, .element kind at_i nested h, hw, f =>
    (hw.mem_findings_arr_iff nested kind at_i (h.exists_name f)).trans
      (h.mem_findings_iff (hw.nested _ nested) f)

/-- **What is found at a place or below it is what the rule that governs the place finds.** -/
theorem Schema.Reaches.mem_findings_iff : ∀ {schema : Schema} {inner : Rule}
    {fields : Fields} {held : Option Json} {location : Location},
      schema.Reaches fields location (.value inner held) → schema.WellFormed →
      ∀ f : Finding, f.inside location ∈ schema.findings fields ↔ f ∈ inner.findings held
  | _, _, _, _, _, .property declared h, hs, f =>
    (hs.mem_findings_iff declared).trans
      (h.mem_findings_iff (hs.rules _ (mem_of_lookup declared)) f)

end

/-! ### Reports -/

/-- What a rule reports at a location in a value or below it. -/
def Rule.violationsBelow (rule : Rule) (name : String) (value : Option Json)
    (location : Location) : List Violation :=
  ((rule.findings value).filter fun f => location.isPrefixOf f.location).map
    (Finding.violation name)

/-- What is reported below a location is what the rule that governs the place reports under the path
of the place. -/
theorem Rule.Reaches.mem_violationsBelow_iff {rule inner : Rule} {whole held : Option Json}
    {location : Location} (h : rule.Reaches whole location (.value inner held))
    (hw : rule.WellFormed) (name : String) (v : Violation) :
    v ∈ rule.violationsBelow name whole location ↔
      v ∈ inner.violations (location.pathFrom name) held := by
  rw [violationsBelow, violations, List.mem_map, List.mem_map]
  have hinside : ∀ g ∈ inner.findings held,
      (g.inside location).violation name = g.violation (location.pathFrom name) :=
    fun g hg => Finding.violation_inside (ne_duplicate_of_mem_findings hg) name location
  refine ⟨?_, ?_⟩
  · rintro ⟨f, hf, rfl⟩
    -- A finding below the location is one inside the value there.
    obtain ⟨hmem, hbelow⟩ := List.mem_filter.mp hf
    obtain ⟨rest, hrest⟩ := List.isPrefixOf_iff_prefix.mp hbelow
    obtain ⟨_, issue⟩ := f
    obtain rfl : location ++ rest = _ := hrest
    have hg : (⟨rest, issue⟩ : Finding) ∈ inner.findings held := (h.mem_findings_iff hw _).mp hmem
    exact ⟨_, hg, (hinside _ hg).symm⟩
  · rintro ⟨g, hg, rfl⟩
    refine ⟨g.inside location, List.mem_filter.mpr ⟨(h.mem_findings_iff hw g).mpr hg, ?_⟩,
      hinside g hg⟩
    exact List.isPrefixOf_iff_prefix.mpr ⟨g.location, rfl⟩

end RecordSchema
