import RecordSchema.Proofs.Rule.Consistency

/-!
# What holds of well-formed definitions

`Rule.Coherent` and `Schema.Coherent` collect what may be relied on in a rule or a schema without
looking at how it was made: it has no defects, limits that are points in time lie on the scale of
the kind, the default is accepted, and looking up a name is the same as finding it in the list.

* `Rule.Encloses`: the rules inside a rule, at any depth.
* `Rule.WellFormed.coherentThroughout`, `Schema.WellFormed.coherentThroughout`: a well-formed
  definition is coherent, and so is everything inside it.
-/

namespace RecordSchema

/-! ### Rules inside rules -/

/-- A rule lies inside another one: it is that rule, or it lies inside a rule that is declared in
the schema inside. -/
inductive Rule.Encloses : Rule → Rule → Prop
  | self {rule : Rule} : Rule.Encloses rule rule
  | inside {rule inner : Rule} {schema : Schema} {p : String × Rule}
      (nested : rule.nested = some schema) (declared : p ∈ schema.properties)
      (h : Rule.Encloses p.2 inner) : Rule.Encloses rule inner

theorem Rule.Encloses.wellFormed {rule inner : Rule} (h : rule.Encloses inner) :
    rule.WellFormed → inner.WellFormed := by
  induction h with
  | self => exact id
  | inside nested declared _ ih => exact fun hw => ih ((hw.nested _ nested).rules _ declared)

/-- What lies inside a rule that callers can make they can make as well. -/
theorem Rule.Encloses.built {rule inner : Rule} (h : rule.Encloses inner) :
    rule.Built → inner.Built := by
  induction h with
  | self => exact id
  | @inside rule _ schema p nested declared _ ih =>
    intro built
    have hschema : schema.Built := .inside built nested
    -- Callers get at a rule by its name, which leads to no other rule as names are distinct.
    have hfound : schema.get? p.1 = some p.2 :=
      (lookup_eq_some_iff_mem hschema.wellFormed.distinct).mpr declared
    exact ih (.declared hschema hfound)

/-! ### Points in time -/

theorem Temporal.scale_of_read? {scale : Scale} {text : String} {t : Temporal}
    (h : Temporal.read? scale text = some t) : t.scale = scale := by
  cases scale <;>
  · obtain ⟨_, -, rfl⟩ := Option.map_eq_some_iff.mp h
    rfl

theorem Kind.scale?_of_readPoint? {k : Kind} {text : String} {t : Temporal}
    (h : k.readPoint? text = some t) : k.scale? = some t.scale := by
  obtain ⟨scale, hscale, hread⟩ := Option.bind_eq_some_iff.mp h
  rw [hscale, Temporal.scale_of_read? hread]

theorem Kind.scale?_eq_none {k : Kind}
    (h : k ∈ [Kind.integer, .float, .string, .list, .set, .object]) : k.scale? = none := by
  cases k <;> simp_all [Kind.scale?]

/-! ### Coherent definitions -/

/-- A rule without defects, whose points in time lie on the scale of its kind, as do all points that
they are held against; that limits numbers or points in time but not both; and that accepts its
default under every name. -/
structure Rule.Coherent (rule : Rule) : Prop where
  clean : rule.definitionViolations = []
  scaled : ∀ limit, limit ∈ rule.settings.earliest ∨ limit ∈ rule.settings.latest →
    rule.settings.kind.scale? = some limit.scale
  comparable : ∀ limit, limit ∈ rule.settings.earliest ∨ limit ∈ rule.settings.latest →
    ∀ text point, rule.settings.kind.readPoint? text = some point → point.scale = limit.scale
  separate : rule.settings.least.isSome ∨ rule.settings.most.isSome ∨
    rule.settings.memberLeast.isSome ∨ rule.settings.memberMost.isSome →
      rule.settings.earliest = none ∧ rule.settings.latest = none
  fallback : ∀ value ∈ rule.settings.fallback, ∀ name, rule.violations name (some value) = []

/-- A schema without defects, whose names are there and distinct, so that looking up a name is the
same as finding it in the list. -/
structure Schema.Coherent (schema : Schema) : Prop where
  clean : schema.definitionViolations = []
  named : ∀ name ∈ schema.names, name ≠ ""
  distinct : schema.names.Nodup
  get : ∀ name rule, schema.get? name = some rule ↔ (name, rule) ∈ schema.properties
  contains : ∀ name, schema.contains name = true ↔ name ∈ schema.names

/-- A rule is coherent, and so are all rules and schemas inside it. -/
def Rule.CoherentThroughout (rule : Rule) : Prop :=
  ∀ inner, rule.Encloses inner → inner.Coherent ∧ ∀ schema ∈ inner.nested, schema.Coherent

/-- A schema is coherent, and so are all rules and schemas inside it. -/
def Schema.CoherentThroughout (schema : Schema) : Prop :=
  schema.Coherent ∧ ∀ p ∈ schema.properties, p.2.CoherentThroughout

/-! ### Well-formed definitions -/

namespace Rule.WellFormed

variable {rule : Rule}

theorem scale?_eq (h : rule.WellFormed) {limit : Temporal}
    (hlimit : limit ∈ rule.settings.earliest ∨ limit ∈ rule.settings.latest) :
    rule.settings.kind.scale? = some limit.scale := by
  cases h with
  | intro draft clean made =>
    subst made
    rcases hlimit with hlimit | hlimit
    · obtain ⟨text, -, hread⟩ := Option.bind_eq_some_iff.mp hlimit
      exact Kind.scale?_of_readPoint? hread
    · obtain ⟨text, -, hread⟩ := Option.bind_eq_some_iff.mp hlimit
      exact Kind.scale?_of_readPoint? hread

theorem scale?_eq_none (h : rule.WellFormed)
    (hlimit : rule.settings.least.isSome ∨ rule.settings.most.isSome ∨
      rule.settings.memberLeast.isSome ∨ rule.settings.memberMost.isSome) :
    rule.settings.kind.scale? = none := by
  have hvalue : ∀ limit, limit ∈ rule.settings.least ∨ limit ∈ rule.settings.most →
      rule.settings.kind.scale? = none := fun limit hmem =>
    Kind.scale?_eq_none (h.consistent.limits.applicable limit hmem)
  have hmember : ∀ limit, limit ∈ rule.settings.memberLeast ∨ limit ∈ rule.settings.memberMost →
      rule.settings.kind.scale? = none := by
    intro limit hmem
    obtain ⟨k, hk, -⟩ := h.consistent.memberLimits.applicable limit hmem
    have hkind := (h.consistent.memberKind k hk).1
    refine Kind.scale?_eq_none ?_
    simp only [List.mem_cons, List.not_mem_nil, or_false] at hkind ⊢
    tauto
  simp only [Option.isSome_iff_exists] at hlimit
  rcases hlimit with ⟨l, hl⟩ | ⟨l, hl⟩ | ⟨l, hl⟩ | ⟨l, hl⟩
  · exact hvalue l (Or.inl hl)
  · exact hvalue l (Or.inr hl)
  · exact hmember l (Or.inl hl)
  · exact hmember l (Or.inr hl)

theorem coherent (h : rule.WellFormed) : rule.Coherent where
  clean := by rw [definitionViolations, h.defects_eq_nil, List.map_nil]
  scaled := fun limit hlimit => h.scale?_eq hlimit
  comparable := by
    intro limit hlimit text point hread
    have hpoint := Kind.scale?_of_readPoint? hread
    exact Option.some.inj (hpoint.symm.trans (h.scale?_eq hlimit))
  separate := by
    intro hlimit
    have hnone := h.scale?_eq_none hlimit
    have habsent : ∀ t, ¬ (t ∈ rule.settings.earliest ∨ t ∈ rule.settings.latest) := by
      intro t ht
      have hscale := h.scale?_eq ht
      rw [hnone] at hscale
      cases hscale
    exact ⟨Option.eq_none_iff_forall_not_mem.mpr fun t ht => habsent t (Or.inl ht),
      Option.eq_none_iff_forall_not_mem.mpr fun t ht => habsent t (Or.inr ht)⟩
  fallback := by
    intro value hvalue name
    rw [violations, Rule.defaultDefects_eq_nil_iff.mp h.defaultDefects_eq_nil value hvalue,
      List.map_nil]

end Rule.WellFormed

theorem Schema.WellFormed.coherent {schema : Schema} (h : schema.WellFormed) :
    schema.Coherent where
  clean := by
    refine Schema.declarationViolations_eq_nil_iff.mpr ⟨fun p hp => ⟨fun he => ?_, by simp⟩,
      h.distinct, fun p hp => (h.rules p hp).defects_eq_nil⟩
    exact h.named (List.mem_map.mpr ⟨p, hp, he⟩)
  named := fun name hname he => h.named (he ▸ hname)
  distinct := h.distinct
  get := fun name rule => lookup_eq_some_iff_mem h.distinct
  contains := by
    intro name
    rw [Schema.contains, Option.isSome_iff_ne_none, Ne, Schema.get?, lookup_eq_none_iff_not_mem,
      not_not, Schema.names]

theorem Rule.WellFormed.coherentThroughout {rule : Rule} (h : rule.WellFormed) :
    rule.CoherentThroughout := by
  intro inner hinner
  have hw := hinner.wellFormed h
  exact ⟨hw.coherent, fun schema hs => (hw.nested schema hs).coherent⟩

theorem Schema.WellFormed.coherentThroughout {schema : Schema} (h : schema.WellFormed) :
    schema.CoherentThroughout :=
  ⟨h.coherent, fun p hp => (h.rules p hp).coherentThroughout⟩

end RecordSchema
