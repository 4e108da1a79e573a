import RecordSchema.Proofs.Rule.Coherence
import RecordSchema.Record.Registry

/-!
# What callers can get hold of

`Rule.Reachable`, `Schema.Reachable`, `RecordType.Reachable` and `TypeRegistry.Reachable` are what
any sequence of calls can produce: rules and schemas that are described, drafted, put together or
taken out of one another; schemas that are taken from a source; record types that are created or
registered; and registries.  The results of some calls are the arguments of others, in any order.

Only some of these calls examine what they make.  The schema of a description is made of its
entries, and a schema that exists already is taken as it is.  But no call makes a definition of
parts that were not examined before: whatever is reachable is built (`Rule.Reachable.built`,
`Schema.Reachable.built`).  So it is coherent, and everything inside it is (`reachable_coherent`).
-/

namespace RecordSchema

mutual

/-- The rules that any sequence of calls can produce. -/
inductive Rule.Reachable : Rule → Prop
  | unrestricted : Rule.Reachable .unrestricted
  | described {description : Json} {rule : Rule} (distinct : description.DistinctNames)
      (read : Rule.ofDescription description = .ok rule) : Rule.Reachable rule
  | drafted {settings : List Setting} {rule : Rule}
      (inside : ∀ schema, .nested schema ∈ settings → Schema.Reachable schema)
      (made : (Draft.ofSettings settings).build = .ok rule) : Rule.Reachable rule
  | declared {schema : Schema} {p : String × Rule} (h : Schema.Reachable schema)
      (found : p ∈ schema.properties) : Rule.Reachable p.2

/-- The schemas that any sequence of calls can produce. -/
inductive Schema.Reachable : Schema → Prop
  | described {description : Json} {schema : Schema} (distinct : description.DistinctNames)
      (read : Schema.ofDescription description = .ok schema) : Schema.Reachable schema
  | listed {properties : List (String × Rule)} {schema : Schema}
      (rules : ∀ p ∈ properties, Rule.Reachable p.2)
      (made : Schema.ofProperties properties = .ok schema) : Schema.Reachable schema
  | drafted {properties : List (String × Rule)} {schema : Schema}
      (rules : ∀ p ∈ properties, Rule.Reachable p.2)
      (made : (properties.foldl (fun d p => d.property p.1 p.2) (⟨[]⟩ : SchemaDraft)).build =
        .ok schema) : Schema.Reachable schema
  | inside {rule : Rule} {schema : Schema} (h : Rule.Reachable rule)
      (found : rule.nested = some schema) : Schema.Reachable schema
  | taken {source : SchemaSource} {identity : Nat} {shape : SharedSchema}
      (h : SchemaSource.Reachable source) (made : source.shape identity = .ok shape) :
      Schema.Reachable shape.schema
  | ofType {type : RecordType} (h : RecordType.Reachable type) : Schema.Reachable type.shape.schema

/-- The sources that a schema can be taken from. -/
inductive SchemaSource.Reachable : SchemaSource → Prop
  | described {description : Json} (distinct : description.DistinctNames) :
      SchemaSource.Reachable (.described description)
  | made {schema : Schema} (h : Schema.Reachable schema) : SchemaSource.Reachable (.made schema)
  | shared {shape : SharedSchema} (h : Schema.Reachable shape.schema) :
      SchemaSource.Reachable (.shared shape)

/-- The record types that any sequence of calls can produce. -/
inductive RecordType.Reachable : RecordType → Prop
  | created {identity : Nat} {name : String} {source : SchemaSource} {type : RecordType}
      (h : SchemaSource.Reachable source) (made : createType identity name source = .ok type) :
      RecordType.Reachable type
  | registered {registry : TypeRegistry} {name : String} {type : RecordType}
      (h : TypeRegistry.Reachable registry) (found : registry.get? name = some type) :
      RecordType.Reachable type

/-- The registries that any sequence of calls can produce. -/
inductive TypeRegistry.Reachable : TypeRegistry → Prop
  | empty : TypeRegistry.Reachable ⟨[]⟩
  | register {registry after : TypeRegistry} {identity : Nat} {name : String}
      {source : SchemaSource} {type : RecordType} (h : TypeRegistry.Reachable registry)
      (hsource : SchemaSource.Reachable source)
      (made : registry.register identity name source = .ok (type, after)) :
      TypeRegistry.Reachable after

end

/-! ### Single calls -/

theorem Except.map_eq_ok_iff {ε α β : Type} {f : α → β} {x : Except ε α} {b : β} :
    x.map f = .ok b ↔ ∃ a, x = .ok a ∧ f a = b := by
  cases x <;> simp [Except.map]

theorem SchemaDraft.properties_foldl (properties : List (String × Rule)) (d : SchemaDraft) :
    (properties.foldl (fun d p => d.property p.1 p.2) d).properties =
      d.properties ++ properties := by
  induction properties generalizing d with
  | nil => exact (List.append_nil _).symm
  | cons p rest ih =>
    rw [List.foldl_cons, ih, SchemaDraft.property, List.append_assoc, List.singleton_append]

theorem shape_eq_of_createType {identity : Nat} {name : String} {source : SchemaSource}
    {type : RecordType} (h : createType identity name source = .ok type) :
    source.shape identity = .ok type.shape := by
  rw [createType] at h
  split at h
  · cases h
  · obtain ⟨shape, hshape, rfl⟩ := Except.map_eq_ok_iff.mp h
    exact hshape

/-- A registry gains one type at its end, which is one that could have been created. -/
theorem TypeRegistry.createType_of_register {registry after : TypeRegistry} {identity : Nat}
    {name : String} {source : SchemaSource} {type : RecordType}
    (h : registry.register identity name source = .ok (type, after)) :
    createType identity name source = .ok type ∧ after.types = registry.types ++ [type] := by
  rw [register] at h
  split at h
  · cases h
  · obtain ⟨made, hmade, heq⟩ := Except.map_eq_ok_iff.mp h
    cases heq
    exact ⟨hmade, rfl⟩

/-! ### Sequences of calls -/

mutual

theorem Rule.Reachable.built : ∀ {rule : Rule}, rule.Reachable → rule.Built
  | _, .unrestricted => .unrestricted
  | _, .described distinct read => .described distinct read
  | _, .drafted inside made => .drafted (fun schema hs => (inside schema hs).built) made
  | _, .declared h found =>
    .declared h.built ((lookup_eq_some_iff_mem h.built.wellFormed.distinct).mpr found)

theorem Schema.Reachable.built : ∀ {schema : Schema}, schema.Reachable → schema.Built
  | _, .described distinct read => .described distinct read
  | _, .listed rules made => .ofProperties (fun p hp => (rules p hp).built) made
  | _, @Schema.Reachable.drafted properties _ rules made => by
    -- A draft of a schema is examined as the list of its properties.
    rw [SchemaDraft.build, SchemaDraft.properties_foldl] at made
    exact .ofProperties (fun p hp => (rules p hp).built) made
  | _, .inside h found => .inside h.built found
  | _, .taken h made => h.shape_built made
  | _, .ofType h => h.shape_built

/-- What is taken from a source is built: a description is read, and all else was there before. -/
theorem SchemaSource.Reachable.shape_built : ∀ {source : SchemaSource}, source.Reachable →
    ∀ {identity : Nat} {shape : SharedSchema}, source.shape identity = .ok shape →
      shape.schema.Built
  | _, .described distinct, _, _, made => by
    obtain ⟨schema, hread, rfl⟩ := Except.map_eq_ok_iff.mp made
    exact .described distinct hread
  | _, .made h, _, _, made => by
    cases made
    exact h.built
  | _, .shared h, _, _, made => by
    cases made
    exact h.built

theorem RecordType.Reachable.shape_built : ∀ {type : RecordType}, type.Reachable →
    type.shape.schema.Built
  | _, .created h made => h.shape_built (shape_eq_of_createType made)
  | _, .registered h found => h.shape_built _ (List.mem_of_find?_eq_some found)

theorem TypeRegistry.Reachable.shape_built : ∀ {registry : TypeRegistry}, registry.Reachable →
    ∀ type ∈ registry.types, type.shape.schema.Built
  | _, .empty, _, hmem => absurd hmem (by simp)
  | _, .register h hsource made, type, hmem => by
    obtain ⟨hcreated, htypes⟩ := TypeRegistry.createType_of_register made
    rw [htypes, List.mem_append, List.mem_singleton] at hmem
    rcases hmem with hmem | rfl
    · exact h.shape_built type hmem
    · exact hsource.shape_built (shape_eq_of_createType hcreated)

end

/-- **Every definition that callers can get hold of is coherent**, and so is everything inside
it. -/
theorem reachable_coherent :
    (∀ rule : Rule, rule.Reachable → rule.CoherentThroughout) ∧
      ∀ schema : Schema, schema.Reachable → schema.CoherentThroughout :=
  ⟨fun _ h => h.built.wellFormed.coherentThroughout,
    fun _ h => h.built.wellFormed.coherentThroughout⟩

/-! ### Events

A registered type, whose schema has a limit and a default that are dates and a schema inside.
-/

/-- Events: a day of this year or later, and parts with a label. -/
def event : Json :=
  .obj [("day", .obj [("type", .str "date"), ("min", .str "2024-01-01"),
      ("default", .str "2024-02-29")]),
    ("parts", .obj [("type", .str "list"),
      ("schema", .obj [("label", .obj [("type", .str "string"), ("default", .str "")])])])]

/-- The rule for days. -/
def dayRule : Rule :=
  ⟨{ kind := .date, fallback := some (.str "2024-02-29"),
     earliest := some (.date ⟨2024, 1, 1, by decide⟩) }, none⟩

/-- The rule for labels. -/
def labelRule : Rule :=
  ⟨{ kind := .string, fallback := some (.str "") }, none⟩

/-- The schema that is described by `event`. -/
def eventSchema : Schema :=
  ⟨[("day", dayRule), ("parts", ⟨{ kind := .list }, some ⟨[("label", labelRule)]⟩⟩)]⟩

/-- The registry in which events are registered. -/
def eventRegistry : TypeRegistry :=
  ⟨[⟨"event", ⟨0, eventSchema⟩⟩]⟩

theorem register_event :
    TypeRegistry.register ⟨[]⟩ 0 "event" (.described event) =
      .ok (⟨"event", ⟨0, eventSchema⟩⟩, eventRegistry) :=
  rfl

/-- The schema of the registered type is coherent, and the label inside accepts its default. -/
theorem eventSchema_coherent :
    eventSchema.Reachable ∧ eventSchema.Coherent ∧ dayRule.Reachable ∧ dayRule.Coherent ∧
      dayRule.settings.kind.scale? = some .date ∧
      labelRule.violations "label" (some (.str "")) = [] := by
  have distinct : event.DistinctNames := by
    simp [event, Json.DistinctNames, Json.fieldsDistinct, Fields.names]
  have registry : eventRegistry.Reachable := .register .empty (.described distinct) register_event
  have found : eventRegistry.get? "event" = some ⟨"event", ⟨0, eventSchema⟩⟩ := rfl
  have reachable : eventSchema.Reachable := .ofType (.registered registry found)
  have day : dayRule.Reachable :=
    @Rule.Reachable.declared eventSchema ("day", dayRule) reachable List.mem_cons_self
  have hday := (reachable_coherent.1 dayRule day dayRule .self).1
  obtain ⟨hschema, hrules⟩ := reachable_coherent.2 eventSchema reachable
  have hlabel := (hrules _ (List.mem_cons_of_mem _ List.mem_cons_self) labelRule
    (.inside rfl List.mem_cons_self .self)).1
  exact ⟨reachable, hschema, day, hday, hday.scaled _ (Or.inl rfl),
    hlabel.fallback _ rfl "label"⟩

end RecordSchema
