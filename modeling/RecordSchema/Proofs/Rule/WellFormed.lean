import RecordSchema.Proofs.Description.Entries
import RecordSchema.Proofs.Pattern.Counts
import RecordSchema.Schema.Definition

/-!
# Rules and schemas that the library makes

`Rule.Built` and `Schema.Built` are the rules and schemas that callers can get hold of: the
unrestricted rule, what is read from a description, what a draft of settings is built into, what is
put together from named rules, and what is taken out of such a rule or schema.  A schema may be used
inside any number of further rules.

They are all well formed (`Rule.Built.wellFormed`, `Schema.Built.wellFormed`): a rule comes from a
draft without defects, and the names of a schema are there and distinct, at every depth.  The schema
of a description is never examined as a whole, so for it this rests on the entries alone: each name
is looked at, each rule was examined when it was read, and an object holds no name twice.
-/

namespace RecordSchema

/-! ### Well-formed rules and schemas -/

/-- The rule of a draft without defects, where the schema inside has distinct names and well-formed
rules. -/
inductive Rule.WellFormed : Rule → Prop
  | intro {rule : Rule} (draft : Draft) (clean : draft.defects = []) (made : draft.rule = rule)
      (distinct : ∀ schema ∈ rule.nested, schema.names.Nodup)
      (named : ∀ schema ∈ rule.nested, "" ∉ schema.names)
      (inside : ∀ schema ∈ rule.nested, ∀ p ∈ schema.properties, p.2.WellFormed) :
      rule.WellFormed

/-- Distinct names that are there, and well-formed rules under them. -/
structure Schema.WellFormed (schema : Schema) : Prop where
  distinct : schema.names.Nodup
  named : "" ∉ schema.names
  rules : ∀ p ∈ schema.properties, p.2.WellFormed

theorem Draft.defects_eq_nil_iff {d : Draft} :
    d.defects = [] ↔ d.textDefects = [] ∧ d.rule.defects = [] := by
  rw [defects]
  cases ht : d.textDefects with
  | nil => simp
  | cons defect rest => simp

theorem Draft.rule_wellFormed {d : Draft} (clean : d.defects = [])
    (inside : ∀ schema ∈ d.nested, schema.WellFormed) : d.rule.WellFormed :=
  .intro d clean rfl (fun schema hs => (inside schema hs).distinct)
    (fun schema hs => (inside schema hs).named) (fun schema hs => (inside schema hs).rules)

namespace Rule.WellFormed

variable {rule : Rule}

theorem nested (h : rule.WellFormed) : ∀ schema ∈ rule.nested, schema.WellFormed := by
  cases h with
  | intro draft clean made distinct named inside =>
    exact fun schema hs => ⟨distinct schema hs, named schema hs, inside schema hs⟩

theorem defects_eq_nil (h : rule.WellFormed) : rule.defects = [] := by
  cases h with
  | intro draft clean made =>
    rw [← made]
    exact (Draft.defects_eq_nil_iff.mp clean).2

theorem schemaDefects_eq_nil (h : rule.WellFormed) :
    rule.settings.schemaDefects rule.nested.isSome = [] := by
  have hdefects := h.defects_eq_nil
  rw [defects] at hdefects
  simp only [List.append_eq_nil_iff] at hdefects
  exact hdefects.1.2

theorem defaultDefects_eq_nil (h : rule.WellFormed) : rule.defaultDefects = [] := by
  have hdefects := h.defects_eq_nil
  rw [defects] at hdefects
  exact (List.append_eq_nil_iff.mp hdefects).2

theorem patterns (h : rule.WellFormed) : ∀ p ∈ rule.settings.pattern, p.IsRead := by
  intro p hp
  cases h with
  | intro draft clean made =>
    subst made
    obtain ⟨text, -, hread⟩ := Option.bind_eq_some_iff.mp hp
    exact ⟨text, hread⟩

theorem composite (h : rule.WellFormed) :
    ∀ schema ∈ rule.nested, rule.settings.kind.isComposite = true := by
  intro schema hs
  have hdefects := h.schemaDefects_eq_nil
  rw [Option.mem_def.mp hs] at hdefects
  by_contra hnot
  have hnot : rule.settings.kind.isComposite = false := by simpa using hnot
  simp [Settings.schemaDefects, hnot] at hdefects

theorem memberKind (h : rule.WellFormed) (hlist : rule.settings.kind = .list) :
    ∀ schema ∈ rule.nested, ∀ k ∈ rule.settings.memberKind, k = .object := by
  intro schema hs k hk
  have hdefects := h.schemaDefects_eq_nil
  rw [Option.mem_def.mp hs] at hdefects
  by_contra hnot
  simp [Settings.schemaDefects, hlist, Kind.isComposite, Option.mem_def.mp hk, hnot] at hdefects

end Rule.WellFormed

/-! ### Descriptions -/

theorem Draft.nested_foldl_put {settings : List Setting} {d : Draft} {schema : Schema}
    (h : (settings.foldl put d).nested = some schema) :
    d.nested = some schema ∨ .nested schema ∈ settings := by
  induction settings generalizing d with
  | nil => exact Or.inl h
  | cons setting rest ih =>
    rcases ih h with h | h
    · cases setting with
      | nested inner =>
        cases h
        exact Or.inr List.mem_cons_self
      | _ => exact Or.inl h
    · exact Or.inr (List.mem_cons_of_mem setting h)

theorem Draft.nested_ofSettings {settings : List Setting} {schema : Schema}
    (h : (ofSettings settings).nested = some schema) : .nested schema ∈ settings :=
  (nested_foldl_put h).resolve_left (by simp)

theorem SettingName.read_ne_nested (name : SettingName) (value : Json) (schema : Schema) :
    name.read value ≠ .ok (some (.nested schema)) := by
  intro h
  cases name <;> cases value <;>
    simp only [read, readKind, readLimit, readNumber] at h <;>
    first | cases h | (split at h <;> cases h)

theorem decode_of_readSetting {p : String × Json} {schema : Schema}
    (h : readSetting p = .ok (some (.nested schema))) : Schema.decode p.2 = .ok schema := by
  unfold readSetting settingEntry at h
  split at h
  · cases h
  · split at h
    · next hinside =>
      cases h
      exact hinside
    · cases h
  · next setting _ _ =>
    cases hread : setting.read p.2 with
    | error defect =>
      rw [hread] at h
      cases h
    | ok result =>
      rw [hread] at h
      cases h
      exact absurd hread (setting.read_ne_nested p.2 schema)

theorem exists_of_draftOf_nested {fields : Fields} {schema : Schema}
    (h : (draftOf fields).nested = some schema) :
    ∃ p ∈ fields, Schema.decode p.2 = .ok schema := by
  obtain ⟨p, hp, hresult⟩ := List.mem_filterMap.mp (Draft.nested_ofSettings h)
  refine ⟨p, hp, decode_of_readSetting ?_⟩
  cases hread : readSetting p with
  | error violations =>
    rw [hread] at hresult
    cases hresult
  | ok result =>
    rw [hread, entryResult] at hresult
    rw [hresult]

theorem names_of_forall₂_readAs {fields : Fields} {properties : List (String × Rule)}
    (h : List.Forall₂ ReadAs fields properties) :
    properties.map Prod.fst = fields.names ∧ "" ∉ properties.map Prod.fst := by
  induction h with
  | nil => simp [Fields.names]
  | @cons p q _ _ hread _ ih =>
    obtain ⟨hname, heq, -⟩ := hread
    simp only [Fields.names, List.map_cons, List.cons.injEq, List.mem_cons, not_or] at ih ⊢
    exact ⟨⟨heq.symm, ih.1⟩, fun he => hname (heq.trans he.symm), ih.2⟩

theorem decode_wellFormed (description : Json) : description.DistinctNames →
    (∀ rule, Rule.decode description = .ok rule → rule.WellFormed) ∧
      ∀ schema, Schema.decode description = .ok schema → schema.WellFormed := by
  induction description using Json.induction with
  | object fields ih =>
    intro distinct
    obtain ⟨hnames, hvalues⟩ := Json.distinctNames_obj_iff.mp distinct
    refine ⟨?_, ?_⟩
    · intro rule h
      obtain ⟨-, clean, rfl⟩ := Rule.decode_obj_eq_ok_iff.mp h
      refine Draft.rule_wellFormed clean fun schema hs => ?_
      obtain ⟨p, hp, hdecode⟩ := exists_of_draftOf_nested hs
      exact (ih p hp (hvalues p hp)).2 schema hdecode
    · intro schema h
      have hforall := Schema.decode_obj_eq_ok_iff.mp h
      obtain ⟨hnames', hnamed⟩ := names_of_forall₂_readAs hforall
      refine ⟨?_, hnamed, fun q hq => ?_⟩
      · rw [Schema.names, hnames']
        exact hnames
      · obtain ⟨p, hp, -, -, hdecode⟩ := exists_readAs hforall q hq
        exact (ih p hp (hvalues p hp)).1 q.2 hdecode
  | other value hvalue =>
    intro _
    refine ⟨?_, ?_⟩
    · intro rule h
      obtain ⟨fields, he⟩ := Rule.exists_obj_of_decode h
      exact absurd he (hvalue fields)
    · intro schema h
      obtain ⟨fields, he⟩ := Schema.exists_obj_of_decode h
      exact absurd he (hvalue fields)

/-! ### Declarations -/

theorem Schema.declarationViolations_eq_nil_iff {seen : List String}
    {properties : List (String × Rule)} :
    declarationViolations seen properties = [] ↔
      (∀ p ∈ properties, p.1 ≠ "" ∧ p.1 ∉ seen) ∧ (properties.map Prod.fst).Nodup ∧
        ∀ p ∈ properties, p.2.defects = [] := by
  induction properties generalizing seen with
  | nil => simp [declarationViolations]
  | cons p rest ih =>
    have hname : nameDefects seen p.1 = [] ↔ p.1 ≠ "" ∧ p.1 ∉ seen := by
      by_cases hempty : p.1 = ""
      · simp [nameDefects, hempty]
      · by_cases hseen : p.1 ∈ seen <;> simp [nameDefects, hempty, hseen]
    rw [declarationViolations, List.append_eq_nil_iff, List.append_eq_nil_iff, List.map_eq_nil_iff,
      List.map_eq_nil_iff, Rule.definitionViolations, List.map_eq_nil_iff, hname, ih,
      List.forall_mem_cons, List.forall_mem_cons, List.map_cons, List.nodup_cons]
    simp only [List.mem_cons, not_or]
    refine ⟨?_, ?_⟩
    · rintro ⟨⟨hp, hrule⟩, hrest, hnodup, hrules⟩
      refine ⟨⟨hp, fun q hq => ⟨(hrest q hq).1, (hrest q hq).2.2⟩⟩, ⟨fun hmem => ?_, hnodup⟩,
        hrule, hrules⟩
      obtain ⟨q, hq, heq⟩ := List.mem_map.mp hmem
      exact (hrest q hq).2.1 heq
    · rintro ⟨⟨hp, hrest⟩, ⟨hnot, hnodup⟩, hrule, hrules⟩
      refine ⟨⟨hp, hrule⟩, fun q hq => ⟨(hrest q hq).1, fun heq => ?_, (hrest q hq).2⟩, hnodup,
        hrules⟩
      exact hnot (List.mem_map.mpr ⟨q, hq, heq⟩)

theorem Schema.ofProperties_eq_ok_iff {properties : List (String × Rule)} {schema : Schema} :
    Schema.ofProperties properties = .ok schema ↔
      declarationViolations [] properties = [] ∧ ⟨properties⟩ = schema := by
  rw [ofProperties]
  cases hv : definitionViolations ⟨properties⟩ with
  | nil =>
    have hv : declarationViolations [] properties = [] := hv
    simp [hv]
  | cons v rest =>
    have hv : declarationViolations [] properties = v :: rest := hv
    simp [hv]

/-! ### What callers can make -/

theorem Rule.ofDescription_eq_ok_iff {description : Json} {rule : Rule} :
    Rule.ofDescription description = .ok rule ↔ Rule.decode description = .ok rule := by
  rw [ofDescription]
  cases Rule.decode description <;> simp [Except.mapError]

theorem Schema.ofDescription_eq_ok_iff {description : Json} {schema : Schema} :
    Schema.ofDescription description = .ok schema ↔ Schema.decode description = .ok schema := by
  cases description with
  | obj fields =>
    rw [ofDescription]
    cases Schema.decode (.obj fields) <;> simp [Except.mapError]
  | _ => simp [ofDescription, Schema.decode]

theorem Draft.build_eq_ok_iff {d : Draft} {rule : Rule} :
    d.build = .ok rule ↔ d.defects = [] ∧ d.rule = rule := by
  rw [build, ← assemble_eq_ok_iff]
  cases d.assemble <;> simp [Except.mapError]

mutual

/-- The rules that callers can make.  A description is a value in which no object holds a name
twice, as is every value that is read from text. -/
inductive Rule.Built : Rule → Prop
  | unrestricted : Rule.Built .unrestricted
  | described {description : Json} {rule : Rule} (distinct : description.DistinctNames)
      (read : Rule.ofDescription description = .ok rule) : Rule.Built rule
  | drafted {settings : List Setting} {rule : Rule}
      (inside : ∀ schema, .nested schema ∈ settings → Schema.Built schema)
      (made : (Draft.ofSettings settings).build = .ok rule) : Rule.Built rule
  | declared {schema : Schema} {name : String} {rule : Rule} (built : Schema.Built schema)
      (found : schema.get? name = some rule) : Rule.Built rule

/-- The schemas that callers can make. -/
inductive Schema.Built : Schema → Prop
  | described {description : Json} {schema : Schema} (distinct : description.DistinctNames)
      (read : Schema.ofDescription description = .ok schema) : Schema.Built schema
  | ofProperties {properties : List (String × Rule)} {schema : Schema}
      (rules : ∀ p ∈ properties, Rule.Built p.2)
      (made : Schema.ofProperties properties = .ok schema) : Schema.Built schema
  | inside {rule : Rule} {schema : Schema} (built : Rule.Built rule)
      (found : rule.nested = some schema) : Schema.Built schema

end

mutual

/-- **Every rule that callers can make is well formed.** -/
theorem Rule.Built.wellFormed : ∀ {rule : Rule}, rule.Built → rule.WellFormed
  | _, .unrestricted => Draft.rule_wellFormed (d := {}) rfl (by simp)
  | _, .described distinct read =>
    (decode_wellFormed _ distinct).1 _ (Rule.ofDescription_eq_ok_iff.mp read)
  | _, .drafted inside made => by
    obtain ⟨clean, rfl⟩ := Draft.build_eq_ok_iff.mp made
    refine Draft.rule_wellFormed clean fun schema hs => ?_
    exact Schema.Built.wellFormed (inside schema (Draft.nested_ofSettings hs))
  | _, .declared built found => (Schema.Built.wellFormed built).rules _ (mem_of_lookup found)

/-- **Every schema that callers can make is well formed.** -/
theorem Schema.Built.wellFormed : ∀ {schema : Schema}, schema.Built → schema.WellFormed
  | _, .described distinct read =>
    (decode_wellFormed _ distinct).2 _ (Schema.ofDescription_eq_ok_iff.mp read)
  | _, .ofProperties rules made => by
    obtain ⟨hnil, rfl⟩ := Schema.ofProperties_eq_ok_iff.mp made
    obtain ⟨hnames, hnodup, -⟩ := Schema.declarationViolations_eq_nil_iff.mp hnil
    refine ⟨hnodup, fun hmem => ?_, fun p hp => Rule.Built.wellFormed (rules p hp)⟩
    obtain ⟨p, hp, heq⟩ := List.mem_map.mp hmem
    exact (hnames p hp).1 heq
  | _, .inside built found => (Rule.Built.wellFormed built).nested _ found

end

end RecordSchema
