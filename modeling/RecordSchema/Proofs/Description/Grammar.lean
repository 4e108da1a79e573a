import RecordSchema.Proofs.Description.Readings
import RecordSchema.Proofs.Json.Reading
import RecordSchema.Proofs.Rule.Consistency

/-!
# The grammar of descriptions

Which values describe a rule or a schema, said without an order of reading and without reports.
`DescribesRule` and `DescribesSchema` relate a description to what it describes: a rule is described
by an object of settings that fit each other (`DescribesSettings`), a schema by an object of rules
under names that are not empty, and the two go through each other at the setting for the schema
inside.

`ofDescription_eq_ok_iff_describes` says that reading succeeds on exactly these descriptions, and
gives what they describe.  All that it asks of a description is that no object in it holds a name
twice, as in every value that is read from a text (`Json.read?_distinctNames`).
-/

namespace RecordSchema

/-! ### The settings of a description -/

/-- An object of settings that fit each other, where the schema inside is given. -/
structure DescribesSettings (fields : Fields) (inside : Option Schema) : Prop where
  known : ∀ name ∈ fields.names, ∃ setting : SettingName, setting.text = name
  forms : ∀ setting value, fields.declared? setting = some value → setting.Takes value
  compiles : ∀ text ∈ fields.declaredText? .regex, ∃ p, Pattern.ofText? text = some p
  points : ∀ text, text ∈ fields.declaredText? .min ∨ text ∈ fields.declaredText? .max →
    ∃ scale t, fields.describedKind.scale? = some scale ∧ Temporal.read? scale text = some t
  consistent : fields.describedSettings.Consistent
  schema : inside.isSome = true → fields.describedSettings.TakesSchema
  default : ∀ value ∈ fields.declared? .default,
    Rule.Conforms ⟨fields.describedSettings, inside⟩ (some value)

/-! ### Rules and schemas -/

mutual

/-- A value describes a rule: it is an object of settings. -/
inductive DescribesRule : Json → Rule → Prop
  | intro {fields : Fields} {inside : Option Schema}
      (nested : DescribesInside (fields.declared? .schema) inside)
      (settings : DescribesSettings fields inside) :
      DescribesRule (.obj fields) ⟨fields.describedSettings, inside⟩

/-- What is declared for the schema inside, if anything, describes it. -/
inductive DescribesInside : Option Json → Option Schema → Prop
  | none : DescribesInside none none
  | some {value : Json} {schema : Schema} (h : DescribesSchema value schema) :
      DescribesInside (some value) (some schema)

/-- A value describes a schema: it is an object of rules. -/
inductive DescribesSchema : Json → Schema → Prop
  | intro {fields : Fields} {properties : List (String × Rule)}
      (entries : DescribesProperties fields properties) :
      DescribesSchema (.obj fields) ⟨properties⟩

/-- The fields of an object describe rules, each under a name that is not empty. -/
inductive DescribesProperties : Fields → List (String × Rule) → Prop
  | nil : DescribesProperties [] []
  | cons {name : String} {description : Json} {rule : Rule} {fields : Fields}
      {properties : List (String × Rule)} (named : name ≠ "")
      (described : DescribesRule description rule) (rest : DescribesProperties fields properties) :
      DescribesProperties ((name, description) :: fields) ((name, rule) :: properties)

end

/-! ### Defects of the draft -/

theorem Draft.patternDefects_eq_nil_iff {text : Option String} :
    patternDefects text = [] ↔ ∀ t ∈ text, ∃ p, Pattern.ofText? t = some p := by
  cases text with
  | none => simp [patternDefects]
  | some t => cases hp : Pattern.ofText? t <;> simp [patternDefects, hp]

theorem Draft.pointDefects_eq_nil_iff {kind : Kind} {setting : SettingName} {text : Option String} :
    pointDefects kind setting text = [] ↔ ∀ t ∈ text,
      ∃ scale point, kind.scale? = some scale ∧ Temporal.read? scale t = some point := by
  cases text with
  | none => simp [pointDefects]
  | some t =>
    rw [pointDefects, Kind.isTemporal, Kind.readPoint?]
    cases kind.scale? with
    | none => simp
    | some scale => cases hr : Temporal.read? scale t <;> simp [hr]

theorem Draft.textDefects_eq_nil_iff {d : Draft} :
    d.textDefects = [] ↔ (∀ text ∈ d.pattern, ∃ p, Pattern.ofText? text = some p) ∧
      ∀ text, text ∈ d.earliest ∨ text ∈ d.latest →
        ∃ scale t, d.kind.scale? = some scale ∧ Temporal.read? scale text = some t := by
  rw [textDefects, List.append_eq_nil_iff, List.append_eq_nil_iff, patternDefects_eq_nil_iff,
    pointDefects_eq_nil_iff, pointDefects_eq_nil_iff, and_assoc]
  refine and_congr_right fun _ => ?_
  refine ⟨?_, ?_⟩
  · rintro ⟨hearliest, hlatest⟩ text (h | h)
    · exact hearliest text h
    · exact hlatest text h
  · intro h
    exact ⟨fun text ht => h text (Or.inl ht), fun text ht => h text (Or.inr ht)⟩

theorem regular_describedSettings {fields : Fields} {inside : Option Schema}
    (hschema : inside.isSome = true → fields.describedSettings.TakesSchema)
    (hregular : ∀ schema ∈ inside, ∀ p ∈ schema.properties, p.2.Regular) :
    Rule.Regular ⟨fields.describedSettings, inside⟩ := by
  refine .intro ?_ ?_ hregular
  · intro p hp
    obtain ⟨text, -, hread⟩ := Option.bind_eq_some_iff.mp hp
    exact ⟨text, hread⟩
  · intro schema hs
    have htakes := hschema (Option.isSome_of_mem hs)
    rcases htakes with hk | ⟨hk, -⟩
    · rw [hk]; rfl
    · rw [hk]; rfl

theorem draftOf_defects_eq_nil_iff {fields : Fields} (distinct : fields.names.Nodup)
    {inside : Option Schema} (hinside : (draftOf fields).nested = inside)
    (hregular : ∀ schema ∈ inside, ∀ p ∈ schema.properties, p.2.Regular) :
    (draftOf fields).defects = [] ↔
      (∀ text ∈ fields.declaredText? .regex, ∃ p, Pattern.ofText? text = some p) ∧
      (∀ text, text ∈ fields.declaredText? .min ∨ text ∈ fields.declaredText? .max →
        ∃ scale t, fields.describedKind.scale? = some scale ∧ Temporal.read? scale text = some t) ∧
      fields.describedSettings.Consistent ∧
      (inside.isSome = true → fields.describedSettings.TakesSchema) ∧
      ∀ value ∈ fields.declared? .default,
        Rule.Conforms ⟨fields.describedSettings, inside⟩ (some value) := by
  have hrule : (draftOf fields).rule = ⟨fields.describedSettings, inside⟩ := by
    rw [Draft.rule, draftOf_settings distinct, hinside]
  rw [Draft.defects_eq_nil_iff, Draft.textDefects_eq_nil_iff, hrule, Rule.defects_eq_nil_iff,
    draftOf_pattern distinct, draftOf_earliest distinct, draftOf_latest distinct,
    draftOf_kind distinct, and_assoc]
  refine and_congr_right fun _ => and_congr_right fun _ => and_congr_right fun _ => ?_
  refine and_congr_right fun hschema => ?_
  have hiff := (regular_describedSettings hschema hregular).findings_eq_nil_iff
  exact forall₂_congr fun value _ => hiff (some value)

/-- What it takes for a description without a default to be accepted. -/
theorem Fields.exists_ofDescription_iff {fields : Fields} (distinct : fields.names.Nodup)
    (plain : fields.declared? .default = none) :
    (∃ rule, Rule.ofDescription (.obj fields) = .ok rule) ↔
      ((∀ name ∈ fields.names, ∃ setting : SettingName, setting.text = name) ∧
        (∀ setting value, fields.declared? setting = some value → setting.Takes value) ∧
        ∀ value ∈ fields.declared? .schema, ∃ schema, Schema.decode value = .ok schema) ∧
      ((∀ text ∈ fields.declaredText? .regex, ∃ p, Pattern.ofText? text = some p) ∧
        ∀ text, text ∈ fields.declaredText? .min ∨ text ∈ fields.declaredText? .max →
          ∃ scale t, fields.describedKind.scale? = some scale ∧
            Temporal.read? scale text = some t) ∧
      fields.describedSettings.Consistent ∧
      (((fields.declared? .schema).bind fun value => (Schema.decode value).toOption).isSome = true →
        fields.describedSettings.TakesSchema) := by
  have hfallback : ∀ value ∈ (draftOf fields).rule.settings.fallback,
      (draftOf fields).rule.findings (some value) = [] := by
    intro value hvalue
    rw [Draft.rule, draftOf_settings distinct, Fields.describedSettings, plain] at hvalue
    cases hvalue
  have hdefects : (draftOf fields).defects = [] ↔
      (draftOf fields).textDefects = [] ∧ (draftOf fields).rule.settings.Consistent ∧
        ((draftOf fields).rule.nested.isSome = true →
          (draftOf fields).rule.settings.TakesSchema) := by
    rw [Draft.defects_eq_nil_iff, Rule.defects_eq_nil_iff]
    exact and_congr_right fun _ => and_congr_right fun _ => and_iff_left hfallback
  have hread : (∃ rule, Rule.ofDescription (.obj fields) = .ok rule) ↔
      (∀ p ∈ fields, ∃ result, readSetting p = .ok result) ∧ (draftOf fields).defects = [] := by
    simp only [Rule.ofDescription_eq_ok_iff, Rule.decode_obj_eq_ok_iff]
    constructor
    · rintro ⟨_, hentries, h, -⟩
      exact ⟨hentries, h⟩
    · rintro ⟨hentries, h⟩
      exact ⟨_, hentries, h, rfl⟩
  rw [hread, hdefects, forall_readSetting_iff distinct, Draft.textDefects_eq_nil_iff,
    draftOf_pattern distinct, draftOf_earliest distinct, draftOf_latest distinct,
    draftOf_kind distinct, Draft.rule, draftOf_settings distinct, draftOf_nested distinct]

/-! ### Reading -/

theorem describesRule_obj_iff {fields : Fields} {rule : Rule} :
    DescribesRule (.obj fields) rule ↔ ∃ inside, DescribesInside (fields.declared? .schema) inside ∧
      DescribesSettings fields inside ∧ ⟨fields.describedSettings, inside⟩ = rule := by
  refine ⟨?_, ?_⟩
  · rintro ⟨nested, settings⟩
    exact ⟨_, nested, settings, rfl⟩
  · rintro ⟨inside, nested, settings, rfl⟩
    exact .intro nested settings

theorem describesInside_iff {declared : Option Json} {inside : Option Schema}
    (ih : ∀ value ∈ declared, ∀ schema,
      Schema.decode value = .ok schema ↔ DescribesSchema value schema) :
    DescribesInside declared inside ↔
      (∀ value ∈ declared, ∃ schema, Schema.decode value = .ok schema) ∧
        declared.bind (fun value => (Schema.decode value).toOption) = inside := by
  refine ⟨?_, ?_⟩
  · intro h
    cases h with
    | none => simp
    | @some value schema h =>
      have hdecode := (ih value rfl schema).mpr h
      refine ⟨?_, ?_⟩
      · rintro _ ⟨⟩
        exact ⟨schema, hdecode⟩
      · rw [Option.bind_some, hdecode]
        rfl
  · rintro ⟨hread, rfl⟩
    cases declared with
    | none => exact .none
    | some value =>
      obtain ⟨schema, hdecode⟩ := hread value rfl
      rw [Option.bind_some, hdecode]
      exact .some ((ih value rfl schema).mp hdecode)

theorem describesProperties_iff {fields : Fields} {properties : List (String × Rule)}
    (ih : ∀ p ∈ fields, ∀ rule, Rule.decode p.2 = .ok rule ↔ DescribesRule p.2 rule) :
    List.Forall₂ ReadAs fields properties ↔ DescribesProperties fields properties := by
  induction fields generalizing properties with
  | nil =>
    refine ⟨?_, ?_⟩
    · rintro ⟨⟩
      exact .nil
    · rintro ⟨⟩
      exact .nil
  | cons p rest ihrest =>
    have hrest (properties : List (String × Rule)) :
        List.Forall₂ ReadAs rest properties ↔ DescribesProperties rest properties :=
      ihrest fun q hq => ih q (List.mem_cons_of_mem p hq)
    have hp := ih p List.mem_cons_self
    refine ⟨?_, ?_⟩
    · intro h
      cases h with
      | @cons _ q _ properties hread hforall =>
        obtain ⟨name, rule⟩ := q
        obtain ⟨hname, rfl, hdecode⟩ := hread
        exact .cons hname ((hp rule).mp hdecode) ((hrest properties).mp hforall)
    · intro h
      cases h with
      | cons named described hforall =>
        exact .cons ⟨named, rfl, (hp _).mpr described⟩ ((hrest _).mpr hforall)

/-- A rule is read from exactly the descriptions of it, if that holds of the schemas inside. -/
theorem Rule.decode_obj_eq_ok_iff_describes {fields : Fields} {rule : Rule}
    (distinct : (Json.obj fields).DistinctNames)
    (ih : ∀ value ∈ fields.declared? .schema, ∀ schema,
      Schema.decode value = .ok schema ↔ DescribesSchema value schema) :
    Rule.decode (.obj fields) = .ok rule ↔ DescribesRule (.obj fields) rule := by
  obtain ⟨hnames, hvalues⟩ := Json.distinctNames_obj_iff.mp distinct
  have hregular : ∀ schema ∈ (draftOf fields).nested, ∀ p ∈ schema.properties, p.2.Regular := by
    intro schema hs p hp
    obtain ⟨entry, hentry, hdecode⟩ := exists_of_draftOf_nested hs
    have hwell := (decode_wellFormed _ (hvalues entry hentry)).2 schema hdecode
    exact (hwell.rules p hp).regular
  rw [Rule.decode_obj_eq_ok_iff, forall_readSetting_iff hnames,
    draftOf_defects_eq_nil_iff hnames rfl hregular, Draft.rule, draftOf_settings hnames,
    describesRule_obj_iff]
  refine ⟨?_, ?_⟩
  · rintro ⟨⟨hknown, hforms, hread⟩, ⟨hcompiles, hpoints, hconsistent, hschema, hdefault⟩, hrule⟩
    have hnested := (describesInside_iff ih).mpr ⟨hread, rfl⟩
    rw [← draftOf_nested hnames] at hnested
    exact ⟨_, hnested, ⟨hknown, hforms, hcompiles, hpoints, hconsistent, hschema, hdefault⟩, hrule⟩
  · rintro ⟨inside, hnested, h, hrule⟩
    obtain ⟨hread, hinside⟩ := (describesInside_iff ih).mp hnested
    rw [← draftOf_nested hnames] at hinside
    subst hinside
    exact ⟨⟨h.known, h.forms, hread⟩,
      ⟨h.compiles, h.points, h.consistent, h.schema, h.default⟩, hrule⟩

theorem decode_eq_ok_iff_describes (description : Json) : description.DistinctNames →
    (∀ rule, Rule.decode description = .ok rule ↔ DescribesRule description rule) ∧
      ∀ schema, Schema.decode description = .ok schema ↔ DescribesSchema description schema := by
  induction description using Json.induction with
  | object fields ih =>
    intro distinct
    obtain ⟨-, hvalues⟩ := Json.distinctNames_obj_iff.mp distinct
    refine ⟨?_, ?_⟩
    · intro rule
      refine Rule.decode_obj_eq_ok_iff_describes distinct fun value hvalue => ?_
      have hmem := mem_of_lookup (Fields.declared?_eq_some_iff.mp hvalue).1
      exact (ih _ hmem (hvalues _ hmem)).2
    · intro schema
      rw [Schema.decode_obj_eq_ok_iff,
        describesProperties_iff fun p hp => (ih p hp (hvalues p hp)).1]
      obtain ⟨properties⟩ := schema
      refine ⟨?_, ?_⟩
      · exact .intro
      · rintro ⟨h⟩
        exact h
  | other value hvalue =>
    intro _
    refine ⟨?_, ?_⟩
    · intro rule
      refine iff_of_false ?_ ?_
      · intro h
        obtain ⟨fields, he⟩ := Rule.exists_obj_of_decode h
        exact hvalue fields he
      · rintro ⟨⟩
        exact hvalue _ rfl
    · intro schema
      refine iff_of_false ?_ ?_
      · intro h
        obtain ⟨fields, he⟩ := Schema.exists_obj_of_decode h
        exact hvalue fields he
      · rintro ⟨⟩
        exact hvalue _ rfl

/-- **Reading succeeds on exactly the values that describe a rule or a schema**, and gives the one
that they describe. -/
theorem ofDescription_eq_ok_iff_describes {description : Json}
    (distinct : description.DistinctNames) :
    (∀ rule, Rule.ofDescription description = .ok rule ↔ DescribesRule description rule) ∧
      ∀ schema, Schema.ofDescription description = .ok schema ↔
        DescribesSchema description schema := by
  obtain ⟨hrule, hschema⟩ := decode_eq_ok_iff_describes description distinct
  refine ⟨?_, ?_⟩
  · intro rule
    rw [Rule.ofDescription_eq_ok_iff, hrule]
  · intro schema
    rw [Schema.ofDescription_eq_ok_iff, hschema]

/-! ### Tags

A list of objects with a schema of their own, and a pattern that has no texts to match.
-/

/-- Tagged things: each tag is an object with a label. -/
def tagged : Json :=
  .obj [("tags", .obj [("type", .str "list"), ("member_type", .str "object"),
    ("schema", .obj [("label", .obj [("type", .str "str"), ("default", .str "new")])])])]

/-- The schema that is described by `tagged`. -/
def taggedSchema : Schema :=
  ⟨[("tags", ⟨{ kind := .list, memberKind := some .object },
    some ⟨[("label", ⟨{ kind := .string, fallback := some (.str "new") }, none⟩)]⟩⟩)]⟩

/-- A pattern for objects. -/
def patternOfObjects : Json :=
  .obj [("type", .str "object"), ("regex", .str "a")]

theorem ofDescription_tagged : Schema.ofDescription tagged = .ok taggedSchema := rfl

/-- The tags are described, and a pattern for objects describes nothing. -/
theorem tagged_describes :
    tagged.DistinctNames ∧ DescribesSchema tagged taggedSchema ∧
      patternOfObjects.DistinctNames ∧ ∀ rule, ¬ DescribesRule patternOfObjects rule := by
  have htagged : tagged.DistinctNames := by
    simp [tagged, Json.DistinctNames, Json.fieldsDistinct, Fields.names]
  have hpattern : patternOfObjects.DistinctNames := by
    simp [patternOfObjects, Json.DistinctNames, Json.fieldsDistinct, Fields.names]
  refine ⟨htagged, ?_, hpattern, ?_⟩
  · exact ((ofDescription_eq_ok_iff_describes htagged).2 taggedSchema).mp ofDescription_tagged
  · intro rule hrule
    have hread := ((ofDescription_eq_ok_iff_describes hpattern).1 rule).mpr hrule
    have hfails : (Rule.ofDescription patternOfObjects).isOk = false := by decide +kernel
    rw [hread] at hfails
    cases hfails

/-- Limits are compared as they are kept, in binary64, where the first whole number that has no
place of its own becomes equal to the one below it. -/
theorem crossed_limits_accepted :
    ∃ least most : Int, most < least ∧ ∃ rule, Rule.ofDescription
      (.obj [("type", .str "integer"), ("min", .num (.int least)), ("max", .num (.int most))]) =
        .ok rule := by
  refine ⟨9007199254740993, 9007199254740992, by decide, ?_⟩
  have hread : (Rule.ofDescription (.obj [("type", .str "integer"),
      ("min", .num (.int 9007199254740993)),
      ("max", .num (.int 9007199254740992))])).isOk = true := by
    decide +kernel
  match hrule : Rule.ofDescription (.obj [("type", .str "integer"),
      ("min", .num (.int 9007199254740993)), ("max", .num (.int 9007199254740992))]) with
  | .ok rule => exact ⟨rule, rfl⟩
  | .error e =>
    rw [hrule] at hread
    cases hread

end RecordSchema
