import RecordSchema.Proofs.Description.Entries

/-!
# What a description declares

No name occurs twice in a description, so each setting of the draft that is read from it comes from
the value under one name.  `Slot` is a place of a draft together with the settings that write it,
and `Slot.get_draftOf` reads the place off the value that is declared under its name.

* `Fields.declared?`: the value that is declared for a setting, where null declares nothing.
* `Fields.describedSettings`: the settings that are declared, each read off its own value.
* `draftOf_settings`, `draftOf_nested`: the draft that is read has these settings, and the schema
  inside that is read.
* `forall_readSetting_iff`: what it takes for every entry to be read.
-/

namespace RecordSchema

/-! ### Forms of values -/

namespace Json

/-- The truth value of a boolean. -/
def flag? : Json → Option Bool
  | .bool b => some b
  | _ => none

/-- The items of an array. -/
def items? : Json → Option (List Json)
  | .arr items => some items
  | _ => none

/-- The kind with the tag that is given as text. -/
def kind? (value : Json) : Option Kind :=
  value.text?.bind Kind.ofTag?

/-- The limit that is given as a number. -/
def limit? (value : Json) : Option Bound :=
  value.number?.map fun n => .finite n.toBinary64

end Json

/-! ### Declared values -/

namespace Fields

variable {fields : Fields} {name : SettingName}

/-- The value that is declared for a setting; null is as if the setting were not there. -/
def declared? (fields : Fields) (name : SettingName) : Option Json :=
  (fields.get? name.text).filter fun value => !value.isNull

theorem declared?_eq_some_iff {value : Json} :
    fields.declared? name = some value ↔ fields.get? name.text = some value ∧ value ≠ .null := by
  rw [declared?, Option.filter_eq_some_iff]
  refine and_congr_right fun _ => ?_
  cases value <;> simp [Json.isNull]

/-- What null gives nothing for can be read off the declared value. -/
theorem bind_declared? {α : Type} {read : Json → Option α} (hnull : read .null = none) :
    (fields.declared? name).bind read = (fields.get? name.text).bind read := by
  rw [declared?]
  match fields.get? name.text with
  | none => rfl
  | some value =>
    cases value with
    | null => exact hnull.symm
    | _ => rfl

/-- The kind that is declared for a setting. -/
def declaredKind? (fields : Fields) (name : SettingName) : Option Kind :=
  (fields.declared? name).bind Json.kind?

/-- The number that is declared for a setting, as a limit. -/
def declaredLimit? (fields : Fields) (name : SettingName) : Option Bound :=
  (fields.declared? name).bind Json.limit?

/-- The text that is declared for a setting. -/
def declaredText? (fields : Fields) (name : SettingName) : Option String :=
  (fields.declared? name).bind Json.text?

/-- The kind of values that is declared; it is any kind if nothing is. -/
def describedKind (fields : Fields) : Kind :=
  (fields.declaredKind? .type).getD .any

/-- The settings that are declared. -/
def describedSettings (fields : Fields) : Settings :=
  { kind := fields.describedKind
    required := ((fields.declared? .required).bind Json.flag?).getD false
    fallback := fields.declared? .default
    enumeration := (fields.declared? .enum).bind Json.items?
    least := fields.declaredLimit? .min
    most := fields.declaredLimit? .max
    earliest := (fields.declaredText? .min).bind fields.describedKind.readPoint?
    latest := (fields.declaredText? .max).bind fields.describedKind.readPoint?
    pattern := (fields.declaredText? .regex).bind Pattern.ofText?
    memberKind := fields.declaredKind? .memberType
    memberLeast := fields.declaredLimit? .memberMin
    memberMost := fields.declaredLimit? .memberMax }

end Fields

/-! ### Settings and their names -/

namespace SettingName

theorem ofText?_text (name : SettingName) : ofText? name.text = some name := by
  cases name <;> rfl

theorem text_of_ofText? {text : String} {name : SettingName} (h : ofText? text = some name) :
    name.text = text := by
  have hfound := List.find?_some h
  exact beq_iff_eq.mp hfound

/-- The setting that the value under a name is read as, if it can be read and is not null. -/
def result (name : SettingName) (value : Json) : Option Setting :=
  entryResult (readSetting (name.text, value))

theorem readSetting_text {name : SettingName} (h : name ≠ .schema) (value : Json) :
    readSetting (name.text, value) = (name.read value).mapError fun d => [d.violation] := by
  unfold readSetting settingEntry
  rw [ofText?_text]
  cases name <;> first | rfl | exact absurd rfl h

theorem result_eq {name : SettingName} (h : name ≠ .schema) (value : Json) :
    name.result value = (name.read value).toOption.join := by
  rw [result, readSetting_text h]
  cases name.read value <;> rfl

theorem result_schema (value : Json) :
    result .schema value = (Schema.decode value).toOption.map .nested := by
  unfold result readSetting settingEntry
  rw [ofText?_text]
  cases value with
  | obj fields => cases hd : Schema.decode (.obj fields) <;> simp [Except.toOption, entryResult]
  | _ => rfl

end SettingName

/-- The name under which a setting is declared. -/
def Setting.name : Setting → SettingName
  | .kind _ => .type
  | .required _ => .required
  | .fallback _ => .default
  | .enumeration _ => .enum
  | .least _ => .min
  | .most _ => .max
  | .earliest _ => .min
  | .latest _ => .max
  | .pattern _ => .regex
  | .memberKind _ => .memberType
  | .memberLeast _ => .memberMin
  | .memberMost _ => .memberMax
  | .nested _ => .schema

theorem SettingName.name_of_read {name : SettingName} {value : Json} {setting : Setting}
    (h : name.read value = .ok (some setting)) : setting.name = name := by
  cases name <;> cases value <;> simp only [read, readKind, readLimit, readNumber] at h <;>
    first
      | cases h; rfl
      | cases h
      | (split at h <;> cases h; rfl)

theorem ofText?_of_readSetting {p : String × Json} {setting : Setting}
    (h : entryResult (readSetting p) = some setting) : p.1 = setting.name.text := by
  cases hname : SettingName.ofText? p.1 with
  | none =>
    unfold readSetting settingEntry at h
    rw [hname] at h
    cases h
  | some name =>
    rw [← SettingName.text_of_ofText? hname]
    have hp : name.result p.2 = some setting := by
      rw [SettingName.result, SettingName.text_of_ofText? hname]
      exact h
    by_cases hs : name = .schema
    · subst hs
      rw [SettingName.result_schema] at hp
      obtain ⟨schema, -, rfl⟩ := Option.map_eq_some_iff.mp hp
      rfl
    · rw [SettingName.result_eq hs] at hp
      cases hread : name.read p.2 with
      | error defect =>
        rw [hread] at hp
        cases hp
      | ok result =>
        rw [hread] at hp
        have hsome : result = some setting := hp
        rw [SettingName.name_of_read (hsome ▸ hread)]

theorem SettingName.readKind_result (name : SettingName) (make : Kind → Setting) (value : Json) :
    (name.readKind make value).toOption.join = value.kind?.map make := by
  cases value with
  | str tag =>
    rw [readKind, Json.kind?, Json.text?, Option.bind_some]
    cases Kind.ofTag? tag <;> rfl
  | _ => rfl

/-! ### Places of a draft -/

/-- A place of a draft, the settings that write it, and what they are read from.  All that is
written there is declared under one name. -/
structure Slot (α : Type) where
  get : Draft → Option α
  written : Setting → Option α
  name : SettingName
  read : Json → Option α
  get_put : ∀ d s, get (d.put s) = (written s).or (get d) := by
    intro d s
    cases s <;> rfl
  name_written : ∀ s, s.name ≠ name → written s = none := by
    intro s h
    cases s <;> first | rfl | exact absurd rfl h
  result_written : ∀ value, (name.result value).bind written = read value := by
    intro value
    rw [SettingName.result_eq (by decide)]
    cases value <;> rfl
  read_null : read .null = none := by rfl

namespace Slot

section

variable {α : Type} (slot : Slot α)

theorem get_foldl_put (settings : List Setting) (d : Draft) :
    slot.get (settings.foldl Draft.put d) =
      (settings.filterMap slot.written).getLast?.or (slot.get d) := by
  induction settings generalizing d with
  | nil => rfl
  | cons s rest ih =>
    rw [List.foldl_cons, ih, slot.get_put, List.filterMap_cons]
    cases slot.written s with
    | none => rfl
    | some a =>
      rw [List.getLast?_cons]
      cases (rest.filterMap slot.written).getLast? <;> rfl

/-- In a description, what is there is read from the value under the name of the place. -/
theorem get_draftOf {fields : Fields} (distinct : fields.names.Nodup) :
    slot.get (draftOf fields) =
      ((fields.declared? slot.name).bind slot.read).or (slot.get {}) := by
  have hother : ∀ p : String × Json, p.1 ≠ slot.name.text →
      (entryResult (readSetting p)).bind slot.written = none := by
    intro p hp
    cases hs : entryResult (readSetting p) with
    | none => rfl
    | some s =>
      refine slot.name_written s fun he => hp ?_
      rw [ofText?_of_readSetting hs, he]
  have hvalue : ((fields.get? slot.name.text).bind fun value =>
      (entryResult (readSetting (slot.name.text, value))).bind slot.written) =
      (fields.get? slot.name.text).bind slot.read := by
    congr 1
    exact funext slot.result_written
  rw [draftOf, Draft.ofSettings, slot.get_foldl_put, List.filterMap_filterMap,
    Fields.filterMap_eq_toList distinct hother, Fields.bind_declared? slot.read_null, hvalue]
  cases (fields.get? slot.name.text).bind slot.read <;> rfl

end

def kind : Slot Kind where
  get := fun d => some d.kind
  written := fun | .kind kind => some kind | _ => none
  name := .type
  read := Json.kind?
  result_written := by
    intro value
    rw [SettingName.result_eq (by decide)]
    refine (congrArg (Option.bind · _) (SettingName.readKind_result .type .kind value)).trans ?_
    cases value.kind? <;> rfl

def required : Slot Bool where
  get := fun d => some d.required
  written := fun | .required required => some required | _ => none
  name := .required
  read := Json.flag?

def fallback : Slot Json where
  get := Draft.fallback
  written := fun | .fallback value => some value | _ => none
  name := .default
  read := fun value => if value.isNull then none else some value

def enumeration : Slot (List Json) where
  get := Draft.enumeration
  written := fun | .enumeration listed => some listed | _ => none
  name := .enum
  read := Json.items?

def least : Slot Bound where
  get := Draft.least
  written := fun | .least limit => some limit | _ => none
  name := .min
  read := Json.limit?

def most : Slot Bound where
  get := Draft.most
  written := fun | .most limit => some limit | _ => none
  name := .max
  read := Json.limit?

def earliest : Slot String where
  get := Draft.earliest
  written := fun | .earliest text => some text | _ => none
  name := .min
  read := Json.text?

def latest : Slot String where
  get := Draft.latest
  written := fun | .latest text => some text | _ => none
  name := .max
  read := Json.text?

def pattern : Slot String where
  get := Draft.pattern
  written := fun | .pattern text => some text | _ => none
  name := .regex
  read := Json.text?

def memberKind : Slot Kind where
  get := Draft.memberKind
  written := fun | .memberKind kind => some kind | _ => none
  name := .memberType
  read := Json.kind?
  result_written := by
    intro value
    rw [SettingName.result_eq (by decide)]
    refine (congrArg (Option.bind · _)
      (SettingName.readKind_result .memberType .memberKind value)).trans ?_
    cases value.kind? <;> rfl

def memberLeast : Slot Bound where
  get := Draft.memberLeast
  written := fun | .memberLeast limit => some limit | _ => none
  name := .memberMin
  read := Json.limit?

def memberMost : Slot Bound where
  get := Draft.memberMost
  written := fun | .memberMost limit => some limit | _ => none
  name := .memberMax
  read := Json.limit?

def nested : Slot Schema where
  get := Draft.nested
  written := fun | .nested schema => some schema | _ => none
  name := .schema
  read := fun value => (Schema.decode value).toOption
  result_written := by
    intro value
    rw [SettingName.result_schema]
    cases (Schema.decode value).toOption <;> rfl

end Slot

/-! ### The draft of a description -/

section

variable {fields : Fields} (distinct : fields.names.Nodup)
include distinct

theorem draftOf_kind : (draftOf fields).kind = fields.describedKind :=
  Option.some.inj ((Slot.kind.get_draftOf distinct).trans Option.or_some)

theorem draftOf_required :
    (draftOf fields).required = ((fields.declared? .required).bind Json.flag?).getD false :=
  Option.some.inj ((Slot.required.get_draftOf distinct).trans Option.or_some)

/-- A declared default is not null, so it is read as it stands. -/
theorem draftOf_fallback : (draftOf fields).fallback = fields.declared? .default := by
  refine (Slot.fallback.get_draftOf distinct).trans (Option.or_none.trans ?_)
  have hread : ∀ value ∈ fields.declared? .default, Slot.fallback.read value = some value := by
    intro value hvalue
    have hnull := (Fields.declared?_eq_some_iff.mp hvalue).2
    cases value with
    | null => exact absurd rfl hnull
    | _ => rfl
  exact (Option.bind_congr hread).trans (Option.bind_fun_some _)

theorem draftOf_earliest : (draftOf fields).earliest = fields.declaredText? .min :=
  (Slot.earliest.get_draftOf distinct).trans Option.or_none

theorem draftOf_latest : (draftOf fields).latest = fields.declaredText? .max :=
  (Slot.latest.get_draftOf distinct).trans Option.or_none

theorem draftOf_pattern : (draftOf fields).pattern = fields.declaredText? .regex :=
  (Slot.pattern.get_draftOf distinct).trans Option.or_none

theorem draftOf_nested : (draftOf fields).nested =
    (fields.declared? .schema).bind fun value => (Schema.decode value).toOption :=
  (Slot.nested.get_draftOf distinct).trans Option.or_none

/-- **The settings that are read are those that are declared.** -/
theorem draftOf_settings : (draftOf fields).settings = fields.describedSettings := by
  have henumeration : (draftOf fields).enumeration = (fields.declared? .enum).bind Json.items? :=
    (Slot.enumeration.get_draftOf distinct).trans Option.or_none
  have hleast : (draftOf fields).least = fields.declaredLimit? .min :=
    (Slot.least.get_draftOf distinct).trans Option.or_none
  have hmost : (draftOf fields).most = fields.declaredLimit? .max :=
    (Slot.most.get_draftOf distinct).trans Option.or_none
  have hmemberKind : (draftOf fields).memberKind = fields.declaredKind? .memberType :=
    (Slot.memberKind.get_draftOf distinct).trans Option.or_none
  have hmemberLeast : (draftOf fields).memberLeast = fields.declaredLimit? .memberMin :=
    (Slot.memberLeast.get_draftOf distinct).trans Option.or_none
  have hmemberMost : (draftOf fields).memberMost = fields.declaredLimit? .memberMax :=
    (Slot.memberMost.get_draftOf distinct).trans Option.or_none
  rw [Draft.settings, Fields.describedSettings, draftOf_kind distinct, draftOf_required distinct,
    draftOf_fallback distinct, henumeration, hleast, hmost, draftOf_earliest distinct,
    draftOf_latest distinct, draftOf_pattern distinct, hmemberKind, hmemberLeast, hmemberMost]

end

/-! ### Entries that are read -/

/-- The values that a setting may be given, looked at by themselves. -/
def SettingName.Takes : SettingName → Json → Prop
  | .type, value => ∃ tag kind, value = .str tag ∧ Kind.ofTag? tag = some kind
  | .required, value => ∃ b, value = .bool b
  | .default, _ => True
  | .enum, value => ∃ listed, value = .arr listed
  | .min, value => (∃ n, value = .num n) ∨ ∃ text, value = .str text
  | .max, value => (∃ n, value = .num n) ∨ ∃ text, value = .str text
  | .regex, value => ∃ text, value = .str text
  | .memberType, value => ∃ tag kind, value = .str tag ∧ Kind.ofTag? tag = some kind
  | .memberMin, value => ∃ n, value = .num n
  | .memberMax, value => ∃ n, value = .num n
  | .schema, value => ∃ fields, value = .obj fields

namespace SettingName

theorem exists_readKind_iff {name : SettingName} {make : Kind → Setting} {value : Json} :
    (∃ result, name.readKind make value = .ok result) ↔
      value ≠ .null → ∃ tag kind, value = .str tag ∧ Kind.ofTag? tag = some kind := by
  cases value with
  | str tag =>
    rw [readKind]
    cases hk : Kind.ofTag? tag <;> simp [hk]
  | _ => simp [readKind]

theorem exists_read_iff {name : SettingName} (h : name ≠ .schema) {value : Json} :
    (∃ result, name.read value = .ok result) ↔ value ≠ .null → name.Takes value := by
  cases name with
  | schema => exact absurd rfl h
  | type => exact exists_readKind_iff
  | memberType => exact exists_readKind_iff
  | _ => cases value <;> simp [read, readLimit, readNumber, Takes]

theorem exists_readSetting_iff {name : SettingName} {value : Json} :
    (∃ result, readSetting (name.text, value) = .ok result) ↔
      value ≠ .null → name.Takes value ∧
        (name = .schema → ∃ schema, Schema.decode value = .ok schema) := by
  by_cases hs : name = .schema
  · subst hs
    unfold readSetting settingEntry
    rw [ofText?_text]
    cases value with
    | obj fields => cases Schema.decode (.obj fields) <;> simp [Takes]
    | _ => simp [read, Takes, Except.mapError]
  · have hread : (∃ result, readSetting (name.text, value) = .ok result) ↔
        ∃ result, name.read value = .ok result := by
      rw [readSetting_text hs]
      cases name.read value <;> simp [Except.mapError]
    rw [hread, exists_read_iff hs]
    simp [hs]

end SettingName

/-- **Every entry of a description is read** if it is under the name of a setting, and what is
declared for a setting is something it may be given. -/
theorem forall_readSetting_iff {fields : Fields} (distinct : fields.names.Nodup) :
    (∀ p ∈ fields, ∃ result, readSetting p = .ok result) ↔
      (∀ name ∈ fields.names, ∃ setting : SettingName, setting.text = name) ∧
        (∀ setting value, fields.declared? setting = some value → setting.Takes value) ∧
        ∀ value ∈ fields.declared? .schema, ∃ schema, Schema.decode value = .ok schema := by
  refine ⟨?_, ?_⟩
  · intro h
    have hdeclared : ∀ setting value, fields.declared? setting = some value →
        setting.Takes value ∧ (setting = .schema → ∃ schema, Schema.decode value = .ok schema) := by
      intro setting value hvalue
      obtain ⟨hget, hnull⟩ := Fields.declared?_eq_some_iff.mp hvalue
      exact SettingName.exists_readSetting_iff.mp (h _ (mem_of_lookup hget)) hnull
    refine ⟨?_, fun setting value hvalue => (hdeclared setting value hvalue).1,
      fun value hvalue => (hdeclared .schema value hvalue).2 rfl⟩
    intro name hname
    obtain ⟨p, hp, rfl⟩ := List.mem_map.mp hname
    obtain ⟨result, hresult⟩ := h p hp
    cases hsetting : SettingName.ofText? p.1 with
    | some setting => exact ⟨setting, SettingName.text_of_ofText? hsetting⟩
    | none =>
      unfold readSetting settingEntry at hresult
      rw [hsetting] at hresult
      cases hresult
  · rintro ⟨hnames, htakes, hschema⟩ ⟨name, value⟩ hp
    obtain ⟨setting, rfl⟩ := hnames name (List.mem_map.mpr ⟨_, hp, rfl⟩)
    refine SettingName.exists_readSetting_iff.mpr fun hnull => ?_
    have hvalue : fields.declared? setting = some value :=
      Fields.declared?_eq_some_iff.mpr ⟨(lookup_eq_some_iff_mem distinct).mpr hp, hnull⟩
    refine ⟨htakes setting value hvalue, ?_⟩
    rintro rfl
    exact hschema value hvalue

end RecordSchema
