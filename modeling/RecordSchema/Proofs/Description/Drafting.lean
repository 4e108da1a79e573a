import RecordSchema.Proofs.Description.Reordering
import RecordSchema.Workspace.Source

/-!
# Drafts and descriptions

A rule can be drafted setting by setting, in any order and with settings that are given again, or it
can be described by an object that holds each setting once.  Both lead to the same rule.

* `Setting.WrittenAs`: the values of a description that stand for a setting.  Such a value is read
  as that setting (`Setting.WrittenAs.read`).
* `IsLast`, `lasts`: the settings that no later one of the same name replaces.  The others have no
  effect on a draft (`Draft.foldl_lasts`), by `Draft.put_put` next to the setting that replaces them
  and by `Draft.put_comm` up to there.
* `Declares`: a description that holds the settings that are last, in any order.  Its draft is the
  draft of all the settings (`Declares.draftOf_eq`).

`drafted_as_described` puts this together: the rules are the same, or the reports are.
-/

namespace RecordSchema

/-! ### Settings as values -/

namespace Setting

/-- Whether a setting is a limit that is given as text. -/
def isText : Setting → Bool
  | .earliest _ | .latest _ => true
  | _ => false

/-- The settings that a description can hold: numbers are finite, a default is not null, and a schema
was described itself. -/
def Describable : Setting → Prop
  | .fallback value => value ≠ .null
  | .least limit | .most limit | .memberLeast limit | .memberMost limit => ∃ x, limit = .finite x
  | .nested schema => ∃ description, Schema.ofDescription description = .ok schema
  | _ => True

/-- The values that stand for a setting under its name. -/
inductive WrittenAs : Setting → Json → Prop
  | kind {kind : Kind} {tag : String} (h : Kind.ofTag? tag = some kind) :
      WrittenAs (.kind kind) (.str tag)
  | required (required : Bool) : WrittenAs (.required required) (.bool required)
  | fallback {value : Json} (h : value ≠ .null) : WrittenAs (.fallback value) value
  | enumeration (listed : List Json) : WrittenAs (.enumeration listed) (.arr listed)
  | least (n : Number) : WrittenAs (.least (.finite n.toBinary64)) (.num n)
  | most (n : Number) : WrittenAs (.most (.finite n.toBinary64)) (.num n)
  | earliest (text : String) : WrittenAs (.earliest text) (.str text)
  | latest (text : String) : WrittenAs (.latest text) (.str text)
  | pattern (text : String) : WrittenAs (.pattern text) (.str text)
  | memberKind {kind : Kind} {tag : String} (h : Kind.ofTag? tag = some kind) :
      WrittenAs (.memberKind kind) (.str tag)
  | memberLeast (n : Number) : WrittenAs (.memberLeast (.finite n.toBinary64)) (.num n)
  | memberMost (n : Number) : WrittenAs (.memberMost (.finite n.toBinary64)) (.num n)
  | nested {schema : Schema} {description : Json}
      (h : Schema.ofDescription description = .ok schema) : WrittenAs (.nested schema) description

theorem exists_writtenAs {s : Setting} (h : s.Describable) : ∃ value, s.WrittenAs value := by
  have htag : ∀ kind : Kind, Kind.ofTag? kind.tag = some kind := by
    intro kind
    cases kind <;> rfl
  cases s with
  | kind kind => exact ⟨_, .kind (htag kind)⟩
  | required required => exact ⟨_, .required required⟩
  | fallback value => exact ⟨_, .fallback h⟩
  | enumeration listed => exact ⟨_, .enumeration listed⟩
  | least limit =>
    obtain ⟨x, rfl⟩ := h
    exact ⟨_, .least (.float x)⟩
  | most limit =>
    obtain ⟨x, rfl⟩ := h
    exact ⟨_, .most (.float x)⟩
  | earliest text => exact ⟨_, .earliest text⟩
  | latest text => exact ⟨_, .latest text⟩
  | pattern text => exact ⟨_, .pattern text⟩
  | memberKind kind => exact ⟨_, .memberKind (htag kind)⟩
  | memberLeast limit =>
    obtain ⟨x, rfl⟩ := h
    exact ⟨_, .memberLeast (.float x)⟩
  | memberMost limit =>
    obtain ⟨x, rfl⟩ := h
    exact ⟨_, .memberMost (.float x)⟩
  | nested schema =>
    obtain ⟨description, h⟩ := h
    exact ⟨_, .nested h⟩

/-- **A value that stands for a setting is read as that setting.** -/
theorem WrittenAs.read {s : Setting} {value : Json} (h : s.WrittenAs value) :
    readSetting (s.name.text, value) = .ok (some s) := by
  have hplain : s.name ≠ .schema → s.name.read value = .ok (some s) →
      readSetting (s.name.text, value) = .ok (some s) := by
    intro hname hread
    rw [SettingName.readSetting_text hname, hread]
    rfl
  cases h with
  | kind h | memberKind h =>
    refine hplain (by simp [name]) ?_
    simp only [name, SettingName.read, SettingName.readKind, h]
  | @fallback _ h =>
    refine hplain (by simp [name]) ?_
    cases value with
    | null => exact absurd rfl h
    | _ => rfl
  | @nested schema description h =>
    cases value with
    | obj fields =>
      have hdecode : Schema.decode (.obj fields) = .ok schema := by
        rw [Schema.ofDescription] at h
        cases hread : Schema.decode (.obj fields) with
        | ok read =>
          rw [hread] at h
          cases h
          rfl
        | error found =>
          rw [hread] at h
          cases h
      unfold readSetting settingEntry
      rw [SettingName.ofText?_text, hdecode]
      rfl
    | _ => cases h
  | _ => exact hplain (by simp [name]) rfl

end Setting

theorem SettingName.text_inj {name other : SettingName} (h : name.text = other.text) :
    name = other := by
  have hname := SettingName.ofText?_text name
  rw [h, SettingName.ofText?_text] at hname
  exact (Option.some.inj hname).symm

/-! ### Settings that are last -/

/-- A setting that no later one of the same name replaces. -/
def IsLast (settings : List Setting) (s : Setting) : Prop :=
  ∃ before after, settings = before ++ s :: after ∧ ∀ t ∈ after, t.name ≠ s.name

/-- The settings that no later one of the same name replaces. -/
def lasts : List Setting → List Setting
  | [] => []
  | s :: rest => if s.name ∈ rest.map Setting.name then lasts rest else s :: lasts rest

theorem isLast_cons_iff {s t : Setting} {rest : List Setting} :
    IsLast (s :: rest) t ↔ (t = s ∧ s.name ∉ rest.map Setting.name) ∨ IsLast rest t := by
  constructor
  · rintro ⟨before, after, heq, hafter⟩
    cases before with
    | nil =>
      cases heq
      refine Or.inl ⟨rfl, fun hmem => ?_⟩
      obtain ⟨u, hu, hname⟩ := List.mem_map.mp hmem
      exact hafter u hu hname
    | cons u before =>
      cases heq
      exact Or.inr ⟨before, after, rfl, hafter⟩
  · rintro (⟨rfl, hnot⟩ | ⟨before, after, rfl, hafter⟩)
    · refine ⟨[], rest, rfl, fun u hu hname => hnot ?_⟩
      exact List.mem_map.mpr ⟨u, hu, hname⟩
    · exact ⟨s :: before, after, rfl, hafter⟩

theorem mem_lasts_iff {settings : List Setting} {s : Setting} :
    s ∈ lasts settings ↔ IsLast settings s := by
  induction settings with
  | nil => simp [lasts, IsLast]
  | cons t rest ih =>
    rw [lasts, isLast_cons_iff, ← ih]
    by_cases h : t.name ∈ rest.map Setting.name
    · rw [if_pos h]
      simp [h]
    · rw [if_neg h, List.mem_cons]
      simp [h]

theorem IsLast.mem {settings : List Setting} {s : Setting} (h : IsLast settings s) :
    s ∈ settings := by
  obtain ⟨before, after, rfl, -⟩ := h
  exact List.mem_append_right _ List.mem_cons_self

theorem lasts_distinct (settings : List Setting) :
    (lasts settings).Pairwise fun s t => s.name ≠ t.name := by
  induction settings with
  | nil => exact .nil
  | cons s rest ih =>
    rw [lasts]
    by_cases h : s.name ∈ rest.map Setting.name
    · rw [if_pos h]
      exact ih
    · rw [if_neg h]
      refine .cons (fun t ht hname => h ?_) ih
      exact List.mem_map.mpr ⟨t, (mem_lasts_iff.mp ht).mem, hname.symm⟩

theorem IsLast.unique {settings : List Setting} {s t : Setting} (hs : IsLast settings s)
    (ht : IsLast settings t) (hname : s.name = t.name) : s = t := by
  by_contra hne
  have hsymm : Std.Symm fun s t : Setting => s.name ≠ t.name := ⟨fun _ _ h => h.symm⟩
  exact (lasts_distinct settings).forall (mem_lasts_iff.mpr hs) (mem_lasts_iff.mpr ht) hne hname

theorem exists_isLast {settings : List Setting} {s : Setting} (hs : s ∈ settings) :
    ∃ t, IsLast settings t ∧ t.name = s.name := by
  induction settings generalizing s with
  | nil => cases hs
  | cons u rest ih =>
    by_cases hrest : s.name ∈ rest.map Setting.name
    · obtain ⟨v, hv, hname⟩ := List.mem_map.mp hrest
      obtain ⟨t, ht, htname⟩ := ih hv
      exact ⟨t, isLast_cons_iff.mpr (Or.inr ht), htname.trans hname⟩
    · rcases List.mem_cons.mp hs with rfl | hs
      · exact ⟨s, isLast_cons_iff.mpr (Or.inl ⟨rfl, hrest⟩), rfl⟩
      · exact absurd (List.mem_map_of_mem hs) hrest

/-! ### Drafts -/

/-- No limit is given both as a number and as text. -/
def Uniform (settings : List Setting) : Prop :=
  ∀ s ∈ settings, ∀ t ∈ settings, s.name = t.name → s.isText = t.isText

namespace Draft

theorem put_put {s t : Setting} (hname : s.name = t.name) (hform : s.isText = t.isText)
    (d : Draft) : (d.put s).put t = d.put t := by
  cases s <;> cases t <;>
    first
      | rfl
      | exact absurd hform Bool.false_ne_true
      | exact absurd hform Bool.false_ne_true.symm
      | cases hname

/-- A setting has no effect if one of the same name comes later. -/
theorem foldl_put_of_replaced {s : Setting} {rest : List Setting} (uniform : Uniform (s :: rest))
    (replaced : s.name ∈ rest.map Setting.name) (d : Draft) :
    rest.foldl put (d.put s) = rest.foldl put d := by
  -- The replaced setting is moved along until it meets the one that replaces it.
  induction rest generalizing d with
  | nil => cases replaced
  | cons t rest ih =>
    rw [List.foldl_cons, List.foldl_cons]
    by_cases hname : s.name = t.name
    · have hform : s.isText = t.isText :=
        uniform s List.mem_cons_self t (List.mem_cons_of_mem s List.mem_cons_self) hname
      rw [put_put hname hform]
    · have hrest : s.name ∈ rest.map Setting.name := by
        rw [List.map_cons, List.mem_cons] at replaced
        exact replaced.resolve_left hname
      have huniform : Uniform (s :: rest) := by
        have hsub : s :: rest ⊆ s :: t :: rest :=
          List.cons_subset_cons s (List.subset_cons_self t rest)
        exact fun u hu v hv => uniform u (hsub hu) v (hsub hv)
      rw [put_comm hname, ih huniform hrest]

/-- **Only the settings that are last count.** -/
theorem foldl_lasts {settings : List Setting} (uniform : Uniform settings) (d : Draft) :
    settings.foldl put d = (lasts settings).foldl put d := by
  induction settings generalizing d with
  | nil => rfl
  | cons s rest ih =>
    have hrest : Uniform rest := fun u hu v hv =>
      uniform u (List.mem_cons_of_mem s hu) v (List.mem_cons_of_mem s hv)
    rw [lasts]
    by_cases h : s.name ∈ rest.map Setting.name
    · rw [if_pos h, List.foldl_cons, foldl_put_of_replaced uniform h, ih hrest]
    · rw [if_neg h, List.foldl_cons, List.foldl_cons, ih hrest]

end Draft

/-! ### Descriptions of settings -/

/-- A description of settings: it holds the last setting of each name, in any order, as a value that
stands for it. -/
structure Declares (fields : Fields) (settings : List Setting) : Prop where
  distinct : fields.names.Nodup
  written : ∀ p ∈ fields, ∃ s, IsLast settings s ∧ p.1 = s.name.text ∧ s.WrittenAs p.2
  complete : ∀ s ∈ settings, s.name.text ∈ fields.names

namespace Declares

variable {fields : Fields} {settings : List Setting}

theorem read (h : Declares fields settings) {p : String × Json} (hp : p ∈ fields) :
    ∃ s, IsLast settings s ∧ p.1 = s.name.text ∧ readSetting p = .ok (some s) := by
  obtain ⟨s, hlast, hname, hwritten⟩ := h.written p hp
  have hread := hwritten.read
  rw [← hname] at hread
  exact ⟨s, hlast, hname, hread⟩

theorem results_perm (h : Declares fields settings) :
    (fields.filterMap fun p => entryResult (readSetting p)).Perm (lasts settings) := by
  have hresults := names_distinct_of_readSetting h.distinct
  have hne : ∀ {s t : Setting}, s.name ≠ t.name → s ≠ t := fun hname he => hname (he ▸ rfl)
  refine (List.perm_ext_iff_of_nodup (hresults.imp hne) ((lasts_distinct settings).imp hne)).mpr ?_
  intro s
  rw [List.mem_filterMap, mem_lasts_iff]
  constructor
  · rintro ⟨p, hp, hresult⟩
    obtain ⟨t, hlast, -, hread⟩ := h.read hp
    rw [hread] at hresult
    cases hresult
    exact hlast
  · intro hs
    obtain ⟨p, hp, hname⟩ := List.mem_map.mp (h.complete s hs.mem)
    obtain ⟨t, ht, htname, hread⟩ := h.read hp
    have hst : s = t := hs.unique ht (SettingName.text_inj (hname.symm.trans htname))
    refine ⟨p, hp, ?_⟩
    rw [hread, hst]
    rfl

/-- **The draft of a description is the draft of the settings that it describes.** -/
theorem draftOf_eq (h : Declares fields settings) (uniform : Uniform settings) :
    draftOf fields = Draft.ofSettings settings := by
  have hperm := Draft.ofSettings_perm h.results_perm (names_distinct_of_readSetting h.distinct)
  calc draftOf fields = Draft.ofSettings (lasts settings) := hperm
    _ = Draft.ofSettings settings := (Draft.foldl_lasts uniform {}).symm

theorem decode_eq (h : Declares fields settings) (uniform : Uniform settings) :
    Rule.decode (.obj fields) = (Draft.ofSettings settings).assemble := by
  have hreports : (collectSettings fields).violations = [] := by
    rw [collectSettings_violations, List.flatMap_eq_nil_iff]
    intro p hp
    obtain ⟨s, -, -, hread⟩ := h.read hp
    rw [hread]
    rfl
  rw [Rule.decode, Collected.finish, hreports, collectSettings_results, ← h.draftOf_eq uniform]
  rfl

end Declares

theorem exists_declares {settings : List Setting} (h : ∀ s ∈ settings, s.Describable) :
    ∃ fields, Declares fields settings := by
  have hvalue : ∀ s : Setting, ∃ value, s.Describable → s.WrittenAs value := by
    intro s
    by_cases hs : s.Describable
    · obtain ⟨value, hvalue⟩ := Setting.exists_writtenAs hs
      exact ⟨value, fun _ => hvalue⟩
    · exact ⟨.null, fun hd => absurd hd hs⟩
  choose value hvalue using hvalue
  refine ⟨(lasts settings).map fun s => (s.name.text, value s), ?_, ?_, ?_⟩
  · rw [Fields.names, List.map_map]
    refine List.pairwise_map.mpr ((lasts_distinct settings).imp fun hne he => hne ?_)
    exact SettingName.text_inj he
  · intro p hp
    obtain ⟨s, hs, rfl⟩ := List.mem_map.mp hp
    have hlast := mem_lasts_iff.mp hs
    exact ⟨s, hlast, rfl, hvalue s (h s hlast.mem)⟩
  · intro s hs
    obtain ⟨t, ht, hname⟩ := exists_isLast hs
    rw [Fields.names, List.map_map]
    exact List.mem_map.mpr ⟨t, mem_lasts_iff.mpr ht, congrArg SettingName.text hname⟩

/-! ### For callers -/

/-- The settings of a draft, with the kind that it was begun with. -/
def begun (kind : Option Kind) (settings : List Setting) : List Setting :=
  (kind.map Setting.kind).toList ++ settings

theorem draft_eq_ofSettings (kind : Option Kind) (settings : List Setting) :
    RuleSource.draft kind settings = Draft.ofSettings (begun kind settings) := by
  cases kind with
  | none => rfl
  | some kind => rfl

/-- The kind that a draft was begun with is no limit. -/
theorem Uniform.begun {settings : List Setting} (h : Uniform settings) (kind : Option Kind) :
    Uniform (begun kind settings) := by
  have htype : ∀ s : Setting, s.name = .type → s.isText = false := by
    intro s hs
    cases s <;> first | rfl | cases hs
  cases kind with
  | none => exact h
  | some kind =>
    intro s hs t ht hname
    rcases List.mem_cons.mp hs with rfl | hs
    · rw [htype t hname.symm]
      rfl
    · rcases List.mem_cons.mp ht with rfl | ht
      · rw [htype s hname]
        rfl
      · exact h s hs t ht hname

/-- **A rule is drafted as it is described.**  Settings that a description can hold, with no limit
both as a number and as text, are described by an object that holds the last setting of each name.
And whatever the order in which such an object holds them, the draft makes the rule of the
description, or it is refused with the same reports. -/
theorem drafted_as_described {kind : Option Kind} {settings : List Setting}
    (describable : ∀ s ∈ settings, s.Describable) (uniform : Uniform settings) :
    (∃ fields, Declares fields (begun kind settings)) ∧
      ∀ fields, Declares fields (begun kind settings) →
        (RuleSource.draft kind settings).build = Rule.ofDescription (.obj fields) := by
  constructor
  · refine exists_declares fun s hs => ?_
    rcases List.mem_append.mp hs with hs | hs
    · cases kind with
      | none => cases hs
      | some kind =>
        obtain rfl := List.mem_singleton.mp hs
        trivial
    · exact describable s hs
  · intro fields h
    rw [Rule.ofDescription, h.decode_eq (uniform.begun kind), Draft.build, draft_eq_ofSettings]

/-! ### Hampers

An object with a schema inside and a default.  Some of its settings are given twice, and the kind has
a short name in the description.
-/

/-- What is inside a hamper. -/
def content : Json :=
  .obj [("label", .obj [("type", .str "string")])]

/-- The schema that is described by `content`. -/
def contentSchema : Schema :=
  ⟨[("label", ⟨{ kind := .string }, none⟩)]⟩

/-- The settings of a hamper as they are given one after another. -/
def hamperSettings : List Setting :=
  [.required false, .fallback (.bool false), .nested contentSchema, .required true,
    .fallback (.obj [("label", .str "books")])]

/-- The description of a hamper. -/
def hamper : Fields :=
  [("schema", content), ("required", .bool true),
    ("default", .obj [("label", .str "books")]), ("type", .str "dict")]

theorem declares_hamper : Declares hamper (begun (some .object) hamperSettings) := by
  have hschema : Schema.ofDescription content = .ok contentSchema := rfl
  have hlasts : lasts (begun (some .object) hamperSettings) =
      [.kind .object, .nested contentSchema, .required true,
        .fallback (.obj [("label", .str "books")])] := rfl
  have hlast : ∀ s ∈ lasts (begun (some .object) hamperSettings),
      IsLast (begun (some .object) hamperSettings) s := fun _ => mem_lasts_iff.mp
  rw [hlasts] at hlast
  simp only [List.forall_mem_cons] at hlast
  obtain ⟨hkind, hnested, hrequired, hdefault, -⟩ := hlast
  refine ⟨by decide, ?_, ?_⟩
  · simp only [hamper, List.forall_mem_cons]
    refine ⟨⟨_, hnested, rfl, .nested hschema⟩, ⟨_, hrequired, rfl, .required true⟩,
      ⟨_, hdefault, rfl, .fallback (by simp)⟩, ⟨_, hkind, rfl, .kind rfl⟩, ?_⟩
    intro p hp
    cases hp
  · simp [begun, hamperSettings, hamper, Fields.names, Setting.name, SettingName.text]

/-- A hamper is accepted, and it is the same rule either way. -/
theorem hamper_drafted_as_described :
    (∀ s ∈ hamperSettings, s.Describable) ∧ Uniform hamperSettings ∧
      Declares hamper (begun (some .object) hamperSettings) ∧
      (RuleSource.draft (some .object) hamperSettings).build = Rule.ofDescription (.obj hamper) ∧
      (Rule.ofDescription (.obj hamper)).isOk = true := by
  have describable : ∀ s ∈ hamperSettings, s.Describable := by
    simp only [hamperSettings, List.forall_mem_cons]
    exact ⟨trivial, by simp [Setting.Describable], ⟨content, rfl⟩, trivial,
      by simp [Setting.Describable], by simp⟩
  have uniform : Uniform hamperSettings := by
    simp [Uniform, hamperSettings, Setting.isText]
  exact ⟨describable, uniform, declares_hamper,
    (drafted_as_described describable uniform).2 hamper declares_hamper, by decide +kernel⟩

end RecordSchema
