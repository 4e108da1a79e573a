import RecordSchema.Proofs.Rule.Acceptance

/-!
# Settings that fit each other

A rule is examined group by group, and each group of settings has no defects exactly when a
condition on these settings alone holds.  `Settings.Consistent` collects the conditions, and
`Rule.defects_eq_nil_iff` says that a rule without defects is one whose settings are consistent,
that takes the schema inside it, and whose default the check accepts.

* `LimitsFit`: two limits, be they those of the value or of its members.
* `Settings.TakesSchema`: the rules that may have a schema inside.
-/

namespace RecordSchema

/-! ### Groups of kinds -/

namespace Kind

variable {k : Kind}

theorem isCollection_iff : k.isCollection = true ↔ k ∈ [Kind.list, .set] := by
  cases k <;> simp [isCollection]

theorem isMeasured_iff :
    (k.isNumeric || k.hasLength) = true ↔
      k ∈ [Kind.integer, .float, .string, .list, .set, .object] := by
  cases k <;> simp [isNumeric, hasLength]

theorem hasLength_iff : k.hasLength = true ↔ k ∈ [Kind.string, .list, .set, .object] := by
  cases k <;> simp [hasLength]

theorem isMeasuredMember_iff :
    (k.isNumeric || k == .string) = true ↔ k ∈ [Kind.integer, .float, .string] := by
  cases k <;> simp [isNumeric]

end Kind

/-! ### Limits -/

/-- Two limits on a measure: there is a measure, a count has no limit below zero, and the lower
limit does not exceed the upper one. -/
structure LimitsFit (measured counted : Prop) (least most : Option Bound) : Prop where
  applicable : ∀ limit, limit ∈ least ∨ limit ∈ most → measured
  nonnegative : counted → ∀ limit, limit ∈ least ∨ limit ∈ most → ¬ limit.isNegative = true
  ordered : ∀ l ∈ least, ∀ m ∈ most, ¬ m.lt l = true

theorem reversedDefects_eq_nil_iff {lower upper : SettingName} {least most : Option Bound} :
    Settings.reversedDefects lower upper least most = [] ↔
      ∀ l ∈ least, ∀ m ∈ most, ¬ m.lt l = true := by
  cases least <;> cases most <;> simp [Settings.reversedDefects]

theorem reversedPointDefects_eq_nil_iff {earliest latest : Option Temporal} :
    Settings.reversedPointDefects earliest latest = [] ↔
      ∀ a ∈ earliest, ∀ b ∈ latest, ¬ b.lt a = true := by
  cases earliest <;> cases latest <;> simp [Settings.reversedPointDefects]

theorem limitDefects_eq_nil_iff {kind : Kind} {setting : SettingName} {limit : Option Bound} :
    Settings.limitDefects kind setting limit = [] ↔
      ∀ l ∈ limit, kind ∈ [Kind.integer, .float, .string, .list, .set, .object] ∧
        (kind ∈ [Kind.string, .list, .set, .object] → ¬ l.isNegative = true) := by
  rw [← Kind.isMeasured_iff, ← Kind.hasLength_iff]
  cases limit with
  | none => simp [Settings.limitDefects]
  | some l =>
    rw [Settings.limitDefects]
    cases kind.isNumeric <;> cases kind.hasLength <;> simp

theorem memberLimitDefects_eq_nil_iff {memberKind : Option Kind} {setting : SettingName}
    {limit : Option Bound} :
    Settings.memberLimitDefects memberKind setting limit = [] ↔
      ∀ l ∈ limit, (∃ k ∈ memberKind, k ∈ [Kind.integer, .float, .string]) ∧
        (memberKind = some .string → ¬ l.isNegative = true) := by
  simp only [← Kind.isMeasuredMember_iff]
  cases limit with
  | none => simp [Settings.memberLimitDefects]
  | some l =>
    rw [Settings.memberLimitDefects]
    cases memberKind with
    | none => simp
    | some k =>
      by_cases hstring : k = .string
      · simp [hstring]
      · cases hk : k.isNumeric <;> simp [hk, hstring]

theorem limitsFit_iff {measured counted : Prop} {least most : Option Bound} :
    LimitsFit measured counted least most ↔
      (∀ l ∈ least, measured ∧ (counted → ¬ l.isNegative = true)) ∧
        (∀ m ∈ most, measured ∧ (counted → ¬ m.isNegative = true)) ∧
        ∀ l ∈ least, ∀ m ∈ most, ¬ m.lt l = true := by
  refine ⟨?_, ?_⟩
  · intro h
    exact ⟨fun l hl => ⟨h.applicable l (Or.inl hl), fun hc => h.nonnegative hc l (Or.inl hl)⟩,
      fun m hm => ⟨h.applicable m (Or.inr hm), fun hc => h.nonnegative hc m (Or.inr hm)⟩, h.ordered⟩
  · rintro ⟨hleast, hmost, hordered⟩
    have hboth : ∀ limit, limit ∈ least ∨ limit ∈ most →
        measured ∧ (counted → ¬ limit.isNegative = true) := by
      rintro limit (h | h)
      · exact hleast limit h
      · exact hmost limit h
    exact ⟨fun limit h => (hboth limit h).1, fun hc limit h => (hboth limit h).2 hc, hordered⟩

/-! ### Enumerations -/

/-- A boolean, a number or a string. -/
def Json.IsLiteral (value : Json) : Prop :=
  (∃ b, value = .bool b) ∨ (∃ n, value = .num n) ∨ ∃ text, value = .str text

/-- The kind that listed values must have: of a collection, that of its members. -/
def Kind.ofListed : Kind → Option Kind → Kind
  | .list, memberKind => memberKind.getD .any
  | .set, memberKind => memberKind.getD .any
  | kind, _ => kind

theorem Settings.listedKind_eq (s : Settings) : s.listedKind = s.kind.ofListed s.memberKind := by
  rw [listedKind]
  cases s.kind <;> rfl

theorem listedDefects_eq_nil_iff {kind : Kind} {value : Json} :
    Settings.listedDefects kind value = [] ↔ value.IsLiteral ∧ kind.admits value = true := by
  cases value <;> simp [Settings.listedDefects, Json.IsLiteral]

theorem enumerationDefects_eq_nil_iff {s : Settings} :
    s.enumerationDefects = [] ↔
      ∀ listed ∈ s.enumeration, listed ≠ [] ∧ s.kind.ofListed s.memberKind ≠ .object ∧
        ∀ value ∈ listed, value.IsLiteral ∧
          (s.kind.ofListed s.memberKind).admits value = true := by
  rw [Settings.enumerationDefects, ← s.listedKind_eq]
  cases s.enumeration with
  | none => simp
  | some listed =>
    cases listed with
    | nil => simp
    | cons value rest =>
      by_cases hobject : s.listedKind = .object
      · simp [hobject]
      · simp only [hobject, ↓reduceIte, List.flatMap_eq_nil_iff, listedDefects_eq_nil_iff]
        simp [hobject]

/-! ### Members, patterns and schemas -/

theorem memberKindDefects_eq_nil_iff {s : Settings} :
    s.memberKindDefects = [] ↔
      ∀ k ∈ s.memberKind, s.kind ∈ [Kind.list, .set] ∧ k ∉ [Kind.list, .set] := by
  rw [Settings.memberKindDefects]
  simp only [← Kind.isCollection_iff]
  cases s.memberKind with
  | none => simp
  | some k => cases s.kind.isCollection <;> cases hk : k.isCollection <;> simp [hk]

theorem Settings.patternDefects_eq_nil_iff {s : Settings} :
    s.patternDefects = [] ↔
      ∀ p ∈ s.pattern, s.kind = .string ∨
        s.kind ∈ [Kind.list, .set] ∧ s.memberKind = some .string := by
  rw [patternDefects]
  simp only [← Kind.isCollection_iff]
  cases s.pattern with
  | none => simp
  | some p => simp [or_iff_not_imp_left]

/-- The rules that may have a schema inside: those of objects, and of lists of objects. -/
def Settings.TakesSchema (s : Settings) : Prop :=
  s.kind = .object ∨ s.kind = .list ∧ ∀ k ∈ s.memberKind, k = .object

theorem schemaDefects_eq_nil_iff {s : Settings} {hasSchema : Bool} :
    s.schemaDefects hasSchema = [] ↔ (hasSchema = true → s.TakesSchema) := by
  rw [Settings.schemaDefects, Settings.TakesSchema]
  cases hasSchema with
  | false => simp
  | true =>
    cases s.kind <;> cases s.memberKind <;> simp [Kind.isComposite]

/-! ### Rules -/

/-- The settings of a rule fit each other, its default and the schema inside aside. -/
structure Settings.Consistent (s : Settings) : Prop where
  enumeration : ∀ listed ∈ s.enumeration, listed ≠ [] ∧ s.kind.ofListed s.memberKind ≠ .object ∧
    ∀ value ∈ listed, value.IsLiteral ∧ (s.kind.ofListed s.memberKind).admits value = true
  limits : LimitsFit (s.kind ∈ [Kind.integer, .float, .string, .list, .set, .object])
    (s.kind ∈ [Kind.string, .list, .set, .object]) s.least s.most
  points : ∀ a ∈ s.earliest, ∀ b ∈ s.latest, ¬ b.lt a = true
  memberKind : ∀ k ∈ s.memberKind, s.kind ∈ [Kind.list, .set] ∧ k ∉ [Kind.list, .set]
  memberLimits : LimitsFit (∃ k ∈ s.memberKind, k ∈ [Kind.integer, .float, .string])
    (s.memberKind = some .string) s.memberLeast s.memberMost
  pattern : ∀ p ∈ s.pattern, s.kind = .string ∨
    s.kind ∈ [Kind.list, .set] ∧ s.memberKind = some .string

theorem Settings.rangeDefects_eq_nil_iff {s : Settings} :
    s.rangeDefects = [] ↔
      LimitsFit (s.kind ∈ [Kind.integer, .float, .string, .list, .set, .object])
        (s.kind ∈ [Kind.string, .list, .set, .object]) s.least s.most ∧
      ∀ a ∈ s.earliest, ∀ b ∈ s.latest, ¬ b.lt a = true := by
  rw [rangeDefects, List.append_eq_nil_iff, List.append_eq_nil_iff, List.append_eq_nil_iff,
    limitDefects_eq_nil_iff, limitDefects_eq_nil_iff, reversedDefects_eq_nil_iff,
    reversedPointDefects_eq_nil_iff, limitsFit_iff, and_assoc, and_assoc, and_assoc, and_assoc]

theorem Settings.memberDefects_eq_nil_iff {s : Settings} :
    s.memberDefects = [] ↔
      (∀ k ∈ s.memberKind, s.kind ∈ [Kind.list, .set] ∧ k ∉ [Kind.list, .set]) ∧
      LimitsFit (∃ k ∈ s.memberKind, k ∈ [Kind.integer, .float, .string])
        (s.memberKind = some .string) s.memberLeast s.memberMost := by
  rw [memberDefects, List.append_eq_nil_iff, List.append_eq_nil_iff, List.append_eq_nil_iff,
    memberKindDefects_eq_nil_iff, memberLimitDefects_eq_nil_iff, memberLimitDefects_eq_nil_iff,
    reversedDefects_eq_nil_iff, limitsFit_iff, and_assoc, and_assoc]

theorem Rule.defaultDefects_eq_nil_iff {rule : Rule} :
    rule.defaultDefects = [] ↔
      ∀ value ∈ rule.settings.fallback, rule.findings (some value) = [] := by
  rw [defaultDefects]
  cases rule.settings.fallback <;> simp

/-- **A rule has no defects** if its settings are consistent, it takes the schema inside it, and
nothing is found in its default. -/
theorem Rule.defects_eq_nil_iff {rule : Rule} :
    rule.defects = [] ↔
      rule.settings.Consistent ∧ (rule.nested.isSome = true → rule.settings.TakesSchema) ∧
        ∀ value ∈ rule.settings.fallback, rule.findings (some value) = [] := by
  rw [defects]
  simp only [List.append_eq_nil_iff]
  rw [enumerationDefects_eq_nil_iff, Settings.rangeDefects_eq_nil_iff,
    Settings.memberDefects_eq_nil_iff, Settings.patternDefects_eq_nil_iff, schemaDefects_eq_nil_iff,
    defaultDefects_eq_nil_iff]
  refine ⟨?_, ?_⟩
  · rintro ⟨⟨⟨⟨⟨henum, hlimits, hpoints⟩, hkind, hmember⟩, hpattern⟩, hschema⟩, hdefault⟩
    exact ⟨⟨henum, hlimits, hpoints, hkind, hmember, hpattern⟩, hschema, hdefault⟩
  · rintro ⟨h, hschema, hdefault⟩
    exact ⟨⟨⟨⟨⟨h.enumeration, h.limits, h.points⟩, h.memberKind, h.memberLimits⟩, h.pattern⟩,
      hschema⟩, hdefault⟩

theorem Rule.WellFormed.consistent {rule : Rule} (h : rule.WellFormed) :
    rule.settings.Consistent :=
  (Rule.defects_eq_nil_iff.mp h.defects_eq_nil).1

end RecordSchema
