import RecordSchema.Proofs.Rule.Constraints

/-!
# Values and members

What a rule asks of a value, another rule can ask of every member of a collection.  The two are
examined by different groups of settings and checked by different facets, and still they agree.

* `Demands`: what is asked, be it of a value (`Demands.valueRule`) or of members
  (`Demands.memberRule`).
* `Demands.consistent_iff`: the settings of both rules fit each other under the same demands, but
  that only of a value can the length be limited if it is an object.
* `Demands.facets_issues_eq`: under such demands, the facets of both rules find the same.
* `Settings.memberFindings_at`: what is found at one index is what is found of the member there.
* `Violation.OfMember`: how the report of a member reads, compared to that of the value on its own.

`members_checked_as_values` puts this together.
-/

namespace RecordSchema

/-! ### Demands -/

/-- What is asked of a value.  The pattern is a text until it is read. -/
structure Demands (α : Type) where
  enumeration : Option (List Json)
  least : Option Bound
  most : Option Bound
  pattern : Option α

namespace Demands

/-- The rule for values of a kind. -/
def valueRule (d : Demands Pattern) (kind : Kind) : Rule :=
  ⟨{ kind := kind
     enumeration := d.enumeration
     least := d.least
     most := d.most
     pattern := d.pattern }, none⟩

/-- The rule for collections with members of a kind. -/
def memberRule (d : Demands Pattern) (collection kind : Kind) : Rule :=
  ⟨{ kind := collection
     enumeration := d.enumeration
     pattern := d.pattern
     memberKind := some kind
     memberLeast := d.least
     memberMost := d.most }, none⟩

/-- The draft of the rule for values of a kind. -/
def valueDraft (d : Demands String) (kind : Kind) : Draft :=
  { kind := kind
    enumeration := d.enumeration
    least := d.least
    most := d.most
    pattern := d.pattern }

/-- The draft of the rule for collections with members of a kind. -/
def memberDraft (d : Demands String) (collection kind : Kind) : Draft :=
  { kind := collection
    enumeration := d.enumeration
    pattern := d.pattern
    memberKind := some kind
    memberLeast := d.least
    memberMost := d.most }

/-- The demands with the pattern read. -/
def read (d : Demands String) : Demands Pattern :=
  ⟨d.enumeration, d.least, d.most, d.pattern.bind Pattern.ofText?⟩

end Demands

/-! ### Examining both rules -/

theorem LimitsFit.unlimited {measured counted : Prop} : LimitsFit measured counted none none :=
  ⟨by simp, by simp, nofun⟩

theorem LimitsFit.eq_none {measured counted : Prop} {least most : Option Bound}
    (h : LimitsFit measured counted least most) (hmeasured : ¬ measured) :
    least = none ∧ most = none := by
  constructor
  · exact Option.eq_none_iff_forall_not_mem.mpr fun limit hl =>
      hmeasured (h.applicable limit (Or.inl hl))
  · exact Option.eq_none_iff_forall_not_mem.mpr fun limit hl =>
      hmeasured (h.applicable limit (Or.inr hl))

theorem LimitsFit.congr {measured counted measured' counted' : Prop} {least most : Option Bound}
    (hmeasured : measured ↔ measured') (hcounted : counted ↔ counted') :
    LimitsFit measured counted least most ↔ LimitsFit measured' counted' least most := by
  rw [propext hmeasured, propext hcounted]

theorem Settings.defects_eq_nil_iff {s : Settings} (h : s.fallback = none) :
    (⟨s, none⟩ : Rule).defects = [] ↔ s.Consistent := by
  rw [Rule.defects_eq_nil_iff]
  simp [h]

namespace Kind

variable {kind collection : Kind}

theorem not_mem_of_single (h : kind.isCollection = false) : kind ∉ [Kind.list, .set] := by
  rw [← isCollection_iff, h]
  exact Bool.false_ne_true

theorem ofListed_single (h : kind.isCollection = false) : kind.ofListed none = kind := by
  cases kind <;> first | rfl | cases h

theorem ofListed_members (h : collection.isCollection = true) :
    collection.ofListed (some kind) = kind := by
  cases collection <;> first | rfl | cases h

end Kind

namespace Demands

/-- The demands fit values of a kind.  What has a measure, and which measures are counts, is not the
same for values and for members. -/
structure Fit (d : Demands Pattern) (kind : Kind) (measured counted : Prop) : Prop where
  enumeration : ∀ listed ∈ d.enumeration, listed ≠ [] ∧ kind ≠ .object ∧
    ∀ value ∈ listed, value.IsLiteral ∧ kind.admits value = true
  limits : LimitsFit measured counted d.least d.most
  pattern : ∀ p ∈ d.pattern, kind = .string

variable {d : Demands Pattern} {kind collection : Kind}

/-- What is asked of a value: the length of an object may be limited. -/
theorem valueRule_consistent_iff (single : kind.isCollection = false) :
    (d.valueRule kind).settings.Consistent ↔
      d.Fit kind (kind ∈ [Kind.integer, .float, .string, .object])
        (kind ∈ [Kind.string, .object]) := by
  have hsingle : kind ∉ [Kind.list, .set] := Kind.not_mem_of_single single
  have hmeasured : kind ∈ [Kind.integer, .float, .string, .list, .set, .object] ↔
      kind ∈ [Kind.integer, .float, .string, .object] := by
    cases kind <;> simp_all
  have hcounted : kind ∈ [Kind.string, .list, .set, .object] ↔ kind ∈ [Kind.string, .object] := by
    cases kind <;> simp_all
  have hlisted : (d.valueRule kind).settings.kind.ofListed
      (d.valueRule kind).settings.memberKind = kind :=
    Kind.ofListed_single single
  constructor
  · intro h
    refine ⟨fun listed hl => ?_, (LimitsFit.congr hmeasured hcounted).mp h.limits, fun p hp => ?_⟩
    · have hmembers := h.enumeration listed hl
      rw [hlisted] at hmembers
      exact hmembers
    · exact (h.pattern p hp).resolve_right fun hcollection => hsingle hcollection.1
  · intro h
    refine ⟨fun listed hl => ?_, (LimitsFit.congr hmeasured hcounted).mpr h.limits, ?_, ?_,
      .unlimited, fun p hp => Or.inl (h.pattern p hp)⟩
    · rw [hlisted]
      exact h.enumeration listed hl
    · rintro _ ⟨⟩
    · rintro _ ⟨⟩

/-- What is asked of a member: only numbers and strings may have limits. -/
theorem memberRule_consistent_iff (single : kind.isCollection = false)
    (members : collection.isCollection = true) :
    (d.memberRule collection kind).settings.Consistent ↔
      d.Fit kind (kind ∈ [Kind.integer, .float, .string]) (kind = .string) := by
  have hsingle : kind ∉ [Kind.list, .set] := Kind.not_mem_of_single single
  have hcollection : collection ∈ [Kind.list, .set] := Kind.isCollection_iff.mp members
  have hmeasured : (∃ k ∈ some kind, k ∈ [Kind.integer, .float, .string]) ↔
      kind ∈ [Kind.integer, .float, .string] := by
    simp
  have hcounted : some kind = some .string ↔ kind = .string := Option.some_inj
  have hlisted : (d.memberRule collection kind).settings.kind.ofListed
      (d.memberRule collection kind).settings.memberKind = kind :=
    Kind.ofListed_members members
  constructor
  · intro h
    refine ⟨fun listed hl => ?_, (LimitsFit.congr hmeasured hcounted).mp h.memberLimits,
      fun p hp => ?_⟩
    · have hmembers := h.enumeration listed hl
      rw [hlisted] at hmembers
      exact hmembers
    · rcases h.pattern p hp with hstring | ⟨-, hstring⟩
      · have hnone : collection ≠ .string := by
          rintro rfl
          cases members
        exact absurd hstring hnone
      · exact hcounted.mp hstring
  · intro h
    refine ⟨fun listed hl => ?_, .unlimited, ?_, ?_,
      (LimitsFit.congr hmeasured hcounted).mpr h.limits, fun p hp => ?_⟩
    · rw [hlisted]
      exact h.enumeration listed hl
    · rintro _ ⟨⟩
    · rintro k ⟨rfl⟩
      exact ⟨hcollection, hsingle⟩
    · exact Or.inr ⟨hcollection, congrArg some (h.pattern p hp)⟩

/-- **Both rules are examined alike**, but that a member that is an object has no limits. -/
theorem consistent_iff (single : kind.isCollection = false)
    (members : collection.isCollection = true) :
    (d.memberRule collection kind).settings.Consistent ↔
      (d.valueRule kind).settings.Consistent ∧
        (kind = .object → d.least = none ∧ d.most = none) := by
  rw [valueRule_consistent_iff single, memberRule_consistent_iff single members]
  by_cases hobject : kind = .object
  · subst hobject
    constructor
    · intro h
      obtain ⟨hleast, hmost⟩ := h.limits.eq_none (by simp)
      refine ⟨⟨h.enumeration, ?_, h.pattern⟩, fun _ => ⟨hleast, hmost⟩⟩
      rw [hleast, hmost]
      exact .unlimited
    · rintro ⟨h, hunlimited⟩
      obtain ⟨hleast, hmost⟩ := hunlimited rfl
      refine ⟨h.enumeration, ?_, h.pattern⟩
      rw [hleast, hmost]
      exact .unlimited
  · have hmeasured : kind ∈ [Kind.integer, .float, .string, .object] ↔
        kind ∈ [Kind.integer, .float, .string] := by
      simp [hobject]
    have hcounted : kind ∈ [Kind.string, .object] ↔ kind = .string := by
      simp [hobject]
    have hlimits := @LimitsFit.congr _ _ _ _ d.least d.most hmeasured hcounted
    constructor
    · intro h
      exact ⟨⟨h.enumeration, hlimits.mpr h.limits, h.pattern⟩, fun h' => absurd h' hobject⟩
    · rintro ⟨h, -⟩
      exact ⟨h.enumeration, hlimits.mp h.limits, h.pattern⟩

theorem defects_eq_nil_iff (single : kind.isCollection = false)
    (members : collection.isCollection = true) (shapeless : kind ≠ .object) :
    (d.valueRule kind).defects = [] ↔ (d.memberRule collection kind).defects = [] := by
  have hvalue : (d.valueRule kind).defects = [] ↔ (d.valueRule kind).settings.Consistent :=
    Settings.defects_eq_nil_iff rfl
  have hmember : (d.memberRule collection kind).defects = [] ↔
      (d.memberRule collection kind).settings.Consistent :=
    Settings.defects_eq_nil_iff rfl
  rw [hvalue, hmember, consistent_iff single members]
  exact ⟨fun h => ⟨h, fun h' => absurd h' shapeless⟩, And.left⟩

/-- Both drafts make rules under the same demands: they read the same text as a pattern. -/
theorem build_iff {d : Demands String} (single : kind.isCollection = false)
    (members : collection.isCollection = true) (shapeless : kind ≠ .object) :
    (∃ rule, (d.valueDraft kind).build = .ok rule) ↔
      ∃ rule, (d.memberDraft collection kind).build = .ok rule := by
  have hbuild (draft : Draft) : (∃ rule, draft.build = .ok rule) ↔ draft.defects = [] := by
    simp [Draft.build_eq_ok_iff]
  have htexts : (d.valueDraft kind).textDefects = (d.memberDraft collection kind).textDefects := rfl
  have hrules : (d.valueDraft kind).rule.defects = [] ↔
      (d.memberDraft collection kind).rule.defects = [] :=
    defects_eq_nil_iff (d := d.read) single members shapeless
  rw [hbuild, hbuild, Draft.defects_eq_nil_iff, Draft.defects_eq_nil_iff, htexts, hrules]

/-! ### Checking both rules -/

/-- **Where members may be asked for it, the facets of both rules find the same.** -/
theorem facets_issues_eq
    (h : d.Fit kind (kind ∈ [Kind.integer, .float, .string]) (kind = .string))
    (collection : Kind) (scope : Scope) (item : Json) :
    (d.memberRule collection kind).settings.memberFacets.issues scope item =
      (d.valueRule kind).settings.facets.issues scope item := by
  set s := (d.valueRule kind).settings
  set t := (d.memberRule collection kind).settings
  -- Members have limits only where they are numbers or strings, and there both gauges agree.
  have hbounds : boundIssues scope (t.memberFacets.gauge.measure? item) d.least d.most =
      boundIssues scope (s.facets.gauge.measure? item) d.least d.most := by
    by_cases hkind : kind ∈ [Kind.integer, .float, .string]
    · have hgauge : t.memberFacets.gauge = s.facets.gauge := by
        have hcases : kind = .integer ∨ kind = .float ∨ kind = .string := by simpa using hkind
        rcases hcases with rfl | rfl | rfl <;> rfl
      rw [hgauge]
    · obtain ⟨hleast, hmost⟩ := h.limits.eq_none hkind
      rw [hleast, hmost, boundIssues_none, boundIssues_none]
  have hpoints : pointIssues scope none none none item =
      pointIssues scope kind.scale? none none item := by
    rw [pointIssues_none, pointIssues_none]
  -- A value that is no string has no pattern.
  have hpattern : t.memberFacets.pattern = d.pattern := by
    change (if some kind = some .string then d.pattern else none) = d.pattern
    split
    · rfl
    · next hkind =>
      have hnone : d.pattern = none := Option.eq_none_iff_forall_not_mem.mpr fun p hp =>
        hkind (congrArg some (h.pattern p hp))
      exact hnone.symm
  rw [Facets.issues, Facets.issues, hpattern]
  change unlistedIssues scope d.enumeration item ++
    boundIssues scope (t.memberFacets.gauge.measure? item) d.least d.most ++
    pointIssues scope none none none item ++ patternIssues scope d.pattern item = _
  rw [hbounds, hpoints]
  rfl

end Demands

/-! ### Issues of values and of members -/

/-- The kind under which a violation is reported of a member. -/
def ViolationKind.ofMember? : ViolationKind → Option ViolationKind
  | .type => some .memberType
  | .enum => some .memberEnum
  | .min => some .memberMin
  | .max => some .memberMax
  | .regex => some .memberRegex
  | _ => none

/-- The second issue says of a member what the first one says of a value. -/
inductive Issue.OfMember : Issue → Issue → Prop
  | wrongKind (kind : Kind) (value : Json) :
      OfMember (.wrongKind kind value) (.wrongMemberKind kind value)
  | unlisted (value : Json) (listed : List Json) :
      OfMember (.unlisted .value value listed) (.unlisted .member value listed)
  | outside (side : Side) (measured : Measured) (limit : Limit) :
      OfMember (.outside .value side measured limit) (.outside .member side measured limit)
  | unmatched (value : Json) (pattern : String) :
      OfMember (.unmatched .value value pattern) (.unmatched .member value pattern)

/-- The second report says of a member what the first one says of a value.  Only that a value is of
another kind is said in other words. -/
structure Violation.OfMember (value member : Violation) : Prop where
  path : member.path = value.path
  kind : value.kind.ofMember? = some member.kind
  message : value.kind ≠ .type → member.message = value.message

/-- What is found of a member is reported as it is of a value at the path of the member. -/
theorem Issue.OfMember.violation {issue other : Issue} (h : issue.OfMember other) (path : String)
    (i : Nat) :
    Violation.OfMember ((Finding.here issue).violation (Path.index path i))
      ((⟨[.item i], other⟩ : Finding).violation path) := by
  refine ⟨rfl, ?_, ?_⟩
  · cases h with
    | outside side => cases side <;> rfl
    | _ => rfl
  · intro htype
    cases h with
    | wrongKind => exact absurd rfl htype
    | _ => rfl

section

variable {value : Json}

theorem unlistedIssues_ofMember (enumeration : Option (List Json)) :
    List.Forall₂ Issue.OfMember (unlistedIssues .value enumeration value)
      (unlistedIssues .member enumeration value) := by
  cases enumeration with
  | none => exact .nil
  | some listed =>
    rw [unlistedIssues, unlistedIssues]
    split
    · exact .nil
    · exact .cons (.unlisted value listed) .nil

theorem boundIssues_ofMember (measured : Option (Measured × Binary64))
    (least most : Option Bound) :
    List.Forall₂ Issue.OfMember (boundIssues .value measured least most)
      (boundIssues .member measured least most) := by
  match measured with
  | none => exact .nil
  | some (what, measure) =>
    rw [boundIssues, boundIssues, List.forall₂_map_left_iff, List.forall₂_map_right_iff]
    exact List.forall₂_same.mpr fun p _ => .outside p.1 what (.bound p.2)

theorem pointIssues_ofMember (scale : Option Scale) (earliest latest : Option Temporal) :
    List.Forall₂ Issue.OfMember (pointIssues .value scale earliest latest value)
      (pointIssues .member scale earliest latest value) := by
  cases scale with
  | none => exact .nil
  | some scale =>
    cases value with
    | str text =>
      rw [pointIssues, pointIssues]
      cases Temporal.read? scale text with
      | none => exact .nil
      | some point =>
        rw [List.forall₂_map_left_iff, List.forall₂_map_right_iff]
        exact List.forall₂_same.mpr fun p _ => .outside p.1 (.point (.str text)) (.point p.2)
    | _ => exact .nil

theorem patternIssues_ofMember (pattern : Option Pattern) :
    List.Forall₂ Issue.OfMember (patternIssues .value pattern value)
      (patternIssues .member pattern value) := by
  cases pattern with
  | none => exact .nil
  | some pattern =>
    cases value with
    | str text =>
      rw [patternIssues, patternIssues]
      split
      · exact .nil
      · exact .cons (.unmatched (.str text) pattern.source) .nil
    | _ => exact .nil

theorem Facets.issues_ofMember (f : Facets) (value : Json) :
    List.Forall₂ Issue.OfMember (f.issues .value value) (f.issues .member value) :=
  List.rel_append (List.rel_append (List.rel_append (unlistedIssues_ofMember f.enumeration)
    (boundIssues_ofMember (f.gauge.measure? value) f.least f.most))
    (pointIssues_ofMember f.scale f.earliest f.latest)) (patternIssues_ofMember f.pattern)

end

/-! ### The member at an index -/

theorem Path.index_inj {path : String} {i j : Nat} :
    Path.index path i = Path.index path j ↔ i = j := by
  refine ⟨fun h => ?_, fun h => h ▸ rfl⟩
  rw [index, index, String.append_left_inj, String.append_right_inj] at h
  exact Nat.repr_injective h

theorem Issue.eq_duplicate_of_kind {issue : Issue} (h : issue.kind = .duplicate) :
    ∃ item, issue = .duplicate item := by
  cases issue with
  | duplicate item => exact ⟨item, rfl⟩
  | unlisted scope => cases scope <;> cases h
  | outside scope side => cases scope <;> cases side <;> cases h
  | unmatched scope => cases scope <;> cases h
  | _ => cases h

namespace Settings

variable {s : Settings} {earlier : List Json} {item : Json}

theorem memberFindings_at {items : List Json} {i : Nat} (h : items[i]? = some item) :
    (s.memberFindings earlier items).filter (·.location == [.item (earlier.length + i)]) =
      (s.memberIssues (earlier ++ items.take i) item).map
        (Finding.mk [.item (earlier.length + i)]) := by
  induction items generalizing earlier i with
  | nil => cases h
  | cons first rest ih =>
    rw [memberFindings, List.filter_append]
    cases i with
    | zero =>
      obtain rfl : first = item := Option.some.inj h
      have hfirst : ∀ f ∈ (s.memberIssues earlier first).map (Finding.mk [.item earlier.length]),
          (f.location == [.item (earlier.length + 0)]) = true := by
        intro f hf
        obtain ⟨issue, -, rfl⟩ := List.mem_map.mp hf
        simp
      have hrest : ∀ f ∈ s.memberFindings (earlier ++ [first]) rest,
          ¬ (f.location == [.item (earlier.length + 0)]) = true := by
        intro f hf
        obtain ⟨j, _, -, issue, -, rfl⟩ := mem_memberFindings.mp hf
        simp
        omega
      rw [List.filter_eq_self.mpr hfirst, List.filter_eq_nil_iff.mpr hrest]
      simp
    | succ i =>
      have hfirst : ∀ f ∈ (s.memberIssues earlier first).map (Finding.mk [.item earlier.length]),
          ¬ (f.location == [.item (earlier.length + (i + 1))]) = true := by
        intro f hf
        obtain ⟨issue, -, rfl⟩ := List.mem_map.mp hf
        simp
      have hindex : earlier.length + (i + 1) = (earlier ++ [first]).length + i := by
        rw [List.length_append, List.length_singleton]
        omega
      rw [List.filter_eq_nil_iff.mpr hfirst, List.nil_append, hindex, ih (by simpa using h),
        List.take_succ_cons, List.append_assoc, List.singleton_append]

/-- But for duplicates, a member of the right kind has the issues of its facets, and every other
member has one issue. -/
theorem memberIssues_filter {kind : Kind} (hkind : s.memberKind = some kind) :
    ((s.memberIssues earlier item).filter fun issue => issue.kind != .duplicate) =
      if kind.admits item then s.memberFacets.issues .member item
      else [.wrongMemberKind kind item] := by
  have hrepeated : ((if s.kind = .set ∧ item.isAmong earlier then [Issue.duplicate item]
      else []).filter fun issue => issue.kind != .duplicate) = [] := by
    split <;> rfl
  have hfacets : ∀ issue ∈ s.memberFacets.issues .member item,
      (issue.kind != .duplicate) = true := by
    intro issue hissue
    rw [bne_iff_ne]
    intro hduplicate
    obtain ⟨other, hother⟩ := Issue.eq_duplicate_of_kind hduplicate
    exact Facets.ne_duplicate_of_mem_issues hissue other hother
  split
  · next hadmits =>
    have hall : ∀ k ∈ s.memberKind, k.admits item = true := by
      rw [hkind]
      rintro k ⟨rfl⟩
      exact hadmits
    rw [memberIssues_of_admits hall, List.filter_append, hrepeated, List.nil_append,
      List.filter_eq_self.mpr hfacets]
  · next hadmits =>
    rw [memberIssues_of_not_admits hkind hadmits, List.filter_append, hrepeated]
    rfl

end Settings

namespace Demands

variable {d : Demands Pattern} {kind collection : Kind}

theorem valueRule_findings (single : kind.isCollection = false) {item : Json}
    (present : item ≠ .null) :
    (d.valueRule kind).findings (some item) =
      (if kind.admits item then (d.valueRule kind).settings.facets.issues .value item
        else [.wrongKind kind item]).map Finding.here := by
  have hsingle : ¬ (d.valueRule kind).settings.kind.isCollection = true := by
    change ¬ kind.isCollection = true
    simp [single]
  rw [Rule.findings_some present, Settings.ownFindings_single hsingle]
  change (if kind.admits item then _ ++ [] else _) = _
  split
  · rw [List.append_nil]
  · rfl

theorem memberRule_findings (members : collection.isCollection = true) (items : List Json) :
    (d.memberRule collection kind).findings (some (.arr items)) =
      (d.memberRule collection kind).settings.memberFindings [] items := by
  have hadmits : (d.memberRule collection kind).settings.kind.admits (.arr items) = true := by
    change collection.admits (.arr items) = true
    cases collection <;> first | rfl | cases members
  rw [Rule.findings_of_admits (by simp) hadmits, Settings.ownFindings_collection members,
    Settings.collectionFindings]
  change (boundIssues .value _ none none).map Finding.here ++ _ ++ [] = _
  rw [boundIssues_none, List.append_nil]
  rfl

/-- What a rule for members reports at one index, duplicates left out. -/
theorem memberRule_violations_at (members : collection.isCollection = true) {items : List Json}
    {i : Nat} {item : Json} (at_i : items[i]? = some item) (path : String) :
    ((d.memberRule collection kind).violations path (some (.arr items))).filter
        (fun v => v.path == Path.index path i && v.kind != .duplicate) =
      (if kind.admits item then
          (d.memberRule collection kind).settings.memberFacets.issues .member item
        else [.wrongMemberKind kind item]).map
        fun issue => (⟨[.item i], issue⟩ : Finding).violation path := by
  set s := (d.memberRule collection kind).settings
  -- Distinct indices are written differently, so the path tells where something was found.
  have hpath : ∀ f ∈ s.memberFindings [] items,
      ((f.violation path).path == Path.index path i && (f.violation path).kind != .duplicate) =
        (f.issue.kind != .duplicate && f.location == [.item i]) := by
    intro f hf
    obtain ⟨j, _, -, issue, -, rfl⟩ := Settings.mem_memberFindings.mp hf
    have hindex : (Path.index path (([] : List Json).length + j) == Path.index path i) =
        ([PathStep.item (([] : List Json).length + j)] == [.item i]) := by
      rw [Bool.eq_iff_iff, beq_iff_eq, beq_iff_eq, Path.index_inj]
      simp
    rw [Bool.and_comm]
    exact congrArg _ hindex
  have hat : (s.memberFindings [] items).filter (·.location == [.item i]) =
      (s.memberIssues (items.take i) item).map (Finding.mk [.item i]) := by
    simpa using @Settings.memberFindings_at s [] item items i at_i
  rw [Rule.violations, memberRule_findings members, List.filter_map]
  change ((s.memberFindings [] items).filter fun f =>
    (f.violation path).path == Path.index path i && (f.violation path).kind != .duplicate).map _ = _
  rw [List.filter_congr hpath, ← List.filter_filter, hat, List.filter_map, List.map_map]
  change ((s.memberIssues (items.take i) item).filter fun issue =>
    issue.kind != .duplicate).map _ = _
  rw [Settings.memberIssues_filter rfl]
  rfl

end Demands

/-! ### Reports -/

/-- **Members are checked as values are.**  Let the same be asked of values of a kind, no
collections, and of the members of a list or a set.  Where both rules are accepted, what is reported
of a member that is there, a duplicate aside, is in order what is reported of it on its own under
its path: of the kind for members and, but for a value of another kind, in the same words.  If the
values are no objects, one rule is accepted if and only if the other one is, whether it is put
together or drafted. -/
theorem members_checked_as_values {kind collection : Kind} (single : kind.isCollection = false)
    (members : collection.isCollection = true) :
    (∀ d : Demands Pattern, (d.valueRule kind).definitionViolations = [] →
      (d.memberRule collection kind).definitionViolations = [] →
      ∀ path items i item, items[i]? = some item → item ≠ .null →
        List.Forall₂ Violation.OfMember
          ((d.valueRule kind).violations (Path.index path i) (some item))
          (((d.memberRule collection kind).violations path (some (.arr items))).filter fun v =>
            v.path == Path.index path i && v.kind != .duplicate)) ∧
    (kind ≠ .object →
      (∀ d : Demands Pattern, (d.valueRule kind).definitionViolations = [] ↔
        (d.memberRule collection kind).definitionViolations = []) ∧
      ∀ d : Demands String, (∃ rule, (d.valueDraft kind).build = .ok rule) ↔
        ∃ rule, (d.memberDraft collection kind).build = .ok rule) := by
  refine ⟨?_, fun shapeless => ⟨fun d => ?_, fun d => d.build_iff single members shapeless⟩⟩
  · intro d _ accepted path items i item at_i present
    -- The demands fit values if they fit members, so the first rule need not be accepted.
    have hmember : (d.memberRule collection kind).settings.Consistent :=
      (Rule.defects_eq_nil_iff.mp (List.map_eq_nil_iff.mp accepted)).1
    have hfit := (Demands.memberRule_consistent_iff single members).mp hmember
    rw [d.memberRule_violations_at members at_i, d.facets_issues_eq hfit, Rule.violations,
      d.valueRule_findings single present, List.map_map, List.forall₂_map_left_iff,
      List.forall₂_map_right_iff]
    have hissues : List.Forall₂ Issue.OfMember
        (if kind.admits item then (d.valueRule kind).settings.facets.issues .value item
          else [.wrongKind kind item])
        (if kind.admits item then (d.valueRule kind).settings.facets.issues .member item
          else [.wrongMemberKind kind item]) := by
      split
      · exact Facets.issues_ofMember _ item
      · exact .cons (.wrongKind kind item) .nil
    exact hissues.imp fun _ _ h => h.violation path i
  · rw [Rule.definitionViolations, Rule.definitionViolations, List.map_eq_nil_iff,
      List.map_eq_nil_iff, d.defects_eq_nil_iff single members shapeless]

/-- What is asked of a code: it is listed, has at most two letters and begins with `a`. -/
def codeDemands : Demands Pattern :=
  ⟨some [.str "ab", .str ""], none, some (.finite (.ofNat 2)),
    some ⟨"a", .atom (.char [(0x61, 0x61)])⟩⟩

/-- A set with a wrong code twice. -/
def wrongCodes : List Json :=
  [.str "ab", .str "xyz", .str "xyz", .str ""]

/-- In a set of codes, a wrong code is reported as it is on its own, and the second time also as a
duplicate. -/
theorem codes_checked_as_values :
    (codeDemands.valueRule .string).definitionViolations = [] ∧
    (codeDemands.memberRule .set .string).definitionViolations = [] ∧
    ((codeDemands.valueRule .string).violations "codes[2]" (some (.str "xyz"))).map
        Violation.heading =
      [("codes[2]", .enum), ("codes[2]", .max), ("codes[2]", .regex)] ∧
    ((codeDemands.memberRule .set .string).violations "codes" (some (.arr wrongCodes))).map
        Violation.heading =
      [("codes[1]", .memberEnum), ("codes[1]", .memberMax), ("codes[1]", .memberRegex),
        ("codes[2]", .duplicate), ("codes[2]", .memberEnum), ("codes[2]", .memberMax),
        ("codes[2]", .memberRegex)] ∧
    List.Forall₂ Violation.OfMember
      ((codeDemands.valueRule .string).violations "codes[2]" (some (.str "xyz")))
      (((codeDemands.memberRule .set .string).violations "codes" (some (.arr wrongCodes))).filter
        fun v => v.path == "codes[2]" && v.kind != .duplicate) := by
  have hvalue : (codeDemands.valueRule .string).definitionViolations = [] := by decide +kernel
  have hmember : (codeDemands.memberRule .set .string).definitionViolations = [] := by
    decide +kernel
  have hpath : Path.index "codes" 2 = "codes[2]" := by decide +kernel
  obtain ⟨hreports, -⟩ := @members_checked_as_values .string .set rfl rfl
  refine ⟨hvalue, hmember, by decide +kernel, by decide +kernel, ?_⟩
  rw [← hpath]
  exact hreports codeDemands hvalue hmember "codes" wrongCodes 2 (.str "xyz") rfl (by simp)

end RecordSchema
