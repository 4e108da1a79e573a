import RecordSchema.Proofs.Description.Grammar
import RecordSchema.Proofs.Rule.Below
import RecordSchema.Proofs.Rule.Coherence

/-!
# Constraints report on their own

No constraint of a rule hides what another one reports.  A rule that keeps only some of its
constraints still has its kind and that of its members: `Rule.bare` keeps no constraint and
`Rule.only` keeps one.  What a rule reports of a value of its kind is what it reports bare, together
with what it reports with each of its constraints alone.

* `Distributes`: a report of the constraints that are kept is one of none of them or of one of them
  alone.  Such reports are closed under what the check does with them, so
  `Rule.distributes_findings` goes from a single setting to a whole rule.
* `Rule.Built.bare_only`: callers that can make a rule can make it without constraints, or with one.

`constraints_report_alone` puts this together, for the rules inside a rule as well.
-/

namespace RecordSchema

/-! ### Constraints -/

/-- The settings that restrict the values of a kind. -/
inductive Constraint where
  | enumeration
  | least
  | most
  | earliest
  | latest
  | pattern
  | memberLeast
  | memberMost
  | nested
deriving DecidableEq, Repr

/-- The settings with no constraints but those that are kept. -/
def Settings.keeping (s : Settings) (keep : Constraint → Bool) : Settings :=
  { kind := s.kind
    enumeration := if keep .enumeration then s.enumeration else none
    least := if keep .least then s.least else none
    most := if keep .most then s.most else none
    earliest := if keep .earliest then s.earliest else none
    latest := if keep .latest then s.latest else none
    pattern := if keep .pattern then s.pattern else none
    memberKind := s.memberKind
    memberLeast := if keep .memberLeast then s.memberLeast else none
    memberMost := if keep .memberMost then s.memberMost else none }

namespace Rule

/-- The rule with no constraints but those that are kept. -/
def keeping (rule : Rule) (keep : Constraint → Bool) : Rule :=
  ⟨rule.settings.keeping keep, if keep .nested then rule.nested else none⟩

/-- The rule without constraints. -/
def bare (rule : Rule) : Rule :=
  rule.keeping fun _ => false

/-- The rule with one constraint. -/
def only (rule : Rule) (c : Constraint) : Rule :=
  rule.keeping (· == c)

/-- The rule has a constraint. -/
def Declares (rule : Rule) : Constraint → Prop
  | .enumeration => rule.settings.enumeration.isSome = true
  | .least => rule.settings.least.isSome = true
  | .most => rule.settings.most.isSome = true
  | .earliest => rule.settings.earliest.isSome = true
  | .latest => rule.settings.latest.isSome = true
  | .pattern => rule.settings.pattern.isSome = true
  | .memberLeast => rule.settings.memberLeast.isSome = true
  | .memberMost => rule.settings.memberMost.isSome = true
  | .nested => rule.nested.isSome = true

theorem only_eq_bare {rule : Rule} {c : Constraint} (h : ¬ rule.Declares c) :
    rule.only c = rule.bare := by
  cases c <;>
  · simp only [Declares, Option.isSome_iff_ne_none, ne_eq, not_not] at h
    simp [only, bare, keeping, Settings.keeping, h]

end Rule

/-! ### Reports that distribute over constraints -/

/-- What is reported with the constraints that are kept is reported without any, or with one of them
alone. -/
def Distributes {α : Type} (report : (Constraint → Bool) → List α) : Prop :=
  ∀ x keep, x ∈ report keep ↔
    x ∈ report (fun _ => false) ∨ ∃ c, keep c = true ∧ x ∈ report (· == c)

namespace Distributes

variable {α β : Type} {report other : (Constraint → Bool) → List α}

theorem const (l : List α) : Distributes fun _ => l := by
  intro x keep
  refine ⟨Or.inl, ?_⟩
  rintro (h | ⟨c, -, h⟩)
  · exact h
  · exact h

theorem append (h : Distributes report) (h' : Distributes other) :
    Distributes fun keep => report keep ++ other keep := by
  intro x keep
  simp only [List.mem_append]
  rw [h x keep, h' x keep]
  simp only [and_or_left, exists_or]
  exact or_or_or_comm

theorem map (h : Distributes report) (g : α → β) :
    Distributes fun keep => (report keep).map g := by
  intro y keep
  simp only [List.mem_map]
  simp only [fun x => h x keep, or_and_right, exists_or]
  refine or_congr Iff.rfl ⟨?_, ?_⟩
  · rintro ⟨x, ⟨c, hc, hx⟩, rfl⟩
    exact ⟨c, hc, x, hx, rfl⟩
  · rintro ⟨c, hc, x, hx, rfl⟩
    exact ⟨x, ⟨c, hc, hx⟩, rfl⟩

theorem kept {γ : Type} {f : Option γ → List α} (hnone : f none = []) (c : Constraint)
    (setting : Option γ) : Distributes fun keep => f (if keep c then setting else none) := by
  intro x keep
  have hiff : ∀ b : Bool, x ∈ f (if b then setting else none) ↔ b = true ∧ x ∈ f setting := by
    intro b
    cases b <;> simp [hnone]
  simp only [hiff]
  refine ⟨fun ⟨hc, h⟩ => Or.inr ⟨c, hc, beq_self_eq_true c, h⟩, ?_⟩
  rintro (⟨hfalse, -⟩ | ⟨c', hc', he, h⟩)
  · cases hfalse
  · rw [← eq_of_beq he] at hc'
    exact ⟨hc', h⟩

end Distributes

/-! ### One value -/

section

variable {scope : Scope}

theorem passedLimits_sides {α : Type} (lt : α → α → Bool) (x : α) (least most : Option α) :
    passedLimits lt x least most =
      passedLimits lt x least none ++ passedLimits lt x none most := by
  simp [passedLimits]

/-- Each of two limits is looked at on its own. -/
theorem boundIssues_sides (measured : Option (Measured × Binary64)) (least most : Option Bound) :
    boundIssues scope measured least most =
      boundIssues scope measured least none ++ boundIssues scope measured none most := by
  match measured with
  | none => rfl
  | some (what, measure) =>
    simp only [boundIssues]
    rw [passedLimits_sides, List.map_append]

theorem pointIssues_sides (scale : Option Scale) (earliest latest : Option Temporal)
    (value : Json) :
    pointIssues scope scale earliest latest value =
      pointIssues scope scale earliest none value ++ pointIssues scope scale none latest value := by
  cases scale with
  | none => rfl
  | some scale =>
    cases value with
    | str text =>
      simp only [pointIssues]
      cases Temporal.read? scale text with
      | none => rfl
      | some point =>
        dsimp only
        rw [passedLimits_sides, List.map_append]
    | _ => rfl

theorem boundIssues_none (measured : Option (Measured × Binary64)) :
    boundIssues scope measured none none = [] := by
  cases measured <;> rfl

theorem pointIssues_none (scale : Option Scale) (value : Json) :
    pointIssues scope scale none none value = [] := by
  cases scale with
  | none => rfl
  | some scale =>
    cases value with
    | str text =>
      rw [pointIssues]
      cases Temporal.read? scale text <;> rfl
    | _ => rfl

theorem distributes_boundIssues (scope : Scope) (measured : Option (Measured × Binary64))
    (lower upper : Constraint) (least most : Option Bound) :
    Distributes fun keep => boundIssues scope measured
      (if keep lower then least else none) (if keep upper then most else none) := by
  have hleast : Distributes fun keep =>
      boundIssues scope measured (if keep lower then least else none) none :=
    .kept (f := fun limit => boundIssues scope measured limit none) (boundIssues_none _) _ _
  have hmost : Distributes fun keep =>
      boundIssues scope measured none (if keep upper then most else none) :=
    .kept (boundIssues_none _) _ _
  simpa only [← boundIssues_sides] using hleast.append hmost

theorem distributes_pointIssues (scope : Scope) (scale : Option Scale)
    (earliest latest : Option Temporal) (value : Json) :
    Distributes fun keep =>
      pointIssues scope scale (if keep .earliest then earliest else none)
        (if keep .latest then latest else none) value := by
  have hearliest : Distributes fun keep =>
      pointIssues scope scale (if keep .earliest then earliest else none) none value :=
    .kept (f := fun point => pointIssues scope scale point none value) (pointIssues_none _ _) _ _
  have hlatest : Distributes fun keep =>
      pointIssues scope scale none (if keep .latest then latest else none) value :=
    .kept (f := fun point => pointIssues scope scale none point value) (pointIssues_none _ _) _ _
  simpa only [← pointIssues_sides] using hearliest.append hlatest

/-- The facets that are left with the constraints that are kept. -/
def Facets.keeping (f : Facets) (lower upper : Constraint) (keep : Constraint → Bool) : Facets :=
  { f with
    enumeration := if keep .enumeration then f.enumeration else none
    least := if keep lower then f.least else none
    most := if keep upper then f.most else none
    earliest := if keep .earliest then f.earliest else none
    latest := if keep .latest then f.latest else none
    pattern := if keep .pattern then f.pattern else none }

theorem Facets.distributes_issues (f : Facets) (scope : Scope) (lower upper : Constraint)
    (value : Json) :
    Distributes fun keep => (f.keeping lower upper keep).issues scope value := by
  have hlisted : Distributes fun keep =>
      unlistedIssues scope (if keep .enumeration then f.enumeration else none) value :=
    .kept (f := fun listed => unlistedIssues scope listed value) rfl _ _
  have hpattern : Distributes fun keep =>
      patternIssues scope (if keep .pattern then f.pattern else none) value :=
    .kept (f := fun pattern => patternIssues scope pattern value) rfl _ _
  have hbounds := distributes_boundIssues scope (f.gauge.measure? value) lower upper
    f.least f.most
  have hpoints := distributes_pointIssues scope f.scale f.earliest f.latest value
  exact ((hlisted.append hbounds).append hpoints).append hpattern

end

/-! ### Values and their members -/

namespace Settings

variable (s : Settings)

theorem memberFacets_keeping (keep : Constraint → Bool) :
    (s.keeping keep).memberFacets = s.memberFacets.keeping .memberLeast .memberMost keep := by
  by_cases h : s.memberKind = some .string <;> simp [memberFacets, keeping, Facets.keeping, h]

theorem distributes_facets (value : Json) :
    Distributes fun keep => (s.keeping keep).facets.issues .value value :=
  s.facets.distributes_issues .value .least .most value

theorem memberIssues_of_admits {s : Settings} {item : Json}
    (h : ∀ kind ∈ s.memberKind, kind.admits item = true) (earlier : List Json) :
    s.memberIssues earlier item =
      (if s.kind = .set ∧ item.isAmong earlier then [.duplicate item] else []) ++
        s.memberFacets.issues .member item := by
  rw [memberIssues]
  cases hk : s.memberKind with
  | none => rfl
  | some kind => simp only [h kind hk, ↓reduceIte]

theorem memberIssues_of_not_admits {s : Settings} {kind : Kind} {item : Json}
    (hk : s.memberKind = some kind) (h : ¬ kind.admits item = true) (earlier : List Json) :
    s.memberIssues earlier item =
      (if s.kind = .set ∧ item.isAmong earlier then [.duplicate item] else []) ++
        [.wrongMemberKind kind item] := by
  simp only [memberIssues, hk, if_neg h]

/-- Whether the facets of a member are looked at depends on its kind alone, and that is kept. -/
theorem distributes_memberIssues (earlier : List Json) (item : Json) :
    Distributes fun keep => (s.keeping keep).memberIssues earlier item := by
  have hrepeated := Distributes.const
    (if s.kind = .set ∧ item.isAmong earlier then [Issue.duplicate item] else [])
  by_cases hall : ∀ kind ∈ s.memberKind, kind.admits item = true
  · have hissues := fun keep => memberIssues_of_admits (s := s.keeping keep) hall earlier
    simp only [hissues, memberFacets_keeping]
    exact hrepeated.append
      (s.memberFacets.distributes_issues .member .memberLeast .memberMost item)
  · obtain ⟨kind, hk, hkind⟩ : ∃ kind, s.memberKind = some kind ∧ ¬ kind.admits item = true := by
      simpa using hall
    have hissues := fun keep => memberIssues_of_not_admits (s := s.keeping keep) hk hkind earlier
    simp only [hissues]
    exact hrepeated.append (.const [Issue.wrongMemberKind kind item])

theorem distributes_memberFindings (earlier items : List Json) :
    Distributes fun keep => (s.keeping keep).memberFindings earlier items := by
  induction items generalizing earlier with
  | nil => exact .const []
  | cons item rest ih => exact ((s.distributes_memberIssues earlier item).map _).append (ih _)

/-- What the settings find distributes: members are looked at one by one. -/
theorem distributes_ownFindings {value : Json} (hkind : s.kind.admits value = true) :
    Distributes fun keep => (s.keeping keep).ownFindings value := by
  by_cases hcoll : s.kind.isCollection = true
  · obtain ⟨items, rfl⟩ := Kind.eq_arr_of_admits hcoll hkind
    have hsize := distributes_boundIssues .value
      (some (.itemCount items.length, .ofNat items.length)) .least .most s.least s.most
    have hown : ∀ keep, (s.keeping keep).ownFindings (.arr items) =
        (s.keeping keep).collectionFindings items :=
      fun keep => ownFindings_collection (s := s.keeping keep) hcoll items
    simp only [hown]
    exact (hsize.map Finding.here).append (s.distributes_memberFindings [] items)
  · have hown : ∀ keep, (s.keeping keep).ownFindings value =
        ((s.keeping keep).facets.issues .value value).map Finding.here :=
      fun keep => ownFindings_single (s := s.keeping keep) hcoll value
    simp only [hown]
    exact (s.distributes_facets value).map _

theorem memberFindings_keeping_all (earlier items : List Json) :
    (s.keeping fun _ => true).memberFindings earlier items = s.memberFindings earlier items := by
  induction items generalizing earlier with
  | nil => rfl
  | cons item rest ih =>
    rw [memberFindings, memberFindings, ih]
    rfl

theorem ownFindings_keeping_all (value : Json) :
    (s.keeping fun _ => true).ownFindings value = s.ownFindings value := by
  cases value with
  | arr items =>
    simp only [ownFindings, collectionFindings, memberFindings_keeping_all]
    rfl
  | _ => rfl

end Settings

/-! ### Rules -/

namespace Rule

variable {rule : Rule} {value : Json}

theorem distributes_insideFindings (rule : Rule) (value : Json) :
    Distributes fun keep => (rule.keeping keep).insideFindings value :=
  .kept (f := fun nested => (⟨rule.settings, nested⟩ : Rule).insideFindings value) rfl .nested
    rule.nested

theorem distributes_findings (present : value ≠ .null)
    (kind : rule.settings.kind.admits value = true) :
    Distributes fun keep => (rule.keeping keep).findings (some value) := by
  have hfindings : ∀ keep, (rule.keeping keep).findings (some value) =
      (rule.settings.keeping keep).ownFindings value ++ (rule.keeping keep).insideFindings value :=
    fun keep => @findings_of_admits (rule.keeping keep) value present kind
  simp only [hfindings]
  exact (rule.settings.distributes_ownFindings kind).append (rule.distributes_insideFindings value)

theorem findings_keeping_all (present : value ≠ .null) :
    (rule.keeping fun _ => true).findings (some value) = rule.findings (some value) := by
  rw [findings_some present, findings_some present, keeping, Settings.ownFindings_keeping_all]
  rfl

/-- What is reported of a value of the right kind is reported without constraints or with one of
those that the rule has. -/
theorem mem_violations_iff (present : value ≠ .null)
    (kind : rule.settings.kind.admits value = true) (name : String) (v : Violation) :
    v ∈ rule.violations name (some value) ↔ v ∈ rule.bare.violations name (some value) ∨
      ∃ c, rule.Declares c ∧ v ∈ (rule.only c).violations name (some value) := by
  have hreports : Distributes fun keep => (rule.keeping keep).violations name (some value) :=
    (distributes_findings present kind).map _
  have hall := hreports v fun _ => true
  rw [violations, ← findings_keeping_all present]
  refine hall.trans ⟨?_, ?_⟩
  · rintro (h | ⟨c, -, h⟩)
    · exact Or.inl h
    · -- A constraint that is kept without being there leaves the bare rule.
      by_cases hc : rule.Declares c
      · exact Or.inr ⟨c, hc, h⟩
      · have h : v ∈ (rule.only c).violations name (some value) := h
        rw [only_eq_bare hc] at h
        exact Or.inl h
  · rintro (h | ⟨c, -, h⟩)
    · exact Or.inl h
    · exact Or.inr ⟨c, rfl, h⟩

end Rule

/-! ### Rules with fewer constraints -/

theorem LimitsFit.mono {measured counted : Prop} {least most least' most' : Option Bound}
    (h : LimitsFit measured counted least most) (hleast : ∀ l ∈ least', l ∈ least)
    (hmost : ∀ m ∈ most', m ∈ most) : LimitsFit measured counted least' most' where
  applicable := fun limit hl => h.applicable limit (hl.imp (hleast limit) (hmost limit))
  nonnegative := fun hc limit hl => h.nonnegative hc limit (hl.imp (hleast limit) (hmost limit))
  ordered := fun l hl m hm => h.ordered l (hleast l hl) m (hmost m hm)

theorem mem_of_mem_kept {α : Type} {b : Bool} {setting : Option α} {x : α}
    (h : x ∈ if b then setting else none) : x ∈ setting :=
  (Option.mem_ite_none_right.mp h).2

theorem Settings.Consistent.keeping {s : Settings} (h : s.Consistent) (keep : Constraint → Bool) :
    (s.keeping keep).Consistent where
  enumeration := fun listed hl => h.enumeration listed (mem_of_mem_kept hl)
  limits := h.limits.mono (fun _ => mem_of_mem_kept) fun _ => mem_of_mem_kept
  points := fun a ha b hb => h.points a (mem_of_mem_kept ha) b (mem_of_mem_kept hb)
  memberKind := h.memberKind
  memberLimits := h.memberLimits.mono (fun _ => mem_of_mem_kept) fun _ => mem_of_mem_kept
  pattern := fun p hp => h.pattern p (mem_of_mem_kept hp)

theorem Rule.keeping_defects {rule : Rule} (h : rule.defects = []) (keep : Constraint → Bool) :
    (rule.keeping keep).defects = [] := by
  obtain ⟨hconsistent, hschema, -⟩ := Rule.defects_eq_nil_iff.mp h
  refine Rule.defects_eq_nil_iff.mpr ⟨hconsistent.keeping keep, fun hnested => hschema ?_, ?_⟩
  · obtain ⟨schema, hs⟩ := Option.isSome_iff_exists.mp hnested
    exact Option.isSome_of_mem (mem_of_mem_kept hs)
  · intro value hvalue
    cases hvalue

namespace Draft

variable (d : Draft)

/-- The draft with no constraints but those that are kept. -/
def keeping (keep : Constraint → Bool) : Draft :=
  { kind := d.kind
    enumeration := if keep .enumeration then d.enumeration else none
    least := if keep .least then d.least else none
    most := if keep .most then d.most else none
    earliest := if keep .earliest then d.earliest else none
    latest := if keep .latest then d.latest else none
    pattern := if keep .pattern then d.pattern else none
    memberKind := d.memberKind
    memberLeast := if keep .memberLeast then d.memberLeast else none
    memberMost := if keep .memberMost then d.memberMost else none
    nested := if keep .nested then d.nested else none }

/-- The settings of a draft that are kinds. -/
def kindSettings : List Setting :=
  .kind d.kind :: d.memberKind.toList.map .memberKind

/-- The setting of a draft that is a constraint. -/
def constraint? : Constraint → Option Setting
  | .enumeration => d.enumeration.map .enumeration
  | .least => d.least.map .least
  | .most => d.most.map .most
  | .earliest => d.earliest.map .earliest
  | .latest => d.latest.map .latest
  | .pattern => d.pattern.map .pattern
  | .memberLeast => d.memberLeast.map .memberLeast
  | .memberMost => d.memberMost.map .memberMost
  | .nested => d.nested.map .nested

theorem ofSettings_kindSettings : ofSettings d.kindSettings = d.keeping fun _ => false := by
  rw [kindSettings, keeping]
  cases d.memberKind <;> rfl

theorem ofSettings_append_constraint (c : Constraint) :
    ofSettings (d.kindSettings ++ (d.constraint? c).toList) = d.keeping (· == c) := by
  rw [ofSettings, List.foldl_append, ← ofSettings, ofSettings_kindSettings, keeping, keeping]
  cases c with
  | enumeration => rw [constraint?]; cases d.enumeration <;> rfl
  | least => rw [constraint?]; cases d.least <;> rfl
  | most => rw [constraint?]; cases d.most <;> rfl
  | earliest => rw [constraint?]; cases d.earliest <;> rfl
  | latest => rw [constraint?]; cases d.latest <;> rfl
  | pattern => rw [constraint?]; cases d.pattern <;> rfl
  | memberLeast => rw [constraint?]; cases d.memberLeast <;> rfl
  | memberMost => rw [constraint?]; cases d.memberMost <;> rfl
  | nested => rw [constraint?]; cases d.nested <;> rfl

theorem keeping_rule (keep : Constraint → Bool) : (d.keeping keep).rule = d.rule.keeping keep := by
  have hbind {α : Type} (c : Constraint) (text : Option String) (read : String → Option α) :
      (if keep c then text else none).bind read = if keep c then text.bind read else none := by
    split <;> rfl
  simp only [rule, settings, keeping, Rule.keeping, Settings.keeping, hbind]

variable {d}

theorem keeping_defects (h : d.defects = []) (keep : Constraint → Bool) :
    (d.keeping keep).defects = [] := by
  obtain ⟨htexts, hrule⟩ := Draft.defects_eq_nil_iff.mp h
  obtain ⟨hpattern, hpoints⟩ := Draft.textDefects_eq_nil_iff.mp htexts
  refine Draft.defects_eq_nil_iff.mpr ⟨Draft.textDefects_eq_nil_iff.mpr ⟨?_, ?_⟩, ?_⟩
  · exact fun text ht => hpattern text (mem_of_mem_kept ht)
  · exact fun text ht => hpoints text (ht.imp mem_of_mem_kept mem_of_mem_kept)
  · rw [keeping_rule]
    exact Rule.keeping_defects hrule keep

end Draft

namespace Rule.Built

variable {rule : Rule}

/-- Callers can leave constraints out, if there are settings that do so. -/
theorem keeping_of_settings {d : Draft} (clean : d.defects = []) (built : d.rule.Built)
    {keep : Constraint → Bool} {settings : List Setting}
    (made : Draft.ofSettings settings = d.keeping keep)
    (inside : ∀ schema, .nested schema ∈ settings → d.nested = some schema) :
    (d.rule.keeping keep).Built := by
  have hinside : ∀ schema, .nested schema ∈ settings → schema.Built :=
    fun schema hs => .inside built (inside schema hs)
  refine .drafted hinside ?_
  rw [made]
  exact Draft.build_eq_ok_iff.mpr ⟨Draft.keeping_defects clean keep, d.keeping_rule keep⟩

theorem bare_only (built : rule.Built) : rule.bare.Built ∧ ∀ c, (rule.only c).Built := by
  cases built.wellFormed with
  | intro d clean made =>
    subst made
    have hkinds : ∀ schema, .nested schema ∉ d.kindSettings := by
      intro schema h
      simp [Draft.kindSettings] at h
    refine ⟨keeping_of_settings clean built d.ofSettings_kindSettings
      fun schema hs => absurd hs (hkinds schema), fun c => ?_⟩
    refine keeping_of_settings clean built (d.ofSettings_append_constraint c) fun schema hs => ?_
    have hs := (List.mem_append.mp hs).resolve_left (hkinds schema)
    cases c <;> simp_all [Draft.constraint?]

end Rule.Built

/-! ### Reports -/

/-- **No constraint hides what another one reports.**  A rule inside a rule that callers can make
can also be made without constraints, or with one of them alone.  In a value of its kind it reports,
under every name, what it reports without constraints and what it reports with each of its
constraints alone.  Where the value lies inside a value that is checked as a whole, this is also
what is reported there and below, under the path of the place. -/
theorem constraints_report_alone {rule inner : Rule} (built : rule.Built) (h : rule.Encloses inner)
    {value : Json} (present : value ≠ .null) (kind : inner.settings.kind.admits value = true) :
    inner.bare.Built ∧ (∀ c, (inner.only c).Built) ∧
    (∀ name v, v ∈ inner.violations name (some value) ↔
      v ∈ inner.bare.violations name (some value) ∨
        ∃ c, inner.Declares c ∧ v ∈ (inner.only c).violations name (some value)) ∧
    ∀ whole location, rule.Reaches whole location (.value inner (some value)) → ∀ name v,
      v ∈ rule.violationsBelow name whole location ↔
        v ∈ inner.bare.violations (location.pathFrom name) (some value) ∨
          ∃ c, inner.Declares c ∧
            v ∈ (inner.only c).violations (location.pathFrom name) (some value) := by
  obtain ⟨hbare, honly⟩ := (h.built built).bare_only
  refine ⟨hbare, honly, Rule.mem_violations_iff present kind, ?_⟩
  intro whole location hreaches name v
  rw [hreaches.mem_violationsBelow_iff built.wellFormed name v]
  exact Rule.mem_violations_iff present kind _ v

/-! ### Codes

A code that breaks three constraints at once, in an object that breaks one.
-/

/-- Objects without room for a code, which is listed, begins with `a` and has no length. -/
def coded : Json :=
  .obj [("type", .str "object"), ("max", .num (.int 0)),
    ("schema", .obj [("code", .obj [("type", .str "string"), ("enum", .arr [.str "ab"]),
      ("max", .num (.int 0)), ("regex", .str "a")])])]

/-- The rule for codes. -/
def codeRule : Rule :=
  ⟨{ kind := .string, enumeration := some [.str "ab"], most := some (.finite ⟨false, 0⟩),
     pattern := some ⟨"a", .atom (.char [(0x61, 0x61)])⟩ }, none⟩

/-- The rule that is described by `coded`. -/
def codedRule : Rule :=
  ⟨{ kind := .object, most := some (.finite ⟨false, 0⟩) }, some ⟨[("code", codeRule)]⟩⟩

theorem ofDescription_coded : Rule.ofDescription coded = .ok codedRule := by
  cbv

/-- An object with a code that is not listed, begins with another letter and is too long. -/
def wrongCode : Json :=
  .obj [("code", .str "xyz")]

/-- Each constraint on the code reports what it reports alone, below the object around it. -/
theorem codedRule_constraints_report_alone :
    codedRule.Built ∧ codedRule.Encloses codeRule ∧ (codeRule.only .most).Built ∧
      codedRule.Reaches (some wrongCode) [.property "code"]
        (.value codeRule (some (.str "xyz"))) ∧
      (codedRule.violations "p" (some wrongCode)).map Violation.heading =
        [("p", .max), ("p.code", .enum), ("p.code", .max), ("p.code", .regex)] ∧
      ∀ v, v ∈ codedRule.violationsBelow "p" (some wrongCode) [.property "code"] ↔
        v ∈ codeRule.bare.violations "p.code" (some (.str "xyz")) ∨
          ∃ c, codeRule.Declares c ∧
            v ∈ (codeRule.only c).violations "p.code" (some (.str "xyz")) := by
  have distinct : coded.DistinctNames := by
    simp [coded, Json.DistinctNames, Json.fieldsDistinct, Json.itemsDistinct, Fields.names]
  have built : codedRule.Built := .described distinct ofDescription_coded
  have encloses : codedRule.Encloses codeRule := .inside rfl List.mem_cons_self .self
  have reaches : codedRule.Reaches (some wrongCode) [.property "code"]
      (.value codeRule (some (.str "xyz"))) := .inside rfl rfl (.property rfl .here)
  have present : Json.str "xyz" ≠ .null := by simp
  obtain ⟨-, honly, -, hbelow⟩ := constraints_report_alone built encloses present rfl
  exact ⟨built, encloses, honly .most, reaches, by decide +kernel, hbelow _ _ reaches "p"⟩

end RecordSchema
