import RecordSchema.Proofs.Json.Equality
import RecordSchema.Proofs.Rule.Members

/-!
# How many duplicates a set has

A set is scanned once, and each member is held against the members before it.  So what is counted
seems to hang on the order in which the members stand.  It does not as long as equality of literals
is an equivalence relation on them: then each class of equal members has one member that comes
first, and all the others are duplicates (`Settings.duplicatesIn_memberFindings`).

* `literalClasses`: the classes of equal members.
* `Unambiguous`: no number among the members equals two different whole numbers among them.
* `duplicates_counted_by_classes`: what is known of equality of literals, and the number of
  duplicates of a set of unambiguous members, which is the same in every order.
* `straddled_miscounted`: a set of three numbers that is ambiguous, and whose duplicates are one or
  two, depending on their order.
-/

namespace RecordSchema

/-! ### Classes of equal literals -/

/-- The members that equal a literal. -/
def literalClass (members : List Json) (x : Json) : Set Json :=
  {y | y ∈ members ∧ x.sameLiteral y = true}

/-- The classes of equal members. -/
def literalClasses (members : List Json) : Set (Set Json) :=
  literalClass members '' {x | x ∈ members}

/-- No number among the members equals two different whole numbers among them. -/
def Unambiguous (members : List Json) : Prop :=
  ∀ x ∈ members, ∀ y ∈ members, ∀ z ∈ members,
    x.sameLiteral y = true → y.sameLiteral z = true → ¬ Json.Straddles x y z

/-- The classes know nothing of the order of the members. -/
theorem literalClasses_perm {members others : List Json} (perm : members.Perm others) :
    literalClasses members = literalClasses others := by
  have hmem : ∀ x, x ∈ members ↔ x ∈ others := fun x => perm.mem_iff
  have hclass : literalClass members = literalClass others := by
    funext x
    simp only [literalClass, hmem]
  simp only [literalClasses, hclass, hmem]

theorem Unambiguous.perm {members others : List Json} (h : Unambiguous members)
    (perm : members.Perm others) : Unambiguous others := by
  intro x hx y hy z hz
  exact h x (perm.mem_iff.mpr hx) y (perm.mem_iff.mpr hy) z (perm.mem_iff.mpr hz)

theorem Unambiguous.of_le {members : List Json}
    (small : ∀ n : Int, .num (.int n) ∈ members → n.natAbs ≤ 2 ^ 53) : Unambiguous members := by
  rintro x hx y hy z hz hxy hyz ⟨a, b, c, rfl, rfl, rfl, m, n, rfl, rfl, hne, -⟩
  have hmb := Number.eqv_of_sameValue (a := .int m) (b := b) hxy
  have hbn := Number.eqv_of_sameValue (a := b) (b := .int n) hyz
  exact hne (Binary64.eq_of_ofInt_eqv (small m hx) (small n hz) (Binary64.eqv_trans hmb hbn))

section

variable {members : List Json} (distinct : ∀ x ∈ members, x.DistinctNames)
  (unambiguous : Unambiguous members)
include distinct unambiguous

theorem literalClass_eq_iff {x y : Json} (hx : x ∈ members) (hy : y ∈ members) :
    literalClass members x = literalClass members y ↔ x.sameLiteral y = true := by
  constructor
  · intro hclass
    have hself : y ∈ literalClass members y := ⟨hy, Json.sameLiteral_refl (distinct y hy)⟩
    rw [← hclass] at hself
    exact hself.2
  · intro hxy
    have hyx : y.sameLiteral x = true := by
      rw [Json.sameLiteral_comm (distinct y hy) (distinct x hx)]
      exact hxy
    have htrans : ∀ {a b c : Json}, a ∈ members → b ∈ members → c ∈ members →
        a.sameLiteral b = true → b.sameLiteral c = true → a.sameLiteral c = true := by
      intro a b c ha hb hc hab hbc
      exact (Json.sameLiteral_trans_iff hab hbc).mpr (unambiguous a ha b hb c hc hab hbc)
    ext z
    constructor
    · rintro ⟨hz, hxz⟩
      exact ⟨hz, htrans hy hx hz hyx hxz⟩
    · rintro ⟨hz, hyz⟩
      exact ⟨hz, htrans hx hy hz hxy hyz⟩

/-- One more member gives one more class unless it equals a member before it. -/
theorem ncard_classes_append {earlier : List Json} {item : Json}
    (hearlier : ∀ x ∈ earlier, x ∈ members) (hitem : item ∈ members) :
    (literalClass members '' {x | x ∈ earlier ++ [item]}).ncard +
        (if item.isAmong earlier then 1 else 0) =
      (literalClass members '' {x | x ∈ earlier}).ncard + 1 := by
  have hinsert : literalClass members '' {x | x ∈ earlier ++ [item]} =
      insert (literalClass members item) (literalClass members '' {x | x ∈ earlier}) := by
    rw [← Set.image_insert_eq]
    congr 1
    ext x
    simp [or_comm]
  have hfinite : (literalClass members '' {x | x ∈ earlier}).Finite :=
    (List.finite_toSet earlier).image _
  have hmem : literalClass members item ∈ literalClass members '' {x | x ∈ earlier} ↔
      item.isAmong earlier = true := by
    rw [Json.isAmong_iff]
    constructor
    · rintro ⟨x, hx, hclass⟩
      exact ⟨x, hx, (literalClass_eq_iff distinct unambiguous (hearlier x hx) hitem).mp hclass⟩
    · rintro ⟨x, hx, hsame⟩
      exact ⟨x, hx, (literalClass_eq_iff distinct unambiguous (hearlier x hx) hitem).mpr hsame⟩
  rw [hinsert]
  by_cases hamong : item.isAmong earlier = true
  · rw [Set.insert_eq_of_mem (hmem.mpr hamong), if_pos hamong]
  · rw [Set.ncard_insert_of_notMem (fun h => hamong (hmem.mp h)) hfinite, if_neg hamong,
      Nat.add_zero]

end

/-! ### Duplicates among findings -/

/-- The number of duplicates among findings. -/
def duplicatesIn (findings : List Finding) : Nat :=
  findings.countP fun f => f.issue.kind == .duplicate

theorem duplicatesIn_append (findings others : List Finding) :
    duplicatesIn (findings ++ others) = duplicatesIn findings + duplicatesIn others :=
  List.countP_append

theorem duplicatesIn_eq_zero {findings : List Finding}
    (h : ∀ f ∈ findings, ∀ item, f.issue ≠ .duplicate item) : duplicatesIn findings = 0 := by
  rw [duplicatesIn, List.countP_eq_zero]
  intro f hf hkind
  obtain ⟨item, hitem⟩ := Issue.eq_duplicate_of_kind (beq_iff_eq.mp hkind)
  exact h f hf item hitem

namespace Settings

variable {s : Settings}

theorem duplicatesIn_memberIssues (hset : s.kind = .set) (earlier : List Json) (item : Json)
    (location : Location) :
    duplicatesIn ((s.memberIssues earlier item).map (Finding.mk location)) =
      if item.isAmong earlier then 1 else 0 := by
  have hothers : ∃ others, s.memberIssues earlier item =
      (if s.kind = .set ∧ item.isAmong earlier then [.duplicate item] else []) ++ others ∧
        ∀ issue ∈ others, ∀ other, issue ≠ .duplicate other := by
    by_cases hall : ∀ k ∈ s.memberKind, k.admits item = true
    · refine ⟨_, memberIssues_of_admits hall earlier, fun issue hissue other => ?_⟩
      exact Facets.ne_duplicate_of_mem_issues hissue other
    · push Not at hall
      obtain ⟨kind, hkind, hnot⟩ := hall
      refine ⟨_, memberIssues_of_not_admits hkind hnot earlier, fun issue hissue other => ?_⟩
      rw [List.mem_singleton.mp hissue]
      simp
  obtain ⟨others, heq, hne⟩ := hothers
  have hzero : duplicatesIn (others.map (Finding.mk location)) = 0 := by
    refine duplicatesIn_eq_zero fun f hf other => ?_
    obtain ⟨issue, hissue, rfl⟩ := List.mem_map.mp hf
    exact hne issue hissue other
  rw [heq, List.map_append, duplicatesIn_append, hzero, Nat.add_zero]
  by_cases hamong : item.isAmong earlier = true
  · rw [if_pos ⟨hset, hamong⟩, if_pos hamong]
    rfl
  · rw [if_neg fun h => hamong h.2, if_neg hamong]
    rfl

/-- **Duplicates and classes make up the members.**  The induction goes over the members that are
left; those before have given a class or a duplicate each. -/
theorem duplicatesIn_memberFindings (hset : s.kind = .set) {members : List Json}
    (distinct : ∀ x ∈ members, x.DistinctNames) (unambiguous : Unambiguous members)
    {earlier items : List Json} (hearlier : ∀ x ∈ earlier, x ∈ members)
    (hitems : ∀ x ∈ items, x ∈ members) :
    duplicatesIn (s.memberFindings earlier items) +
        (literalClass members '' {x | x ∈ earlier ++ items}).ncard =
      items.length + (literalClass members '' {x | x ∈ earlier}).ncard := by
  induction items generalizing earlier with
  | nil =>
    rw [memberFindings, List.append_nil]
    rfl
  | cons item rest ih =>
    obtain ⟨hitem, hrest⟩ := List.forall_mem_cons.mp hitems
    have hearlier' : ∀ x ∈ earlier ++ [item], x ∈ members := by
      intro x hx
      rcases List.mem_append.mp hx with hx | hx
      · exact hearlier x hx
      · rw [List.mem_singleton.mp hx]
        exact hitem
    have hlater := ih hearlier' hrest
    have hstep := ncard_classes_append distinct unambiguous hearlier hitem
    rw [List.append_assoc, List.singleton_append] at hlater
    rw [memberFindings, duplicatesIn_append, duplicatesIn_memberIssues hset, List.length_cons]
    omega

end Settings

/-! ### Duplicates of a set -/

/-- The number of duplicates that are reported of an array. -/
def Rule.duplicateCount (rule : Rule) (name : String) (items : List Json) : Nat :=
  (rule.violations name (some (.arr items))).countP fun v => v.kind == .duplicate

/-- A set has no schema inside, and its size is no duplicate. -/
theorem Rule.duplicateCount_eq {rule : Rule} (accepted : rule.definitionViolations = [])
    (hset : rule.settings.kind = .set) (name : String) (items : List Json) :
    rule.duplicateCount name items = duplicatesIn (rule.settings.memberFindings [] items) := by
  have hnested : rule.nested = none := by
    have hdefects : rule.defects = [] := List.map_eq_nil_iff.mp accepted
    obtain ⟨-, htakes, -⟩ := Rule.defects_eq_nil_iff.mp hdefects
    cases hn : rule.nested with
    | none => rfl
    | some schema =>
      rcases htakes (by simp [hn]) with hobject | ⟨hlist, -⟩
      · rw [hset] at hobject
        cases hobject
      · rw [hset] at hlist
        cases hlist
  have hadmits : rule.settings.kind.admits (.arr items) = true := by
    rw [hset]
    rfl
  have hcollection : rule.settings.kind.isCollection = true := by
    rw [hset]
    rfl
  have hfindings : rule.findings (some (.arr items)) =
      (boundIssues .value (some (.itemCount items.length, .ofNat items.length))
          rule.settings.least rule.settings.most).map Finding.here ++
        rule.settings.memberFindings [] items := by
    rw [findings_of_admits (by simp) hadmits, Settings.ownFindings_collection hcollection,
      Settings.collectionFindings, insideFindings, hnested, List.append_nil]
  have hsize : duplicatesIn ((boundIssues .value
      (some (.itemCount items.length, .ofNat items.length)) rule.settings.least
        rule.settings.most).map Finding.here) = 0 := by
    refine duplicatesIn_eq_zero fun f hf item => ?_
    obtain ⟨issue, hissue, rfl⟩ := List.mem_map.mp hf
    obtain ⟨_, _, -, _, _, -, rfl⟩ := mem_boundIssues.mp hissue
    simp [Finding.here]
  have hcount : rule.duplicateCount name items =
      duplicatesIn (rule.findings (some (.arr items))) := by
    rw [duplicateCount, violations, List.countP_map]
    rfl
  rw [hcount, hfindings, duplicatesIn_append, hsize, Nat.zero_add]

theorem Rule.duplicateCount_add_classes {rule : Rule} (accepted : rule.definitionViolations = [])
    (hset : rule.settings.kind = .set) (name : String) {items : List Json}
    (distinct : ∀ x ∈ items, x.DistinctNames) (unambiguous : Unambiguous items) :
    rule.duplicateCount name items + (literalClasses items).ncard = items.length := by
  have hall : duplicatesIn (rule.settings.memberFindings [] items) +
      (literalClass items '' {x | x ∈ [] ++ items}).ncard =
        items.length + (literalClass items '' {x | x ∈ []}).ncard :=
    Settings.duplicatesIn_memberFindings hset distinct unambiguous (by simp) fun _ hx => hx
  rw [duplicateCount_eq accepted hset]
  simpa [literalClasses] using hall

/-- **Duplicates are counted by classes of equal members.**  Equality of literals is reflexive and
symmetric on members in which no object holds a name twice, and it is transitive but for a binary64
number between two different whole numbers, of which one is greater than `2 ^ 53`.  If no such number
is among the members of a set, the duplicates and the classes of equal members make up the members,
whatever the order. -/
theorem duplicates_counted_by_classes {items : List Json}
    (distinct : ∀ x ∈ items, x.DistinctNames) :
    (∀ x ∈ items, x.sameLiteral x = true) ∧
    (∀ x ∈ items, ∀ y ∈ items, x.sameLiteral y = y.sameLiteral x) ∧
    (∀ x ∈ items, ∀ y ∈ items, ∀ z ∈ items, x.sameLiteral y = true → y.sameLiteral z = true →
      (x.sameLiteral z = true ↔ ¬ Json.Straddles x y z)) ∧
    ((∀ n : Int, .num (.int n) ∈ items → n.natAbs ≤ 2 ^ 53) → Unambiguous items) ∧
    (Unambiguous items →
      ∀ rule : Rule, rule.definitionViolations = [] → rule.settings.kind = .set → ∀ name,
        rule.duplicateCount name items = items.length - (literalClasses items).ncard ∧
        (literalClasses items).ncard ≤ items.length ∧
        ∀ others, items.Perm others →
          rule.duplicateCount name others = rule.duplicateCount name items) := by
  refine ⟨fun x hx => Json.sameLiteral_refl (distinct x hx), fun x hx y hy => ?_,
    fun x _ y _ z _ => Json.sameLiteral_trans_iff, Unambiguous.of_le, ?_⟩
  · exact Json.sameLiteral_comm (distinct x hx) (distinct y hy)
  · intro unambiguous rule accepted hset name
    have hitems := Rule.duplicateCount_add_classes accepted hset name distinct unambiguous
    refine ⟨by omega, by omega, fun others perm => ?_⟩
    have hdistinct : ∀ x ∈ others, x.DistinctNames := fun x hx =>
      distinct x (perm.mem_iff.mpr hx)
    have hothers := Rule.duplicateCount_add_classes accepted hset name hdistinct
      (unambiguous.perm perm)
    have hlength := perm.length_eq
    rw [← literalClasses_perm perm] at hothers
    omega

/-- The rule for sets of anything. -/
def anySet : Rule :=
  ⟨{ kind := .set }, none⟩

/-- Members among which one number and one object occur twice, in different forms. -/
def mixedMembers : List Json :=
  [.num (.int 1), .str "a", .obj [("a", .null), ("b", .num (.int 1))], .num (.float (.ofInt 1)),
    .obj [("b", .num (.float (.ofInt 1))), ("a", .null)],
    .obj [("b", .num (.int 1)), ("a", .null)]]

/-- A number in two forms and an object with its fields in another order are duplicates, but inside
an object the form of a number counts. -/
theorem mixedMembers_duplicates_counted :
    anySet.definitionViolations = [] ∧ (∀ x ∈ mixedMembers, x.DistinctNames) ∧
      Unambiguous mixedMembers ∧ anySet.duplicateCount "value" mixedMembers = 2 ∧
      (literalClasses mixedMembers).ncard = 4 ∧
      anySet.duplicateCount "value" mixedMembers.reverse = 2 := by
  have accepted : anySet.definitionViolations = [] := by decide +kernel
  have distinct : ∀ x ∈ mixedMembers, x.DistinctNames := by
    simp [mixedMembers, Json.DistinctNames, Json.fieldsDistinct, Fields.names]
  obtain ⟨-, -, -, hsmall, hcounted⟩ := duplicates_counted_by_classes distinct
  have unambiguous : Unambiguous mixedMembers := by
    refine hsmall fun n hn => ?_
    obtain rfl : n = 1 := by simpa [mixedMembers] using hn
    decide
  have htwo : anySet.duplicateCount "value" mixedMembers = 2 := by decide +kernel
  obtain ⟨hcount, hle, hperm⟩ := hcounted unambiguous anySet accepted rfl "value"
  have hlength : mixedMembers.length = 6 := rfl
  refine ⟨accepted, distinct, unambiguous, htwo, by omega, ?_⟩
  rw [hperm _ (List.reverse_perm _).symm, htwo]

/-! ### Numbers at the limits of precision -/

/-- The first whole number that binary64 does not hold, which is rounded down. -/
def odd : Json := .num (.int 9007199254740993)

/-- The whole number before it. -/
def even : Json := .num (.int 9007199254740992)

/-- The number in binary64 to which both are rounded. -/
def rounded : Json := .num (.float (.ofInt 9007199254740992))

/-- Equality of literals is not transitive, and the number of duplicates depends on the order. -/
theorem straddled_miscounted :
    odd.sameLiteral rounded = true ∧ rounded.sameLiteral even = true ∧
      odd.sameLiteral even = false ∧ anySet.definitionViolations = [] ∧
      [odd, rounded, even].Perm [odd, even, rounded] ∧
      anySet.duplicateCount "value" [odd, rounded, even] = 2 ∧
      anySet.duplicateCount "value" [odd, even, rounded] = 1 := by
  refine ⟨by decide +kernel, by decide +kernel, by decide +kernel, by decide +kernel, ?_,
    by decide +kernel, by decide +kernel⟩
  exact (List.Perm.swap even rounded []).cons odd

end RecordSchema
