import RecordSchema.Proofs.Rule.Duplicates
import RecordSchema.Proofs.Rule.Tally

/-!
# Whole numbers are compared exactly

A number that a rule lists and one that a set holds already are met by equality of literals.  On
whole numbers that is equality, although it is decided on signed words for some pairs and on
unsigned words for others (`Number.sameWhole_iff`).  So no two whole numbers are taken for one
another, be they negative, beyond `2 ^ 53` or no signed words.

* `Json.whole_isAmong_iff`: a whole number is found among whole numbers if it is one of them.
* `ncard_literalClasses_whole`: whole numbers have as many classes as there are different ones.
* `whole_numbers_compared_exactly`: what is reported of whole numbers that are listed, and of whole
  numbers in sets.
-/

namespace RecordSchema

/-! ### Whole numbers as literals -/

/-- A whole number as a value. -/
abbrev Json.whole (n : Int) : Json := .num (.int n)

theorem Json.whole_injective : Function.Injective Json.whole := by
  intro m n h
  cases h
  rfl

theorem Json.whole_sameLiteral_iff {m n : Int} :
    (Json.whole m).sameLiteral (.whole n) = true ↔ m = n :=
  Number.sameValue_int_iff

theorem Json.whole_isAmong_iff {n : Int} {numbers : List Int} :
    (Json.whole n).isAmong (numbers.map .whole) = true ↔ n ∈ numbers := by
  rw [Json.isAmong_iff]
  constructor
  · rintro ⟨l, hl, hsame⟩
    obtain ⟨m, hm, rfl⟩ := List.mem_map.mp hl
    rw [← Json.whole_sameLiteral_iff.mp hsame]
    exact hm
  · intro hn
    exact ⟨.whole n, List.mem_map_of_mem hn, Json.whole_sameLiteral_iff.mpr rfl⟩

/-! ### Classes of whole numbers -/

theorem unambiguous_whole (numbers : List Int) : Unambiguous (numbers.map .whole) := by
  intro x hx y hy z hz hxy hyz hstraddles
  obtain ⟨m, -, rfl⟩ := List.mem_map.mp hx
  obtain ⟨k, -, rfl⟩ := List.mem_map.mp hy
  obtain ⟨n, -, rfl⟩ := List.mem_map.mp hz
  have hmn : m = n :=
    (Json.whole_sameLiteral_iff.mp hxy).trans (Json.whole_sameLiteral_iff.mp hyz)
  exact (Json.sameLiteral_trans_iff hxy hyz).mp (Json.whole_sameLiteral_iff.mpr hmn) hstraddles

theorem literalClass_whole {numbers : List Int} {n : Int} (hn : n ∈ numbers) :
    literalClass (numbers.map .whole) (.whole n) = {Json.whole n} := by
  ext y
  rw [literalClass, Set.mem_ofPred_eq, Set.mem_singleton_iff]
  constructor
  · rintro ⟨hy, hsame⟩
    obtain ⟨m, -, rfl⟩ := List.mem_map.mp hy
    rw [Json.whole_sameLiteral_iff.mp hsame]
  · rintro rfl
    exact ⟨List.mem_map_of_mem hn, Json.whole_sameLiteral_iff.mpr rfl⟩

/-- **Whole numbers have as many classes as there are different ones among them.** -/
theorem ncard_literalClasses_whole (numbers : List Int) :
    (literalClasses (numbers.map .whole)).ncard = numbers.toFinset.card := by
  have himage : literalClasses (numbers.map .whole) =
      (fun n => {Json.whole n}) '' (numbers.toFinset : Set Int) := by
    ext group
    constructor
    · rintro ⟨x, hx, rfl⟩
      obtain ⟨n, hn, rfl⟩ := List.mem_map.mp hx
      exact ⟨n, List.mem_toFinset.mpr hn, (literalClass_whole hn).symm⟩
    · rintro ⟨n, hn, rfl⟩
      have hmem : n ∈ numbers := List.mem_toFinset.mp hn
      exact ⟨.whole n, List.mem_map_of_mem hmem, literalClass_whole hmem⟩
  have hinjective : Function.Injective fun n => ({Json.whole n} : Set Json) :=
    Set.singleton_injective.comp Json.whole_injective
  rw [himage, Set.ncard_image_of_injective _ hinjective, Set.ncard_coe_finset]

/-! ### Listed whole numbers -/

theorem Kind.admits_whole (k : Kind) (m n : Int) :
    k.admits (.whole m) = k.admits (.whole n) := by
  cases k <;> rfl

theorem Facets.unlisted_whole_iff {f : Facets} {listed : List Int}
    (enumeration : f.enumeration = some (listed.map .whole)) (scope : Scope) (n : Int) :
    (∃ issue ∈ f.issues scope (.whole n), issue.kind = scope.listKind) ↔ n ∉ listed := by
  rw [Facets.unlisted_reported_iff, enumeration]
  constructor
  · rintro ⟨values, hvalues, hnot⟩ hn
    cases hvalues
    exact hnot (Json.whole_isAmong_iff.mpr hn)
  · intro hn
    exact ⟨_, rfl, fun hamong => hn (Json.whole_isAmong_iff.mp hamong)⟩

namespace Rule

variable {rule : Rule}

/-- If whole numbers are listed, then a member of the values is a whole number, or the value itself
if it has no members. -/
theorem ofListed_admits_whole (accepted : rule.definitionViolations = []) {listed : List Int}
    (enumeration : rule.settings.enumeration = some (listed.map .whole)) (n : Int) :
    (rule.settings.kind.ofListed rule.settings.memberKind).admits (.whole n) = true := by
  obtain ⟨consistent, -, -⟩ := defects_eq_nil_iff.mp (List.map_eq_nil_iff.mp accepted)
  obtain ⟨hne, -, hall⟩ := consistent.enumeration _ enumeration
  obtain ⟨first, hfirst⟩ := List.exists_mem_of_ne_nil _ hne
  obtain ⟨m, -, rfl⟩ := List.mem_map.mp hfirst
  rw [Kind.admits_whole _ n m]
  exact (hall _ hfirst).2

theorem nested_eq_none_of_admits (accepted : rule.definitionViolations = []) {n : Int}
    (admitted : rule.settings.kind.admits (.whole n) = true) : rule.nested = none := by
  refine nested_eq_none accepted fun hkind => ?_
  rcases List.mem_pair.mp hkind with hkind | hkind
  · rw [hkind] at admitted
    cases admitted
  · rw [hkind] at admitted
    cases admitted

theorem tally_enum_whole (accepted : rule.definitionViolations = []) {listed : List Int}
    (enumeration : rule.settings.enumeration = some (listed.map .whole))
    (single : ¬ rule.settings.kind.isCollection = true) (name : String) (n : Int) :
    rule.tally name (.whole n) name .enum = if n ∈ listed then 0 else 1 := by
  have hkind : rule.settings.kind.ofListed rule.settings.memberKind = rule.settings.kind := by
    cases hk : rule.settings.kind <;> simp_all [Kind.ofListed, Kind.isCollection]
  have admitted : rule.settings.kind.admits (.whole n) = true := by
    rw [← hkind]
    exact ofListed_admits_whole accepted enumeration n
  have hreported : (∃ issue ∈ rule.settings.facets.issues .value (.whole n),
      issue.kind = .enum) ↔ n ∉ listed :=
    Facets.unlisted_whole_iff enumeration .value n
  rw [tally_value single (nested_eq_none_of_admits accepted admitted) (by simp) admitted,
    count_kinds Settings.facets_kinds_nodup hreported, ite_not]

theorem tally_memberEnum_whole (accepted : rule.definitionViolations = []) {listed : List Int}
    (enumeration : rule.settings.enumeration = some (listed.map .whole))
    (members : rule.settings.kind.isCollection = true) (name : String) {items : List Json} {i : Nat}
    {n : Int} (at_i : items[i]? = some (.whole n)) :
    rule.tally name (.arr items) (Path.index name i) .memberEnum =
      if n ∈ listed then 0 else 1 := by
  have admitted : ∀ k ∈ rule.settings.memberKind, k.admits (.whole n) = true := by
    intro k hk
    have hlisted := ofListed_admits_whole accepted enumeration n
    rw [Option.mem_def.mp hk] at hlisted
    rcases List.mem_pair.mp (Kind.isCollection_iff.mp members) with hkind | hkind <;>
    · rw [hkind] at hlisted
      exact hlisted
  have hreported : (∃ issue ∈ rule.settings.memberIssues (items.take i) (.whole n),
      issue.kind = .memberEnum) ↔ n ∉ listed :=
    (Settings.member_reported_iff admitted (by decide)).trans
      (Facets.unlisted_whole_iff enumeration .member n)
  rw [tally_member members at_i (by decide),
    count_kinds Settings.memberIssues_kinds_nodup hreported, ite_not]

/-! ### Sets of whole numbers -/

theorem tally_duplicate_whole (hset : rule.settings.kind = .set) (name : String)
    {numbers : List Int} {i : Nat} {n : Int} (at_i : numbers[i]? = some n) :
    rule.tally name (.arr (numbers.map .whole)) (Path.index name i) .duplicate =
      if n ∈ numbers.take i then 1 else 0 := by
  have members : rule.settings.kind.isCollection = true := by
    rw [hset]
    rfl
  have hitem : (numbers.map Json.whole)[i]? = some (.whole n) := by
    rw [List.getElem?_map, at_i]
    rfl
  have hreported : (∃ issue ∈ rule.settings.memberIssues ((numbers.map .whole).take i) (.whole n),
      issue.kind = .duplicate) ↔ n ∈ numbers.take i := by
    rw [Settings.duplicate_reported_iff, ← List.map_take, Json.whole_isAmong_iff,
      and_iff_right hset]
  rw [tally_member members hitem (by decide),
    count_kinds Settings.memberIssues_kinds_nodup hreported]

end Rule

/-- **Whole numbers are compared exactly.**  If whole numbers are listed, a whole number is reported
as not listed just if it is none of them, at its path and once, and so is one in a collection.  A
whole number in a set is reported as a duplicate just if it has occurred before, and the duplicates
and the different numbers make up the set.  For no two different whole numbers are equal
literals. -/
theorem whole_numbers_compared_exactly {rule : Rule} (accepted : rule.definitionViolations = [])
    (name : String) :
    (∀ listed : List Int, rule.settings.enumeration = some (listed.map .whole) → ∀ n,
      (¬ rule.settings.kind.isCollection = true →
        rule.tally name (.whole n) name .enum = if n ∈ listed then 0 else 1) ∧
      (rule.settings.kind.isCollection = true →
        ∀ (items : List Json) (i : Nat), items[i]? = some (.whole n) →
          rule.tally name (.arr items) (Path.index name i) .memberEnum =
            if n ∈ listed then 0 else 1)) ∧
    (rule.settings.kind = .set → ∀ numbers : List Int,
      (∀ (i : Nat) (n : Int), numbers[i]? = some n →
        rule.tally name (.arr (numbers.map .whole)) (Path.index name i) .duplicate =
          if n ∈ numbers.take i then 1 else 0) ∧
      rule.duplicateCount name (numbers.map .whole) + numbers.toFinset.card = numbers.length) ∧
    ∀ m n : Int, (Json.whole m).sameLiteral (.whole n) = true ↔ m = n := by
  refine ⟨fun listed enumeration n => ⟨fun single => ?_, fun members items i at_i => ?_⟩,
    fun hset numbers => ⟨fun i n at_i => ?_, ?_⟩, fun m n => Json.whole_sameLiteral_iff⟩
  · exact Rule.tally_enum_whole accepted enumeration single name n
  · exact Rule.tally_memberEnum_whole accepted enumeration members name at_i
  · exact Rule.tally_duplicate_whole hset name at_i
  · have distinct : ∀ x ∈ numbers.map Json.whole, x.DistinctNames := by
      intro x hx
      obtain ⟨n, -, rfl⟩ := List.mem_map.mp hx
      trivial
    have hcounted := Rule.duplicateCount_add_classes accepted hset name distinct
      (unambiguous_whole numbers)
    rwa [ncard_literalClasses_whole, List.length_map] at hcounted

/-- A rule that lists neighbours: about zero, about `2 ^ 53` and about the largest signed word. -/
def neighbours (kind : Kind) : Rule :=
  ⟨{ kind := kind
     enumeration := some ([-1, 9007199254740993, 9223372036854775808].map .whole) }, none⟩

/-- Of numbers that are rounded to the same number in binary64, or are the same word but for the
sign, only the one that is listed is taken, and none is a duplicate of another. -/
theorem neighbours_compared_exactly :
    (neighbours .float).definitionViolations = [] ∧ (neighbours .set).definitionViolations = [] ∧
      (neighbours .float).tally "n" (.whole 9007199254740992) "n" .enum = 1 ∧
      (neighbours .float).tally "n" (.whole 18446744073709551615) "n" .enum = 1 ∧
      (neighbours .float).tally "n" (.whole (-1)) "n" .enum = 0 ∧
      (neighbours .set).tally "n" (.arr [.null, .whole 9223372036854775807]) "n[1]"
        .memberEnum = 1 ∧
      (neighbours .set).duplicateCount "n"
        ([-1, 18446744073709551615, 9223372036854775807, -1, 9223372036854775808].map .whole) =
          1 := by
  have single : (neighbours .float).definitionViolations = [] := by decide +kernel
  have members : (neighbours .set).definitionViolations = [] := by decide +kernel
  obtain ⟨hlisted, -, -⟩ := whole_numbers_compared_exactly single "n"
  obtain ⟨hmembers, hset, -⟩ := whole_numbers_compared_exactly members "n"
  have hone (n : Int) := (hlisted _ rfl n).1 (by decide)
  refine ⟨single, members, hone _, hone _, hone _, ?_, ?_⟩
  · exact (hmembers _ rfl 9223372036854775807).2 rfl [.null, .whole 9223372036854775807] 1 rfl
  · have hcounted :=
      (hset rfl [-1, 18446744073709551615, 9223372036854775807, -1, 9223372036854775808]).2
    have hcard : ([-1, 18446744073709551615, 9223372036854775807, -1,
      9223372036854775808] : List Int).toFinset.card = 4 := by decide
    rw [hcard] at hcounted
    simp only [List.length_cons, List.length_nil] at hcounted
    omega

end RecordSchema
