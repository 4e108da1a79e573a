import RecordSchema.Proofs.Json.Reordering
import RecordSchema.Proofs.Number.Rounding

/-!
# Equality of values and of literals

Equality of values is an equivalence relation on the values in which no object holds a name twice.
Only its symmetry needs an argument: the fields of one object are looked up in the other, and by
counting names every field of the other is met (`Fields.names_perm_of_found`).

Equality of literals goes further and compares numbers by value.  It chooses a comparison for each
pair of numbers, exact for two whole numbers and in binary64 for all others.  So it is reflexive and
symmetric, but a binary64 number may equal two different whole numbers that are rounded to it.  That
takes whole numbers beyond `2 ^ 53` (`Binary64.eq_of_ofInt_eqv`).

* `Json.tree_induction`: the induction over arrays and objects.
* `Json.sameAs_refl`, `Json.sameAs_symm`, `Json.sameAs_trans`: equality of values.
* `Json.Straddles`: a binary64 number that equals two different whole numbers.
* `Json.sameLiteral_trans_iff`: equality of literals is transitive but for such numbers.
-/

namespace RecordSchema

namespace Json

/-! ### Values by structure -/

/-- A property of values that passes from the items of an array to the array, and from the values of
fields to the object. -/
@[elab_as_elim]
theorem tree_induction {P : Json → Prop} (null : P .null) (bool : ∀ b, P (.bool b))
    (num : ∀ n, P (.num n)) (str : ∀ s, P (.str s))
    (arr : ∀ items : List Json, (∀ x ∈ items, P x) → P (.arr items))
    (obj : ∀ fields : Fields, (∀ p ∈ fields, P p.2) → P (.obj fields)) (value : Json) :
    P value := by
  refine @Json.rec P (fun items => ∀ x ∈ items, P x) (fun fields => ∀ p ∈ fields, P p.2)
    (fun p => P p.2) null bool num str arr obj ?_ ?_ ?_ ?_ ?_ value
  · intro x hx
    cases hx
  · intro x rest hx hrest
    exact List.forall_mem_cons.mpr ⟨hx, hrest⟩
  · intro p hp
    cases hp
  · intro p rest hp hrest
    exact List.forall_mem_cons.mpr ⟨hp, hrest⟩
  · intro name value hvalue
    exact hvalue

theorem itemsDistinct_iff {items : List Json} :
    itemsDistinct items ↔ ∀ x ∈ items, x.DistinctNames := by
  induction items with
  | nil => simp [itemsDistinct]
  | cons x rest ih => rw [itemsDistinct, ih, List.forall_mem_cons]

end Json

/-! ### Numbers -/

namespace Number

theorem sameForm_refl (a : Number) : a.sameForm a = true := by
  cases a with
  | int n => exact beq_self_eq_true n
  | float x => exact x.eqv_refl

theorem sameForm_comm (a b : Number) : a.sameForm b = b.sameForm a := by
  cases a <;> cases b
  · exact Bool.beq_comm
  · rfl
  · rfl
  · exact Binary64.eqv_comm _ _

theorem sameForm_trans {a b c : Number} (hab : a.sameForm b = true) (hbc : b.sameForm c = true) :
    a.sameForm c = true := by
  cases a <;> cases b <;> cases c
  case int.int.int m n k =>
    have hmn : m = n := beq_iff_eq.mp hab
    have hnk : n = k := beq_iff_eq.mp hbc
    exact beq_iff_eq.mpr (hmn.trans hnk)
  case float.float.float x y z => exact Binary64.eqv_trans hab hbc
  all_goals first | cases hab | cases hbc

theorem sameValue_eq_eqv {a b : Number} (h : a.isInt = false ∨ b.isInt = false) :
    a.sameValue b = a.toBinary64.eqv b.toBinary64 := by
  cases a <;> cases b
  · simp [isInt] at h
  · rfl
  · rfl
  · rfl

theorem unsigned?_eq_iff {m n : Int} (h : 0 ≤ m ∨ 0 ≤ n) :
    unsigned? m = unsigned? n ↔ m = n := by
  rw [unsigned?, unsigned?]
  by_cases hm : 0 ≤ m
  · by_cases hn : 0 ≤ n
    · rw [if_pos hm, if_pos hn, Option.some_inj]
    · rw [if_pos hm, if_neg hn]
      exact iff_of_false nofun (by omega)
  · have hn : 0 ≤ n := h.resolve_left hm
    rw [if_neg hm, if_pos hn]
    exact iff_of_false nofun (by omega)

/-- **Whole numbers are compared exactly.**  A number that is no signed word lies above zero, so that
of two numbers that are compared as unsigned words at least one is there. -/
theorem sameWhole_iff {m n : Int} : sameWhole m n = true ↔ m = n := by
  have hlarge : ∀ k : Int, ¬ k ≤ maxSigned → 0 ≤ k := fun k hk =>
    le_trans (by decide) (not_le.mp hk).le
  rw [sameWhole, signed?, signed?]
  by_cases hm : m ≤ maxSigned
  · by_cases hn : n ≤ maxSigned
    · rw [if_pos hm, if_pos hn]
      exact beq_iff_eq
    · rw [if_pos hm, if_neg hn]
      exact beq_iff_eq.trans (unsigned?_eq_iff (Or.inr (hlarge n hn)))
  · rw [if_neg hm]
    exact beq_iff_eq.trans (unsigned?_eq_iff (Or.inl (hlarge m hm)))

theorem sameValue_int_iff {m n : Int} : (Number.int m).sameValue (.int n) = true ↔ m = n :=
  sameWhole_iff

theorem eqv_of_sameValue {a b : Number} (h : a.sameValue b = true) :
    a.toBinary64.eqv b.toBinary64 = true := by
  by_cases hint : a.isInt = false ∨ b.isInt = false
  · rw [← sameValue_eq_eqv hint]
    exact h
  · obtain ⟨ha, hb⟩ := not_or.mp hint
    cases a <;> cases b
    case int.int m n =>
      rw [sameValue_int_iff.mp h]
      exact Binary64.eqv_refl _
    all_goals simp [isInt] at ha hb

theorem sameValue_refl (a : Number) : a.sameValue a = true := by
  cases a with
  | int n => exact sameValue_int_iff.mpr rfl
  | float x => exact x.eqv_refl

theorem sameValue_comm (a b : Number) : a.sameValue b = b.sameValue a := by
  cases a <;> cases b
  · rw [Bool.eq_iff_iff, sameValue_int_iff, sameValue_int_iff]
    exact eq_comm
  all_goals exact Binary64.eqv_comm _ _

/-- Two different whole numbers, and a binary64 number between them. -/
def Straddles (a b c : Number) : Prop :=
  ∃ m n : Int, a = .int m ∧ c = .int n ∧ m ≠ n ∧ b.isInt = false

/-- **Equality of numbers is transitive** but for a binary64 number between two whole numbers. -/
theorem sameValue_trans_iff {a b c : Number} (hab : a.sameValue b = true)
    (hbc : b.sameValue c = true) : a.sameValue c = true ↔ ¬ Straddles a b c := by
  have hrounded : a.toBinary64.eqv c.toBinary64 = true :=
    Binary64.eqv_trans (eqv_of_sameValue hab) (eqv_of_sameValue hbc)
  by_cases hint : a.isInt = false ∨ c.isInt = false
  · -- One of the outer numbers is no whole number, so all comparisons are those of binary64.
    have hnot : ¬ Straddles a b c := by
      rintro ⟨m, n, rfl, rfl, -, -⟩
      simp [isInt] at hint
    rw [sameValue_eq_eqv hint]
    exact iff_of_true hrounded hnot
  · obtain ⟨ha, hc⟩ := not_or.mp hint
    cases a <;> cases c
    case int.int m n =>
      rw [sameValue_int_iff]
      constructor
      · rintro rfl ⟨k, l, hk, hl, hkl, -⟩
        cases hk
        cases hl
        exact hkl rfl
      · intro hnot
        by_contra hmn
        cases b with
        | float x => exact hnot ⟨m, n, rfl, rfl, hmn, rfl⟩
        | int k => exact hmn ((sameValue_int_iff.mp hab).trans (sameValue_int_iff.mp hbc))
    all_goals simp [isInt] at ha hc

end Number

/-! ### Equality of values -/

/-- Two objects of the same size in one of which all names of the other are found have the same
names. -/
theorem Fields.names_perm_of_found {xs ys : Fields} (distinct : xs.names.Nodup)
    (length : xs.length = ys.length) (found : ∀ p ∈ xs, ∃ y, ys.get? p.1 = some y) :
    xs.names.Perm ys.names := by
  have hsubset : xs.names ⊆ ys.names := by
    intro name hname
    obtain ⟨p, hp, rfl⟩ := List.mem_map.mp hname
    obtain ⟨y, hy⟩ := found p hp
    exact List.mem_map.mpr ⟨(p.1, y), mem_of_lookup hy, rfl⟩
  have hlength : ys.names.length ≤ xs.names.length := by
    simp [names, length]
  exact (List.subperm_of_subset distinct hsubset).perm_of_length_le hlength

namespace Json

variable {x y z : Json}

theorem sameAs_refl (x : Json) : x.DistinctNames → x.sameAs x = true := by
  induction x using tree_induction with
  | null => intro _; rfl
  | bool b => intro _; exact beq_self_eq_true b
  | num n => intro _; exact n.sameForm_refl
  | str s => intro _; exact beq_self_eq_true s
  | arr items ih =>
    intro distinct
    rw [DistinctNames, itemsDistinct_iff] at distinct
    rw [sameAs_arr_iff]
    exact List.forall₂_same.mpr fun x hx => ih x hx (distinct x hx)
  | obj fields ih =>
    intro distinct
    obtain ⟨hnames, hvalues⟩ := distinctNames_obj_iff.mp distinct
    rw [sameAs_obj_iff]
    refine ⟨rfl, fun p hp => ⟨p.2, ?_, ih p hp (hvalues p hp)⟩⟩
    exact (lookup_eq_some_iff_mem hnames).mpr hp

theorem sameAs_symm (x : Json) : ∀ y : Json, x.DistinctNames → y.DistinctNames →
    x.sameAs y = true → y.sameAs x = true := by
  induction x using tree_induction with
  | arr xs ih =>
    intro y hx hy h
    cases y with
    | arr ys =>
      rw [DistinctNames, itemsDistinct_iff] at hx hy
      rw [sameAs_arr_iff, List.forall₂_iff_get] at h ⊢
      obtain ⟨hlength, hitems⟩ := h
      refine ⟨hlength.symm, fun i hi hi' => ?_⟩
      have hxi : xs.get ⟨i, hi'⟩ ∈ xs := List.get_mem _ _
      have hyi : ys.get ⟨i, hi⟩ ∈ ys := List.get_mem _ _
      exact ih _ hxi _ (hx _ hxi) (hy _ hyi) (hitems i hi' hi)
    | _ => cases h
  | obj xs ih =>
    intro y hx hy h
    cases y with
    | obj ys =>
      obtain ⟨hxnames, hxvalues⟩ := distinctNames_obj_iff.mp hx
      obtain ⟨hynames, hyvalues⟩ := distinctNames_obj_iff.mp hy
      rw [sameAs_obj_iff] at h ⊢
      obtain ⟨hlength, hfound⟩ := h
      have hnames : (Fields.names xs).Perm (Fields.names ys) := by
        refine Fields.names_perm_of_found hxnames hlength fun p hp => ?_
        obtain ⟨y, hy, -⟩ := hfound p hp
        exact ⟨y, hy⟩
      refine ⟨hlength.symm, fun q hq => ?_⟩
      have hyq : Fields.get? ys q.1 = some q.2 := (lookup_eq_some_iff_mem hynames).mpr hq
      obtain ⟨x, hxq⟩ := Fields.exists_get?_of_perm hnames.symm hyq
      have hp : (q.1, x) ∈ xs := mem_of_lookup hxq
      obtain ⟨y, hy, hsame⟩ := hfound (q.1, x) hp
      obtain rfl : q.2 = y := Option.some.inj (hyq.symm.trans hy)
      exact ⟨x, hxq, ih _ hp q.2 (hxvalues _ hp) (hyvalues q hq) hsame⟩
    | _ => cases h
  | num n =>
    intro y _ _ h
    cases y with
    | num k => exact (k.sameForm_comm n).trans h
    | _ => cases h
  | null =>
    intro y _ _ h
    cases y <;> first | rfl | cases h
  | bool b =>
    intro y _ _ h
    cases y with
    | bool c => exact beq_iff_eq.mpr (beq_iff_eq.mp h).symm
    | _ => cases h
  | str s =>
    intro y _ _ h
    cases y with
    | str t => exact beq_iff_eq.mpr (beq_iff_eq.mp h).symm
    | _ => cases h

theorem sameAs_trans (x : Json) : ∀ y z : Json, x.sameAs y = true → y.sameAs z = true →
    x.sameAs z = true := by
  induction x using tree_induction with
  | arr xs ih =>
    intro y z hxy hyz
    cases y with
    | arr ys =>
      cases z with
      | arr zs =>
        rw [sameAs_arr_iff, List.forall₂_iff_get] at hxy hyz ⊢
        obtain ⟨hlength, hitems⟩ := hxy
        refine ⟨hlength.trans hyz.1, fun i hi hi' => ?_⟩
        have hiy : i < ys.length := hlength ▸ hi
        exact ih _ (List.get_mem _ _) _ _ (hitems i hi hiy) (hyz.2 i hiy hi')
      | _ => cases hyz
    | _ => cases hxy
  | obj xs ih =>
    intro y z hxy hyz
    cases y with
    | obj ys =>
      cases z with
      | obj zs =>
        rw [sameAs_obj_iff] at hxy hyz ⊢
        refine ⟨hxy.1.trans hyz.1, fun p hp => ?_⟩
        obtain ⟨y, hy, hpy⟩ := hxy.2 p hp
        obtain ⟨z, hz, hyz⟩ := hyz.2 (p.1, y) (mem_of_lookup hy)
        exact ⟨z, hz, ih p hp y z hpy hyz⟩
      | _ => cases hyz
    | _ => cases hxy
  | num n =>
    intro y z hxy hyz
    cases y with
    | num k =>
      cases z with
      | num l => exact Number.sameForm_trans hxy hyz
      | _ => cases hyz
    | _ => cases hxy
  | null =>
    intro y z hxy hyz
    cases y <;> first | exact hyz | cases hxy
  | bool b =>
    intro y z hxy hyz
    cases y with
    | bool c =>
      obtain rfl : b = c := beq_iff_eq.mp hxy
      exact hyz
    | _ => cases hxy
  | str s =>
    intro y z hxy hyz
    cases y with
    | str t =>
      obtain rfl : s = t := beq_iff_eq.mp hxy
      exact hyz
    | _ => cases hxy

/-! ### Equality of literals -/

theorem sameLiteral_refl (distinct : x.DistinctNames) : x.sameLiteral x = true := by
  cases x with
  | num n => exact n.sameValue_refl
  | _ => exact sameAs_refl _ distinct

theorem sameLiteral_comm (hx : x.DistinctNames) (hy : y.DistinctNames) :
    x.sameLiteral y = y.sameLiteral x := by
  by_cases h : x.number? = none ∨ y.number? = none
  · rw [sameLiteral_eq_sameAs h, sameLiteral_eq_sameAs h.symm, Bool.eq_iff_iff]
    exact ⟨sameAs_symm x y hx hy, sameAs_symm y x hy hx⟩
  · obtain ⟨hx', hy'⟩ := not_or.mp h
    cases x <;> cases y
    case num.num n k => exact n.sameValue_comm k
    all_goals simp [number?] at hx' hy'

/-- A number that is no whole number by its form, between two different whole numbers. -/
def Straddles (x y z : Json) : Prop :=
  ∃ a b c, x = .num a ∧ y = .num b ∧ z = .num c ∧ a.Straddles b c

theorem number?_isSome_of_sameLiteral (h : x.sameLiteral y = true) :
    x.number?.isSome = y.number?.isSome := by
  cases x <;> cases y <;> first | rfl | cases h

/-- **Equality of literals is transitive** but for a number that equals two different whole
numbers. -/
theorem sameLiteral_trans_iff (hxy : x.sameLiteral y = true) (hyz : y.sameLiteral z = true) :
    x.sameLiteral z = true ↔ ¬ Straddles x y z := by
  have hx := number?_isSome_of_sameLiteral hxy
  have hz := number?_isSome_of_sameLiteral hyz
  cases y with
  | num b =>
    obtain ⟨a, ha⟩ := Option.isSome_iff_exists.mp hx
    obtain ⟨c, hc⟩ := Option.isSome_iff_exists.mp hz.symm
    cases x <;> cases z <;> simp only [number?, reduceCtorEq, Option.some.injEq] at ha hc
    subst ha hc
    rw [sameLiteral, Number.sameValue_trans_iff hxy hyz]
    refine not_congr ⟨fun h => ⟨_, _, _, rfl, rfl, rfl, h⟩, ?_⟩
    rintro ⟨_, _, _, ⟨rfl⟩, ⟨rfl⟩, ⟨rfl⟩, h⟩
    exact h
  | _ =>
    have hnone : x.number? = none := by simpa [number?] using hx
    rw [sameLiteral_eq_sameAs (Or.inl hnone)] at hxy ⊢
    rw [sameLiteral_eq_sameAs (Or.inl rfl)] at hyz
    refine iff_of_true (sameAs_trans x _ z hxy hyz) ?_
    rintro ⟨_, _, _, -, hy, -, -⟩
    cases hy

end Json

end RecordSchema
