import RecordSchema.Proofs.Json.Fields

/-!
# Values up to the order of fields

Two values are reordered if they differ only in the order in which the fields of objects stand, at
any depth (`Json.Reordered`).

Equality of values is defined by going through the fields of one object and looking them up in the
other, so the two sides are not treated alike.  Still it cannot tell reordered values apart, neither
on the right, where only look-up counts, nor on the left, where each name stands once
(`Json.Reordered.sameAs_congr`).  The same holds of literals (`Json.Reordered.sameLiteral_congr`),
and so of whether a value is among others (`Json.Reordered.isAmong_congr`).
-/

namespace RecordSchema

namespace Json

/-- The values are the same but for the order of fields.  Fields are only reordered where no name
occurs twice. -/
inductive Reordered : Json → Json → Prop
  | same (value : Json) : Reordered value value
  | arr {xs ys : List Json} (length : xs.length = ys.length)
      (items : ∀ i (hx : i < xs.length) (hy : i < ys.length), Reordered xs[i] ys[i]) :
      Reordered (.arr xs) (.arr ys)
  | obj {xs ys : Fields} (distinct : xs.names.Nodup) (names : xs.names.Perm ys.names)
      (values : ∀ name x y, xs.get? name = some x → ys.get? name = some y → Reordered x y) :
      Reordered (.obj xs) (.obj ys)

/-! ### Equality, part by part -/

theorem sameItems_iff {xs ys : List Json} :
    sameItems xs ys = true ↔ List.Forall₂ (fun x y => x.sameAs y = true) xs ys := by
  induction xs generalizing ys with
  | nil => cases ys <;> simp [sameItems]
  | cons x xs ih => cases ys <;> simp [sameItems, ih]

theorem foundIn_iff {xs ys : Fields} :
    foundIn xs ys = true ↔ ∀ p ∈ xs, ∃ y ∈ ys.get? p.1, p.2.sameAs y = true := by
  induction xs with
  | nil => simp [foundIn]
  | cons p rest ih =>
    rw [foundIn, Bool.and_eq_true, ih, List.forall_mem_cons]
    cases hp : Fields.get? ys p.1 <;> simp

theorem sameAs_arr_iff {xs ys : List Json} :
    (Json.arr xs).sameAs (.arr ys) = true ↔
      List.Forall₂ (fun x y => x.sameAs y = true) xs ys := by
  rw [sameAs, sameItems_iff]

theorem sameAs_obj_iff {xs ys : Fields} :
    (Json.obj xs).sameAs (.obj ys) = true ↔
      xs.length = ys.length ∧ ∀ p ∈ xs, ∃ y ∈ ys.get? p.1, p.2.sameAs y = true := by
  rw [sameAs, Bool.and_eq_true, beq_iff_eq, foundIn_iff]

theorem sameLiteral_eq_sameAs {x u : Json} (h : x.number? = none ∨ u.number? = none) :
    x.sameLiteral u = x.sameAs u := by
  cases x with
  | num =>
    cases u with
    | num => simp [number?] at h
    | _ => rfl
  | _ => rfl

end Json

namespace Fields

variable {xs ys : Fields}

theorem length_eq_of_perm (names : xs.names.Perm ys.names) : xs.length = ys.length := by
  simpa [Fields.names] using names.length_eq

theorem exists_get?_of_perm (names : xs.names.Perm ys.names) {name : String} {x : Json}
    (h : xs.get? name = some x) : ∃ y, ys.get? name = some y := by
  rw [← Option.ne_none_iff_exists']
  intro hnone
  have hmem : name ∈ ys.names := names.subset (List.mem_map_of_mem (mem_of_lookup h))
  exact lookup_eq_none_iff_not_mem.mp hnone hmem

end Fields

namespace Json.Reordered

variable {x y u v : Json}

theorem symm (h : x.Reordered y) : y.Reordered x := by
  induction h with
  | same value => exact .same value
  | arr length _ ih => exact .arr length.symm fun i hy hx => ih i hx hy
  | obj distinct names _ ih =>
    exact .obj (names.nodup_iff.mp distinct) names.symm fun name y x hy hx => ih name x y hx hy

theorem found_of_fields {xs ys : Fields}
    (values : List.Forall₂ (fun p q => p.1 = q.1 ∧ p.2.Reordered q.2) xs ys) {name : String}
    (hx : xs.get? name = some x) (hy : ys.get? name = some y) : x.Reordered y := by
  induction values with
  | nil => cases hx
  | cons hpq _ ih =>
    rw [Fields.get?_cons] at hx hy
    rw [← hpq.1] at hy
    split at hx
    · next hname =>
      rw [if_pos hname] at hy
      cases hx
      cases hy
      exact hpq.2
    · next hname =>
      rw [if_neg hname] at hy
      exact ih hx hy

theorem of_fields {xs zs ys : Fields} (distinct : xs.names.Nodup) (moved : xs.Perm zs)
    (values : List.Forall₂ (fun p q => p.1 = q.1 ∧ p.2.Reordered q.2) zs ys) :
    (Json.obj xs).Reordered (.obj ys) := by
  have hnames : zs.names = ys.names := by
    rw [Fields.names, Fields.names, ← List.forall₂_eq_eq_eq, List.forall₂_map_left_iff,
      List.forall₂_map_right_iff]
    exact values.imp fun _ _ h => h.1
  have hmoved : xs.names.Perm zs.names := moved.map Prod.fst
  refine .obj distinct (hnames ▸ hmoved) fun name x y hx hy => found_of_fields values ?_ hy
  rw [Fields.get?, lookup_eq_some_iff_mem (hmoved.nodup_iff.mp distinct)]
  exact moved.subset (mem_of_lookup hx)

theorem arr_iff {xs ys : List Json} :
    (Json.arr xs).Reordered (.arr ys) ↔ List.Forall₂ Reordered xs ys := by
  refine ⟨fun h => ?_, fun h => ?_⟩
  · cases h with
    | same => exact List.forall₂_same.mpr fun x _ => .same x
    | arr length items => exact List.forall₂_iff_get.mpr ⟨length, items⟩
  · obtain ⟨length, items⟩ := List.forall₂_iff_get.mp h
    exact .arr length items

theorem get? {xs ys : Fields} (h : (Json.obj xs).Reordered (.obj ys)) (name : String) :
    Option.Rel Reordered (xs.get? name) (ys.get? name) := by
  cases h with
  | same => cases xs.get? name with
    | none => exact .none
    | some x => exact .some (.same x)
  | obj distinct names values =>
    cases hx : xs.get? name with
    | some x =>
      obtain ⟨y, hy⟩ := Fields.exists_get?_of_perm names hx
      rw [hy]
      exact .some (values name x y hx hy)
    | none =>
      cases hy : ys.get? name with
      | none => exact .none
      | some y =>
        obtain ⟨x, hx'⟩ := Fields.exists_get?_of_perm names.symm hy
        rw [hx] at hx'
        cases hx'

/-! ### Equality as a whole -/

theorem sameAs_right (h : x.Reordered y) : ∀ u : Json, u.sameAs x = true → u.sameAs y = true := by
  induction h with
  | same => exact fun _ hu => hu
  | arr length _ ih =>
    intro u hu
    cases u with
    | arr us =>
      rw [sameAs_arr_iff, List.forall₂_iff_get] at hu ⊢
      exact ⟨hu.1.trans length, fun i hi hy => ih i _ hy _ (hu.2 i hi (length ▸ hy))⟩
    | _ => cases hu
  | @obj xs ys _ names _ ih =>
    intro u hu
    cases u with
    | obj us =>
      rw [sameAs_obj_iff] at hu ⊢
      obtain ⟨hlength, hfound⟩ := hu
      have hxy := Fields.length_eq_of_perm names
      refine ⟨hlength.trans hxy, fun p hp => ?_⟩
      obtain ⟨x, hx, hsame⟩ := hfound p hp
      obtain ⟨y, hy⟩ := Fields.exists_get?_of_perm names hx
      exact ⟨y, hy, ih p.1 x y hx hy p.2 hsame⟩
    | _ => cases hu

theorem sameAs_left (h : x.Reordered y) : ∀ u : Json, x.sameAs u = true → y.sameAs u = true := by
  induction h with
  | same => exact fun _ hu => hu
  | arr length _ ih =>
    intro u hu
    cases u with
    | arr us =>
      rw [sameAs_arr_iff, List.forall₂_iff_get] at hu ⊢
      exact ⟨length.symm.trans hu.1, fun i hy hi => ih i _ hy _ (hu.2 i (length ▸ hy) hi)⟩
    | _ => cases hu
  | @obj xs ys distinct names _ ih =>
    intro u hu
    cases u with
    | obj us =>
      rw [sameAs_obj_iff] at hu ⊢
      obtain ⟨hlength, hfound⟩ := hu
      have hxy := Fields.length_eq_of_perm names
      refine ⟨hxy.symm.trans hlength, fun q hq => ?_⟩
      -- Each field of the one object is found in the other, and there it is one of the fields.
      have hy : ys.get? q.1 = some q.2 :=
        (lookup_eq_some_iff_mem (names.nodup_iff.mp distinct)).mpr hq
      obtain ⟨x, hx⟩ := Fields.exists_get?_of_perm names.symm hy
      obtain ⟨u, hu, hsame⟩ := hfound (q.1, x) (mem_of_lookup hx)
      exact ⟨u, hu, ih q.1 x q.2 hx hy u hsame⟩
    | _ => cases hu

/-- **Equality cannot tell reordered values apart.** -/
theorem sameAs_congr (hx : x.Reordered y) (hu : u.Reordered v) : x.sameAs u = y.sameAs v := by
  rw [Bool.eq_iff_iff]
  exact ⟨fun h => hu.sameAs_right y (hx.sameAs_left u h),
    fun h => hu.symm.sameAs_right x (hx.symm.sameAs_left v h)⟩

/-! ### Literals -/

theorem number?_eq (h : x.Reordered y) : x.number? = y.number? := by
  cases h <;> rfl

theorem eq_of_number? (h : x.Reordered y) (number : x.number? ≠ none) : x = y := by
  cases h with
  | same => rfl
  | _ => exact absurd rfl number

/-- **Equality of literals cannot tell reordered values apart.** -/
theorem sameLiteral_congr (hx : x.Reordered y) (hu : u.Reordered v) :
    x.sameLiteral u = y.sameLiteral v := by
  by_cases h : x.number? = none ∨ u.number? = none
  · have h' : y.number? = none ∨ v.number? = none := by
      rwa [← hx.number?_eq, ← hu.number?_eq]
    rw [sameLiteral_eq_sameAs h, sameLiteral_eq_sameAs h', sameAs_congr hx hu]
  · obtain ⟨hx', hu'⟩ := not_or.mp h
    rw [hx.eq_of_number? hx', hu.eq_of_number? hu']

theorem isAmong_congr {xs ys : List Json} (h : x.Reordered y)
    (items : List.Forall₂ Reordered xs ys) : x.isAmong xs = y.isAmong ys := by
  induction items with
  | nil => rfl
  | cons hitem _ ih => exact congrArg₂ or (hitem.sameLiteral_congr h) ih

end Json.Reordered

end RecordSchema
