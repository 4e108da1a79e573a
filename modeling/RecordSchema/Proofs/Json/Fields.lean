import Mathlib
import RecordSchema.Json.Basic

/-!
# Fields of objects

Look-up in the fields of an object, and what the operations on fields do to it.  Where no name
occurs twice, look-up and membership say the same (`lookup_eq_some_iff_mem`), and whatever is made
of the field under one name alone is made of its value (`Fields.filterMap_eq_toList`).

`Json.induction` is the induction over objects: a property holds of all values if it passes from the
values of the fields of an object to the object.
-/

namespace RecordSchema

/-! ### Values by structure -/

/-- A property of values that passes from the fields of an object to the object. -/
@[elab_as_elim]
theorem Json.induction {P : Json → Prop}
    (object : ∀ fields : Fields, (∀ p ∈ fields, P p.2) → P (.obj fields))
    (other : ∀ value : Json, (∀ fields, value ≠ .obj fields) → P value) (value : Json) :
    P value := by
  refine @Json.rec P (fun _ => True) (fun fields => ∀ p ∈ fields, P p.2) (fun p => P p.2)
    ?_ ?_ ?_ ?_ ?_ ?_ ?_ ?_ ?_ ?_ ?_ value
  · exact other .null (by simp)
  · intro b
    exact other (.bool b) (by simp)
  · intro n
    exact other (.num n) (by simp)
  · intro s
    exact other (.str s) (by simp)
  · intro items _
    exact other (.arr items) (by simp)
  · intro fields ih
    exact object fields ih
  · trivial
  · intro _ _ _ _
    trivial
  · intro p hp
    cases hp
  · intro p rest ihp ihrest q hq
    rcases List.mem_cons.mp hq with rfl | hq
    · exact ihp
    · exact ihrest q hq
  · intro name value ih
    exact ih

theorem Json.fieldsDistinct_iff {fields : Fields} :
    Json.fieldsDistinct fields ↔ ∀ p ∈ fields, p.2.DistinctNames := by
  induction fields with
  | nil => simp [Json.fieldsDistinct]
  | cons p rest ih => rw [Json.fieldsDistinct, ih, List.forall_mem_cons]

theorem Json.distinctNames_obj_iff {fields : Fields} :
    (Json.obj fields).DistinctNames ↔ fields.names.Nodup ∧ ∀ p ∈ fields, p.2.DistinctNames := by
  rw [Json.DistinctNames, Json.fieldsDistinct_iff]

/-! ### Look-up in lists of pairs -/

section

variable {α : Type} {l : List (String × α)} {name : String} {value : α}

theorem lookup_cons_eq (p : String × α) (rest : List (String × α)) (name : String) :
    (p :: rest).lookup name = if name = p.1 then some p.2 else rest.lookup name := by
  rw [List.lookup_cons]
  by_cases h : name = p.1
  · rw [if_pos h, beq_iff_eq.mpr h]
  · rw [if_neg h, beq_eq_false_iff_ne.mpr h]

theorem mem_of_lookup (h : l.lookup name = some value) : (name, value) ∈ l := by
  induction l with
  | nil => cases h
  | cons p rest ih =>
    rw [lookup_cons_eq] at h
    split at h
    · next hname =>
      cases h
      rw [hname]
      exact List.mem_cons_self
    · exact List.mem_cons_of_mem p (ih h)

theorem lookup_eq_some_iff_mem (distinct : (l.map Prod.fst).Nodup) :
    l.lookup name = some value ↔ (name, value) ∈ l := by
  refine ⟨mem_of_lookup, fun h => ?_⟩
  induction l with
  | nil => cases h
  | cons p rest ih =>
    obtain ⟨hnot, hrest⟩ := List.nodup_cons.mp distinct
    rw [lookup_cons_eq]
    rcases List.mem_cons.mp h with rfl | h
    · rw [if_pos rfl]
    · have hne : name ≠ p.1 := by
        rintro rfl
        exact hnot (List.mem_map.mpr ⟨_, h, rfl⟩)
      rw [if_neg hne]
      exact ih hrest h

theorem lookup_eq_none_iff_not_mem : l.lookup name = none ↔ name ∉ l.map Prod.fst := by
  induction l with
  | nil => simp
  | cons p rest ih =>
    rw [lookup_cons_eq, List.map_cons, List.mem_cons, not_or]
    split
    · next h => simp [h]
    · next h => rw [ih]; exact ⟨fun hn => ⟨h, hn⟩, fun hn => hn.2⟩

end

namespace Fields

theorem get?_cons (p : String × Json) (rest : Fields) (name : String) :
    get? (p :: rest) name = if name = p.1 then some p.2 else get? rest name :=
  lookup_cons_eq p rest name

/-- What is made of the field under one name alone is made of its value, if there is one. -/
theorem filterMap_eq_toList {α : Type} {fields : Fields} (distinct : fields.names.Nodup)
    {f : String × Json → Option α} {name : String} (hf : ∀ p, p.1 ≠ name → f p = none) :
    fields.filterMap f = ((fields.get? name).bind fun value => f (name, value)).toList := by
  induction fields with
  | nil => rfl
  | cons p rest ih =>
    obtain ⟨hnot, hrest⟩ := List.nodup_cons.mp distinct
    rw [get?_cons, List.filterMap_cons]
    by_cases h : name = p.1
    · subst h
      have hnone : get? rest p.1 = none := lookup_eq_none_iff_not_mem.mpr hnot
      have hrest' := ih hrest
      rw [hnone] at hrest'
      rw [if_pos rfl, hrest']
      cases hp : f p <;> simp [hp]
    · rw [if_neg h, hf p fun he => h he.symm, ih hrest]

/-! ### Operations -/

theorem get?_put_self (name : String) (value : Json) (fields : Fields) :
    (fields.put name value).get? name = some value := by
  induction fields with
  | nil => simp [put, get?_cons]
  | cons p rest ih =>
    rw [put]
    split
    · simp [get?_cons]
    · next h => rw [get?_cons, if_neg (fun he => h (beq_iff_eq.mpr he.symm)), ih]

theorem get?_put_of_ne {name other : String} (h : other ≠ name) (value : Json) (fields : Fields) :
    (fields.put name value).get? other = fields.get? other := by
  induction fields with
  | nil => simp [put, get?_cons, h]
  | cons p rest ih =>
    rw [put]
    split
    · next hp =>
      have hp : p.1 = name := beq_iff_eq.mp hp
      rw [get?_cons, get?_cons, if_neg h, if_neg (hp ▸ h)]
    · rw [get?_cons, get?_cons, ih]

theorem remove_cons (name : String) (p : String × Json) (rest : Fields) :
    remove name (p :: rest) = if p.1 = name then rest else p :: rest.remove name := by
  rw [remove, List.eraseP_cons, ← remove]
  by_cases hp : p.1 = name
  · rw [if_pos hp, beq_iff_eq.mpr hp, cond_true]
  · rw [if_neg hp, beq_eq_false_iff_ne.mpr hp, cond_false]

theorem get?_remove_of_ne {name other : String} (h : other ≠ name) (fields : Fields) :
    (fields.remove name).get? other = fields.get? other := by
  induction fields with
  | nil => rfl
  | cons p rest ih =>
    rw [remove_cons, get?_cons]
    split
    · next hp => rw [if_neg (hp ▸ h)]
    · rw [get?_cons, ih]

theorem get?_filter (keep : String → Bool) {name : String} (h : keep name = true)
    (fields : Fields) : Fields.get? (fields.filter fun p => keep p.1) name = fields.get? name := by
  induction fields with
  | nil => rfl
  | cons p rest ih =>
    rw [List.filter_cons, get?_cons]
    by_cases hp : keep p.1 = true
    · rw [if_pos hp, get?_cons, ih]
    · have hne : name ≠ p.1 := fun he => hp (he ▸ h)
      rw [if_neg hp, if_neg hne, ih]

end Fields

end RecordSchema
