import RecordSchema.Json.Reader
import RecordSchema.Proofs.Json.Fields

/-!
# Names of values that are read

Setting a field keeps the names of an object distinct, and a reader sets every field that it meets.
So every value that is read from a text has distinct names (`Json.read?_distinctNames`), which is
all that is asked of a description.
-/

namespace RecordSchema

namespace Fields

theorem mem_names_put {name other : String} {value : Json} {fields : Fields} :
    other ∈ (fields.put name value).names ↔ other = name ∨ other ∈ fields.names := by
  induction fields with
  | nil => simp [put, names]
  | cons p rest ih =>
    rw [put]
    split
    · next h =>
      have h : p.1 = name := beq_iff_eq.mp h
      simp [names, h]
    · simp only [names, List.map_cons, List.mem_cons] at ih ⊢
      rw [ih, or_left_comm]

theorem nodup_names_put {name : String} {value : Json} {fields : Fields}
    (distinct : fields.names.Nodup) : (fields.put name value).names.Nodup := by
  induction fields with
  | nil => simp [put, names]
  | cons p rest ih =>
    obtain ⟨hnot, hrest⟩ := List.nodup_cons.mp distinct
    rw [put]
    split
    · next h =>
      have h : p.1 = name := beq_iff_eq.mp h
      exact List.nodup_cons.mpr ⟨h ▸ hnot, hrest⟩
    · next h =>
      refine List.nodup_cons.mpr ⟨fun hmem => ?_, ih hrest⟩
      rcases mem_names_put.mp hmem with he | hmem
      · exact h (beq_iff_eq.mpr he)
      · exact hnot hmem

theorem mem_put {name : String} {value : Json} {fields : Fields} {p : String × Json}
    (h : p ∈ fields.put name value) : p = (name, value) ∨ p ∈ fields := by
  induction fields with
  | nil => exact Or.inl (List.mem_singleton.mp h)
  | cons q rest ih =>
    rw [put] at h
    split at h
    · rcases List.mem_cons.mp h with h | h
      · exact Or.inl h
      · exact Or.inr (List.mem_cons_of_mem q h)
    · rcases List.mem_cons.mp h with h | h
      · exact Or.inr (h ▸ List.mem_cons_self)
      · exact (ih h).imp_right (List.mem_cons_of_mem q)

theorem distinctNames_put {name : String} {value : Json} {fields : Fields}
    (hfields : (Json.obj fields).DistinctNames) (hvalue : value.DistinctNames) :
    (Json.obj (fields.put name value)).DistinctNames := by
  obtain ⟨hnames, hvalues⟩ := Json.distinctNames_obj_iff.mp hfields
  refine Json.distinctNames_obj_iff.mpr ⟨nodup_names_put hnames, fun p hp => ?_⟩
  rcases mem_put hp with rfl | hp
  · exact hvalue
  · exact hvalues p hp

end Fields

namespace Json

theorem distinctNames_arr_iff {items : List Json} :
    (Json.arr items).DistinctNames ↔ ∀ item ∈ items, item.DistinctNames := by
  rw [DistinctNames]
  induction items with
  | nil => simp [itemsDistinct]
  | cons item rest ih => rw [itemsDistinct, ih, List.forall_mem_cons]

/-! ### One call of each reader -/

section

variable {fuel : Nat} {cs rest : List Char}

theorem distinctNames_of_readValue {value : Json}
    (hitems : ∀ cs items rest, readItems fuel [] cs = some (items, rest) →
      (Json.arr items).DistinctNames)
    (hfields : ∀ cs fields rest, readFields fuel [] cs = some (fields, rest) →
      (Json.obj fields).DistinctNames)
    (h : readValue (fuel + 1) cs = some (value, rest)) : value.DistinctNames := by
  unfold readValue at h
  split at h
  · cases h
    trivial
  · cases h
    trivial
  · cases h
    trivial
  · obtain ⟨_, -, he⟩ := Option.map_eq_some_iff.mp h
    cases he
    trivial
  · split at h
    · cases h
      trivial
    · obtain ⟨⟨items, _⟩, hread, he⟩ := Option.map_eq_some_iff.mp h
      cases he
      exact hitems _ items _ hread
  · split at h
    · cases h
      exact ⟨List.nodup_nil, trivial⟩
    · obtain ⟨⟨fields, _⟩, hread, he⟩ := Option.map_eq_some_iff.mp h
      cases he
      exact hfields _ fields _ hread
  · obtain ⟨_, -, he⟩ := Option.map_eq_some_iff.mp h
    cases he
    trivial

theorem distinctNames_of_readItems {acc items : List Json}
    (hvalue : ∀ cs value rest, readValue fuel cs = some (value, rest) → value.DistinctNames)
    (hitems : ∀ acc cs items rest, readItems fuel acc cs = some (items, rest) →
      (Json.arr acc).DistinctNames → (Json.arr items).DistinctNames)
    (h : readItems (fuel + 1) acc cs = some (items, rest)) (hacc : (Json.arr acc).DistinctNames) :
    (Json.arr items).DistinctNames := by
  rw [readItems] at h
  split at h
  · cases h
  · next item after hread =>
    have hnext : (Json.arr (item :: acc)).DistinctNames :=
      distinctNames_arr_iff.mpr (List.forall_mem_cons.mpr
        ⟨hvalue _ _ _ hread, distinctNames_arr_iff.mp hacc⟩)
    split at h
    · exact hitems _ _ _ _ h hnext
    · cases h
      rw [distinctNames_arr_iff] at hnext ⊢
      exact fun x hx => hnext x (List.mem_reverse.mp hx)
    · cases h

theorem distinctNames_of_readFields {acc fields : Fields}
    (hvalue : ∀ cs value rest, readValue fuel cs = some (value, rest) → value.DistinctNames)
    (hfields : ∀ acc cs fields rest, readFields fuel acc cs = some (fields, rest) →
      (Json.obj acc).DistinctNames → (Json.obj fields).DistinctNames)
    (h : readFields (fuel + 1) acc cs = some (fields, rest)) (hacc : (Json.obj acc).DistinctNames) :
    (Json.obj fields).DistinctNames := by
  unfold readFields at h
  split at h
  · split at h
    · cases h
    · split at h
      · split at h
        · cases h
        · next value after hread =>
          have hnext (name : String) : (Json.obj (acc.put name value)).DistinctNames :=
            Fields.distinctNames_put hacc (hvalue _ _ _ hread)
          split at h
          · exact hfields _ _ _ _ h (hnext _)
          · cases h
            exact hnext _
          · cases h
      · cases h
  · cases h

end

/-! ### Whole texts -/

/-- What the readers give has distinct names, if what they have read so far has. -/
theorem distinctNames_of_read (fuel : Nat) :
    (∀ cs value rest, readValue fuel cs = some (value, rest) → value.DistinctNames) ∧
      (∀ acc cs items rest, readItems fuel acc cs = some (items, rest) →
        (Json.arr acc).DistinctNames → (Json.arr items).DistinctNames) ∧
      ∀ acc cs fields rest, readFields fuel acc cs = some (fields, rest) →
        (Json.obj acc).DistinctNames → (Json.obj fields).DistinctNames := by
  induction fuel with
  | zero => simp [readValue, readItems, readFields]
  | succ fuel ih =>
    obtain ⟨hvalue, hitems, hfields⟩ := ih
    refine ⟨?_, ?_, ?_⟩
    · intro cs value rest h
      refine distinctNames_of_readValue (fun cs items rest hread => ?_)
        (fun cs fields rest hread => ?_) h
      · exact hitems [] cs items rest hread trivial
      · exact hfields [] cs fields rest hread ⟨List.nodup_nil, trivial⟩
    · intro acc cs items rest h hacc
      exact distinctNames_of_readItems hvalue hitems h hacc
    · intro acc cs fields rest h hacc
      exact distinctNames_of_readFields hvalue hfields h hacc

/-- **Every value that is read from a text has distinct names.** -/
theorem read?_distinctNames {text : String} {value : Json} (h : read? text = some value) :
    value.DistinctNames := by
  rw [read?] at h
  split at h
  · next v rest hread =>
    split at h
    · cases h
      exact (distinctNames_of_read _).1 _ _ _ hread
    · cases h
  · cases h

end Json

end RecordSchema
