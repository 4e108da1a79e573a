import RecordSchema.Proofs.Json.Reading
import RecordSchema.Record.Basic

/-!
# Attributes over a sequence of changes

Attributes are kept in a list, and each of them is set or removed by its name.  Two things are said of
the list after any changes, and neither speaks of lists.

* `Change.onMap`: what a change does to the finite map from names to values.  The attributes are the
  map that is obtained by replaying the changes (`Fields.get?_replay`).
* `FirstSetAt`: the time at which a name was first set since its last removal.  The names stand in
  the order of these times (`Fields.InOrder.replay`): a name that is set again keeps its place, and a
  name that is removed and set again goes last.

`Record.Follows` collects what callers see of a record after changes, and `Record.follows_replay`
says that it holds.
-/

namespace RecordSchema

/-! ### Names -/

namespace Fields

variable {fields : Fields} {name other : String} {value : Json}

theorem get?_eq_none_iff : fields.get? name = none ↔ name ∉ fields.names :=
  lookup_eq_none_iff_not_mem

theorem isSome_get?_iff : (fields.get? name).isSome = true ↔ name ∈ fields.names := by
  rw [← not_iff_not, ← get?_eq_none_iff]
  simp

theorem names_put : (fields.put name value).names =
    if name ∈ fields.names then fields.names else fields.names ++ [name] := by
  induction fields with
  | nil => rfl
  | cons p rest ih =>
    rw [put]
    by_cases hp : p.1 = name
    · have hmem : name ∈ names (p :: rest) := List.mem_cons.mpr (Or.inl hp.symm)
      rw [if_pos (beq_iff_eq.mpr hp), if_pos hmem]
      simp [names, hp]
    · rw [if_neg (fun h => hp (beq_iff_eq.mp h))]
      have hmem : name ∈ names (p :: rest) ↔ name ∈ names rest := by
        simp [names, Ne.symm hp]
      show p.1 :: (put name value rest).names = _
      rw [ih]
      by_cases hrest : name ∈ names rest
      · rw [if_pos hrest, if_pos (hmem.mpr hrest)]
        rfl
      · rw [if_neg hrest, if_neg (fun h => hrest (hmem.mp h))]
        rfl

theorem put_of_not_mem (h : name ∉ fields.names) :
    fields.put name value = fields ++ [(name, value)] := by
  induction fields with
  | nil => rfl
  | cons p rest ih =>
    have hne : p.1 ≠ name := fun he => h (List.mem_cons.mpr (Or.inl he.symm))
    have hrest : name ∉ names rest := fun hmem => h (List.mem_cons_of_mem p.1 hmem)
    rw [put, if_neg (fun he => hne (beq_iff_eq.mp he)), ih hrest]
    rfl

theorem names_remove : (fields.remove name).names = fields.names.erase name := by
  induction fields with
  | nil => rfl
  | cons p rest ih =>
    show _ = (p.1 :: names rest).erase name
    rw [remove_cons, List.erase_cons]
    by_cases hp : p.1 = name
    · rw [if_pos hp, if_pos (beq_iff_eq.mpr hp)]
    · rw [if_neg hp, if_neg (fun h => hp (beq_iff_eq.mp h)), ← ih]
      rfl

theorem nodup_names_remove (distinct : fields.names.Nodup) : (fields.remove name).names.Nodup := by
  rw [names_remove]
  exact distinct.erase name

theorem get?_remove_self (distinct : fields.names.Nodup) : (fields.remove name).get? name = none := by
  rw [get?_eq_none_iff, names_remove]
  exact fun h => (distinct.mem_erase_iff.mp h).1 rfl

theorem put_of_get? (h : fields.get? name = some value) : fields.put name value = fields := by
  induction fields with
  | nil => cases h
  | cons p rest ih =>
    rw [get?_cons] at h
    rw [put]
    by_cases hp : name = p.1
    · rw [if_pos hp] at h
      rw [if_pos (beq_iff_eq.mpr hp.symm)]
      cases h
      rw [hp]
    · rw [if_neg hp] at h
      rw [if_neg (fun he => hp (beq_iff_eq.mp he).symm), ih h]

end Fields

/-! ### Changes -/

/-- A change of attributes. -/
inductive Change where
  | set (name : String) (value : Json)
  | remove (name : String)

namespace Change

/-- The attributes after a change. -/
def apply (fields : Fields) : Change → Fields
  | .set name value => fields.put name value
  | .remove name => fields.remove name

/-- The finite map from names to values after a change. -/
def onMap (map : String → Option Json) : Change → String → Option Json
  | .set name value => Function.update map name (some value)
  | .remove name => Function.update map name none

end Change

/-- The finite map that is obtained by replaying changes. -/
def replayed (map : String → Option Json) (changes : List Change) : String → Option Json :=
  changes.foldl Change.onMap map

namespace Fields

/-- The attributes after changes. -/
def replay (fields : Fields) (changes : List Change) : Fields :=
  changes.foldl Change.apply fields

/-- The changes that set attributes one after another. -/
def given (fields : Fields) : List Change :=
  fields.map fun p => .set p.1 p.2

variable {fields : Fields}

theorem replay_append (fields : Fields) (changes later : List Change) :
    fields.replay (changes ++ later) = (fields.replay changes).replay later :=
  List.foldl_append

theorem nodup_names_apply (distinct : fields.names.Nodup) (c : Change) :
    (c.apply fields).names.Nodup := by
  cases c with
  | set name value => exact nodup_names_put distinct
  | remove name => exact nodup_names_remove distinct

theorem nodup_names_replay (distinct : fields.names.Nodup) (changes : List Change) :
    (fields.replay changes).names.Nodup := by
  induction changes generalizing fields with
  | nil => exact distinct
  | cons c rest ih => exact ih (nodup_names_apply distinct c)

theorem get?_apply (distinct : fields.names.Nodup) (c : Change) :
    (c.apply fields).get? = c.onMap fields.get? := by
  funext other
  cases c with
  | set name value =>
    rw [Change.apply, Change.onMap]
    by_cases h : other = name
    · rw [h, get?_put_self, Function.update_self]
    · rw [get?_put_of_ne h, Function.update_of_ne h]
  | remove name =>
    rw [Change.apply, Change.onMap]
    by_cases h : other = name
    · rw [h, get?_remove_self distinct, Function.update_self]
    · rw [get?_remove_of_ne h, Function.update_of_ne h]

/-- **Attributes after changes are the map that is obtained by replaying them.** -/
theorem get?_replay (distinct : fields.names.Nodup) (changes : List Change) :
    (fields.replay changes).get? = replayed fields.get? changes := by
  induction changes generalizing fields with
  | nil => rfl
  | cons c rest ih =>
    have hrest := ih (nodup_names_apply distinct c)
    rw [get?_apply distinct c] at hrest
    exact hrest

/-- Attributes are what remains of setting them one after another. -/
theorem replay_given (distinct : fields.names.Nodup) : replay [] fields.given = fields := by
  -- Each attribute is new where it is set, so it goes behind those that were set before.
  have happend : ∀ before : Fields, (before ++ fields).names.Nodup →
      before.replay fields.given = before ++ fields := by
    clear distinct
    induction fields with
    | nil =>
      intro before _
      exact (List.append_nil before).symm
    | cons p rest ih =>
      intro before hdistinct
      have hnew : p.1 ∉ before.names := by
        intro hmem
        rw [names, List.map_append] at hdistinct
        exact (List.disjoint_of_nodup_append hdistinct) hmem List.mem_cons_self
      have hput : before.put p.1 p.2 = before ++ [p] := put_of_not_mem hnew
      have hassoc : before ++ p :: rest = before ++ [p] ++ rest := by simp
      rw [hassoc] at hdistinct ⊢
      rw [← ih (before ++ [p]) hdistinct, ← hput]
      rfl
  exact happend [] distinct

end Fields

/-! ### Times of setting

A history is a list of changes, and the time of a change is its place there.
-/

/-- The time at which a name was first set since its last removal. -/
structure FirstSetAt (history : List Change) (name : String) (t : Nat) : Prop where
  isSet : ∃ value, history[t]? = some (Change.set name value)
  kept : ∀ i : Nat, t < i → history[i]? ≠ some (Change.remove name)
  first : ∀ (i : Nat) (value : Json), i < t → history[i]? = some (Change.set name value) →
    ∃ j : Nat, i < j ∧ j < t ∧ history[j]? = some (Change.remove name)

/-- A name was removed each time after it was set. -/
def Settled (history : List Change) (name : String) : Prop :=
  ∀ (i : Nat) (value : Json), history[i]? = some (Change.set name value) →
    ∃ j : Nat, i < j ∧ history[j]? = some (Change.remove name)

theorem getElem?_snoc_eq_some_iff {α : Type} {l : List α} {a b : α} {i : Nat} :
    (l ++ [a])[i]? = some b ↔ l[i]? = some b ∨ i = l.length ∧ a = b := by
  rcases Nat.lt_trichotomy i l.length with hlt | rfl | hgt
  · rw [List.getElem?_append_left hlt]
    simp [hlt.ne]
  · simp
  · rw [List.getElem?_eq_none (by simp; omega), List.getElem?_eq_none hgt.le]
    simp [hgt.ne']

section

variable {history : List Change} {name other : String} {value : Json} {c : Change} {t : Nat}

theorem FirstSetAt.lt (h : FirstSetAt history name t) : t < history.length := by
  obtain ⟨value, hset⟩ := h.isSet
  exact (List.getElem?_eq_some_iff.mp hset).1

theorem FirstSetAt.not_settled (h : FirstSetAt history name t) : ¬ Settled history name := by
  intro settled
  obtain ⟨value, hset⟩ := h.isSet
  obtain ⟨j, hj, hremove⟩ := settled t value hset
  exact h.kept j hj hremove

/-- A later change leaves the time as it is, unless it removes the name. -/
theorem FirstSetAt.snoc (h : FirstSetAt history name t) (hc : c ≠ .remove name) :
    FirstSetAt (history ++ [c]) name t := by
  obtain ⟨value, hset⟩ := h.isSet
  refine ⟨⟨value, getElem?_snoc_eq_some_iff.mpr (Or.inl hset)⟩, ?_, ?_⟩
  · intro i hi hremove
    rcases getElem?_snoc_eq_some_iff.mp hremove with hremove | ⟨-, he⟩
    · exact h.kept i hi hremove
    · exact hc he
  · intro i value hi hset
    rcases getElem?_snoc_eq_some_iff.mp hset with hset | ⟨rfl, -⟩
    · obtain ⟨j, hij, hjt, hremove⟩ := h.first i value hi hset
      exact ⟨j, hij, hjt, getElem?_snoc_eq_some_iff.mpr (Or.inl hremove)⟩
    · exact absurd hi h.lt.asymm

/-- A name that was removed each time is set first by the change that sets it next. -/
theorem FirstSetAt.now (settled : Settled history name) :
    FirstSetAt (history ++ [.set name value]) name history.length := by
  refine ⟨⟨value, getElem?_snoc_eq_some_iff.mpr (Or.inr ⟨rfl, rfl⟩)⟩, ?_, ?_⟩
  · intro i hi hremove
    rcases getElem?_snoc_eq_some_iff.mp hremove with hremove | ⟨rfl, -⟩
    · exact absurd hi (List.getElem?_eq_some_iff.mp hremove).1.asymm
    · exact hi.ne rfl
  · intro i value' hi hset
    rcases getElem?_snoc_eq_some_iff.mp hset with hset | ⟨rfl, -⟩
    · obtain ⟨j, hij, hremove⟩ := settled i value' hset
      exact ⟨j, hij, (List.getElem?_eq_some_iff.mp hremove).1,
        getElem?_snoc_eq_some_iff.mpr (Or.inl hremove)⟩
    · exact absurd hi (lt_irrefl _)

theorem FirstSetAt.of_snoc (h : FirstSetAt (history ++ [c]) name t) :
    c ≠ .remove name ∧ (FirstSetAt history name t ∨
      t = history.length ∧ Settled history name ∧ ∃ value, c = .set name value) := by
  obtain ⟨value, hset⟩ := h.isSet
  rcases getElem?_snoc_eq_some_iff.mp hset with hset | ⟨rfl, rfl⟩
  · have hlt : t < history.length := (List.getElem?_eq_some_iff.mp hset).1
    have hc : c ≠ .remove name := by
      intro he
      exact h.kept history.length hlt (getElem?_snoc_eq_some_iff.mpr (Or.inr ⟨rfl, he⟩))
    refine ⟨hc, Or.inl ⟨⟨value, hset⟩, fun i hi hremove => ?_, fun i value hi hset => ?_⟩⟩
    · exact h.kept i hi (getElem?_snoc_eq_some_iff.mpr (Or.inl hremove))
    · obtain ⟨j, hij, hjt, hremove⟩ :=
        h.first i value hi (getElem?_snoc_eq_some_iff.mpr (Or.inl hset))
      rw [List.getElem?_append_left (hjt.trans hlt)] at hremove
      exact ⟨j, hij, hjt, hremove⟩
  · refine ⟨by simp, Or.inr ⟨rfl, fun i value hset => ?_, value, rfl⟩⟩
    have hlt : i < history.length := (List.getElem?_eq_some_iff.mp hset).1
    obtain ⟨j, hij, hjt, hremove⟩ :=
      h.first i value hlt (getElem?_snoc_eq_some_iff.mpr (Or.inl hset))
    rw [List.getElem?_append_left hjt] at hremove
    exact ⟨j, hij, hremove⟩

theorem Settled.snoc (settled : Settled history name) (hc : ∀ value, c ≠ .set name value) :
    Settled (history ++ [c]) name := by
  intro i value hset
  rcases getElem?_snoc_eq_some_iff.mp hset with hset | ⟨-, he⟩
  · obtain ⟨j, hij, hremove⟩ := settled i value hset
    exact ⟨j, hij, getElem?_snoc_eq_some_iff.mpr (Or.inl hremove)⟩
  · exact absurd he (hc value)

theorem Settled.snoc_remove : Settled (history ++ [.remove name]) name := by
  intro i value hset
  rcases getElem?_snoc_eq_some_iff.mp hset with hset | ⟨-, he⟩
  · have hlt : i < history.length := (List.getElem?_eq_some_iff.mp hset).1
    exact ⟨history.length, hlt, getElem?_snoc_eq_some_iff.mpr (Or.inr ⟨rfl, rfl⟩)⟩
  · cases he

end

/-! ### The order of names -/

/-- Names stand in the order of the times at which they were first set since their last removal, and
the names that are missing were removed each time. -/
structure Fields.InOrder (fields : Fields) (history : List Change) : Prop where
  timed : ∀ name, name ∈ fields.names ↔ ∃ t, FirstSetAt history name t
  ordered : fields.names.Pairwise fun earlier later =>
    ∀ s t, FirstSetAt history earlier s → FirstSetAt history later t → s < t
  settled : ∀ name, name ∉ fields.names → Settled history name

namespace Fields.InOrder

variable {fields : Fields} {history : List Change} {name : String} {value : Json} {c : Change}

theorem nil : InOrder [] [] := by
  refine ⟨fun name => ⟨fun h => ?_, ?_⟩, List.Pairwise.nil, fun name _ i value h => ?_⟩
  · cases h
  · rintro ⟨t, h⟩
    exact absurd h.lt t.not_lt_zero
  · cases h

theorem of_snoc (h : fields.InOrder history) (hname : name ∈ fields.names) {t : Nat}
    (ht : FirstSetAt (history ++ [c]) name t) : FirstSetAt history name t := by
  rcases ht.of_snoc.2 with ht | ⟨-, settled, -⟩
  · exact ht
  · obtain ⟨s, hs⟩ := (h.timed name).mp hname
    exact absurd settled hs.not_settled

theorem ordered_snoc (h : fields.InOrder history) : fields.names.Pairwise fun earlier later =>
    ∀ s t, FirstSetAt (history ++ [c]) earlier s → FirstSetAt (history ++ [c]) later t → s < t := by
  refine h.ordered.imp_of_mem fun hearlier hlater hlt s t hs ht => ?_
  exact hlt s t (h.of_snoc hearlier hs) (h.of_snoc hlater ht)

theorem put_of_mem (h : fields.InOrder history) (hmem : name ∈ fields.names) :
    (fields.put name value).InOrder (history ++ [.set name value]) := by
  have hnames : (fields.put name value).names = fields.names := by rw [names_put, if_pos hmem]
  refine ⟨fun other => ?_, ?_, fun other hnot => ?_⟩
  · rw [hnames, h.timed]
    refine ⟨fun ⟨t, ht⟩ => ⟨t, ht.snoc (by simp)⟩, fun ⟨t, ht⟩ => ?_⟩
    rcases ht.of_snoc.2 with ht | ⟨-, -, _, he⟩
    · exact ⟨t, ht⟩
    · cases he
      exact (h.timed name).mp hmem
  · rw [hnames]
    exact h.ordered_snoc
  · rw [hnames] at hnot
    refine (h.settled other hnot).snoc fun _ he => ?_
    cases he
    exact hnot hmem

theorem put_of_not_mem (h : fields.InOrder history) (hnew : name ∉ fields.names) :
    (fields.put name value).InOrder (history ++ [.set name value]) := by
  have hnames : (fields.put name value).names = fields.names ++ [name] := by
    rw [names_put, if_neg hnew]
  have hnow : ∀ t, FirstSetAt (history ++ [.set name value]) name t → t = history.length := by
    intro t ht
    rcases ht.of_snoc.2 with ht | ⟨he, -⟩
    · exact absurd ((h.timed name).mpr ⟨t, ht⟩) hnew
    · exact he
  refine ⟨fun other => ?_, ?_, fun other hnot => ?_⟩
  · rw [hnames, List.mem_append, List.mem_singleton, h.timed]
    constructor
    · rintro (⟨t, ht⟩ | rfl)
      · exact ⟨t, ht.snoc (by simp)⟩
      · exact ⟨_, .now (h.settled other hnew)⟩
    · rintro ⟨t, ht⟩
      rcases ht.of_snoc.2 with ht | ⟨-, -, _, he⟩
      · exact Or.inl ⟨t, ht⟩
      · cases he
        exact Or.inr rfl
  · rw [hnames, List.pairwise_append]
    refine ⟨h.ordered_snoc, List.pairwise_singleton _ _, fun earlier hearlier later hlater => ?_⟩
    obtain rfl := List.mem_singleton.mp hlater
    intro s t hs ht
    rw [hnow t ht]
    exact (h.of_snoc hearlier hs).lt
  · rw [hnames, List.mem_append, List.mem_singleton, not_or] at hnot
    refine (h.settled other hnot.1).snoc fun _ he => ?_
    cases he
    exact hnot.2 rfl

theorem remove (h : fields.InOrder history) (distinct : fields.names.Nodup) :
    (fields.remove name).InOrder (history ++ [.remove name]) := by
  refine ⟨fun other => ?_, ?_, fun other hnot => ?_⟩
  · rw [names_remove, distinct.mem_erase_iff, h.timed]
    constructor
    · rintro ⟨hne, t, ht⟩
      refine ⟨t, ht.snoc fun he => ?_⟩
      cases he
      exact hne rfl
    · rintro ⟨t, ht⟩
      obtain ⟨hc, ht | ⟨-, -, _, he⟩⟩ := ht.of_snoc
      · exact ⟨fun he => hc (he ▸ rfl), t, ht⟩
      · cases he
  · rw [names_remove]
    exact h.ordered_snoc.sublist List.erase_sublist
  · rw [names_remove, distinct.mem_erase_iff, not_and_or, not_not] at hnot
    rcases hnot with rfl | hnot
    · exact .snoc_remove
    · exact (h.settled other hnot).snoc (by simp)

theorem apply (h : fields.InOrder history) (distinct : fields.names.Nodup) :
    (c.apply fields).InOrder (history ++ [c]) := by
  cases c with
  | set name value =>
    by_cases hmem : name ∈ fields.names
    · exact h.put_of_mem hmem
    · exact h.put_of_not_mem hmem
  | remove name => exact h.remove distinct

/-- **Any changes** keep names in the order in which they were first set since their last
removal. -/
theorem replay (h : fields.InOrder history) (distinct : fields.names.Nodup)
    (changes : List Change) : (fields.replay changes).InOrder (history ++ changes) := by
  -- Each change goes to the end of the history, so the history is generalized with the attributes.
  induction changes generalizing fields history with
  | nil =>
    rw [List.append_nil]
    exact h
  | cons c rest ih =>
    have hrest := ih (h.apply distinct) (nodup_names_apply distinct c)
    rw [List.append_assoc, List.singleton_append] at hrest
    exact hrest

theorem given (distinct : fields.names.Nodup) : fields.InOrder fields.given := by
  have h := nil.replay List.nodup_nil fields.given
  rw [replay_given distinct] at h
  exact h

end Fields.InOrder

/-! ### Records -/

/-- What callers see of a record that was changed: it is bound as before, its attributes are the
finite map that is obtained by replaying the changes, and they stand in the order in which they were
first set, or given at the start, since their last removal. -/
structure Record.Follows (r : Record) (changes : List Change) (r' : Record) : Prop where
  type : r'.type = r.type
  get? : r'.get? = replayed r.get? changes
  contains : ∀ name, r'.contains name = (replayed r.get? changes name).isSome
  size : r'.size = {name | (replayed r.get? changes name).isSome}.ncard
  attributes : ∀ name value,
    (name, value) ∈ r'.attributes ↔ replayed r.get? changes name = some value
  distinct : r'.attributes.names.Nodup
  inOrder : r'.attributes.InOrder (r.attributes.given ++ changes)

/-- **A record follows its changes.** -/
theorem Record.follows_replay {r : Record} (distinct : r.attributes.names.Nodup)
    (changes : List Change) :
    r.Follows changes { r with attributes := r.attributes.replay changes } := by
  have hget : (r.attributes.replay changes).get? = replayed r.get? changes :=
    Fields.get?_replay distinct changes
  have hdistinct := Fields.nodup_names_replay distinct changes
  refine ⟨rfl, hget, fun name => ?_, ?_, fun name value => ?_, hdistinct,
    (Fields.InOrder.given distinct).replay distinct changes⟩
  · exact congrArg Option.isSome (congrFun hget name)
  · have hset : {name | (replayed r.get? changes name).isSome} =
        ↑(r.attributes.replay changes).names.toFinset := by
      ext name
      rw [Set.mem_ofPred_eq, ← hget, Fields.isSome_get?_iff, Finset.mem_coe, List.mem_toFinset]
    rw [hset, Set.ncard_coe_finset, List.toFinset_card_of_nodup hdistinct]
    exact (List.length_map _).symm
  · rw [← hget]
    exact (lookup_eq_some_iff_mem hdistinct).symm

end RecordSchema
