import RecordSchema.Proofs.Record.Perfecting
import RecordSchema.Proofs.Record.Storage
import RecordSchema.Proofs.Workspace.Separation

/-!
# Records over whole runs

A workspace starts empty and is given any commands.  Records are made, copied, changed, perfected and
checked in it, and some of the commands fail.

* `Makes`, `Rewrites`: what a command keeps under which name.  A command rewrites one record and
  leaves the others, or it leaves all records (`Workspace.run_cases`); so copies are changed
  independently.
* `Workspace.Distinct`: the invariant that no attribute of a record is there twice, kept by one
  command (`Workspace.Distinct.run`) and by any (`Workspace.Distinct.after`).
* `Workspace.Becomes`: what becomes of a record that is not made anew, by one command
  (`Workspace.becomes_run`) and by any (`Workspace.becomes_after`).

`records_over_runs` puts this together with the replies.
-/

namespace RecordSchema

/-! ### Commands -/

namespace Command

/-- The name under which a command keeps a new record. -/
def made? : Command → Option String
  | .createRecord _ keptAs | .newRecord _ _ keptAs | .unbound _ keptAs | .copy _ keptAs =>
    some keptAs
  | _ => none

/-- The record that a command perfects. -/
def perfected? : Command → Option String
  | .perfect record => some record
  | _ => none

/-- The change that a command makes to one record. -/
def changeOf (record : String) : Command → Option Change
  | .set r name value => if r = record then some (.set name value) else none
  | .remove r name => if r = record then some (.remove name) else none
  | _ => none

/-- The attributes that a command gives to a new record. -/
def given : Command → Fields
  | .newRecord _ (some (.obj fields)) _ => fields
  | .unbound (some fields) _ => fields
  | _ => []

end Command

/-- A command makes a record of a type, or of none, with attributes. -/
inductive Makes (w : Workspace) : Command → String → Option RecordType → Fields → Prop
  | created {name keptAs : String} {type : RecordType} (found : w.registry.get? name = some type) :
      Makes w (.createRecord name keptAs) keptAs (some type) []
  | new {reference : TypeReference} {keptAs : String} {type : RecordType}
      (found : w.typeAt reference = .ok type) :
      Makes w (.newRecord reference none keptAs) keptAs (some type) []
  | ofFields {reference : TypeReference} {keptAs : String} {type : RecordType} {fields : Fields}
      (found : w.typeAt reference = .ok type) :
      Makes w (.newRecord reference (some (.obj fields)) keptAs) keptAs (some type) fields
  | unbound {attributes : Option Fields} {keptAs : String} :
      Makes w (.unbound attributes keptAs) keptAs none (attributes.getD [])
  | copied {record keptAs : String} {r : Record} (found : w.recordAt record = .ok r) :
      Makes w (.copy record keptAs) keptAs r.type r.attributes

/-- A command keeps a record under a name: a new one, or what becomes of the old one. -/
inductive Rewrites (w : Workspace) : Command → String → Record → Prop
  | made {c : Command} {name : String} {type : Option RecordType} {fields : Fields}
      (h : Makes w c name type fields) : Rewrites w c name ⟨type, fields⟩
  | set {record name : String} {value : Json} {r : Record} (found : w.recordAt record = .ok r) :
      Rewrites w (.set record name value) record (r.set name value)
  | removed {record name : String} {r : Record} (found : w.recordAt record = .ok r) :
      Rewrites w (.remove record name) record (r.remove name)
  | perfected {record : String} {r r' : Record} (found : w.recordAt record = .ok r)
      (h : r.perfect = .ok r') : Rewrites w (.perfect record) record r'

/-- A record is bound to a type, or to none. -/
structure Record.OfType (r : Record) (type : Option RecordType) : Prop where
  typeName : r.typeName? = type.map RecordType.name
  shape : r.shape? = type.map RecordType.shape

namespace Workspace

variable {w : Workspace} {c : Command} {name other : String} {r : Record}

/-- The workspace after commands. -/
def after (w : Workspace) (commands : List Command) : Workspace :=
  commands.foldl (fun w c => (w.run c).2.2) w

/-- The workspace that was empty before the commands. -/
def ofCommands (commands : List Command) : Workspace :=
  ({} : Workspace).after commands

/-! ### What is kept -/

theorem lookUp_keep_self {α : Type} (name : String) (x : α) (kept : List (String × α)) :
    lookUp (keep name x kept) name = .ok x := by
  rw [lookUp, keep, List.lookup_cons_self]

theorem lookUp_keep_of_ne {α : Type} (h : other ≠ name) (x : α) (kept : List (String × α)) :
    lookUp (keep name x kept) other = lookUp kept other := by
  have hfilter : (kept.filter (·.1 != name)).lookup other = kept.lookup other := by
    induction kept with
    | nil => rfl
    | cons p rest ih =>
      rw [List.filter_cons, lookup_cons_eq]
      by_cases hp : p.1 = name
      · have hne : other ≠ p.1 := fun he => h (he.trans hp)
        rw [if_neg (by simpa using hp), if_neg hne, ih]
      · rw [if_pos (by simpa using hp), lookup_cons_eq, ih]
  rw [lookUp, keep, lookup_cons_eq, if_neg h, hfilter, lookUp]

theorem run_of_perform {reply : Reply} {next : Workspace} (h : w.perform c = .ok (reply, next)) :
    w.run c = (.ok reply, w.events c, next) := by
  rw [run, h]

theorem run_of_makes {type : Option RecordType} {fields : Fields} (h : Makes w c name type fields) :
    w.run c = (.ok (.record ⟨type, fields⟩), w.events c, w.keepRecord name ⟨type, fields⟩) := by
  refine run_of_perform ?_
  cases h with
  | created found =>
    rw [perform, TypeRegistry.createRecord, found]
    rfl
  | new found =>
    rw [perform, found]
    rfl
  | ofFields found =>
    rw [perform, found]
    rfl
  | unbound => rfl
  | copied found =>
    rw [perform, found]
    rfl

theorem run_set (found : w.recordAt name = .ok r) (field : String) (value : Json) :
    w.run (.set name field value) = (.ok (.changed (r.get? field) (r.set field value)),
      w.events (.set name field value), w.keepRecord name (r.set field value)) := by
  refine run_of_perform ?_
  rw [perform, found]
  rfl

theorem run_remove (found : w.recordAt name = .ok r) (field : String) :
    w.run (.remove name field) = (.ok (.changed (r.get? field) (r.remove field)),
      w.events (.remove name field), w.keepRecord name (r.remove field)) := by
  refine run_of_perform ?_
  rw [perform, found]
  rfl

theorem run_perfect {r' : Record} (found : w.recordAt name = .ok r) (h : r.perfect = .ok r') :
    w.run (.perfect name) =
      (.ok (.record r'), w.events (.perfect name), w.keepRecord name r') := by
  refine run_of_perform ?_
  rw [perform, found]
  show (r.perfect.mapError Failure.error >>= _) = _
  rw [h]
  rfl

theorem records_run_of_rewrites (h : Rewrites w c name r) :
    (w.run c).2.2.records = keep name r w.records := by
  cases h with
  | made h => rw [run_of_makes h]; rfl
  | set found => rw [run_set found]; rfl
  | removed found => rw [run_remove found]; rfl
  | perfected found h => rw [run_perfect found h]; rfl

theorem ends_records (w : Workspace) (c : Command) :
    Ends (w.perform c)
      (fun outcome => (∃ name r, Rewrites w c name r) ∨ outcome.2.records = w.records)
      (fun _ => True) := by
  have hrecord := fun name => Ends.self (w.recordAt name)
  cases c with
  | keepSchema source keptAs => exact (Ends.self _).bind fun _ _ => Or.inr rfl
  | register name source =>
    exact (Ends.self _).bind fun _ _ => (Ends.self _).bind fun _ _ => Or.inr rfl
  | createType name source keptAs =>
    exact (Ends.self _).bind fun _ _ => (Ends.self _).bind fun _ _ => Or.inr rfl
  | showRegistry => exact Or.inr rfl
  | getType name =>
    rw [perform]
    split
    · exact Or.inr rfl
    · exact Or.inr rfl
  | createRecord type keptAs =>
    cases found : w.registry.get? type with
    | some t =>
      rw [perform, TypeRegistry.createRecord, found]
      exact Or.inl ⟨_, _, .made (.created found)⟩
    | none =>
      rw [perform, TypeRegistry.createRecord, found]
      trivial
  | newRecord reference value keptAs =>
    refine (Ends.self (w.typeAt reference)).bind fun type found => ?_
    cases value with
    | none => exact Or.inl ⟨_, _, .made (.new found)⟩
    | some value =>
      cases value with
      | obj fields => exact Or.inl ⟨_, _, .made (.ofFields found)⟩
      | _ => trivial
  | unbound attributes keptAs => exact Or.inl ⟨_, _, .made .unbound⟩
  | copy record keptAs =>
    exact (hrecord record).bind fun _ found => Or.inl ⟨_, _, .made (.copied found)⟩
  | set record name value => exact (hrecord record).bind fun _ found => Or.inl ⟨_, _, .set found⟩
  | remove record name => exact (hrecord record).bind fun _ found => Or.inl ⟨_, _, .removed found⟩
  | perfect record =>
    refine (hrecord record).bind fun r found => ?_
    cases hperfect : r.perfect with
    | ok r' => exact Or.inl ⟨_, _, .perfected found hperfect⟩
    | error e => trivial
  | sameSchema record other =>
    exact (hrecord record).bind fun _ _ => (hrecord other).bind fun _ _ => Or.inr rfl
  | get record name => exact (hrecord record).bind fun _ _ => Or.inr rfl
  | getOr record name default => exact (hrecord record).bind fun _ _ => Or.inr rfl
  | showRecord record => exact (hrecord record).bind fun _ _ => Or.inr rfl
  | validate record =>
    exact (hrecord record).bind fun _ _ => (Ends.self _).bind fun _ _ => Or.inr rfl
  | violations record =>
    exact (hrecord record).bind fun _ _ => (Ends.self _).bind fun _ _ => Or.inr rfl
  | validateObject record raised =>
    exact (hrecord record).bind fun _ _ => (Ends.self _).bind fun _ _ => Or.inr rfl
  | validateProperty record name raised =>
    exact (hrecord record).bind fun _ _ => (Ends.self _).bind fun _ _ => Or.inr rfl
  | requireProperty record name =>
    exact (hrecord record).bind fun _ _ => (Ends.self _).bind fun _ _ => Or.inr rfl

/-- **A command rewrites one record, or it rewrites none.** -/
theorem run_cases (w : Workspace) (c : Command) :
    (∃ name r, Rewrites w c name r ∧ (w.run c).2.2.records = keep name r w.records) ∨
      (¬ ∃ name r, Rewrites w c name r) ∧ (w.run c).2.2.records = w.records := by
  by_cases h : ∃ name r, Rewrites w c name r
  · obtain ⟨name, r, h⟩ := h
    exact Or.inl ⟨name, r, h, records_run_of_rewrites h⟩
  · refine Or.inr ⟨h, ?_⟩
    have hends := ends_records w c
    rw [run]
    cases hperform : w.perform c with
    | ok outcome =>
      rw [hperform] at hends
      exact hends.resolve_left h
    | error failure => rfl

theorem recordAt_of_rewritten {w' : Workspace} (h : w'.records = keep other r w.records)
    (name : String) :
    w'.recordAt other = .ok r ∧ (name ≠ other → w'.recordAt name = w.recordAt name) := by
  rw [recordAt, recordAt, h]
  exact ⟨lookUp_keep_self other r w.records, fun hne => lookUp_keep_of_ne hne r w.records⟩

/-! ### Distinct names -/

/-- No attribute of a record is there twice. -/
def Distinct (w : Workspace) : Prop :=
  ∀ name r, w.recordAt name = .ok r → r.attributes.names.Nodup

namespace Distinct

theorem empty : Distinct {} := by
  intro name r h
  cases h

theorem of_rewrites (h : w.Distinct) (given : c.given.names.Nodup) (hr : Rewrites w c name r) :
    r.attributes.names.Nodup := by
  cases hr with
  | made hmakes =>
    cases hmakes with
    | created found => exact List.nodup_nil
    | new found => exact List.nodup_nil
    | ofFields found => exact given
    | @unbound attributes keptAs =>
      cases attributes with
      | none => exact List.nodup_nil
      | some fields => exact given
    | copied found => exact h _ _ found
  | set found => exact Fields.nodup_names_put (h _ _ found)
  | removed found => exact Fields.nodup_names_remove (h _ _ found)
  | perfected found hperfect => exact (Record.of_perfect_eq_ok hperfect).2 (h _ _ found)

theorem run (h : w.Distinct) (given : c.given.names.Nodup) : (w.run c).2.2.Distinct := by
  intro name r found
  rcases w.run_cases c with ⟨other, r', hr, hrecords⟩ | ⟨-, hrecords⟩
  · obtain ⟨hself, hothers⟩ := recordAt_of_rewritten hrecords name
    by_cases hname : name = other
    · subst hname
      rw [hself] at found
      cases found
      exact h.of_rewrites given hr
    · rw [hothers hname] at found
      exact h name r found
  · rw [recordAt, hrecords] at found
    exact h name r found

theorem after (h : w.Distinct) {commands : List Command}
    (given : ∀ c ∈ commands, c.given.names.Nodup) : (w.after commands).Distinct := by
  induction commands generalizing w with
  | nil => exact h
  | cons c rest ih =>
    obtain ⟨hc, hrest⟩ := List.forall_mem_cons.mp given
    exact ih (h.run hc) hrest

end Distinct

/-! ### One record -/

/-- What becomes of a record: it is bound as before, its names are distinct, and unless it was
perfected, changes were carried out on it and nothing else was. -/
structure Becomes (r : Record) (perfected : Prop) (changes : List Change) (r' : Record) : Prop where
  type : r'.type = r.type
  distinct : r'.attributes.names.Nodup
  attributes : ¬ perfected → r'.attributes = r.attributes.replay changes

theorem Becomes.refl {perfected : Prop} (distinct : r.attributes.names.Nodup) :
    Becomes r perfected [] r :=
  ⟨rfl, distinct, fun _ => rfl⟩

theorem Becomes.trans {r₁ r₂ : Record} {perfected perfected' : Prop} {changes changes' : List Change}
    (h : Becomes r perfected changes r₁) (h' : Becomes r₁ perfected' changes' r₂) :
    Becomes r (perfected ∨ perfected') (changes ++ changes') r₂ := by
  refine ⟨h'.type.trans h.type, h'.distinct, fun hnot => ?_⟩
  rw [not_or] at hnot
  rw [h'.attributes hnot.2, h.attributes hnot.1, Fields.replay_append]

theorem rewrites_of_changeOf {change : Change} (found : w.recordAt name = .ok r)
    (h : c.changeOf name = some change) : ∃ r', Rewrites w c name r' := by
  cases c with
  | set record field value =>
    rw [Command.changeOf] at h
    split at h
    · next hname =>
      subst hname
      exact ⟨_, .set found⟩
    · cases h
  | remove record field =>
    rw [Command.changeOf] at h
    split at h
    · next hname =>
      subst hname
      exact ⟨_, .removed found⟩
    · cases h
  | _ => cases h

theorem changeOf_eq_none_of_ne (hr : Rewrites w c other r) (hne : name ≠ other) :
    c.changeOf name = none := by
  cases hr with
  | made hmakes => cases hmakes <;> rfl
  | set found => exact if_neg (Ne.symm hne)
  | removed found => exact if_neg (Ne.symm hne)
  | perfected found hperfect => rfl

theorem becomes_of_rewrites {r' : Record} (found : w.recordAt name = .ok r)
    (distinct : r.attributes.names.Nodup) (old : c.made? ≠ some name) (hr : Rewrites w c name r') :
    Becomes r (c.perfected? = some name) (c.changeOf name).toList r' := by
  cases hr with
  | made hmakes => cases hmakes <;> exact absurd rfl old
  | set hfound =>
    cases hfound.symm.trans found
    rw [Command.changeOf, if_pos rfl]
    exact ⟨rfl, Fields.nodup_names_put distinct, fun _ => rfl⟩
  | removed hfound =>
    cases hfound.symm.trans found
    rw [Command.changeOf, if_pos rfl]
    exact ⟨rfl, Fields.nodup_names_remove distinct, fun _ => rfl⟩
  | perfected hfound hperfect =>
    cases hfound.symm.trans found
    obtain ⟨htype, hdistinct⟩ := Record.of_perfect_eq_ok hperfect
    exact ⟨htype, hdistinct distinct, fun hnot => absurd rfl hnot⟩

/-- **One command** and a record that it does not make anew. -/
theorem becomes_run (found : w.recordAt name = .ok r) (distinct : r.attributes.names.Nodup)
    (old : c.made? ≠ some name) : ∃ r', (w.run c).2.2.recordAt name = .ok r' ∧
      Becomes r (c.perfected? = some name) (c.changeOf name).toList r' := by
  rcases w.run_cases c with ⟨other, r', hr, hrecords⟩ | ⟨hno, hrecords⟩
  · obtain ⟨hself, hothers⟩ := recordAt_of_rewritten hrecords name
    by_cases hname : name = other
    · subst hname
      exact ⟨r', hself, becomes_of_rewrites found distinct old hr⟩
    · rw [hothers hname, changeOf_eq_none_of_ne hr hname]
      exact ⟨r, found, .refl distinct⟩
  · have hnone : c.changeOf name = none := by
      rw [Option.eq_none_iff_forall_ne_some]
      intro change hchange
      exact hno ⟨name, rewrites_of_changeOf found hchange⟩
    rw [recordAt, hrecords, hnone]
    exact ⟨r, found, .refl distinct⟩

/-- **Any commands** and a record that they do not make anew. -/
theorem becomes_after {commands : List Command} (found : w.recordAt name = .ok r)
    (distinct : r.attributes.names.Nodup) (old : ∀ c ∈ commands, c.made? ≠ some name) :
    ∃ r', (w.after commands).recordAt name = .ok r' ∧
      Becomes r (∃ c ∈ commands, c.perfected? = some name)
        (commands.filterMap (Command.changeOf name)) r' := by
  induction commands generalizing w r with
  | nil => exact ⟨r, found, .refl distinct⟩
  | cons c rest ih =>
    obtain ⟨hc, hrest⟩ := List.forall_mem_cons.mp old
    obtain ⟨r₁, hfound, hfirst⟩ := becomes_run found distinct hc
    obtain ⟨r₂, hafter, hthen⟩ := ih hfound hfirst.distinct hrest
    have hchanges : (c :: rest).filterMap (Command.changeOf name) =
        (c.changeOf name).toList ++ rest.filterMap (Command.changeOf name) := by
      cases hc : c.changeOf name <;> simp [hc]
    rw [hchanges, List.exists_mem_cons_iff]
    exact ⟨r₂, hafter, hfirst.trans hthen⟩

theorem Becomes.follows {r' : Record} {perfected : Prop} {changes : List Change}
    (h : Becomes r perfected changes r') (distinct : r.attributes.names.Nodup)
    (hnot : ¬ perfected) : r.Follows changes r' := by
  have heq : r' = { r with attributes := r.attributes.replay changes } := by
    cases r'
    cases h.type
    cases h.attributes hnot
    rfl
  rw [heq]
  exact Record.follows_replay distinct changes

end Workspace

/-! ### Whole runs -/

theorem Record.sharesSchema_of_shape_eq {r r' : Record} (h : r'.shape? = r.shape?) :
    r.sharesSchema r' = r.isBound := by
  rw [sharesSchema, h, isBound]
  cases r.shape? with
  | none => rfl
  | some shape => exact beq_self_eq_true shape.identity

/-- What callers see of a record after commands that do not make it anew: it shares the schema that
it shared before, under the same type name, its names are distinct, and it follows the changes that
were made to it alone, unless it was perfected meanwhile. -/
structure Record.Persists (name : String) (r : Record) (later : List Command) (r' : Record) :
    Prop where
  typeName : r'.typeName? = r.typeName?
  shape : r'.shape? = r.shape?
  shares : r.sharesSchema r' = r.isBound
  distinct : r'.attributes.names.Nodup
  follows : (¬ ∃ c ∈ later, c.perfected? = some name) →
    r.Follows (later.filterMap (Command.changeOf name)) r'

namespace Workspace

variable {w : Workspace} {c : Command} {name : String} {r : Record}

theorem persists_after {later : List Command} (found : w.recordAt name = .ok r)
    (distinct : r.attributes.names.Nodup) (old : ∀ c ∈ later, c.made? ≠ some name) :
    ∃ r', (w.after later).recordAt name = .ok r' ∧ r.Persists name later r' := by
  obtain ⟨r', hafter, hbecomes⟩ := becomes_after found distinct old
  have htype : r'.typeName? = r.typeName? := congrArg (Option.map RecordType.name) hbecomes.type
  have hshape : r'.shape? = r.shape? := congrArg (Option.map RecordType.shape) hbecomes.type
  exact ⟨r', hafter, htype, hshape, Record.sharesSchema_of_shape_eq hshape, hbecomes.distinct,
    hbecomes.follows distinct⟩

/-- A record that is made is kept, and bound to the type that made it whatever commands follow. -/
theorem ofType_after_makes {type : Option RecordType} {fields : Fields} (distinct : w.Distinct)
    (hmakes : Makes w c name type fields) (given : c.given.names.Nodup) :
    (w.run c).2.2.recordAt name = .ok ⟨type, fields⟩ ∧
      ∀ later : List Command, (∀ d ∈ later, d.made? ≠ some name) →
        ∃ r, ((w.run c).2.2.after later).recordAt name = .ok r ∧ r.OfType type := by
  have hkept : (w.run c).2.2.recordAt name = .ok ⟨type, fields⟩ := by
    rw [run_of_makes hmakes]
    exact lookUp_keep_self name _ w.records
  refine ⟨hkept, fun later old => ?_⟩
  have hdistinct := distinct.run given name _ hkept
  obtain ⟨r, hafter, hpersists⟩ := persists_after hkept hdistinct old
  exact ⟨r, hafter, hpersists.typeName, hpersists.shape⟩

theorem run_of_failure {failure : Failure} (h : (w.run c).1 = .error failure) :
    (w.run c).2.2 = w := by
  rw [run] at h ⊢
  cases hperform : w.perform c with
  | ok outcome =>
    rw [hperform] at h
    cases h
  | error _ => rfl

end Workspace

/-- **Records over whole runs.**  In any workspace that was reached from the empty one:

* a command that makes a record keeps it, with the attributes that were given, and whatever commands
  follow that do not make it anew, it is bound to the type that made it;
* a record that is kept has distinct names, and has a type name if and only if it is bound; setting
  and removing reply what was there before; and it persists whatever commands follow that do not make
  it anew, and follows the changes that are made to it;
* a command that fails changes nothing. -/
theorem records_over_runs {commands : List Command}
    (given : ∀ c ∈ commands, c.given.names.Nodup) :
    let w := Workspace.ofCommands commands
    (∀ c name type fields, Makes w c name type fields → c.given.names.Nodup →
      (w.run c).1 = .ok (.record ⟨type, fields⟩) ∧
      (w.run c).2.2.recordAt name = .ok ⟨type, fields⟩ ∧
      ∀ later : List Command, (∀ d ∈ later, d.made? ≠ some name) →
        ∃ r, ((w.run c).2.2.after later).recordAt name = .ok r ∧ r.OfType type) ∧
    (∀ name r, w.recordAt name = .ok r →
      r.attributes.names.Nodup ∧ (r.isBound = true ↔ r.typeName?.isSome = true) ∧
      (∀ field value, (w.run (.set name field value)).1 =
        .ok (.changed (r.get? field) (r.set field value))) ∧
      (∀ field, (w.run (.remove name field)).1 =
        .ok (.changed (r.get? field) (r.remove field))) ∧
      ∀ later : List Command, (∀ c ∈ later, c.made? ≠ some name) →
        ∃ r', (w.after later).recordAt name = .ok r' ∧ r.Persists name later r') ∧
    ∀ c failure, (w.run c).1 = .error failure → (w.run c).2.2 = w := by
  intro w
  have hdistinct : w.Distinct := Workspace.Distinct.empty.after given
  refine ⟨fun c name type fields hmakes hgiven => ?_, fun name r found => ?_,
    fun c failure hfailed => Workspace.run_of_failure hfailed⟩
  · exact ⟨by rw [Workspace.run_of_makes hmakes],
      Workspace.ofType_after_makes hdistinct hmakes hgiven⟩
  · have hr := hdistinct name r found
    refine ⟨hr, ?_, fun field value => ?_, fun field => ?_,
      fun later old => Workspace.persists_after found hr old⟩
    · rw [Record.isBound, Record.shape?, Record.typeName?, Option.isSome_map, Option.isSome_map]
    · rw [Workspace.run_set found]
    · rw [Workspace.run_remove found]

/-- A person is made and copied. -/
def twins : List Command :=
  [.createType "person" (.given (.described person)) "p",
    .newRecord (.kept "p") (some (.obj ageless.attributes)) "a", .copy "a" "b"]

/-- The person and the copy are changed and checked, each on its own. -/
def apart : List Command :=
  [.remove "a" "extra", .set "b" "age" (.num (.int 7)), .set "a" "name" (.str "Ada"),
    .perfect "b", .validate "a", .set "a" "extra" .null, .copy "a" "c"]

/-- The person follows the changes that were made to it, and not those of the copy. -/
theorem twins_records_over_runs :
    (∀ c ∈ twins, c.given.names.Nodup) ∧
      (Workspace.ofCommands twins).recordAt "a" = .ok ageless ∧
      (∀ c ∈ apart, c.made? ≠ some "a") ∧ (¬ ∃ c ∈ apart, c.perfected? = some "a") ∧
      ∃ r, ((Workspace.ofCommands twins).after apart).recordAt "a" = .ok r ∧
        r.typeName? = some "person" ∧ ageless.sharesSchema r = true ∧
        ageless.Follows [.remove "extra", .set "name" (.str "Ada"), .set "extra" .null] r ∧
        r.get? "age" = some .null := by
  have given : ∀ c ∈ twins, c.given.names.Nodup := by
    simp [twins, Command.given, ageless, RecordType.recordFrom, Fields.names]
  have found : (Workspace.ofCommands twins).recordAt "a" = .ok ageless := rfl
  have old : ∀ c ∈ apart, c.made? ≠ some "a" := by
    simp [apart, Command.made?]
  have unperfected : ¬ ∃ c ∈ apart, c.perfected? = some "a" := by
    simp [apart, Command.perfected?]
  obtain ⟨-, hkept, -⟩ := records_over_runs given
  obtain ⟨-, -, -, -, hlater⟩ := hkept "a" ageless found
  obtain ⟨r, hafter, hpersists⟩ := hlater apart old
  have hchanges : ageless.Follows
      [.remove "extra", .set "name" (.str "Ada"), .set "extra" .null] r :=
    hpersists.follows unperfected
  refine ⟨given, found, old, unperfected, r, hafter, hpersists.typeName, hpersists.shares,
    hchanges, ?_⟩
  rw [hchanges.get?]
  rfl

end RecordSchema
