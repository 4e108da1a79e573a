import Mathlib
import RecordSchema.Record.Registry

/-!
# Registries over whole runs

A registry starts empty and is called any number of times: types are registered, looked up and
listed, and records are made of them.  Some registrations fail.

* `TypeRegistry.step`, `TypeRegistry.after`, `TypeRegistry.transcript`: one call, the registry after
  many, and the calls with their answers.
* `registrations`: the calls that registered a type, read off the transcript.
* `TypeRegistry.Keeps`: the invariant.  A registry holds the types of the successful registrations,
  in their order and under distinct names that are not empty.  One call keeps it
  (`TypeRegistry.Keeps.step`), and so does a whole run (`TypeRegistry.Keeps.after`).
* `TypeRegistry.Reflects`: what callers see of a registry, said by the successful registrations
  alone; `TypeRegistry.Keeps.reflects` derives it from the invariant.

`registry_runs` puts this together with the reasons for which a registration fails.
-/

namespace RecordSchema

/-! ### Calls -/

/-- A call to a registry.  The schema of a type that is registered takes the given identity unless
it is shared. -/
inductive RegistryCall where
  | register (identity : Nat) (name : String) (source : SchemaSource)
  | get (name : String)
  | createRecord (name : String)
  | names

/-- The answer to a call. -/
inductive RegistryAnswer where
  | registered (outcome : Except Error RecordType)
  | found (type : Option RecordType)
  | created (outcome : Except Error Record)
  | listed (names : List String)

/-- A registration that succeeded: what was registered, and the type that it gave. -/
structure Registration where
  identity : Nat
  name : String
  source : SchemaSource
  type : RecordType

/-- The registration of a call that was answered with a type. -/
def registration? : RegistryCall × RegistryAnswer → Option Registration
  | (.register identity name source, .registered (.ok type)) => some ⟨identity, name, source, type⟩
  | _ => none

namespace TypeRegistry

/-- One call: its answer, and the registry after it. -/
def step (registry : TypeRegistry) : RegistryCall → RegistryAnswer × TypeRegistry
  | .register identity name source =>
    match registry.register identity name source with
    | .ok (type, after) => (.registered (.ok type), after)
    | .error e => (.registered (.error e), registry)
  | .get name => (.found (registry.get? name), registry)
  | .createRecord name => (.created (registry.createRecord name), registry)
  | .names => (.listed registry.names, registry)

/-- The registry after calls. -/
def after (registry : TypeRegistry) (calls : List RegistryCall) : TypeRegistry :=
  calls.foldl (fun registry call => (registry.step call).2) registry

/-- The calls with their answers. -/
def transcript (registry : TypeRegistry) : List RegistryCall → List (RegistryCall × RegistryAnswer)
  | [] => []
  | call :: rest => (call, (registry.step call).1) :: (registry.step call).2.transcript rest

/-- The registry that was empty before the calls. -/
def ofCalls (calls : List RegistryCall) : TypeRegistry :=
  (⟨[]⟩ : TypeRegistry).after calls

theorem after_append (registry : TypeRegistry) (calls later : List RegistryCall) :
    registry.after (calls ++ later) = (registry.after calls).after later :=
  List.foldl_append

theorem transcript_append (registry : TypeRegistry) (calls later : List RegistryCall) :
    registry.transcript (calls ++ later) =
      registry.transcript calls ++ (registry.after calls).transcript later := by
  induction calls generalizing registry with
  | nil => rfl
  | cons call rest ih =>
    rw [List.cons_append, transcript, transcript, ih, List.cons_append]
    rfl

end TypeRegistry

/-- The registrations that succeeded in calls to a registry that was empty before, in their
order. -/
def registrations (calls : List RegistryCall) : List Registration :=
  ((⟨[]⟩ : TypeRegistry).transcript calls).filterMap registration?

/-! ### Names -/

namespace TypeRegistry

variable {registry : TypeRegistry} {name : String}

theorem mem_names_iff : name ∈ registry.names ↔ name ∈ registry.types.map RecordType.name :=
  (List.mergeSort_perm _ _).mem_iff

theorem isSome_get?_iff : (registry.get? name).isSome = true ↔ name ∈ registry.names := by
  rw [mem_names_iff, get?, List.find?_isSome, List.mem_map]
  simp only [beq_iff_eq]

theorem names_increasing (distinct : (registry.types.map RecordType.name).Nodup) :
    registry.names.Pairwise (· < ·) := by
  have hle : registry.names.Pairwise (· ≤ ·) := by
    have htrans : ∀ a b c : String, decide (a ≤ b) = true → decide (b ≤ c) = true →
        decide (a ≤ c) = true := fun a b c hab hbc =>
      decide_eq_true (le_trans (of_decide_eq_true hab) (of_decide_eq_true hbc))
    have htotal : ∀ a b : String, (decide (a ≤ b) || decide (b ≤ a)) = true := fun a b => by
      simpa using le_total a b
    exact (List.pairwise_mergeSort htrans htotal _).imp of_decide_eq_true
  have hne : registry.names.Nodup := (List.mergeSort_perm _ _).nodup_iff.mpr distinct
  exact hle.imp₂ (fun a b => lt_of_le_of_ne) hne

theorem get?_eq_some_iff (distinct : (registry.types.map RecordType.name).Nodup)
    {type : RecordType} :
    registry.get? name = some type ↔ type ∈ registry.types ∧ type.name = name := by
  refine ⟨fun h => ?_, ?_⟩
  · have hname := List.find?_some h
    exact ⟨List.mem_of_find?_eq_some h, beq_iff_eq.mp hname⟩
  · rintro ⟨hmem, rfl⟩
    have hsome : (registry.get? type.name).isSome = true :=
      isSome_get?_iff.mpr (mem_names_iff.mpr (List.mem_map_of_mem hmem))
    obtain ⟨other, hother⟩ := Option.isSome_iff_exists.mp hsome
    have hfound := List.find?_some hother
    have hname : other.name = type.name := beq_iff_eq.mp hfound
    have heq := List.inj_on_of_nodup_map distinct (List.mem_of_find?_eq_some hother) hmem hname
    rw [hother, heq]

/-! ### Registering -/

/-- **A registration fails** for a name that is taken, or else for an empty name, or else for a
schema that is refused, in this order. -/
theorem register_eq (registry : TypeRegistry) (identity : Nat) (name : String)
    (source : SchemaSource) :
    registry.register identity name source =
      if name ∈ registry.names then .error (.invalidArgument (.takenTypeName name))
      else if name = "" then .error (.invalidArgument .emptyTypeName)
      else
        match source.shape identity with
        | .error e => .error e
        | .ok shape => .ok (⟨name, shape⟩, ⟨registry.types ++ [⟨name, shape⟩]⟩) := by
  rw [register, createType]
  by_cases htaken : name ∈ registry.names
  · rw [if_pos (isSome_get?_iff.mpr htaken), if_pos htaken]
  · rw [if_neg fun h => htaken (isSome_get?_iff.mp h), if_neg htaken]
    by_cases hempty : name = ""
    · simp [hempty, Except.map]
    · rw [if_neg (by simpa using hempty), if_neg hempty]
      cases source.shape identity <;> rfl

theorem of_register_eq_ok {identity : Nat} {source : SchemaSource} {type : RecordType}
    {next : TypeRegistry} (h : registry.register identity name source = .ok (type, next)) :
    name ∉ registry.names ∧ name ≠ "" ∧ type.name = name ∧
      source.shape identity = .ok type.shape ∧ next.types = registry.types ++ [type] := by
  rw [register_eq] at h
  split at h
  · cases h
  · next hnew =>
    split at h
    · cases h
    · next hnamed =>
      split at h
      · cases h
      · next shape hshape =>
        cases h
        exact ⟨hnew, hnamed, rfl, hshape, rfl⟩

/-! ### The invariant -/

/-- A registry holds the types of registrations, in their order.  These were made of their sources,
under distinct names that are not empty. -/
structure Keeps (registry : TypeRegistry) (made : List Registration) : Prop where
  types : registry.types = made.map Registration.type
  named : ∀ r ∈ made, r.name ≠ "" ∧ r.type.name = r.name
  shaped : ∀ r ∈ made, r.source.shape r.identity = .ok r.type.shape
  distinct : (made.map Registration.name).Nodup

namespace Keeps

variable {made : List Registration}

theorem nil : Keeps ⟨[]⟩ [] := by
  refine ⟨rfl, ?_, ?_, List.nodup_nil⟩ <;> simp

theorem names_eq (h : registry.Keeps made) :
    registry.types.map RecordType.name = made.map Registration.name := by
  rw [h.types, List.map_map]
  exact List.map_congr_left fun r hr => (h.named r hr).2

theorem mem_names_iff (h : registry.Keeps made) :
    name ∈ registry.names ↔ ∃ r ∈ made, r.name = name := by
  rw [TypeRegistry.mem_names_iff, h.names_eq, List.mem_map]

theorem register (h : registry.Keeps made) {identity : Nat} {source : SchemaSource}
    {type : RecordType} {next : TypeRegistry}
    (success : registry.register identity name source = .ok (type, next)) :
    next.Keeps (made ++ [⟨identity, name, source, type⟩]) := by
  obtain ⟨hnew, hnamed, hname, hshape, htypes⟩ := of_register_eq_ok success
  refine ⟨?_, ?_, ?_, ?_⟩
  · rw [htypes, h.types, List.map_append, List.map_singleton]
  · exact List.forall_mem_append.mpr ⟨h.named, by simp [hnamed, hname]⟩
  · exact List.forall_mem_append.mpr ⟨h.shaped, by simp [hshape]⟩
  · rw [List.map_append, List.map_singleton, ← List.concat_eq_append, List.nodup_concat]
    refine ⟨fun hmem => ?_, h.distinct⟩
    rw [h.mem_names_iff] at hnew
    exact hnew (List.mem_map.mp hmem)

/-- **One call keeps the invariant**: a registration that succeeds adds itself, and every other call
leaves the registry as it is. -/
theorem step (h : registry.Keeps made) (call : RegistryCall) :
    (registry.step call).2.Keeps
      (made ++ (registration? (call, (registry.step call).1)).toList) := by
  cases call with
  | register identity name source =>
    rw [TypeRegistry.step]
    cases hregister : registry.register identity name source with
    | error e => simpa [registration?] using h
    | ok outcome => exact h.register hregister
  | get name => simpa [TypeRegistry.step, registration?] using h
  | createRecord name => simpa [TypeRegistry.step, registration?] using h
  | names => simpa [TypeRegistry.step, registration?] using h

/-- **A run keeps the invariant** with the registrations that succeeded in it. -/
theorem after (h : registry.Keeps made) (calls : List RegistryCall) :
    (registry.after calls).Keeps
      (made ++ (registry.transcript calls).filterMap registration?) := by
  induction calls generalizing registry made with
  | nil => simpa [TypeRegistry.after, transcript] using h
  | cons call rest ih =>
    have hrest := ih (h.step call)
    rw [List.append_assoc] at hrest
    rw [transcript, List.filterMap_cons]
    cases hcall : registration? (call, (registry.step call).1) with
    | none =>
      rw [hcall] at hrest
      exact hrest
    | some r =>
      rw [hcall] at hrest
      exact hrest

end Keeps

theorem keeps_ofCalls (calls : List RegistryCall) : (ofCalls calls).Keeps (registrations calls) :=
  Keeps.nil.after calls

/-! ### What callers see -/

/-- A registry shows callers exactly these registrations.  It counts and lists them in increasing
order of their names; under the name of each, and under no other name, it finds the type that the
registration made of its source, and it makes empty records of that type. -/
structure Reflects (registry : TypeRegistry) (made : List Registration) : Prop where
  size : registry.size = made.length
  isEmpty : registry.isEmpty = true ↔ made.length = 0
  increasing : registry.names.Pairwise (· < ·)
  names : ∀ name, name ∈ registry.names ↔ ∃ r ∈ made, r.name = name
  named : "" ∉ registry.names
  once : (made.map Registration.name).Nodup
  found : ∀ name type, registry.get? name = some type ↔ ∃ r ∈ made, r.name = name ∧ r.type = type
  typed : ∀ r ∈ made, r.type.name = r.name ∧ r.source.shape r.identity = .ok r.type.shape
  created : ∀ name record, registry.createRecord name = .ok record ↔
    ∃ r ∈ made, r.name = name ∧ record = ⟨some r.type, []⟩

theorem createRecord_eq_ok_iff {record : Record} :
    registry.createRecord name = .ok record ↔
      ∃ type, registry.get? name = some type ∧ record = ⟨some type, []⟩ := by
  rw [createRecord]
  cases registry.get? name with
  | none => simp
  | some type =>
    refine ⟨fun h => ⟨type, rfl, (Except.ok.inj h).symm⟩, ?_⟩
    rintro ⟨_, ⟨rfl⟩, rfl⟩
    rfl

namespace Keeps

variable {made : List Registration}

theorem get?_eq_some_iff (h : registry.Keeps made) {type : RecordType} :
    registry.get? name = some type ↔ ∃ r ∈ made, r.name = name ∧ r.type = type := by
  have hdistinct : (registry.types.map RecordType.name).Nodup := h.names_eq ▸ h.distinct
  rw [TypeRegistry.get?_eq_some_iff hdistinct, h.types, List.mem_map]
  constructor
  · rintro ⟨⟨r, hr, rfl⟩, hname⟩
    exact ⟨r, hr, (h.named r hr).2 ▸ hname, rfl⟩
  · rintro ⟨r, hr, rfl, rfl⟩
    exact ⟨⟨r, hr, rfl⟩, (h.named r hr).2⟩

/-- The invariant settles everything that callers see. -/
theorem reflects (h : registry.Keeps made) : registry.Reflects made where
  size := by rw [size, h.types, List.length_map]
  isEmpty := by
    rw [isEmpty, h.types, List.isEmpty_iff, List.map_eq_nil_iff, List.length_eq_zero_iff]
  increasing := names_increasing (h.names_eq ▸ h.distinct)
  names _ := h.mem_names_iff
  named hmem := by
    obtain ⟨r, hr, hempty⟩ := h.mem_names_iff.mp hmem
    exact (h.named r hr).1 hempty
  once := h.distinct
  found _ _ := h.get?_eq_some_iff
  typed r hr := ⟨(h.named r hr).2, h.shaped r hr⟩
  created name record := by
    rw [createRecord_eq_ok_iff]
    constructor
    · rintro ⟨type, hfound, hrecord⟩
      obtain ⟨r, hr, hname, rfl⟩ := h.get?_eq_some_iff.mp hfound
      exact ⟨r, hr, hname, hrecord⟩
    · rintro ⟨r, hr, hname, hrecord⟩
      exact ⟨r.type, h.get?_eq_some_iff.mpr ⟨r, hr, hname, rfl⟩, hrecord⟩

end Keeps

/-! ### Runs that go on -/

theorem step_of_refused {call : RegistryCall} {e : Error}
    (refused : (registry.step call).1 = .registered (.error e)) :
    (registry.step call).2 = registry := by
  cases call with
  | register identity name source =>
    rw [step] at refused ⊢
    cases hregister : registry.register identity name source with
    | error _ => rfl
    | ok outcome =>
      rw [hregister] at refused
      cases refused
  | get name => rfl
  | createRecord name => rfl
  | names => rfl

theorem ofCalls_append (calls later : List RegistryCall) :
    ofCalls (calls ++ later) = (ofCalls calls).after later :=
  after_append _ calls later

end TypeRegistry

theorem registrations_append (calls later : List RegistryCall) :
    registrations (calls ++ later) = registrations calls ++
      ((TypeRegistry.ofCalls calls).transcript later).filterMap registration? := by
  rw [registrations, TypeRegistry.transcript_append, List.filterMap_append]
  rfl

/-! ### Whole runs -/

open TypeRegistry in
/-- **A registry over a whole run.**  After any calls to a registry that was empty before:

* it shows exactly the registrations that succeeded;
* a registration fails for a name that is taken, else for an empty name, else for a schema that is
  refused;
* with a call to register that fails, every later registry and every later answer is as it would be
  without that call;
* whatever is called later, the registrations stay, and what is found under a name is never
  replaced. -/
theorem registry_runs (calls : List RegistryCall) :
    (ofCalls calls).Reflects (registrations calls) ∧
    (∀ identity name source, (ofCalls calls).register identity name source =
      if name ∈ (ofCalls calls).names then .error (.invalidArgument (.takenTypeName name))
      else if name = "" then .error (.invalidArgument .emptyTypeName)
      else
        match source.shape identity with
        | .error e => .error e
        | .ok shape => .ok (⟨name, shape⟩, ⟨(ofCalls calls).types ++ [⟨name, shape⟩]⟩)) ∧
    (∀ call e, ((ofCalls calls).step call).1 = .registered (.error e) → ∀ later,
      ofCalls (calls ++ call :: later) = ofCalls (calls ++ later) ∧
      ∃ answered,
        transcript ⟨[]⟩ (calls ++ later) = transcript ⟨[]⟩ calls ++ answered ∧
        transcript ⟨[]⟩ (calls ++ call :: later) =
          transcript ⟨[]⟩ calls ++ (call, .registered (.error e)) :: answered) ∧
    (∀ later, registrations calls <+: registrations (calls ++ later) ∧
      ∀ name type, (ofCalls calls).get? name = some type →
        (ofCalls (calls ++ later)).get? name = some type) := by
  refine ⟨(keeps_ofCalls calls).reflects, register_eq _, fun call e refused later => ?_,
    fun later => ?_⟩
  · have hsame : ((ofCalls calls).step call).2 = ofCalls calls := step_of_refused refused
    refine ⟨?_, (ofCalls calls).transcript later, transcript_append _ calls later, ?_⟩
    · rw [ofCalls_append, ofCalls_append, after, List.foldl_cons, hsame, after]
    · rw [transcript_append]
      change transcript ⟨[]⟩ calls ++ (ofCalls calls).transcript (call :: later) = _
      rw [transcript, refused, hsame]
  · have hkept : registrations calls <+: registrations (calls ++ later) := by
      rw [registrations_append]
      exact List.prefix_append _ _
    refine ⟨hkept, fun name type hfound => ?_⟩
    obtain ⟨r, hr, hname, htype⟩ := (keeps_ofCalls calls).get?_eq_some_iff.mp hfound
    exact (keeps_ofCalls (calls ++ later)).get?_eq_some_iff.mpr
      ⟨r, hkept.subset hr, hname, htype⟩

/-- Calls that register labels and look them up. -/
def labelCalls : List RegistryCall :=
  [.register 0 "Label" (.described (.obj [("text", .obj [("type", .str "str")])])), .get "Label"]

/-- A registration under a name that is taken, with a schema that would be refused. -/
def secondLabel : RegistryCall :=
  .register 1 "Label" (.described .null)

/-- Labels are registered; a second registration is refused for its name, though its schema is none,
and a later one for its schema. -/
theorem labels_registry_runs :
    (TypeRegistry.ofCalls labelCalls).names = ["Label"] ∧
    ((TypeRegistry.ofCalls labelCalls).step secondLabel).1 =
      .registered (.error (.invalidArgument (.takenTypeName "Label"))) ∧
    ((TypeRegistry.ofCalls labelCalls).step (.register 1 "" (.described .null))).1 =
      .registered (.error (.invalidArgument .emptyTypeName)) ∧
    ((TypeRegistry.ofCalls labelCalls).step (.register 1 "Tag" (.described .null))).1 =
      .registered (.error (.invalidArgument .noDescription)) ∧
    ∀ later, TypeRegistry.ofCalls (labelCalls ++ secondLabel :: later) =
      TypeRegistry.ofCalls (labelCalls ++ later) := by
  have htaken : ((TypeRegistry.ofCalls labelCalls).step secondLabel).1 =
      .registered (.error (.invalidArgument (.takenTypeName "Label"))) := rfl
  have hnames : (TypeRegistry.ofCalls labelCalls).names = ["Label"] := by decide +kernel
  obtain ⟨-, -, refused, -⟩ := registry_runs labelCalls
  exact ⟨hnames, htaken, rfl, rfl, fun later => (refused _ _ htaken later).1⟩

end RecordSchema
