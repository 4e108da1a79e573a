import RecordSchema.Proofs.Rule.Rerooting

/-!
# Places read off their paths

A path is a text, and a text may be the path of several places: a property named `a.b` is written
like a property `b` inside `a`.  Where names hold neither a point nor an opening bracket, these two
characters begin the steps and stand nowhere else, so a path can be split into its steps again.

* `Location.read?`: the place that a path names.  The path is split before each point and each
  opening bracket, and every piece is read as one step.
* `Location.read?_text`: reading takes back what writing a place of plain names gave, so such places
  are told apart by their paths (`Location.eq_of_text_eq`).
* `Schema.namesThroughout`: the names that a schema declares at every depth.  What is found of a
  value lies behind such names (`Schema.Reaches.plain`).

`violations_located_by_path` says this of everything that is reported of an object.
-/

namespace RecordSchema

/-! ### Reading a path -/

/-- The characters that begin a step. -/
def PathStep.begins (c : Char) : Bool :=
  c == '.' || c == '['

/-- The step that a piece of a path is read as. -/
def PathStep.read? : List Char → Option PathStep
  | '.' :: name => some (.property (String.ofList name))
  | '[' :: index =>
    if index.getLast? = some ']' then some (.item (Nat.ofDigitChars 10 index.dropLast 0)) else none
  | _ => none

namespace Location

/-- A path with the point that is not written before its first name. -/
def delimited : List Char → List Char
  | [] => []
  | c :: rest => if c = '[' then c :: rest else '.' :: c :: rest

/-- The place that a path names. -/
def read? (path : String) : Option Location :=
  ((delimited path.toList).splitBy fun _ c => !PathStep.begins c).mapM PathStep.read?

end Location

/-! ### Plain names -/

/-- A name that is there and holds neither of the characters that begin a step. -/
def PlainName (name : String) : Prop :=
  name ≠ "" ∧ ∀ c ∈ name.toList, PathStep.begins c = false

/-- The step is an index, or a plain name. -/
def PathStep.Plain : PathStep → Prop
  | .property name => PlainName name
  | .item _ => True

/-- All names on the way are plain. -/
def Location.Plain (location : Location) : Prop :=
  ∀ step ∈ location, step.Plain

theorem PathStep.begins_of_isDigit {c : Char} (h : c.isDigit = true) :
    PathStep.begins c = false := by
  have hpoint : c ≠ '.' := by rintro rfl; cases h
  have hbracket : c ≠ '[' := by rintro rfl; cases h
  simp [begins, hpoint, hbracket]

/-- A step is written with one character that begins a step, which stands at its front. -/
theorem PathStep.exists_text_eq {step : PathStep} (plain : step.Plain) :
    ∃ c rest, step.text.toList = c :: rest ∧ begins c = true ∧ ∀ c ∈ rest, begins c = false := by
  cases step with
  | property name => exact ⟨'.', name.toList, by simp [text], rfl, plain.2⟩
  | item i =>
    refine ⟨'[', Nat.toDigits 10 i ++ [']'], by simp [text, Nat.toList_repr], rfl, ?_⟩
    intro c hc
    rcases List.mem_append.mp hc with hc | hc
    · exact begins_of_isDigit (Nat.isDigit_of_mem_toDigits (by decide) (by decide) hc)
    · rw [List.mem_singleton.mp hc]
      rfl

theorem PathStep.read?_text (step : PathStep) : read? step.text.toList = some step := by
  cases step with
  | property name => simp [text, read?]
  | item i =>
    have hchars : (PathStep.item i).text.toList = '[' :: (Nat.toDigits 10 i ++ [']']) := by
      simp [text, Nat.toList_repr]
    rw [hchars, read?, if_pos List.getLast?_concat, List.dropLast_concat,
      Nat.ofDigitChars_ten_toDigits]

/-! ### Reading what was written -/

namespace Location

variable {location : Location}

theorem toList_textAfter (location : Location) :
    location.textAfter.toList = (location.map fun step => step.text.toList).flatten := by
  induction location with
  | nil => rfl
  | cons step rest ih =>
    rw [textAfter, String.toList_append, ih, List.map_cons, List.flatten_cons]

theorem splitBy_textAfter (plain : location.Plain) :
    location.textAfter.toList.splitBy (fun _ c => !PathStep.begins c) =
      location.map fun step => step.text.toList := by
  have hpiece : ∀ piece ∈ location.map fun step => step.text.toList,
      ∃ c rest, piece = c :: rest ∧ PathStep.begins c = true ∧
        ∀ c ∈ rest, PathStep.begins c = false := by
    intro piece hmem
    obtain ⟨step, hstep, rfl⟩ := List.mem_map.mp hmem
    exact PathStep.exists_text_eq (plain step hstep)
  rw [toList_textAfter]
  refine List.splitBy_flatten ?_ ?_ ?_
  · intro hnil
    obtain ⟨c, rest, hcons, -⟩ := hpiece [] hnil
    cases hcons
  · intro piece hmem
    obtain ⟨c, rest, rfl, -, hrest⟩ := hpiece piece hmem
    refine List.Pairwise.isChain (List.pairwise_cons.mpr ⟨?_, ?_⟩)
    · intro c' hc'
      rw [hrest c' hc']
      rfl
    · refine List.pairwise_of_forall_mem_list fun _ _ c' hc' => ?_
      rw [hrest c' hc']
      rfl
  · refine List.Pairwise.isChain (List.pairwise_of_forall_mem_list ?_)
    intro piece hmem other hother
    obtain ⟨c, rest, rfl, -⟩ := hpiece piece hmem
    obtain ⟨c', rest', rfl, hbegins, -⟩ := hpiece other hother
    refine ⟨List.cons_ne_nil _ _, List.cons_ne_nil _ _, ?_⟩
    rw [List.head_cons, hbegins]
    rfl

/-- Written after nothing, a place lacks no more than the point before its first name. -/
theorem delimited_text (plain : location.Plain) :
    delimited location.text.toList = location.textAfter.toList := by
  match location, plain with
  | [], _ => rfl
  | .item i :: rest, _ =>
    have hwritten : (text (.item i :: rest)).toList =
        '[' :: (Nat.toDigits 10 i ++ ']' :: (textAfter rest).toList) := by
      change (textAfter (.item i :: rest)).toList = _
      simp [textAfter, PathStep.text, Nat.toList_repr]
    rw [hwritten, delimited, if_pos rfl, ← hwritten]
    rfl
  | .property name :: rest, plain =>
    obtain ⟨hname, hchars⟩ : PlainName name := plain _ List.mem_cons_self
    obtain ⟨c, tail, htail⟩ := List.exists_cons_of_ne_nil
      (fun h => hname (String.toList_eq_nil_iff.mp h))
    have hc : c ≠ '[' := by
      rintro rfl
      have hplain := hchars '[' (by rw [htail]; exact List.mem_cons_self)
      cases hplain
    have hwritten : (text (.property name :: rest)).toList =
        c :: (tail ++ (textAfter rest).toList) := by
      rw [text, String.toList_append, htail, List.cons_append]
    rw [hwritten, delimited, if_neg hc, ← hwritten, textAfter, PathStep.text, text]
    simp

/-- **A place of plain names is read off its path.** -/
theorem read?_text (plain : location.Plain) : read? location.text = some location := by
  have hread : PathStep.read? ∘ (fun step => step.text.toList) = (pure : PathStep → Option _) :=
    funext PathStep.read?_text
  rw [read?, delimited_text plain, splitBy_textAfter plain, List.mapM_map, hread]
  exact (List.mapM_pure (f := id)).trans (congrArg some (List.map_id location))

theorem eq_of_text_eq {other : Location} (plain : location.Plain) (plain' : other.Plain)
    (h : location.text = other.text) : location = other := by
  have hread := read?_text plain
  rw [h, read?_text plain'] at hread
  exact (Option.some.inj hread).symm

end Location

/-! ### Declared names -/

mutual

/-- The names that are declared inside a rule, at every depth. -/
def Rule.namesInside : Rule → List String
  | ⟨_, none⟩ => []
  | ⟨_, some schema⟩ => schema.namesThroughout
termination_by structural rule => rule

/-- The names that a schema declares, at every depth. -/
def Schema.namesThroughout : Schema → List String
  | ⟨properties⟩ => namesDeclared properties
termination_by structural schema => schema

/-- The names of declarations, and those inside their rules. -/
def namesDeclared : List (String × Rule) → List String
  | [] => []
  | (name, rule) :: rest => name :: (rule.namesInside ++ namesDeclared rest)
termination_by structural properties => properties

end

theorem Rule.namesInside_of_nested {rule : Rule} {schema : Schema}
    (nested : rule.nested = some schema) : rule.namesInside = schema.namesThroughout := by
  obtain ⟨settings, inside⟩ := rule
  cases nested
  rfl

theorem Schema.mem_namesThroughout {schema : Schema} {p : String × Rule}
    (declared : p ∈ schema.properties) :
    p.1 ∈ schema.namesThroughout ∧ p.2.namesInside ⊆ schema.namesThroughout := by
  obtain ⟨properties⟩ := schema
  change p ∈ properties at declared
  rw [namesThroughout]
  induction properties with
  | nil => cases declared
  | cons q rest ih =>
    rw [namesDeclared]
    rcases List.mem_cons.mp declared with rfl | hp
    · refine ⟨List.mem_cons_self, fun name hname => ?_⟩
      exact List.mem_cons_of_mem _ (List.mem_append_left _ hname)
    · obtain ⟨hname, hinside⟩ := ih hp
      exact ⟨List.mem_cons_of_mem _ (List.mem_append_right _ hname), fun name hname =>
        List.mem_cons_of_mem _ (List.mem_append_right _ (hinside hname))⟩

mutual

theorem Rule.Reaches.declared_names : ∀ {rule : Rule} {value : Option Json} {location : Location}
    {place : Place}, rule.Reaches value location place → rule.WellFormed →
      ∀ name, .property name ∈ location → name ≠ "" ∧ name ∈ rule.namesInside
  | _, _, _, _, .here, _, _, hname => by cases hname
  | _, _, _, _, .item _ _, _, _, hname => by simp at hname
  | _, _, _, _, .inside _ nested h, hw, name, hname => by
    rw [Rule.namesInside_of_nested nested]
    exact h.declared_names (hw.nested _ nested) name hname
  | _, _, _, _, .element _ _ nested h, hw, name, hname => by
    rw [Rule.namesInside_of_nested nested]
    exact h.declared_names (hw.nested _ nested) name (List.mem_of_ne_of_mem (by simp) hname)

theorem Schema.Reaches.declared_names : ∀ {schema : Schema} {fields : Fields}
    {location : Location} {place : Place}, schema.Reaches fields location place →
      schema.WellFormed → ∀ name, .property name ∈ location →
        name ≠ "" ∧ name ∈ schema.namesThroughout
  | _, _, _, _, .property declared h, hs, name, hname => by
    have hp := mem_of_lookup declared
    obtain ⟨hdeclared, hinside⟩ := Schema.mem_namesThroughout hp
    rcases List.mem_cons.mp hname with he | hname
    · rw [PathStep.property.inj he]
      exact ⟨fun hempty => hs.named (List.mem_map.mpr ⟨_, hp, hempty⟩), hdeclared⟩
    · obtain ⟨hne, hmem⟩ := h.declared_names (hs.rules _ hp) name hname
      exact ⟨hne, hinside hmem⟩

end

/-- Where declared names hold neither a point nor an opening bracket, places inside an object are
plain. -/
theorem Schema.Reaches.plain {schema : Schema} {fields : Fields} {location : Location}
    {place : Place} (h : schema.Reaches fields location place) (hs : schema.WellFormed)
    (plain : ∀ name ∈ schema.namesThroughout, '.' ∉ name.toList ∧ '[' ∉ name.toList) :
    location.Plain := by
  intro step hstep
  cases step with
  | item i => trivial
  | property name =>
    obtain ⟨hne, hmem⟩ := h.declared_names hs name hstep
    obtain ⟨hpoint, hbracket⟩ := plain name hmem
    refine ⟨hne, fun c hc => ?_⟩
    have hcpoint : c ≠ '.' := fun he => hpoint (he ▸ hc)
    have hcbracket : c ≠ '[' := fun he => hbracket (he ▸ hc)
    simp [PathStep.begins, hcpoint, hcbracket]

/-! ### Reports -/

/-- **Violations are located by their paths.**  Where no name that a schema declares, at any depth,
holds a point or an opening bracket, the path of a violation is read back as the place where it was
found.  No other place of plain names has that path, violations of different places have different
paths, and no two violations of one object share path and kind. -/
theorem violations_located_by_path {schema : Schema} (built : schema.Built)
    (plain : ∀ name ∈ schema.namesThroughout, '.' ∉ name.toList ∧ '[' ∉ name.toList)
    (fields : Fields) :
    schema.violations fields = (schema.findings fields).map (Finding.violation "") ∧
    (∀ f ∈ schema.findings fields,
      (∃ place, schema.Reaches fields f.location place) ∧
      (f.violation "").path = f.location.text ∧
      Location.read? (f.violation "").path = some f.location ∧
      ∀ location : Location, location.Plain → location.text = (f.violation "").path →
        location = f.location) ∧
    (∀ others, ∀ f ∈ schema.findings fields, ∀ g ∈ schema.findings others,
      f.location ≠ g.location → (f.violation "").path ≠ (g.violation "").path) ∧
    ((schema.violations fields).map Violation.heading).Nodup := by
  have h := built.wellFormed
  have hplace : ∀ fields, ∀ f ∈ schema.findings fields,
      (∃ place, schema.Reaches fields f.location place) ∧ f.location.Plain ∧
        (f.violation "").path = f.location.text := by
    intro fields f hf
    obtain ⟨place, hreaches, -⟩ := Schema.findings_genuine h hf
    exact ⟨⟨place, hreaches⟩, hreaches.plain h plain, hreaches.pathFrom_eq_text h⟩
  have hinj : ∀ others, ∀ f ∈ schema.findings fields, ∀ g ∈ schema.findings others,
      (f.violation "").path = (g.violation "").path → f.location = g.location := by
    intro others f hf g hg hpath
    obtain ⟨-, hfplain, hftext⟩ := hplace fields f hf
    obtain ⟨-, hgplain, hgtext⟩ := hplace others g hg
    exact Location.eq_of_text_eq hfplain hgplain (hftext.symm.trans (hpath.trans hgtext))
  refine ⟨rfl, fun f hf => ?_, fun others f hf g hg hne hpath => hne (hinj others f hf g hg hpath),
    ?_⟩
  · obtain ⟨hreaches, hfplain, hftext⟩ := hplace fields f hf
    refine ⟨hreaches, hftext, ?_, fun location hplain htext => ?_⟩
    · rw [hftext, Location.read?_text hfplain]
    · exact Location.eq_of_text_eq hplain hfplain (htext.trans hftext)
  · -- Distinct places and kinds are distinct paths and kinds.
    rw [Schema.violations, List.map_map]
    refine List.Nodup.map_on ?_ (List.Nodup.of_map _ (Schema.findings_keys_nodup h fields))
    intro f hf g hg hheading
    obtain ⟨hpath, hkind⟩ := Prod.mk.inj hheading
    have hkey : f.key = g.key := Prod.ext (hinj fields f hf g hg hpath) hkind
    exact List.inj_on_of_nodup_map (Schema.findings_keys_nodup h fields) hf hg hkey

/-! ### Ledgers

Rows of an account with a name that holds a digit and a closing bracket, so that it looks like the
end of an index.
-/

/-- Ledgers: the entries of a row are distinct texts. -/
def ledger : Json :=
  .obj [("rows", .obj [("type", .str "list"),
    ("schema", .obj [("0]", .obj [("type", .str "set"), ("member_type", .str "string")])])])]

/-- The schema that is described by `ledger`. -/
def ledgerSchema : Schema :=
  ⟨[("rows", ⟨{ kind := .list },
    some ⟨[("0]", ⟨{ kind := .set, memberKind := some .string }, none⟩)]⟩⟩)]⟩

/-- A row whose entries are equal and no texts, and a row that is none. -/
def ledgerRows : Fields :=
  [("rows", .arr [.obj [("0]", .arr [.bool true, .bool true])], .bool true])]

theorem ofDescription_ledger : Schema.ofDescription ledger = .ok ledgerSchema := rfl

/-- The second entry is reported twice under one path, for different kinds, and the path is read
back as its place. -/
theorem ledgerRows_located_by_path :
    ledgerSchema.Built ∧
      (∀ name ∈ ledgerSchema.namesThroughout, '.' ∉ name.toList ∧ '[' ∉ name.toList) ∧
      (ledgerSchema.violations ledgerRows).map Violation.heading =
        [("rows[0].0][0]", .memberType), ("rows[0].0][1]", .duplicate),
          ("rows[0].0][1]", .memberType), ("rows[1]", .type)] ∧
      (∀ f ∈ ledgerSchema.findings ledgerRows,
        Location.read? (f.violation "").path = some f.location) ∧
      Location.read? "rows[0].0][1]" =
        some [.property "rows", .item 0, .property "0]", .item 1] := by
  have distinct : ledger.DistinctNames := by
    simp [ledger, Json.DistinctNames, Json.fieldsDistinct, Fields.names]
  have built : ledgerSchema.Built := .described distinct ofDescription_ledger
  have plain : ∀ name ∈ ledgerSchema.namesThroughout,
      '.' ∉ name.toList ∧ '[' ∉ name.toList := by
    decide +kernel
  obtain ⟨-, hlocated, -⟩ := violations_located_by_path built plain ledgerRows
  exact ⟨built, plain, by decide +kernel, fun f hf => (hlocated f hf).2.2.1, by decide +kernel⟩

end RecordSchema
