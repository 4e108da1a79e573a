import RecordSchema.Pattern.Basic
import RecordSchema.Proofs.Pattern.Matching

/-!
# The counts of patterns that are read

The reader refuses a repetition whose lower count exceeds its upper one, so in every expression that
is read the bounds are in order (`readExpression?_inOrder`).  With `Matching.lean` this settles what
a pattern matches: `Pattern.matchesStart_iff` says that a pattern that was read from a text matches
the start of a text exactly when some match begins there.
-/

namespace RecordSchema.Pattern

/-- The counts of a piece are in order. -/
def Piece.InOrder (p : Piece) : Prop :=
  p.expression.InOrder

/-! ### Rows and alternatives -/

theorem foldl_inOrder (join : Expression Atom → Expression Atom → Expression Atom)
    (hjoin : ∀ {x y}, x.InOrder → y.InOrder → (join x y).InOrder) (pieces : List Piece)
    (hp : ∀ p ∈ pieces, p.InOrder) (e : Expression Atom) (he : e.InOrder) :
    (pieces.foldl (fun e piece => join piece.expression e) e).InOrder := by
  induction pieces generalizing e with
  | nil => exact he
  | cons p rest ih =>
    rw [List.foldl_cons]
    exact ih (fun q hq => hp q (List.mem_cons_of_mem p hq)) _ (hjoin (hp p List.mem_cons_self) he)

theorem row_inOrder (pieces : List Piece) (hp : ∀ p ∈ pieces, p.InOrder) :
    (row pieces).InOrder := by
  match pieces with
  | [] => exact trivial
  | [piece] => exact hp piece List.mem_cons_self
  | last :: piece :: earlier =>
    exact foldl_inOrder .sequence (fun hx hy => ⟨hx, hy⟩) (piece :: earlier)
      (fun q hq => hp q (List.mem_cons_of_mem last hq)) _ (hp last List.mem_cons_self)

theorem alternatives_inOrder (rows : List Piece) (hr : ∀ p ∈ rows, p.InOrder) :
    (alternatives rows).InOrder := by
  match rows with
  | [] => exact trivial
  | [piece] => exact hr piece List.mem_cons_self
  | last :: piece :: earlier =>
    exact foldl_inOrder .either (fun hx hy => ⟨hx, hy⟩) (piece :: earlier)
      (fun q hq => hr q (List.mem_cons_of_mem last hq)) _ (hr last List.mem_cons_self)

/-! ### Repetitions -/

theorem repeatLast?_inOrder {least : Nat} {most : Option Nat} {eager : Bool}
    {pieces result : List Piece} (order : ∀ m ∈ most, least ≤ m) (hp : ∀ p ∈ pieces, p.InOrder)
    (h : repeatLast? least most eager pieces = some result) : ∀ p ∈ result, p.InOrder := by
  cases pieces with
  | nil => cases h
  | cons piece earlier =>
    rw [repeatLast?] at h
    by_cases hflags : piece.setsFlags
    · rw [if_pos hflags] at h
      cases h
    · rw [if_neg hflags] at h
      cases h
      intro p hmem
      rcases List.mem_cons.mp hmem with rfl | hmem
      · exact ⟨hp piece List.mem_cons_self, order⟩
      · exact hp p (List.mem_cons_of_mem piece hmem)

theorem readBounds_inOrder {flags : Flags} {fuel : Nat} {cs rest : List Char} {least : Nat}
    {most : Option Nat} (h : readBounds flags fuel cs = some ((least, most), rest)) :
    ∀ m ∈ most, least ≤ m := by
  intro m hm
  rw [Option.mem_def] at hm
  subst hm
  unfold readBounds at h
  split at h
  · split at h
    · obtain ⟨_, _, he⟩ := Option.map_eq_some_iff.mp h
      cases he
    · split at h
      · split at h
        · cases h
          assumption
        · cases h
      · cases h
  · cases h
    exact le_rfl
  · cases h

/-! ### Whole patterns -/

/-- Single characters, sets and assertions repeat nothing. -/
theorem primitivePiece_inOrder (flags : Flags) (p : Primitive) :
    (primitivePiece flags p).InOrder := by
  cases p <;> exact trivial

theorem dotPiece?_inOrder {flags : Flags} {piece : Piece} (h : dotPiece? flags = some piece) :
    piece.InOrder := by
  rw [dotPiece?] at h
  split at h
  · cases h
  · cases h
    exact trivial

theorem cons_inOrder {piece : Piece} {pieces : List Piece} (h : piece.InOrder)
    (hp : ∀ p ∈ pieces, p.InOrder) : ∀ p ∈ piece :: pieces, p.InOrder := by
  intro p hmem
  rcases List.mem_cons.mp hmem with rfl | hmem
  · exact h
  · exact hp p hmem

theorem readBody_inOrder {fuel : Nat} {flags : Flags} {names : List (List Char)}
    {rows pieces : List Piece} {cs : List Char} {piece : Piece} {names' : List (List Char)}
    {rest : List Char} (hr : ∀ p ∈ rows, p.InOrder) (hp : ∀ p ∈ pieces, p.InOrder)
    (h : readBody fuel flags names rows pieces cs = some ((piece, names'), rest)) :
    piece.InOrder := by
  induction fuel generalizing flags names rows pieces cs piece names' rest with
  | zero => cases h
  | succ fuel ih =>
    have hend : (alternatives (row pieces :: rows)).InOrder :=
      alternatives_inOrder _ (cons_inOrder (row_inOrder pieces hp) hr)
    have hrepeat : ∀ {least : Nat} {most : Option Nat} {rest' : List Char},
        (∀ m ∈ most, least ≤ m) →
        ((repeatLast? least most (readPreference flags rest').1 pieces).bind fun pieces =>
          readBody fuel flags names rows pieces (readPreference flags rest').2) =
            some ((piece, names'), rest) → piece.InOrder := by
      intro least most rest' order hsome
      obtain ⟨pieces', hpieces, hbody⟩ := Option.bind_eq_some_iff.mp hsome
      exact ih hr (repeatLast?_inOrder order hp hpieces) hbody
    have hadd : ∀ {flags' : Flags} {names'' : List (List Char)} {piece' : Piece}
        {rest' : List Char},
        readBody fuel flags' names'' rows (piece' :: pieces) rest' =
          some ((piece, names'), rest) → piece'.InOrder → piece.InOrder :=
      fun hbody hpiece => ih hr (cons_inOrder hpiece hp) hbody
    have hnone : ∀ p ∈ ([] : List Piece), p.InOrder := fun p hmem => absurd hmem List.not_mem_nil
    unfold readBody at h
    dsimp only at h
    split at h
    · cases h
      exact hend
    · cases h
      exact hend
    · exact ih (cons_inOrder (row_inOrder pieces hp) hr) (by simp) h
    · exact hrepeat (by simp) h
    · exact hrepeat (by simp) h
    · exact hrepeat (by simp) h
    · obtain ⟨⟨⟨least, most⟩, rest'⟩, hbounds, hbody⟩ := Option.bind_eq_some_iff.mp h
      exact hrepeat (readBounds_inOrder hbounds) hbody
    · -- a parenthesis: flags alone, or a group with a body of its own
      split at h
      · cases h
      · exact hadd h trivial
      · split at h
        · next hinside =>
          have hgroup := ih hnone hnone hinside
          exact hadd h hgroup
        · cases h
      · split at h
        · next hinside =>
          have hgroup := ih hnone hnone hinside
          exact hadd h hgroup
        · cases h
    · obtain ⟨⟨part, rest'⟩, _, hbody⟩ := Option.bind_eq_some_iff.mp h
      exact hadd hbody trivial
    · obtain ⟨⟨primitive, rest'⟩, _, hbody⟩ := Option.bind_eq_some_iff.mp h
      exact hadd hbody (primitivePiece_inOrder flags primitive)
    · obtain ⟨dot, hdot, hbody⟩ := Option.bind_eq_some_iff.mp h
      exact hadd hbody (dotPiece?_inOrder hdot)
    · exact hadd h trivial
    · exact hadd h trivial
    · exact hadd h trivial

/-- The bounds of every repetition that is read are in order. -/
theorem readExpression?_inOrder {source : String} {e : Expression Atom}
    (h : readExpression? source = some e) : e.InOrder := by
  rw [readExpression?] at h
  split at h
  · next hbody =>
    split at h
    · cases h
      exact readBody_inOrder (by simp) (by simp) hbody
    · cases h
  · cases h

/-- A pattern that was read from a text. -/
def IsRead (p : Pattern) : Prop :=
  ∃ source, ofText? source = some p

/-- The text begins with a stretch that the pattern matches. -/
def MatchesAtStart (p : Pattern) (text : String) : Prop :=
  ∃ j, p.expression.Matches text.toList 0 j

theorem IsRead.inOrder {p : Pattern} (h : p.IsRead) : p.expression.InOrder := by
  obtain ⟨source, hread⟩ := h
  rw [ofText?] at hread
  split at hread
  · next e he =>
    split at hread
    · cases hread
      exact readExpression?_inOrder he
    · cases hread
  · cases hread

/-- **A pattern matches the start of a text when some match begins there.** -/
theorem IsRead.matchesStart_iff {p : Pattern} (h : p.IsRead) (text : String) :
    p.matchesStart text = true ↔ p.MatchesAtStart text :=
  matchesFront_iff h.inOrder text.toList

end RecordSchema.Pattern
