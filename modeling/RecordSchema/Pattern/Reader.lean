import RecordSchema.Pattern.CharClass

/-!
# Reading patterns

A pattern is an alternative of rows of pieces.  A piece is a character, a class, an assertion or a
group, and may be repeated.  Flags that are set inside a group hold up to its end, across its
alternatives.

* `Piece`: what was read, with the depth to which it nests.
* `readCount`: the bounds of a repetition in braces.
* `readBody`: the inside of a group, or a whole pattern.
* `readExpression?`: a whole pattern that does not nest too deep.
-/

namespace RecordSchema.Pattern

open Unicode

/-- A piece of a pattern.  A piece that only sets flags cannot be repeated. -/
structure Piece where
  expression : Expression Atom
  depth : Nat
  setsFlags : Bool := false

/-- A row of pieces; they come last one first. -/
def row (pieces : List Piece) : Piece :=
  match pieces with
  | [] => ⟨.empty, 0, false⟩
  | [piece] => { piece with setsFlags := false }
  | last :: earlier =>
    ⟨earlier.foldl (fun e piece => .sequence piece.expression e) last.expression,
      1 + (pieces.map Piece.depth).foldl max 0, false⟩

/-- Alternatives; they come last one first. -/
def alternatives (rows : List Piece) : Piece :=
  match rows with
  | [] => row []
  | [piece] => piece
  | last :: earlier =>
    ⟨earlier.foldl (fun e piece => .either piece.expression e) last.expression,
      1 + (rows.map Piece.depth).foldl max 0, false⟩

/-! ### Single pieces -/

/-- The piece of one character. -/
def literalPiece (flags : Flags) (c : Char) : Piece :=
  ⟨.atom (.char (foldCase flags (CharSet.single c.toNat))), 0, false⟩

/-- The piece of a dot, which never takes a byte of its own. -/
def dotPiece? (flags : Flags) : Option Piece :=
  if !flags.allScripts then none
  else
    let lineEnds : CharSet := if flags.returns then [(0xa, 0xa), (0xd, 0xd)] else [(0xa, 0xa)]
    let set := if flags.dotTakesLineEnd then CharSet.full else lineEnds.complement
    some ⟨.atom (.char set), 0, false⟩

/-- The piece of an assertion. -/
def assertionPiece (a : Assertion) : Piece :=
  ⟨.atom (.assertion a), 0, false⟩

/-- The start of a line or of the text under the flags. -/
def startAnchor (flags : Flags) : Assertion :=
  if !flags.lineAnchors then .textStart
  else if flags.returns then .lineStartWithReturn else .lineStart

/-- The end of a line or of the text under the flags. -/
def endAnchor (flags : Flags) : Assertion :=
  if !flags.lineAnchors then .textEnd
  else if flags.returns then .lineEndWithReturn else .lineEnd

/-- The piece of an escape. -/
def primitivePiece (flags : Flags) : Primitive → Piece
  | .literal c => literalPiece flags c
  | .set s => ⟨.atom (.char s), 0, false⟩
  | .assertion a => assertionPiece a

/-! ### Repetitions -/

/-- The last piece repeated; it must be there and must not only set flags. -/
def repeatLast? (least : Nat) (most : Option Nat) (eager : Bool) :
    List Piece → Option (List Piece)
  | [] => none
  | piece :: earlier =>
    if piece.setsFlags then none
    else some (⟨.repeated piece.expression least most eager, piece.depth + 1, false⟩ :: earlier)

/-- Whether a repetition prefers to go on; a question mark after it turns that round. -/
def readPreference (flags : Flags) : List Char → Bool × List Char
  | '?' :: rest => (flags.prefersLess, rest)
  | cs => (!flags.prefersLess, cs)

/-- The digits of a count; what the flags leave out may stand after each of them. -/
def readDigits (flags : Flags) : Nat → List Char → List Char × List Char
  | 0, cs => ([], cs)
  | fuel + 1, cs =>
    match cs with
    | [] => ([], [])
    | c :: rest =>
      if c.isDigit then
        let (digits, rest) := readDigits flags fuel (skip flags rest)
        (c :: digits, rest)
      else ([], c :: rest)

/-- Blanks after a count, whatever the flags. -/
def skipAfterCount (flags : Flags) : Nat → List Char → List Char
  | 0, cs => cs
  | fuel + 1, cs =>
    match cs with
    | [] => []
    | c :: rest => if isBlank c then skipAfterCount flags fuel (skip flags rest) else c :: rest

/-- The largest count: the largest number of 32 bits. -/
def maxCount : Nat := 0xffffffff

/-- A count, blanks around it aside; none if there are no digits.  There are at most `fuel`
characters. -/
def readCount (flags : Flags) (fuel : Nat) (cs : List Char) : Option Nat × List Char :=
  let (digits, rest) := readDigits flags fuel (cs.dropWhile isBlank)
  let n := digits.foldl (fun n c => 10 * n + (c.toNat - '0'.toNat)) 0
  (if digits.isEmpty || maxCount < n then none else some n, skipAfterCount flags fuel rest)

/-- The bounds of a repetition, after their opening brace.  There are at most `fuel` characters. -/
def readBounds (flags : Flags) (fuel : Nat) (cs : List Char) : Reading (Nat × Option Nat) :=
  match readCount flags fuel (skip flags cs) with
  | (least, ',' :: rest) =>
    match skip flags rest with
    | '\x7d' :: rest => least.map fun least => ((least, none), rest)
    | rest =>
      match least, readCount flags fuel rest with
      | some least, (some most, '\x7d' :: rest) =>
        if least ≤ most then some ((least, some most), rest) else none
      | _, _ => none
  | (some count, '\x7d' :: rest) => some ((count, some count), rest)
  | _ => none

/-! ### Groups -/

/-- The letters of names: those of the tables, and letters that the tables leave unassigned. -/
def nameLetters : CharSet :=
  CharSet.union Property.alphabetic
    (CharSet.ofText "88f c5c cdc a7ce-a7cf a7d2 a7d4 a7f1 10940-10959 10ec5-10ec7 10efa-10efb
      11b60-11b67 11db0-11ddb 16ea0-16eb8 16ebb-16ed3 16ff2-16ff6 187f8-187ff 18d09-18d1e
      18d80-18df2 1e6c0-1e6de 1e6e0-1e6f5 1e6fe-1e6ff 2b73a-2b73f 2cea2-2cead 323b0-33479")

/-- The numbers of names: those of the tables, and digits that the tables leave unassigned. -/
def nameNumbers : CharSet :=
  CharSet.union (GeneralCategory.ofAll ["Nd", "Nl", "No"]) (CharSet.ofText "11de0-11de9")

/-- Whether a character may stand in the name of a group. -/
def isNameChar (first : Bool) (c : Char) : Bool :=
  c == '_' || nameLetters.has c ||
    (!first && (c == '.' || c == '[' || c == ']' || nameNumbers.has c))

/-- The name of a group and its closing bracket; a name is not used twice. -/
def readGroupName (names : List (List Char)) (cs : List Char) : Reading (List (List Char)) :=
  let name := cs.takeWhile (· != '>')
  match name, cs.dropWhile (· != '>') with
  | c :: more, '>' :: rest =>
    if isNameChar true c && more.all (isNameChar false) && !names.contains name then
      some (name :: names, rest)
    else none
  | _, _ => none

/-- What a parenthesis opens. -/
inductive Opening where
  | group (names : List (List Char))
  | plainGroup (flags : Flags)
  | flags (flags : Flags)

/-- The front of a group after its opening parenthesis.  There is no looking around. -/
def readGroupFront (flags : Flags) (names : List (List Char)) (cs : List Char) : Reading Opening :=
  match skip flags cs with
  | '?' :: '=' :: _ => none
  | '?' :: '!' :: _ => none
  | '?' :: '<' :: '=' :: _ => none
  | '?' :: '<' :: '!' :: _ => none
  | '?' :: 'P' :: '<' :: rest =>
    (readGroupName names rest).map fun (names, rest) => (.group names, rest)
  | '?' :: '<' :: rest => (readGroupName names rest).map fun (names, rest) => (.group names, rest)
  | '?' :: ')' :: _ => none
  | '?' :: rest =>
    match readFlags flags [] rest with
    | some (flags, ')' :: rest) => some (.flags flags, rest)
    | some (flags, _ :: rest) => some (.plainGroup flags, rest)
    | _ => none
  | rest => some (.group names, rest)

/-! ### Patterns -/

/-- The inside of a group up to its closing parenthesis, which is left, or up to the end.  `rows`
are the finished alternatives and `pieces` the pieces of the current one, the last one first; the
names of the groups so far are given and handed on. -/
def readBody : Nat → Flags → List (List Char) → List Piece → List Piece → List Char →
    Reading (Piece × List (List Char))
  | 0, _, _, _, _, _ => none
  | fuel + 1, flags, names, rows, pieces, cs =>
    let add (piece : Piece) (rest : List Char) : Reading (Piece × List (List Char)) :=
      readBody fuel flags names rows (piece :: pieces) rest
    let repeatWith (least : Nat) (most : Option Nat) (rest : List Char) :
        Reading (Piece × List (List Char)) :=
      let (eager, rest) := readPreference flags rest
      (repeatLast? least most eager pieces).bind fun pieces =>
        readBody fuel flags names rows pieces rest
    match skip flags cs with
    | [] => some ((alternatives (row pieces :: rows), names), [])
    | ')' :: rest => some ((alternatives (row pieces :: rows), names), ')' :: rest)
    | '|' :: rest => readBody fuel flags names (row pieces :: rows) [] rest
    | '?' :: rest => repeatWith 0 (some 1) rest
    | '*' :: rest => repeatWith 0 none rest
    | '+' :: rest => repeatWith 1 none rest
    | '\x7b' :: rest =>
      (readBounds flags fuel rest).bind fun ((least, most), rest) =>
        repeatWith least most (skip flags rest)
    | '(' :: rest =>
      match readGroupFront flags names rest with
      | none => none
      | some (.flags flags, rest) =>
        readBody fuel flags names rows (⟨.empty, 0, true⟩ :: pieces) rest
      | some (.plainGroup flagsInside, rest) =>
        match readBody fuel flagsInside names [] [] rest with
        | some ((inside, names), ')' :: rest) =>
          readBody fuel flags names rows
            (⟨.group false inside.expression, inside.depth + 1, false⟩ :: pieces) rest
        | _ => none
      | some (.group names, rest) =>
        match readBody fuel flags names [] [] rest with
        | some ((inside, names), ')' :: rest) =>
          readBody fuel flags names rows
            (⟨.group true inside.expression, inside.depth + 1, false⟩ :: pieces) rest
        | _ => none
    | '[' :: rest =>
      (readClass flags fuel rest).bind fun (part, rest) =>
        add ⟨.atom (.char part.set), part.depth, false⟩ rest
    | '\\' :: rest =>
      (readEscape flags rest).bind fun (primitive, rest) =>
        add (primitivePiece flags primitive) rest
    | '.' :: rest => (dotPiece? flags).bind fun piece => add piece rest
    | '^' :: rest => add (assertionPiece (startAnchor flags)) rest
    | '$' :: rest => add (assertionPiece (endAnchor flags)) rest
    | c :: rest => add (literalPiece flags c) rest

/-- The depth to which a pattern may nest. -/
def maxDepth : Nat := 250

/-- The expression of a whole pattern. -/
def readExpression? (source : String) : Option (Expression Atom) :=
  let cs := source.toList
  match readBody (cs.length + 1) {} [] [] [] cs with
  | some ((piece, _), []) => if piece.depth ≤ maxDepth then some piece.expression else none
  | _ => none

end RecordSchema.Pattern
