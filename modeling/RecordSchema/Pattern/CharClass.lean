import RecordSchema.Pattern.Escape

/-!
# Classes in brackets

A class in brackets is a union of characters, ranges, escapes and further classes.  Unions may be
joined by `&&`, `--` and `~~`, from left to right, and the whole may be negated.

* `namedClass?`: the classes with a name, such as `[:alpha:]`.
* `ClassPart`: a part of a class, with the depth to which it nests.
* `readClass`: a class, after its opening bracket.
-/

namespace RecordSchema.Pattern

open Unicode

/-- The classes with a name, which are sets of ASCII. -/
def namedClasses : List (String × CharSet) :=
  [("alnum", [(0x30, 0x39), (0x41, 0x5a), (0x61, 0x7a)]),
   ("alpha", [(0x41, 0x5a), (0x61, 0x7a)]),
   ("ascii", [(0x0, 0x7f)]),
   ("blank", [(0x9, 0x9), (0x20, 0x20)]),
   ("cntrl", [(0x0, 0x1f), (0x7f, 0x7f)]),
   ("digit", [(0x30, 0x39)]),
   ("graph", [(0x21, 0x7e)]),
   ("lower", [(0x61, 0x7a)]),
   ("print", [(0x20, 0x7e)]),
   ("punct", [(0x21, 0x2f), (0x3a, 0x40), (0x5b, 0x60), (0x7b, 0x7e)]),
   ("space", [(0x9, 0xd), (0x20, 0x20)]),
   ("upper", [(0x41, 0x5a)]),
   ("word", asciiWordSet),
   ("xdigit", [(0x30, 0x39), (0x41, 0x46), (0x61, 0x66)])]

/-- A class by its name. -/
def namedClass? (name : String) : Option CharSet :=
  namedClasses.lookup name

/-- A part of a class: its set, and how deep it nests. -/
structure ClassPart where
  set : CharSet
  depth : Nat

/-- How two unions are joined. -/
inductive ClassJoin where
  | inter
  | diff
  | symmDiff
deriving DecidableEq

/-- The set of two joined unions. -/
def ClassJoin.apply (j : ClassJoin) (s t : CharSet) : CharSet :=
  match j with
  | .inter => s.inter t
  | .diff => s.diff t
  | .symmDiff => s.symmDiff t

/-- The union of parts; the parts come last one first.  A single part nests no deeper for it. -/
def unionPart (parts : List ClassPart) : ClassPart :=
  match parts with
  | [] => ⟨[], 0⟩
  | [part] => part
  | parts =>
    ⟨CharSet.ofRanges (parts.flatMap ClassPart.set),
      1 + (parts.map ClassPart.depth).foldl max 0⟩

/-- A union joined to what stands before it. -/
def joinPart (flags : Flags) (before : Option (ClassPart × ClassJoin)) (part : ClassPart) :
    ClassPart :=
  match before with
  | none => part
  | some (left, j) =>
    ⟨j.apply (foldCase flags left.set) (foldCase flags part.set), 1 + max left.depth part.depth⟩

/-- A finished set under the flags: letters of either case, and then the complement. -/
def finishSet? (flags : Flags) (negated : Bool) (s : CharSet) : Option CharSet :=
  let s := foldCase flags s
  if negated then negatedClass? flags s else some s

/-! ### Parts -/

/-- A class with a name, after its opening bracket and colon. -/
def readNamedClass (flags : Flags) (cs : List Char) : Option (Option CharSet × List Char) :=
  let (negated, cs) := match cs with
    | '^' :: rest => (true, rest)
    | cs => (false, cs)
  match cs.dropWhile (· != ':') with
  | ':' :: ']' :: rest =>
    (namedClass? (String.ofList (cs.takeWhile (· != ':')))).map fun s =>
      (finishSet? flags negated s, rest)
  | _ => none

/-- A single character or an escape. -/
def readSingle (flags : Flags) : List Char → Reading Primitive
  | [] => none
  | '\\' :: rest => readEscape flags rest
  | c :: rest => some (.literal c, rest)

/-- The set of a character; without all scripts it must be in ASCII. -/
def literalSet? (flags : Flags) (c : Char) : Option CharSet :=
  if flags.allScripts || c.toNat ≤ maxAscii then some (CharSet.single c.toNat) else none

/-- The character after a hyphen that decides whether the hyphen makes a range.  Blanks are passed
over, and the mark of a comment, but not the comment itself. -/
def peekAfterHyphen (flags : Flags) (cs : List Char) : Option Char :=
  if flags.skipBlanks then
    match cs.dropWhile isBlank with
    | [] => cs.head?
    | '#' :: rest => ((rest.dropWhile isBlank).head?).or cs.head?
    | c :: _ => some c
  else cs.head?

/-- A range, or a single part. -/
def readRange (flags : Flags) (cs : List Char) : Reading CharSet :=
  (readSingle flags cs).bind fun (first, rest) =>
    let single : Reading CharSet := match first with
      | .literal c => (literalSet? flags c).map (·, skip flags rest)
      | .set s => some (s, skip flags rest)
      | .assertion _ => none
    match skip flags rest with
    | [] => none
    | '-' :: rest =>
      let next := peekAfterHyphen flags rest
      if next = some ']' ∨ next = some '-' then single
      else
        (readSingle flags (skip flags rest)).bind fun (last, rest) =>
          match first, last with
          | .literal low, .literal high =>
            if low ≤ high then
              (literalSet? flags low).bind fun _ => (literalSet? flags high).map fun _ =>
                ([(low.toNat, high.toNat)], rest)
            else none
          | _, _ => none
    | _ => single

/-! ### Classes -/

/-- Hyphens at the front of a class stand for themselves. -/
def readHyphens (flags : Flags) : Nat → List Char → Nat × List Char
  | fuel + 1, '-' :: rest =>
    let (n, rest) := readHyphens flags fuel (skip flags rest)
    (n + 1, rest)
  | _, cs => (0, cs)

/-- The front of a class after its opening bracket: whether it is negated, and the hyphens or the
closing bracket that stand for themselves there.  There are at most `fuel` characters. -/
def readOpening (flags : Flags) (fuel : Nat) (cs : List Char) :
    Bool × List ClassPart × List Char :=
  let (negated, cs) := match skip flags cs with
    | '^' :: rest => (true, skip flags rest)
    | cs => (false, cs)
  match readHyphens flags fuel cs with
  | (0, ']' :: rest) => (negated, [⟨CharSet.single ']'.toNat, 0⟩], skip flags rest)
  | (n, rest) => (negated, List.replicate n ⟨CharSet.single '-'.toNat, 0⟩, rest)

/-- A class up to its closing bracket.  `parts` are those of the union that is being read, the last
one first, and `before` is what it will be joined to. -/
def readClassBody (flags : Flags) (negated : Bool) :
    Nat → Option (ClassPart × ClassJoin) → List ClassPart → List Char → Reading ClassPart
  | 0, _, _, _ => none
  | fuel + 1, before, parts, cs =>
    let join (j : ClassJoin) (rest : List Char) : Reading ClassPart :=
      readClassBody flags negated fuel (some (joinPart flags before (unionPart parts), j)) [] rest
    let nested (rest : List Char) : Reading ClassPart :=
      let (negatedInside, partsInside, rest) := readOpening flags fuel rest
      (readClassBody flags negatedInside fuel none partsInside rest).bind fun (part, rest) =>
        readClassBody flags negated fuel before (part :: parts) rest
    match skip flags cs with
    | [] => none
    | ']' :: rest =>
      let whole := joinPart flags before (unionPart parts)
      (finishSet? flags negated whole.set).map fun s => (⟨s, whole.depth + 1⟩, rest)
    | '[' :: ':' :: rest =>
      match readNamedClass flags rest with
      | some (s, rest) =>
        s.bind fun s => readClassBody flags negated fuel before (⟨s, 0⟩ :: parts) rest
      | none => nested (':' :: rest)
    | '[' :: rest => nested rest
    | '&' :: '&' :: rest => join .inter rest
    | '-' :: '-' :: rest => join .diff rest
    | '~' :: '~' :: rest => join .symmDiff rest
    | rest =>
      (readRange flags rest).bind fun (s, rest) =>
        readClassBody flags negated fuel before (⟨s, 0⟩ :: parts) rest

/-- A class, after its opening bracket.  There are at most `fuel` characters. -/
def readClass (flags : Flags) (fuel : Nat) (cs : List Char) : Reading ClassPart :=
  let (negated, parts, rest) := readOpening flags fuel cs
  readClassBody flags negated fuel none parts rest

end RecordSchema.Pattern
