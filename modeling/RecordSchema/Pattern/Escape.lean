import RecordSchema.Pattern.Flags
import RecordSchema.Unicode.Age
import RecordSchema.Unicode.CaseFolding
import RecordSchema.Unicode.ScriptExtension
import RecordSchema.Unicode.SentenceBreak

/-!
# Escapes

What may follow a backslash: a character with a meaning of its own, a character by its number, a
class, or an assertion.

* `Primitive`: what an escape stands for.
* `propertySet?`: the set that a property query names.
* `readEscape`: an escape, after its backslash.
-/

namespace RecordSchema.Pattern

open Unicode

/-- What a single part of a pattern stands for. -/
inductive Primitive where
  | literal (c : Char)
  | set (s : CharSet)
  | assertion (a : Assertion)

/-! ### Classes -/

/-- The decimal digits under the flags. -/
def digitClass (flags : Flags) : CharSet :=
  if flags.allScripts then Property.digitSet else [(0x30, 0x39)]

/-- The blanks under the flags. -/
def blankClass (flags : Flags) : CharSet :=
  if flags.allScripts then Property.blankSet else [(0x9, 0xd), (0x20, 0x20)]

/-- The characters of words under the flags. -/
def wordClass (flags : Flags) : CharSet :=
  if flags.allScripts then Property.wordSet else asciiWordSet

/-- The complement of a class.  Without all scripts a class must stay in ASCII, and no complement
does. -/
def negatedClass? (flags : Flags) (s : CharSet) : Option CharSet :=
  if flags.allScripts then some s.complement else none

/-- A set with every character that equals a member up to case under the flags. -/
def foldCase (flags : Flags) (s : CharSet) : CharSet :=
  if !flags.ignoreCase then s
  else if flags.allScripts then CaseFolding.close s
  else CaseFolding.closeAscii s

/-! ### Property queries -/

/-- The set under a single loose name: a property, a general category, or a script. -/
def singleName? (name : String) : Option CharSet :=
  match GeneralCategory.byName? name with
  | some s => some s
  | none =>
    match Property.byName? name with
    | some s => some s
    | none => Script.byName? name

/-- The set of a value of a property, both by their loose names. -/
def propertyValue? (property value : String) : Option CharSet :=
  if isNamed property ["gc", "General_Category"] then GeneralCategory.byName? value
  else if isNamed property ["sc", "Script"] then Script.byName? value
  else if isNamed property ["scx", "Script_Extensions"] then ScriptExtension.byName? value
  else if isNamed property ["Age"] then Age.byName? value
  else if isNamed property ["GCB", "Grapheme_Cluster_Break"] then GraphemeBreak.byName? value
  else if isNamed property ["WB", "Word_Break"] then WordBreak.byName? value
  else if isNamed property ["SB", "Sentence_Break"] then SentenceBreak.byName? value
  else none

/-- The text before and after the first place where a mark begins. -/
def splitAtMark? (mark : List Char) : List Char → Option (List Char × List Char)
  | [] => none
  | c :: rest =>
    if mark.isPrefixOf (c :: rest) then some ([], (c :: rest).drop mark.length)
    else (splitAtMark? mark rest).map fun (front, back) => (c :: front, back)

/-- The set that a query names, and whether the query itself negates it. -/
def query? (cs : List Char) : Option (CharSet × Bool) :=
  let loose (cs : List Char) := looseName (String.ofList cs)
  match splitAtMark? ['!', '='] cs with
  | some (property, value) => (propertyValue? (loose property) (loose value)).map (·, true)
  | none =>
    match (splitAtMark? [':'] cs).or (splitAtMark? ['='] cs) with
    | some (property, value) => (propertyValue? (loose property) (loose value)).map (·, false)
    | none => (singleName? (loose cs)).map (·, false)

/-- The set of a query under the flags; properties are there only with all scripts. -/
def propertySet? (flags : Flags) (negated : Bool) (cs : List Char) : Option CharSet :=
  if flags.allScripts then
    (query? cs).map fun (s, negatedInside) =>
      let s := foldCase flags s
      if negated != negatedInside then s.complement else s
  else none

/-- The characters up to a closing brace, which is taken too. -/
def readToBrace (flags : Flags) : Nat → List Char → Reading (List Char)
  | 0, _ => none
  | fuel + 1, cs =>
    match skip flags cs with
    | [] => none
    | '\x7d' :: rest => some ([], rest)
    | c :: rest => (readToBrace flags fuel rest).map fun (name, rest) => (c :: name, rest)

/-- A property query after its `p`: one letter, or a name in braces. -/
def readProperty (flags : Flags) (negated : Bool) (cs : List Char) : Reading Primitive :=
  match skip flags cs with
  | [] => none
  | '\x7b' :: rest =>
    (readToBrace flags (rest.length + 1) rest).bind fun (name, rest) =>
      (propertySet? flags negated name).map (.set ·, rest)
  | '\\' :: _ => none
  | c :: rest => (propertySet? flags negated [c]).map (.set ·, skip flags rest)

/-! ### Characters by number -/

/-- The value of a hexadecimal digit. -/
def hexDigit? (c : Char) : Option Nat :=
  if c.isDigit then some (c.toNat - '0'.toNat)
  else if 'a' ≤ c ∧ c ≤ 'f' then some (c.toNat - 'a'.toNat + 10)
  else if 'A' ≤ c ∧ c ≤ 'F' then some (c.toNat - 'A'.toNat + 10)
  else none

/-- The character with a number. -/
def charOfCode? (n : Nat) : Option Char :=
  if h : n.isValidChar then some (Char.ofNatAux n h) else none

/-- A given count of hexadecimal digits; what the flags leave out may stand between them. -/
def readHexDigits (flags : Flags) (acc : Nat) : Nat → List Char → Reading Nat
  | 0, cs => some (acc, cs)
  | count + 1, cs =>
    match cs with
    | [] => none
    | c :: rest =>
      (hexDigit? c).bind fun d => readHexDigits flags (16 * acc + d) count (skip flags rest)

/-- The number in braces. -/
def hexNumber? (digits : List Char) : Option Nat :=
  if digits.isEmpty then none
  else digits.foldl (fun n c => n.bind fun n => (hexDigit? c).map (16 * n + ·)) (some 0)

/-- A character by its number, after the letter that announces `width` digits.  A byte beyond ASCII
has no character without all scripts. -/
def readHex (flags : Flags) (width : Nat) (cs : List Char) : Reading Primitive :=
  match skip flags cs with
  | '\x7b' :: rest =>
    (readToBrace flags (rest.length + 1) rest).bind fun (digits, rest) =>
      ((hexNumber? digits).bind charOfCode?).map (.literal ·, skip flags rest)
  | cs =>
    (readHexDigits flags 0 width cs).bind fun (n, rest) =>
      if width = 2 ∧ !flags.allScripts ∧ maxAscii < n then none
      else (charOfCode? n).map (.literal ·, rest)

/-! ### Assertions -/

/-- The letters and hyphens up to the first other character. -/
def readWordKind (flags : Flags) : Nat → List Char → List Char × List Char
  | 0, cs => ([], cs)
  | fuel + 1, cs =>
    match cs with
    | [] => ([], [])
    | c :: rest =>
      if c.isAlpha || c = '-' then
        let (kind, rest) := readWordKind flags fuel (skip flags rest)
        (c :: kind, rest)
      else ([], c :: rest)

/-- A boundary of words after its `b`.  A brace that opens a name must name a kind of boundary, any
other brace is left. -/
def readBoundary (flags : Flags) (cs : List Char) : Reading Primitive :=
  let ascii := !flags.allScripts
  let plain : Reading Primitive := some (.assertion (.wordBoundary ascii), cs)
  match cs with
  | '\x7b' :: rest =>
    match skip flags rest with
    | [] => none
    | c :: rest =>
      if c.isAlpha || c = '-' then
        match readWordKind flags (rest.length + 1) (c :: rest) with
        | (kind, '\x7d' :: rest) =>
          match String.ofList kind with
          | "start" => some (.assertion (.wordStart ascii), rest)
          | "end" => some (.assertion (.wordEnd ascii), rest)
          | "start-half" => some (.assertion (.wordStartHalf ascii), rest)
          | "end-half" => some (.assertion (.wordEndHalf ascii), rest)
          | _ => none
        | _ => none
      else plain
  | _ => plain

/-! ### Escapes -/

/-- The characters that may be escaped to stand for themselves: of ASCII, all but letters, digits
and angle brackets. -/
def standsForItself (c : Char) : Bool :=
  c.toNat ≤ maxAscii && !c.isAlphanum && c != '<' && c != '>'

/-- An escape, after its backslash. -/
def readEscape (flags : Flags) : List Char → Reading Primitive
  | [] => none
  | c :: rest =>
    let ascii := !flags.allScripts
    match c with
    | 'x' => readHex flags 2 rest
    | 'u' => readHex flags 4 rest
    | 'U' => readHex flags 8 rest
    | 'p' => readProperty flags false rest
    | 'P' => readProperty flags true rest
    | 'd' => some (.set (digitClass flags), rest)
    | 's' => some (.set (blankClass flags), rest)
    | 'w' => some (.set (wordClass flags), rest)
    | 'D' => (negatedClass? flags (digitClass flags)).map (.set ·, rest)
    | 'S' => (negatedClass? flags (blankClass flags)).map (.set ·, rest)
    | 'W' => (negatedClass? flags (wordClass flags)).map (.set ·, rest)
    | 'a' => some (.literal '\x07', rest)
    | 'f' => some (.literal '\x0c', rest)
    | 't' => some (.literal '\t', rest)
    | 'n' => some (.literal '\n', rest)
    | 'r' => some (.literal '\r', rest)
    | 'v' => some (.literal '\x0b', rest)
    | 'A' => some (.assertion .textStart, rest)
    | 'z' => some (.assertion .textEnd, rest)
    | 'b' => readBoundary flags rest
    | 'B' => some (.assertion (.noWordBoundary ascii), rest)
    | '<' => some (.assertion (.wordStart ascii), rest)
    | '>' => some (.assertion (.wordEnd ascii), rest)
    | c => if standsForItself c then some (.literal c, rest) else none

end RecordSchema.Pattern
