import RecordSchema.Json.Basic
import RecordSchema.Number.Scaling

/-!
# Reading JSON text

A reader takes the front of a list of characters and gives what it read together with the rest.
Values nest, so the readers of values, items and fields call one another; each call takes at least
one character, and the number of characters bounds the calls.

* `Json.readNumber`: a token without point and exponent that fits 64 bits is a whole number, every
  other one is a binary64 number.
* `Json.read?`: a whole text.  A name that an object repeats keeps its first place and takes its
  last value, so `DistinctNames` holds of what is read.
-/

namespace RecordSchema.Json

/-- What a reader gives: a result and the rest of the text, or nothing. -/
abbrev Reading (α : Type) := Option (α × List Char)

/-- The text after its blanks. -/
def skipBlanks (cs : List Char) : List Char :=
  cs.dropWhile fun c => c == ' ' || c == '\n' || c == '\r' || c == '\t'

/-! ### Numbers -/

/-- The value of a decimal digit. -/
def digitValue (c : Char) : Nat :=
  c.toNat - '0'.toNat

/-- The largest number of 64 bits. -/
def maxWord : Nat := 0xffffffffffffffff

/-- The largest magnitude of a negative whole number of 64 bits. -/
def maxNegated : Nat := 0x8000000000000000

/-- The front of a row of digits that fits 64 bits as a number, and the digits that are left. -/
def takeWord (acc : Nat) : List Char → Nat × List Char
  | [] => (acc, [])
  | c :: rest =>
    if acc * 10 + digitValue c ≤ maxWord then takeWord (acc * 10 + digitValue c) rest
    else (acc, c :: rest)

/-- An exponent part, if there is one. -/
def readExponent (cs : List Char) : Reading Int :=
  match cs with
  | c :: rest =>
    if c == 'e' || c == 'E' then
      let (negative, rest) := match rest with
        | '-' :: rest => (true, rest)
        | '+' :: rest => (false, rest)
        | rest => (false, rest)
      let digits := rest.takeWhile Char.isDigit
      if digits.isEmpty then none
      else
        let n : Int := (digits.foldl (fun n d => n * 10 + digitValue d) 0 : Nat)
        some (if negative then -n else n, rest.dropWhile Char.isDigit)
    else some (0, cs)
  | [] => some (0, [])

/-- A number without its sign.  Of the digits, those count that fit 64 bits as one number. -/
def readMagnitude (negative : Bool) (cs : List Char) : Reading Number :=
  let whole := cs.takeWhile Char.isDigit
  let rest := cs.dropWhile Char.isDigit
  let (front, beyond) := takeWord 0 whole
  let zeroLed := match whole with
    | '0' :: _ :: _ => true
    | _ => false
  if whole.isEmpty || zeroLed then none
  else match rest with
    | '.' :: rest =>
      let places := rest.takeWhile Char.isDigit
      if places.isEmpty then none
      else
        let (significand, left) := takeWord front places
        let shift : Int := (beyond.length : Int) - ((places.length - left.length : Nat) : Int)
        (readExponent (rest.dropWhile Char.isDigit)).bind fun (e, rest) =>
          (Binary64.ofScientific? negative significand (shift + e)).map (.float ·, rest)
    | rest =>
      (readExponent rest).bind fun (e, after) =>
        let isWhole := beyond.isEmpty && after.length == rest.length
        if isWhole && !negative then some (.int front, after)
        else if isWhole && 0 < front && front ≤ maxNegated then some (.int (-front), after)
        else (Binary64.ofScientific? negative front (beyond.length + e)).map (.float ·, after)

/-- A number. -/
def readNumber : List Char → Reading Number
  | '-' :: cs => readMagnitude true cs
  | cs => readMagnitude false cs

/-! ### Strings -/

/-- The value of a hexadecimal digit. -/
def hexValue? (c : Char) : Option Nat :=
  if c.isDigit then some (digitValue c)
  else if 'a' ≤ c ∧ c ≤ 'f' then some (c.toNat - 'a'.toNat + 10)
  else if 'A' ≤ c ∧ c ≤ 'F' then some (c.toNat - 'A'.toNat + 10)
  else none

/-- The number of four hexadecimal digits. -/
def hexQuad? (a b c d : Char) : Option Nat := do
  let a ← hexValue? a
  let b ← hexValue? b
  let c ← hexValue? c
  let d ← hexValue? d
  return ((a * 16 + b) * 16 + c) * 16 + d

/-- The rest of a string after its opening quote; `acc` holds the characters so far, the last one
first. -/
def readString (acc : List Char) : List Char → Reading String
  | '"' :: rest => some (String.ofList acc.reverse, rest)
  | '\\' :: '"' :: rest => readString ('"' :: acc) rest
  | '\\' :: '\\' :: rest => readString ('\\' :: acc) rest
  | '\\' :: '/' :: rest => readString ('/' :: acc) rest
  | '\\' :: 'b' :: rest => readString ('\x08' :: acc) rest
  | '\\' :: 'f' :: rest => readString ('\x0c' :: acc) rest
  | '\\' :: 'n' :: rest => readString ('\n' :: acc) rest
  | '\\' :: 'r' :: rest => readString ('\r' :: acc) rest
  | '\\' :: 't' :: rest => readString ('\t' :: acc) rest
  | '\\' :: 'u' :: a :: b :: c :: d :: rest =>
    match hexQuad? a b c d with
    | none => none
    | some high =>
      if 0xD800 ≤ high ∧ high < 0xDC00 then
        match rest with
        | '\\' :: 'u' :: a :: b :: c :: d :: rest =>
          match hexQuad? a b c d with
          | some low =>
            if 0xDC00 ≤ low ∧ low < 0xE000 then
              readString
                (Char.ofNat (0x10000 + (high - 0xD800) * 0x400 + (low - 0xDC00)) :: acc) rest
            else none
          | none => none
        | _ => none
      else if 0xDC00 ≤ high ∧ high < 0xE000 then none
      else readString (Char.ofNat high :: acc) rest
  | '\\' :: _ => none
  | c :: rest => if c.toNat < 0x20 then none else readString (c :: acc) rest
  | [] => none

/-! ### Values -/

mutual

/-- A value; `fuel` bounds the calls that are left. -/
def readValue : Nat → List Char → Reading Json
  | 0, _ => none
  | fuel + 1, cs =>
    match skipBlanks cs with
    | 'n' :: 'u' :: 'l' :: 'l' :: rest => some (.null, rest)
    | 't' :: 'r' :: 'u' :: 'e' :: rest => some (.bool true, rest)
    | 'f' :: 'a' :: 'l' :: 's' :: 'e' :: rest => some (.bool false, rest)
    | '"' :: rest => (readString [] rest).map fun (s, rest) => (.str s, rest)
    | '[' :: rest =>
      match skipBlanks rest with
      | ']' :: rest => some (.arr [], rest)
      | rest => (readItems fuel [] rest).map fun (items, rest) => (.arr items, rest)
    | '\x7b' :: rest =>
      match skipBlanks rest with
      | '\x7d' :: rest => some (.obj [], rest)
      | rest => (readFields fuel [] rest).map fun (fields, rest) => (.obj fields, rest)
    | rest => (readNumber rest).map fun (n, rest) => (.num n, rest)

/-- The items of an array up to its closing bracket; `acc` holds those so far, the last one
first. -/
def readItems : Nat → List Json → List Char → Reading (List Json)
  | 0, _, _ => none
  | fuel + 1, acc, cs =>
    match readValue fuel cs with
    | none => none
    | some (item, rest) =>
      match skipBlanks rest with
      | ',' :: rest => readItems fuel (item :: acc) rest
      | ']' :: rest => some ((item :: acc).reverse, rest)
      | _ => none

/-- The fields of an object up to its closing brace. -/
def readFields : Nat → Fields → List Char → Reading Fields
  | 0, _, _ => none
  | fuel + 1, acc, cs =>
    match skipBlanks cs with
    | '"' :: rest =>
      match readString [] rest with
      | none => none
      | some (name, rest) =>
        match skipBlanks rest with
        | ':' :: rest =>
          match readValue fuel rest with
          | none => none
          | some (value, rest) =>
            match skipBlanks rest with
            | ',' :: rest => readFields fuel (acc.put name value) rest
            | '\x7d' :: rest => some (acc.put name value, rest)
            | _ => none
        | _ => none
    | _ => none

end

/-- The value that a text holds, blanks aside. -/
def read? (s : String) : Option Json :=
  let cs := s.toList
  match readValue (cs.length + 1) cs with
  | some (value, rest) => if (skipBlanks rest).isEmpty then some value else none
  | none => none

end RecordSchema.Json
