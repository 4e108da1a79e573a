import RecordSchema.Json.Basic
import RecordSchema.Number.Text

/-!
# JSON values as text

The text of a value is compact: no blank stands between its parts.  A string escapes the quote,
the backslash and the control characters below `U+0020`; every other character is written as it is.

* `Json.quoted`: a string.
* `Json.text`: a value.
* `Json.listText`: several values in brackets, set apart for reading in a sentence.
-/

namespace RecordSchema

/-- A number as text. -/
def Number.text : Number → String
  | .int n => toString n
  | .float x => Binary64.valueLayout.write x

namespace Json

/-- The hexadecimal digit of a number below sixteen. -/
def hexDigit (n : Nat) : Char :=
  Nat.digitChar (n % 16)

/-- One character inside a quoted string. -/
def escaped (c : Char) : List Char :=
  if c = '"' then ['\\', '"']
  else if c = '\\' then ['\\', '\\']
  else if 0x20 ≤ c.toNat then [c]
  else if c.toNat = 0x08 then ['\\', 'b']
  else if c.toNat = 0x0c then ['\\', 'f']
  else if c = '\n' then ['\\', 'n']
  else if c = '\r' then ['\\', 'r']
  else if c = '\t' then ['\\', 't']
  else ['\\', 'u', '0', '0', hexDigit (c.toNat / 16), hexDigit c.toNat]

/-- A string in quotes. -/
def quoted (s : String) : String :=
  String.ofList ('"' :: s.toList.flatMap escaped ++ ['"'])

mutual

/-- The text of a value. -/
def text : Json → String
  | .null => "null"
  | .bool b => if b then "true" else "false"
  | .num n => n.text
  | .str s => quoted s
  | .arr items => "[" ++ ",".intercalate (itemTexts items) ++ "]"
  | .obj fields => "\x7b" ++ ",".intercalate (fieldTexts fields) ++ "\x7d"
termination_by structural x => x

/-- The texts of items. -/
def itemTexts : List Json → List String
  | [] => []
  | x :: xs => x.text :: itemTexts xs
termination_by structural xs => xs

/-- The texts of fields. -/
def fieldTexts : List (String × Json) → List String
  | [] => []
  | (name, x) :: rest => (quoted name ++ ":" ++ x.text) :: fieldTexts rest
termination_by structural xs => xs

end

/-- Several values as a list in a sentence. -/
def listText (values : List Json) : String :=
  "[" ++ ", ".intercalate (values.map text) ++ "]"

end Json

end RecordSchema
