import RecordSchema.Number.Binary64

/-!
# JSON values

Values as they are exchanged: an object keeps the order in which its fields were written, and a
number is either a whole number, kept exactly, or a binary64 number, so `1` and `1.0` differ.

* `Fields`: the ordered fields of an object, with look-up, replacement in place and removal.
* `Json.sameAs`: equality of values, for which the order of fields does not matter.
* `Json.sameLiteral`: equality of literals, for which numbers are compared by value.
* `Json.DistinctNames`: no object holds a name twice, at any depth.  Every value that is read from
  text has it.
-/

namespace RecordSchema

/-- A JSON number. -/
inductive Number where
  | int (n : Int)
  | float (x : Binary64)
deriving DecidableEq, Repr, Inhabited

/-- A JSON value. -/
inductive Json where
  | null
  | bool (b : Bool)
  | num (n : Number)
  | str (s : String)
  | arr (items : List Json)
  | obj (fields : List (String × Json))
deriving Repr, Inhabited

/-- The fields of an object, in the order in which they were first set. -/
abbrev Fields := List (String × Json)

/-! ### Numbers -/

namespace Number

/-- The number in the format binary64. -/
def toBinary64 : Number → Binary64
  | .int n => .ofInt n
  | .float x => x

/-- Whether the number is a whole number by its form. -/
def isInt : Number → Bool
  | .int _ => true
  | .float _ => false

/-- The largest whole number that is a signed word of 64 bits. -/
def maxSigned : Int := 0x7fffffffffffffff

/-- A whole number of 64 bits as a signed word, unless it is too large for one. -/
def signed? (n : Int) : Option Int :=
  if n ≤ maxSigned then some n else none

/-- A whole number of 64 bits as an unsigned word, unless it lies below zero. -/
def unsigned? (n : Int) : Option Int :=
  if 0 ≤ n then some n else none

/-- Equality of whole numbers: where both are signed words they are compared as such, and otherwise
as unsigned words. -/
def sameWhole (m n : Int) : Bool :=
  match signed? m, signed? n with
  | some m, some n => m == n
  | _, _ => unsigned? m == unsigned? n

/-- Equality by value: whole numbers are compared exactly, and as soon as one side is a binary64
number both are compared in that format. -/
def sameValue : Number → Number → Bool
  | .int m, .int n => sameWhole m n
  | a, b => a.toBinary64.eqv b.toBinary64

/-- Equality by form and value. -/
def sameForm : Number → Number → Bool
  | .int m, .int n => m == n
  | .float x, .float y => x.eqv y
  | _, _ => false

end Number

/-! ### Fields -/

namespace Fields

/-- The value under a name. -/
def get? (fields : Fields) (name : String) : Option Json :=
  fields.lookup name

/-- Whether a name is set. -/
def has (fields : Fields) (name : String) : Bool :=
  (fields.get? name).isSome

/-- The names, in order. -/
def names (fields : Fields) : List String :=
  fields.map Prod.fst

/-- Sets a value: a name that is set keeps its place, a new name goes last. -/
def put (name : String) (value : Json) : Fields → Fields
  | [] => [(name, value)]
  | (other, old) :: rest =>
    if other == name then (name, value) :: rest else (other, old) :: put name value rest

/-- Removes a name; the others keep their order. -/
def remove (name : String) (fields : Fields) : Fields :=
  fields.eraseP (·.1 == name)

end Fields

namespace Json

/-! ### Forms -/

/-- The name of the form of a value. -/
def form : Json → String
  | .null => "null"
  | .bool _ => "boolean"
  | .num (.int _) => "integer"
  | .num (.float _) => "float"
  | .str _ => "string"
  | .arr _ => "array"
  | .obj _ => "object"

/-- Whether a value is null. -/
def isNull : Json → Bool
  | .null => true
  | _ => false

/-- The text of a string value. -/
def text? : Json → Option String
  | .str s => some s
  | _ => none

/-- The number of a number value. -/
def number? : Json → Option Number
  | .num n => some n
  | _ => none

/-! ### Equality -/

mutual

/-- Equality of values.  Objects are equal when they have the same number of fields and the fields
of one are found in the other. -/
def sameAs : Json → Json → Bool
  | .null, .null => true
  | .bool a, .bool b => a == b
  | .num a, .num b => a.sameForm b
  | .str a, .str b => a == b
  | .arr xs, .arr ys => sameItems xs ys
  | .obj xs, .obj ys => xs.length == ys.length && foundIn xs ys
  | _, _ => false
termination_by structural x => x

/-- Equality of items, position by position. -/
def sameItems : List Json → List Json → Bool
  | [], [] => true
  | x :: xs, y :: ys => x.sameAs y && sameItems xs ys
  | _, _ => false
termination_by structural xs => xs

/-- Each field has an equal value in the other object. -/
def foundIn : List (String × Json) → List (String × Json) → Bool
  | [], _ => true
  | (name, x) :: rest, other =>
    (match Fields.get? other name with
      | some y => x.sameAs y
      | none => false) && foundIn rest other
termination_by structural xs => xs

end

/-- Equality of literals: numbers by value, so `1` equals `1.0`, and all else as values. -/
def sameLiteral : Json → Json → Bool
  | .num a, .num b => a.sameValue b
  | a, b => a.sameAs b

/-- Whether a literal is among the listed ones. -/
def isAmong (value : Json) (listed : List Json) : Bool :=
  listed.any (·.sameLiteral value)

/-! ### Distinct names -/

mutual

/-- No object in the value holds a name twice. -/
def DistinctNames : Json → Prop
  | .arr items => itemsDistinct items
  | .obj fields => (Fields.names fields).Nodup ∧ fieldsDistinct fields
  | _ => True
termination_by structural x => x

/-- The same for each item. -/
def itemsDistinct : List Json → Prop
  | [] => True
  | x :: xs => x.DistinctNames ∧ itemsDistinct xs
termination_by structural xs => xs

/-- The same for each value of the fields. -/
def fieldsDistinct : List (String × Json) → Prop
  | [] => True
  | (_, x) :: rest => x.DistinctNames ∧ fieldsDistinct rest
termination_by structural xs => xs

end

end Json

end RecordSchema
