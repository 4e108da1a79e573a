import RecordSchema.Unicode.CharSet

/-!
# Loose names

Names of properties and of their values are compared loosely: case, blanks, hyphens and low lines do
not matter, and neither does `is` in front.
-/

namespace RecordSchema.Unicode

/-- The characters of a name that count, in lower case. -/
def looseChars (cs : List Char) : List Char :=
  (cs.filter fun c => c != ' ' && c != '_' && c != '-' && c.toNat ≤ maxAscii).map Char.toLower

/-- A name in the form in which it is compared.  The name `isc` keeps its front, as it is no form of
`c`. -/
def looseName (name : String) : String :=
  let cs := name.toList
  let led := (cs.take 2).map Char.toLower == ['i', 's']
  let rest := looseChars (if led then cs.drop 2 else cs)
  String.ofList (if led && rest == ['c'] then ['i', 's', 'c'] else rest)

/-- Whether a loose name is one of the given names. -/
def isNamed (loose : String) (names : List String) : Bool :=
  names.any fun name => looseName name == loose

/-- The entry under a loose name in a table of short names, long names and entries. -/
def findNamed? {α : Type} (name : String) (table : List (String × String × α)) : Option α :=
  (table.find? fun (short, long, _) => isNamed name [short, long]).map fun (_, _, entry) => entry

end RecordSchema.Unicode
