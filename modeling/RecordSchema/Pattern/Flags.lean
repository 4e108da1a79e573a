import RecordSchema.Pattern.Expression

/-!
# Flags

Flags change how the rest of a group is read: letters that match both cases, anchors of lines, a dot
that matches line ends, repetitions that prefer to stop, characters of all scripts or of ASCII
alone, line ends that may hold a carriage return, and blanks that are left out.

* `Flags`: the flags in force.
* `skip`: what is left out between the parts of a pattern.
* `readFlags`: a list of flags, up to the character that ends it.
-/

namespace RecordSchema.Pattern

open Unicode

/-- The flags in force at a place of a pattern. -/
structure Flags where
  ignoreCase : Bool := false
  lineAnchors : Bool := false
  dotTakesLineEnd : Bool := false
  prefersLess : Bool := false
  allScripts : Bool := true
  returns : Bool := false
  skipBlanks : Bool := false
deriving DecidableEq, Repr

/-- What a reader gives: a result and the rest of the pattern, or nothing if there is an error. -/
abbrev Reading (α : Type) := Option (α × List Char)

/-! ### Blanks and comments -/

/-- The pattern after blanks and comments, which begin with `#` and end with the line. -/
def skipComments : Bool → List Char → List Char
  | _, [] => []
  | true, c :: rest => skipComments (c != '\n') rest
  | false, c :: rest =>
    if isBlank c then skipComments false rest
    else if c = '#' then skipComments true rest
    else c :: rest

/-- The pattern after what the flags leave out. -/
def skip (flags : Flags) (cs : List Char) : List Char :=
  if flags.skipBlanks then skipComments false cs else cs

/-! ### Lists of flags -/

/-- Sets or unsets one flag. -/
def Flags.set? (flags : Flags) (value : Bool) : Char → Option Flags
  | 'i' => some { flags with ignoreCase := value }
  | 'm' => some { flags with lineAnchors := value }
  | 's' => some { flags with dotTakesLineEnd := value }
  | 'U' => some { flags with prefersLess := value }
  | 'u' => some { flags with allScripts := value }
  | 'R' => some { flags with returns := value }
  | 'x' => some { flags with skipBlanks := value }
  | _ => none

/-- A list of flags up to `)` or `:`, which is left.  No letter and no hyphen occurs twice, and the
hyphen is not the last; `seen` holds the letters so far, the last one first. -/
def readFlags (flags : Flags) (seen : List Char) : List Char → Reading Flags
  | [] => none
  | c :: rest =>
    if c = ')' ∨ c = ':' then (if seen.head? = some '-' then none else some (flags, c :: rest))
    else if seen.contains c then none
    else if c = '-' then readFlags flags (c :: seen) rest
    else (flags.set? (!seen.contains '-') c).bind fun flags => readFlags flags (c :: seen) rest

end RecordSchema.Pattern
