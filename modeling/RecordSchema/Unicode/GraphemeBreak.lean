import RecordSchema.Unicode.Property

/-!
# Grapheme cluster breaks

How a character behaves where a text is cut into what its readers take for single characters.  Every
code point has one value; those that have none of the values of the table are told apart no further,
and their value cannot be named.

* `GraphemeBreak.byName?`: the set under the name of a value.
-/

namespace RecordSchema.Unicode.GraphemeBreak

/-- The joiner, which has a value of its own. -/
def joiner : CharSet :=
  CharSet.single 0x200d

/-- What extends the character before it, and the modifiers of emoji. -/
def extend : CharSet :=
  CharSet.diff (CharSet.union Property.graphemeExtend (Property.listed "EMod")) joiner

/-- What belongs to the character after it. -/
def prepend : CharSet :=
  CharSet.union (Property.listed "PCM")
    (CharSet.ofText "d4e 111c2-111c3 113d1 1193f 11941 11a3a 11a84-11a89 11d46 11f02")

/-- Controls and format characters, and what will be ignored once it is assigned. -/
def control : CharSet :=
  CharSet.diff
    (CharSet.union (GeneralCategory.ofAll ["Cc", "Cf", "Zl", "Zp"])
      (CharSet.diff (Property.listed "DI") GeneralCategory.assigned))
    (CharSet.ofRanges (CharSet.ofText "a d 200c 200d" ++ Property.listed "PCM" ++ extend))

/-- Spacing marks; a few of them stand by themselves, and two letters behave like them. -/
def spacingMark : CharSet :=
  CharSet.diff
    (CharSet.union (GeneralCategory.ofLetters "Mc") (CharSet.ofText "e33 eb3"))
    (CharSet.union extend
      (CharSet.ofText "102b-102c 1038 1062-1064 1067-106d 1083 1087-108c 108f 109a-109c 1a61
        1a63-1a64 aa7b aa7d 11720-11721"))

/-- The syllables without a final consonant: every 28th one. -/
def openSyllable : CharSet :=
  (List.range 399).map fun i => (0xac00 + 28 * i, 0xac00 + 28 * i)

/-- The syllables with a final consonant. -/
def closedSyllable : CharSet :=
  (List.range 399).map fun i => (0xac01 + 28 * i, 0xac1b + 28 * i)

/-- The values: short name, long name, and the members. -/
def table : List (String × String × CharSet) :=
  [("CN", "Control", control),
   ("CR", "CR", CharSet.single 0xd),
   ("EX", "Extend", extend),
   ("L", "L", CharSet.ofText "1100-115f a960-a97c"),
   ("LF", "LF", CharSet.single 0xa),
   ("LV", "LV", openSyllable),
   ("LVT", "LVT", closedSyllable),
   ("PP", "Prepend", prepend),
   ("RI", "Regional_Indicator", Property.listed "RI"),
   ("SM", "SpacingMark", spacingMark),
   ("T", "T", CharSet.ofText "11a8-11ff d7cb-d7fb"),
   ("V", "V", CharSet.ofText "1160-11a7 d7b0-d7c6 16d63 16d67-16d6a"),
   ("ZWJ", "ZWJ", joiner)]

/-- The set under the loose name of a value. -/
def byName? (name : String) : Option CharSet :=
  findNamed? name table

end RecordSchema.Unicode.GraphemeBreak
