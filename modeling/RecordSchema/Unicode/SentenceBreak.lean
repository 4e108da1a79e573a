import RecordSchema.Unicode.WordBreak

/-!
# Sentence breaks

How a character behaves where a text is cut into sentences.  As with grapheme clusters, the value of
the characters that are told apart no further cannot be named.

* `SentenceBreak.byName?`: the set under the name of a value.
-/

namespace RecordSchema.Unicode.SentenceBreak

/-- What extends the character before it, the joiner and spacing marks included. -/
def extend : CharSet :=
  CharSet.ofRanges (Property.graphemeExtend ++ GeneralCategory.ofLetters "Mc" ++
    GraphemeBreak.joiner)

/-- Digits and signs of numbers. -/
def numeric : CharSet :=
  CharSet.union WordBreak.numeric (CharSet.single 0x66c)

/-- Format characters, but for those that stand before a number. -/
def format : CharSet :=
  CharSet.diff (GeneralCategory.ofLetters "Cf")
    (CharSet.ofRanges (CharSet.ofText "200c-200d" ++ numeric ++ extend))

/-- Small letters.  The letters of Georgian count as neither small nor capital. -/
def lower : CharSet :=
  CharSet.diff Property.lowercase
    (CharSet.union Property.graphemeExtend (CharSet.ofText "10d0-10fa 10fd-10ff"))

/-- Capital and title letters. -/
def upper : CharSet :=
  CharSet.diff (CharSet.union Property.uppercase (GeneralCategory.ofLetters "Lt"))
    (CharSet.ofText "1c90-1cba 1cbd-1cbf")

/-- All other letters. -/
def otherLetter : CharSet :=
  CharSet.diff (CharSet.union Property.alphabetic (CharSet.single 0x5f3))
    (CharSet.ofRanges (lower ++ upper ++ extend))

/-- Points, which do not always end a sentence. -/
def pointTerm : CharSet :=
  CharSet.ofText "2e 2024 fe52 ff0e"

/-- Brackets and quotation marks. -/
def close : CharSet :=
  CharSet.union (GeneralCategory.ofAll ["Ps", "Pe", "Pi", "Pf"])
    (CharSet.ofText "22 27 275b-2760 2e00-2e01 2e06-2e08 2e0b 1f676-1f678")

/-- Blanks that end no line. -/
def space : CharSet :=
  CharSet.diff Property.blankSet (CharSet.ofText "a d 85 2028-2029")

/-- The values: short name, long name, and the members. -/
def table : List (String × String × CharSet) :=
  [("AT", "ATerm", pointTerm),
   ("CL", "Close", close),
   ("CR", "CR", CharSet.single 0xd),
   ("EX", "Extend", extend),
   ("FO", "Format", format),
   ("LE", "OLetter", otherLetter),
   ("LF", "LF", CharSet.single 0xa),
   ("LO", "Lower", lower),
   ("NU", "Numeric", numeric),
   ("SC", "SContinue",
    CharSet.ofText "2c-2d 3a-3b 37e 55d 60c-60d 7f8 1802 1808 2013-2014 3001 fe10-fe11 fe13-fe14
      fe31-fe32 fe50-fe51 fe54-fe55 fe58 fe63 ff0c-ff0d ff1a-ff1b ff64"),
   ("SE", "Sep", CharSet.ofText "85 2028-2029"),
   ("SP", "Sp", space),
   ("ST", "STerm", CharSet.diff (Property.listed "STerm") pointTerm),
   ("UP", "Upper", upper)]

/-- The set under the loose name of a value. -/
def byName? (name : String) : Option CharSet :=
  findNamed? name table

end RecordSchema.Unicode.SentenceBreak
