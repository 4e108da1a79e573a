import RecordSchema.Unicode.GraphemeBreak
import RecordSchema.Unicode.Script

/-!
# Word breaks

How a character behaves where a text is cut into words.  As with grapheme clusters, the value of the
characters that are told apart no further cannot be named.

* `WordBreak.byName?`: the set under the name of a value.
-/

namespace RecordSchema.Unicode.WordBreak

/-- What extends the character before it, spacing marks included. -/
def extend : CharSet :=
  CharSet.diff (CharSet.union GraphemeBreak.extend (GeneralCategory.ofLetters "Mc"))
    GraphemeBreak.joiner

/-- Format characters, but for those that stand before a letter or number. -/
def format : CharSet :=
  CharSet.diff (GeneralCategory.ofLetters "Cf")
    (CharSet.ofRanges (CharSet.ofText "200b-200d" ++ Property.listed "PCM" ++ extend))

/-- Katakana, and the marks that it shares. -/
def katakana : CharSet :=
  CharSet.union (Script.ofLetters "Kana") (CharSet.ofText "3031-3035 309b-309c 30a0 30fc ff70")

/-- Hebrew letters, between which a quotation mark may stand. -/
def hebrewLetter : CharSet :=
  CharSet.inter (Script.ofLetters "Hebr") (GeneralCategory.ofLetters "Lo")

/-- The scripts that write no blanks between words. -/
def unspacedScripts : List String :=
  ["Thai", "Laoo", "Mymr", "Khmr", "Tale", "Talu", "Lana", "Tavt", "Ahom", "Hira"]

/-- The letters of the other scripts, and signs that are used as letters. -/
def letter : CharSet :=
  CharSet.diff
    (CharSet.union Property.alphabetic
      (CharSet.ofText "b8 2c2-2c5 2d2-2d7 2de-2df 2e5-2eb 2ed 2ef-2ff 55a-55c 55e 58a 5f3 70f
        a708-a716 a720-a721 a789-a78a ab5b"))
    (CharSet.ofRanges (Property.listed "Ideo" ++ katakana ++ hebrewLetter ++ extend ++
      unspacedScripts.flatMap Script.ofLetters))

/-- Digits, the decimal sign of Arabic, and what stands before a number. -/
def numeric : CharSet :=
  CharSet.union (GeneralCategory.ofLetters "Nd")
    (CharSet.ofText "600-605 66b 6dd 890-891 8e2 19da 110bd 110cd")

/-- What joins letters and numbers to one word. -/
def extendNumLet : CharSet :=
  CharSet.union (GeneralCategory.ofLetters "Pc") (CharSet.single 0x202f)

/-- The values: short name, long name, and the members. -/
def table : List (String × String × CharSet) :=
  [("LE", "ALetter", letter),
   ("CR", "CR", CharSet.single 0xd),
   ("DQ", "Double_Quote", CharSet.single 0x22),
   ("Extend", "Extend", extend),
   ("EX", "ExtendNumLet", extendNumLet),
   ("FO", "Format", format),
   ("HL", "Hebrew_Letter", hebrewLetter),
   ("KA", "Katakana", katakana),
   ("LF", "LF", CharSet.single 0xa),
   ("ML", "MidLetter", CharSet.ofText "3a b7 387 55f 5f4 2027 fe13 fe55 ff1a"),
   ("MN", "MidNum", CharSet.ofText "2c 3b 37e 589 60c-60d 66c 7f8 2044 fe50 fe54 ff0c ff1b"),
   ("MB", "MidNumLet", CharSet.ofText "2e 2018-2019 2024 fe52 ff07 ff0e"),
   ("NL", "Newline", CharSet.ofText "b-c 85 2028-2029"),
   ("NU", "Numeric", numeric),
   ("RI", "Regional_Indicator", Property.listed "RI"),
   ("SQ", "Single_Quote", CharSet.single 0x27),
   ("WSegSpace", "WSegSpace", CharSet.ofText "20 1680 2000-2006 2008-200a 205f 3000"),
   ("ZWJ", "ZWJ", GraphemeBreak.joiner)]

/-- The set under the loose name of a value. -/
def byName? (name : String) : Option CharSet :=
  findNamed? name table

end RecordSchema.Unicode.WordBreak
