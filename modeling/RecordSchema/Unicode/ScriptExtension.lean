import RecordSchema.Unicode.Script

/-!
# Script extensions

A code point that several scripts use lists all of them instead of its own script.

* `ScriptExtension.byName?`: the code points that list a script.
-/

namespace RecordSchema.Unicode.ScriptExtension

/-- The code points that list other scripts than their own: the letters of the scripts, and the
code points. -/
def table : List (List String × String) :=
  [(["Adlm", "Arab"],
    "204f"),
   (["Adlm", "Arab", "Gara", "Nkoo", "Rohg", "Syrc", "Thaa", "Yezi"],
    "61f"),
   (["Adlm", "Arab", "Hung"],
    "2e41"),
   (["Adlm", "Arab", "Mand", "Mani", "Ougr", "Phlp", "Rohg", "Sogd", "Syrc"],
    "640"),
   (["Aghb", "Cher", "Copt", "Cyrl", "Goth", "Grek", "Latn", "Osge", "Syrc", "Tfng", "Todr"],
    "304"),
   (["Aghb", "Cher", "Goth", "Latn", "Sunu", "Thai"],
    "331"),
   (["Aghb", "Latn", "Todr"],
    "35e"),
   (["Arab", "Copt"],
    "102e0-102fb"),
   (["Arab", "Gara", "Nkoo", "Rohg", "Syrc", "Thaa", "Yezi"],
    "60c 61b"),
   (["Arab", "Nkoo"],
    "fd3e-fd3f"),
   (["Arab", "Rohg"],
    "6d4"),
   (["Arab", "Syrc"],
    "64b-655 670"),
   (["Arab", "Syrc", "Thaa"],
    "61c"),
   (["Arab", "Thaa"],
    "fdf2 fdfd"),
   (["Arab", "Thaa", "Yezi"],
    "660-669"),
   (["Armn", "Cyrl", "Dupl", "Goth", "Grek", "Hebr", "Latn", "Perm", "Syrc", "Tale", "Tfng"],
    "308"),
   (["Armn", "Geor", "Glag"],
    "589"),
   (["Avst", "Cari", "Copt", "Dupl", "Elba", "Geor", "Glag", "Gong", "Goth", "Grek", "Hani",
     "Latn", "Lydi", "Mahj", "Perm", "Shaw"],
    "b7"),
   (["Avst", "Cari", "Geor", "Hung", "Kthi", "Lydi", "Samr"],
    "2e31"),
   (["Avst", "Orkh"],
    "2e30"),
   (["Beng"],
    "1cf7"),
   (["Beng", "Cakm", "Sylo"],
    "9e6-9ef"),
   (["Beng", "Cyrl", "Deva", "Latn", "Lisu", "Thai", "Toto"],
    "2bc"),
   (["Beng", "Deva"],
    "1cd5-1cd6 1cd8 1ce1 1cea 1ced 1cf5-1cf6"),
   (["Beng", "Deva", "Dogr", "Gong", "Gonm", "Gran", "Gujr", "Gukh", "Guru", "Knda", "Limb",
     "Mahj", "Mlym", "Nand", "Onao", "Orya", "Sind", "Sinh", "Sylo", "Takr", "Taml", "Telu",
     "Tirh"],
    "965"),
   (["Beng", "Deva", "Dogr", "Gong", "Gonm", "Gran", "Gujr", "Guru", "Knda", "Mahj", "Mlym",
     "Nand", "Onao", "Orya", "Sind", "Sinh", "Sylo", "Takr", "Taml", "Telu", "Tirh"],
    "964"),
   (["Beng", "Deva", "Gran", "Gujr", "Guru", "Knda", "Latn", "Mlym", "Orya", "Shrd", "Taml",
     "Telu", "Tirh"],
    "951"),
   (["Beng", "Deva", "Gran", "Gujr", "Guru", "Knda", "Latn", "Mlym", "Orya", "Taml", "Telu",
     "Tirh"],
    "952"),
   (["Beng", "Deva", "Gran", "Knda"],
    "1cd0 1cd2"),
   (["Beng", "Deva", "Gran", "Knda", "Mlym", "Nand", "Orya", "Sinh", "Telu", "Tirh", "Tutg"],
    "1cf2"),
   (["Beng", "Deva", "Tutg"],
    "a8f1"),
   (["Bopo", "Hang", "Hani", "Hira", "Kana"],
    "3003 3013 301c-301f 3030 3037 fe45-fe46"),
   (["Bopo", "Hang", "Hani", "Hira", "Kana", "Lisu", "Mong", "Tibt", "Yiii"],
    "300a-300b"),
   (["Bopo", "Hang", "Hani", "Hira", "Kana", "Mong", "Phag", "Yiii"],
    "3002"),
   (["Bopo", "Hang", "Hani", "Hira", "Kana", "Mong", "Tibt", "Yiii"],
    "3008-3009"),
   (["Bopo", "Hang", "Hani", "Hira", "Kana", "Mong", "Yiii"],
    "3001"),
   (["Bopo", "Hang", "Hani", "Hira", "Kana", "Yiii"],
    "300c-3011 3014-301b 30fb ff61-ff65"),
   (["Bopo", "Hani"],
    "302a-302d"),
   (["Bopo", "Latn"],
    "2c7 2c9-2cb 2d9"),
   (["Bugi", "Java"],
    "a9cf"),
   (["Buhd", "Hano", "Tagb", "Tglg"],
    "1735-1736"),
   (["Cakm", "Mymr", "Tale"],
    "1040-1049"),
   (["Cari", "Geor", "Glag", "Hung", "Lyci", "Orkh"],
    "205a"),
   (["Cari", "Grek", "Hung", "Mero"],
    "205d"),
   (["Cher", "Copt", "Cyrl", "Grek", "Latn", "Perm", "Sunu", "Tale"],
    "300"),
   (["Cher", "Cyrl", "Grek", "Latn", "Osge", "Sunu", "Tale", "Todr"],
    "301"),
   (["Cher", "Cyrl", "Latn", "Osge"],
    "30b"),
   (["Cher", "Cyrl", "Latn", "Tfng"],
    "302"),
   (["Cher", "Dupl", "Kana", "Latn", "Syrc", "Tfng"],
    "323"),
   (["Cher", "Dupl", "Latn", "Syrc"],
    "324"),
   (["Cher", "Latn", "Syrc"],
    "330"),
   (["Cher", "Latn", "Tale"],
    "30c"),
   (["Copt", "Dupl", "Hebr", "Latn", "Perm", "Syrc", "Tale", "Tfng", "Todr"],
    "307"),
   (["Copt", "Elba", "Glag", "Goth", "Kana", "Latn"],
    "305"),
   (["Copt", "Grek"],
    "374-375"),
   (["Copt", "Latn"],
    "2e17"),
   (["Cpmn", "Cprt", "Linb"],
    "10100-10101"),
   (["Cprt", "Lina", "Linb"],
    "10107-10133"),
   (["Cprt", "Linb"],
    "10102 10137-1013f"),
   (["Cyrl", "Glag"],
    "484 487 2e43 a66f"),
   (["Cyrl", "Grek", "Latn", "Perm", "Tfng"],
    "306"),
   (["Cyrl", "Latn"],
    "485-486"),
   (["Cyrl", "Latn", "Syrc"],
    "1df8"),
   (["Cyrl", "Latn", "Todr"],
    "311"),
   (["Cyrl", "Perm"],
    "483"),
   (["Deva"],
    "1cd1 1cd4 1cdb 1cde-1cdf 1ce2-1ce8 1ceb-1cec 1cee-1cf1"),
   (["Deva", "Dogr", "Gujr", "Guru", "Khoj", "Knda", "Kthi", "Mahj", "Mlym", "Modi", "Nand",
     "Shrd", "Sind", "Takr", "Tirh", "Tutg"],
    "a830-a832"),
   (["Deva", "Dogr", "Gujr", "Guru", "Khoj", "Knda", "Kthi", "Mahj", "Modi", "Nand", "Shrd",
     "Sind", "Takr", "Tirh", "Tutg"],
    "a833-a835"),
   (["Deva", "Dogr", "Gujr", "Guru", "Khoj", "Kthi", "Mahj", "Modi", "Shrd", "Sind", "Takr",
     "Tirh"],
    "a838"),
   (["Deva", "Dogr", "Gujr", "Guru", "Khoj", "Kthi", "Mahj", "Modi", "Sind", "Takr", "Tirh"],
    "a836-a837 a839"),
   (["Deva", "Dogr", "Kthi", "Mahj"],
    "966-96f"),
   (["Deva", "Gran"],
    "1cf3 1cf8-1cf9"),
   (["Deva", "Gran", "Knda"],
    "1cd3"),
   (["Deva", "Gran", "Knda", "Tutg"],
    "1cf4"),
   (["Deva", "Gran", "Latn"],
    "20f0"),
   (["Deva", "Knda", "Mlym", "Orya", "Taml", "Telu"],
    "1cda"),
   (["Deva", "Nand"],
    "1ce9"),
   (["Deva", "Shrd"],
    "1cd7 1cd9 1cdc-1cdd 1ce0"),
   (["Deva", "Taml"],
    "a8f3"),
   (["Dupl"],
    "2e3c 1bca0-1bca3"),
   (["Dupl", "Latn", "Syrc"],
    "30a"),
   (["Ethi", "Latn"],
    "30e"),
   (["Geor", "Glag", "Latn"],
    "10fb"),
   (["Glag", "Latn", "Sunu", "Syrc", "Thai"],
    "303"),
   (["Gran", "Taml"],
    "be6-bf3 11301 11303 1133b-1133c 11fd0-11fd1 11fd3"),
   (["Grek"],
    "342 345 1dc0-1dc1"),
   (["Grek", "Latn", "Perm", "Todr"],
    "313"),
   (["Gujr", "Khoj"],
    "ae6-aef"),
   (["Guru", "Mult"],
    "a66-a6f"),
   (["Hani"],
    "3006 303e-303f 3190-319f 31c0-31e5 3220-3247 3280-32b0 32c0-32cb 32ff 3358-3370 337b-337f
      33e0-33fe 1d360-1d371 1f250-1f251"),
   (["Hani", "Hira", "Kana"],
    "303c-303d"),
   (["Hani", "Latn"],
    "a700-a707"),
   (["Hani", "Tang"],
    "2ff0-2fff 31ef"),
   (["Hira", "Kana"],
    "3031-3035 3099-309c 30a0 30fc ff70 ff9e-ff9f"),
   (["Kali", "Latn", "Mymr"],
    "a92e"),
   (["Knda", "Nand", "Tutg"],
    "ce6-cef"),
   (["Latn"],
    "363-36f"),
   (["Latn", "Lisu"],
    "2cd"),
   (["Latn", "Mong", "Phag"],
    "202f"),
   (["Latn", "Osge"],
    "358"),
   (["Latn", "Sunu"],
    "30d 310"),
   (["Latn", "Sunu", "Syrc"],
    "32d"),
   (["Latn", "Syrc"],
    "320 325 32e"),
   (["Latn", "Tfng"],
    "309"),
   (["Latn", "Thai"],
    "2d7"),
   (["Mani", "Ougr"],
    "10af2"),
   (["Mong", "Phag"],
    "1802-1803 1805"),
   (["Nand"],
    "1cfa"),
   (["Runr"],
    "16eb-16ed"),
   (["Syrc"],
    "1dfa")]

/-- Every code point with a list of its own. -/
def listed : CharSet :=
  CharSet.ofRanges (table.flatMap fun (_, members) => CharSet.ofText members)

/-- The code points that list the script with the given letters. -/
def ofLetters (letters : String) : CharSet :=
  CharSet.union ((Script.ofLetters letters).diff listed)
    (CharSet.ofRanges ((table.filter fun (scripts, _) => scripts.contains letters).flatMap
      fun (_, members) => CharSet.ofText members))

/-- The set under the loose name of a script. -/
def byName? (name : String) : Option CharSet :=
  (Script.letters? name).map ofLetters

end RecordSchema.Unicode.ScriptExtension
