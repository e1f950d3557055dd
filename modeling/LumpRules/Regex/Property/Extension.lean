/-!
# Script extensions

A character that is used with several scripts belongs to the extensions of all of them.  For
each script the characters of other scripts are listed that its extensions have in addition; the
common and the inherited characters among them belong to no extension but those.  Characters are
listed in ascending order as code points and ranges of code points in base sixteen.
-/

namespace LumpRules.Regex

/-- The names of each script and the characters that its extensions have in addition. -/
def scriptAdditions : List (List String × String) :=
  [
    (["adlam", "adlm"],
      "61f 640 204f 2e41"),
    (["arabic", "arab"],
      "60c 61b 61f 640 64b-655 670 204f 2e41 fd3e-fd3f 102e0-102fb"),
    (["armenian", "armn"],
      "308"),
    (["avestan", "avst"],
      "b7 2e30-2e31"),
    (["bengali", "beng"],
      "2bc 951-952 964-965 1cd0 1cd2 1cd5-1cd6 1cd8 1ce1 1cea 1ced 1cf2 1cf5-1cf7 a8f1"),
    (["bopomofo", "bopo"],
      "2c7 2c9-2cb 2d9 3001-3003 3008-3011 3013-301f 302a-302d 3030 3037 30fb fe45-fe46 ff61-ff65"),
    (["buginese", "bugi"],
      "a9cf"),
    (["buhid", "buhd"],
      "1735-1736"),
    (["carian", "cari"],
      "b7 205a 205d 2e31"),
    (["caucasianalbanian", "aghb"],
      "304 331 35e"),
    (["chakma", "cakm"],
      "9e6-9ef 1040-1049"),
    (["cherokee", "cher"],
      "300-302 304 30b-30c 323-324 330-331"),
    (["coptic", "copt", "qaac"],
      "b7 300 304-305 307 374-375 2e17 102e0-102fb"),
    (["cypriot", "cprt"],
      "10100-10102 10107-10133 10137-1013f"),
    (["cyprominoan", "cpmn"],
      "10100-10101"),
    (["cyrillic", "cyrl"],
      "2bc 300-302 304 306 308 30b 311 485-486 1df8 2e43"),
    (["devanagari", "deva"],
      "2bc 951-952 964-965 1cd0-1cf6 1cf8-1cf9 20f0 a830-a839"),
    (["dogra", "dogr"],
      "964-96f a830-a839"),
    (["duployan", "dupl"],
      "b7 307-308 30a 323-324 2e3c 1bca0-1bca3"),
    (["elbasan", "elba"],
      "b7 305"),
    (["ethiopic", "ethi"],
      "30e"),
    (["garay", "gara"],
      "60c 61b 61f"),
    (["georgian", "geor"],
      "b7 589 10fb 205a 2e31"),
    (["glagolitic", "glag"],
      "b7 303 305 484 487 589 10fb 205a 2e43 a66f"),
    (["gothic", "goth"],
      "b7 304-305 308 331"),
    (["grantha", "gran"],
      "951-952 964-965 be6-bf3 1cd0 1cd2-1cd3 1cf2-1cf4 1cf8-1cf9 20f0 1133b 11fd0-11fd1 11fd3"),
    (["greek", "grek"],
      "b7 300-301 304 306 308 313 342 345 374 1dc0-1dc1 205d"),
    (["gujarati", "gujr"],
      "951-952 964-965 a830-a839"),
    (["gunjalagondi", "gong"],
      "b7 964-965"),
    (["gurmukhi", "guru"],
      "951-952 964-965 a830-a839"),
    (["gurungkhema", "gukh"],
      "965"),
    (["han", "hani"],
      "b7 2ff0-2fff 3001-3003 3006 3008-3011 3013-301f 302a-302d 3030 3037 303c-303f 30fb 3190-319f
      31c0-31e5 31ef 3220-3247 3280-32b0 32c0-32cb 32ff 3358-3370 337b-337f 33e0-33fe a700-a707
      fe45-fe46 ff61-ff65 1d360-1d371 1f250-1f251"),
    (["hangul", "hang"],
      "3001-3003 3008-3011 3013-301f 3030 3037 30fb fe45-fe46 ff61-ff65"),
    (["hanifirohingya", "rohg"],
      "60c 61b 61f 640 6d4"),
    (["hanunoo", "hano"],
      "1735-1736"),
    (["hebrew", "hebr"],
      "307-308"),
    (["hiragana", "hira"],
      "3001-3003 3008-3011 3013-301f 3030-3035 3037 303c-303d 3099-309c 30a0 30fb-30fc fe45-fe46
      ff61-ff65 ff70 ff9e-ff9f"),
    (["javanese", "java"],
      "a9cf"),
    (["kaithi", "kthi"],
      "966-96f 2e31 a830-a839"),
    (["kannada", "knda"],
      "951-952 964-965 1cd0 1cd2-1cd3 1cda 1cf2 1cf4 a830-a835"),
    (["katakana", "kana"],
      "305 323 3001-3003 3008-3011 3013-301f 3030-3035 3037 303c-303d 3099-309c 30a0 30fb-30fc
      fe45-fe46 ff61-ff65 ff70 ff9e-ff9f"),
    (["kayahli", "kali"],
      "a92e"),
    (["khojki", "khoj"],
      "ae6-aef a830-a839"),
    (["khudawadi", "sind"],
      "964-965 a830-a839"),
    (["latin", "latn"],
      "b7 2bc 2c7 2c9-2cb 2cd 2d7 2d9 300-30e 310-311 313 323-325 32d-32e 330-331 358 35e 363-36f
      485-486 951-952 10fb 1df8 202f 20f0 2e17 a700-a707 a92e"),
    (["limbu", "limb"],
      "965"),
    (["lineara", "lina"],
      "10107-10133"),
    (["linearb", "linb"],
      "10100-10102 10107-10133 10137-1013f"),
    (["lisu"],
      "2bc 2cd 300a-300b"),
    (["lycian", "lyci"],
      "205a"),
    (["lydian", "lydi"],
      "b7 2e31"),
    (["mahajani", "mahj"],
      "b7 964-96f a830-a839"),
    (["malayalam", "mlym"],
      "951-952 964-965 1cda 1cf2 a830-a832"),
    (["mandaic", "mand"],
      "640"),
    (["manichaean", "mani"],
      "640"),
    (["masaramgondi", "gonm"],
      "964-965"),
    (["meroitichieroglyphs", "mero"],
      "205d"),
    (["modi"],
      "a830-a839"),
    (["mongolian", "mong"],
      "1802-1803 1805 202f 3001-3002 3008-300b"),
    (["multani", "mult"],
      "a66-a6f"),
    (["myanmar", "mymr"],
      "a92e"),
    (["nandinagari", "nand"],
      "951 964-965 ce6-cef 1ce9 1cf2 1cfa a830-a835"),
    (["newa"],
      "951-952 1cd5 1cd7-1cd8 1ce2 1ce9 1ceb 1ced"),
    (["nko", "nkoo"],
      "60c 61b 61f fd3e-fd3f"),
    (["oldhungarian", "hung"],
      "205a 205d 2e31 2e41"),
    (["oldpermic", "perm"],
      "b7 300 306-308 313 483"),
    (["oldturkic", "orkh"],
      "205a 2e30"),
    (["olduyghur", "ougr"],
      "640 10af2"),
    (["olonal", "onao"],
      "964-965"),
    (["oriya", "orya"],
      "951-952 964-965 1cda 1cf2"),
    (["osage", "osge"],
      "301 304 30b 358"),
    (["phagspa", "phag"],
      "1802-1803 1805 202f 3002"),
    (["psalterpahlavi", "phlp"],
      "640"),
    (["runic", "runr"],
      "16eb-16ed"),
    (["samaritan", "samr"],
      "2e31"),
    (["sharada", "shrd"],
      "951 1cd7 1cd9 1cdc-1cdd 1ce0 1cea 1ced a830-a835 a838"),
    (["shavian", "shaw"],
      "b7"),
    (["sinhala", "sinh"],
      "964-965 1cf2"),
    (["sogdian", "sogd"],
      "640"),
    (["sunuwar", "sunu"],
      "300-301 303 30d 310 32d 331"),
    (["sylotinagri", "sylo"],
      "964-965 9e6-9ef"),
    (["syriac", "syrc"],
      "303-304 307-308 30a 323-325 32d-32e 330-331 60c 61b-61c 61f 640 64b-655 670 1df8 1dfa"),
    (["tagalog", "tglg"],
      "1735-1736"),
    (["tagbanwa", "tagb"],
      "1735-1736"),
    (["taile", "tale"],
      "300-301 307-308 30c 1040-1049"),
    (["takri", "takr"],
      "964-965 a830-a839"),
    (["tamil", "taml"],
      "951-952 964-965 1cda a8f3 11301 11303 1133b-1133c"),
    (["tangut", "tang"],
      "2ff0-2fff 31ef"),
    (["telugu", "telu"],
      "951-952 964-965 1cd5-1cd6 1cd8 1cda 1cf2"),
    (["thaana", "thaa"],
      "60c 61b-61c 61f 660-669 fdf2 fdfd"),
    (["thai"],
      "2bc 2d7 303 331"),
    (["tibetan", "tibt"],
      "3008-300b"),
    (["tifinagh", "tfng"],
      "302 304 306-309 323"),
    (["tirhuta", "tirh"],
      "951-952 964-965 1cd5 1ce2 1cf2 a830-a839"),
    (["todhri", "todr"],
      "301 304 307 311 313 35e"),
    (["toto"],
      "2bc"),
    (["tulutigalari", "tutg"],
      "ce6-cef 1cf2 1cf4 a830-a835 a8f1"),
    (["yezidi", "yezi"],
      "60c 61b 61f 660-669"),
    (["yi", "yiii"],
      "3001-3002 3008-3011 3014-301b 30fb ff61-ff65")]

end LumpRules.Regex
