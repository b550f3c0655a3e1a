import TypedExpr.Text.Script
/-!
# Scripts that use a character

A character may serve several scripts. Those that do are listed here with the scripts that use them; every
other character is used by the one script it belongs to.
-/

namespace TypedExpr.Text

/-- The full names of the scripts that use some code points, and the table of those code points. -/
def sharedTables : NamedTables :=
  [(["avestan", "carian", "coptic", "duployan", "elbasan", "georgian", "glagolitic", "gothic", "greek",
     "gunjalagondi", "han", "latin", "lydian", "mahajani", "oldpermic", "shavian"],
    "B7"),
   (["bengali", "cyrillic", "devanagari", "latin", "lisu", "thai", "toto"],
    "2BC"),
   (["bopomofo", "latin"],
    "2C7 2C9-2CB 2D9"),
   (["latin", "lisu"],
    "2CD"),
   (["latin", "thai"],
    "2D7"),
   (["cherokee", "coptic", "cyrillic", "greek", "latin", "oldpermic", "sunuwar", "taile"],
    "300"),
   (["cherokee", "cyrillic", "greek", "latin", "osage", "sunuwar", "taile", "todhri"],
    "301"),
   (["cherokee", "cyrillic", "latin", "tifinagh"],
    "302"),
   (["glagolitic", "latin", "sunuwar", "syriac", "thai"],
    "303"),
   (["caucasianalbanian", "cherokee", "coptic", "cyrillic", "gothic", "greek", "latin", "osage",
     "syriac", "tifinagh", "todhri"],
    "304"),
   (["coptic", "elbasan", "glagolitic", "gothic", "katakana", "latin"],
    "305"),
   (["cyrillic", "greek", "latin", "oldpermic"],
    "306"),
   (["coptic", "duployan", "hebrew", "latin", "oldpermic", "syriac", "taile", "tifinagh", "todhri"],
    "307"),
   (["armenian", "cyrillic", "duployan", "gothic", "greek", "hebrew", "latin", "oldpermic", "syriac",
     "taile"],
    "308"),
   (["latin", "tifinagh"],
    "309"),
   (["duployan", "latin", "syriac"],
    "30A"),
   (["cherokee", "cyrillic", "latin", "osage"],
    "30B"),
   (["cherokee", "latin", "taile"],
    "30C"),
   (["latin", "sunuwar"],
    "30D 310"),
   (["ethiopic", "latin"],
    "30E"),
   (["cyrillic", "latin", "todhri"],
    "311"),
   (["greek", "latin", "oldpermic", "todhri"],
    "313"),
   (["latin", "syriac"],
    "320 325 32E"),
   (["cherokee", "duployan", "katakana", "latin", "syriac"],
    "323"),
   (["cherokee", "duployan", "latin", "syriac"],
    "324"),
   (["latin", "sunuwar", "syriac"],
    "32D"),
   (["cherokee", "latin", "syriac"],
    "330"),
   (["caucasianalbanian", "cherokee", "gothic", "latin", "sunuwar", "thai"],
    "331"),
   (["greek"],
    "342 345 1DC0-1DC1"),
   (["latin", "osage"],
    "358"),
   (["caucasianalbanian", "latin", "todhri"],
    "35E"),
   (["latin"],
    "363-36F"),
   (["coptic", "greek"],
    "374-375"),
   (["cyrillic", "oldpermic"],
    "483"),
   (["cyrillic", "glagolitic"],
    "484 487 2E43 A66F"),
   (["cyrillic", "latin"],
    "485-486"),
   (["armenian", "georgian", "glagolitic"],
    "589"),
   (["arabic", "garay", "hanifirohingya", "nko", "syriac", "thaana", "yezidi"],
    "60C 61B"),
   (["arabic", "syriac", "thaana"],
    "61C"),
   (["adlam", "arabic", "garay", "hanifirohingya", "nko", "syriac", "thaana", "yezidi"],
    "61F"),
   (["adlam", "arabic", "hanifirohingya", "mandaic", "manichaean", "olduyghur", "psalterpahlavi",
     "sogdian", "syriac"],
    "640"),
   (["arabic", "syriac"],
    "64B-655 670"),
   (["arabic", "thaana", "yezidi"],
    "660-669"),
   (["arabic", "hanifirohingya"],
    "6D4"),
   (["bengali", "devanagari", "grantha", "gujarati", "gurmukhi", "kannada", "latin", "malayalam",
     "oriya", "sharada", "tamil", "telugu", "tirhuta"],
    "951"),
   (["bengali", "devanagari", "grantha", "gujarati", "gurmukhi", "kannada", "latin", "malayalam",
     "oriya", "tamil", "telugu", "tirhuta"],
    "952"),
   (["bengali", "devanagari", "dogra", "grantha", "gujarati", "gunjalagondi", "gurmukhi", "kannada",
     "khudawadi", "mahajani", "malayalam", "masaramgondi", "nandinagari", "olonal", "oriya", "sinhala",
     "sylotinagri", "takri", "tamil", "telugu", "tirhuta"],
    "964"),
   (["bengali", "devanagari", "dogra", "grantha", "gujarati", "gunjalagondi", "gurmukhi",
     "gurungkhema", "kannada", "khudawadi", "limbu", "mahajani", "malayalam", "masaramgondi",
     "nandinagari", "olonal", "oriya", "sinhala", "sylotinagri", "takri", "tamil", "telugu", "tirhuta"],
    "965"),
   (["devanagari", "dogra", "kaithi", "mahajani"],
    "966-96F"),
   (["bengali", "chakma", "sylotinagri"],
    "9E6-9EF"),
   (["gurmukhi", "multani"],
    "A66-A6F"),
   (["gujarati", "khojki"],
    "AE6-AEF"),
   (["grantha", "tamil"],
    "BE6-BF3 11301 11303 1133B-1133C 11FD0-11FD1 11FD3"),
   (["kannada", "nandinagari", "tulutigalari"],
    "CE6-CEF"),
   (["chakma", "myanmar", "taile"],
    "1040-1049"),
   (["georgian", "glagolitic", "latin"],
    "10FB"),
   (["runic"],
    "16EB-16ED"),
   (["buhid", "hanunoo", "tagalog", "tagbanwa"],
    "1735-1736"),
   (["mongolian", "phagspa"],
    "1802-1803 1805"),
   (["bengali", "devanagari", "grantha", "kannada"],
    "1CD0 1CD2"),
   (["devanagari"],
    "1CD1 1CD4 1CDB 1CDE-1CDF 1CE2-1CE8 1CEB-1CEC 1CEE-1CF1"),
   (["devanagari", "grantha", "kannada"],
    "1CD3"),
   (["bengali", "devanagari"],
    "1CD5-1CD6 1CD8 1CE1 1CEA 1CED 1CF5-1CF6"),
   (["devanagari", "sharada"],
    "1CD7 1CD9 1CDC-1CDD 1CE0"),
   (["devanagari", "kannada", "malayalam", "oriya", "tamil", "telugu"],
    "1CDA"),
   (["devanagari", "nandinagari"],
    "1CE9"),
   (["bengali", "devanagari", "grantha", "kannada", "malayalam", "nandinagari", "oriya", "sinhala",
     "telugu", "tirhuta", "tulutigalari"],
    "1CF2"),
   (["devanagari", "grantha"],
    "1CF3 1CF8-1CF9"),
   (["devanagari", "grantha", "kannada", "tulutigalari"],
    "1CF4"),
   (["bengali"],
    "1CF7"),
   (["nandinagari"],
    "1CFA"),
   (["cyrillic", "latin", "syriac"],
    "1DF8"),
   (["syriac"],
    "1DFA"),
   (["latin", "mongolian", "phagspa"],
    "202F"),
   (["adlam", "arabic"],
    "204F"),
   (["carian", "georgian", "glagolitic", "lycian", "oldhungarian", "oldturkic"],
    "205A"),
   (["carian", "greek", "meroitichieroglyphs", "oldhungarian"],
    "205D"),
   (["devanagari", "grantha", "latin"],
    "20F0"),
   (["coptic", "latin"],
    "2E17"),
   (["avestan", "oldturkic"],
    "2E30"),
   (["avestan", "carian", "georgian", "kaithi", "lydian", "oldhungarian", "samaritan"],
    "2E31"),
   (["duployan"],
    "2E3C 1BCA0-1BCA3"),
   (["adlam", "arabic", "oldhungarian"],
    "2E41"),
   (["han", "tangut"],
    "2FF0-2FFF 31EF"),
   (["bopomofo", "han", "hangul", "hiragana", "katakana", "mongolian", "yi"],
    "3001"),
   (["bopomofo", "han", "hangul", "hiragana", "katakana", "mongolian", "phagspa", "yi"],
    "3002"),
   (["bopomofo", "han", "hangul", "hiragana", "katakana"],
    "3003 3013 301C-301F 3030 3037 FE45-FE46"),
   (["han"],
    "3006 303E-303F 3190-319F 31C0-31E5 3220-3247 3280-32B0 32C0-32CB 32FF 3358-3370 337B-337F 33E0-33FE
    1D360-1D371 1F250-1F251"),
   (["bopomofo", "han", "hangul", "hiragana", "katakana", "mongolian", "tibetan", "yi"],
    "3008-3009"),
   (["bopomofo", "han", "hangul", "hiragana", "katakana", "lisu", "mongolian", "tibetan", "yi"],
    "300A-300B"),
   (["bopomofo", "han", "hangul", "hiragana", "katakana", "yi"],
    "300C-3011 3014-301B 30FB FF61-FF65"),
   (["bopomofo", "han"],
    "302A-302D"),
   (["hiragana", "katakana"],
    "3031-3035 3099-309C 30A0 30FC FF70 FF9E-FF9F"),
   (["han", "hiragana", "katakana"],
    "303C-303D"),
   (["han", "latin"],
    "A700-A707"),
   (["devanagari", "dogra", "gujarati", "gurmukhi", "kaithi", "kannada", "khojki", "khudawadi",
     "mahajani", "malayalam", "modi", "nandinagari", "sharada", "takri", "tirhuta", "tulutigalari"],
    "A830-A832"),
   (["devanagari", "dogra", "gujarati", "gurmukhi", "kaithi", "kannada", "khojki", "khudawadi",
     "mahajani", "modi", "nandinagari", "sharada", "takri", "tirhuta", "tulutigalari"],
    "A833-A835"),
   (["devanagari", "dogra", "gujarati", "gurmukhi", "kaithi", "khojki", "khudawadi", "mahajani",
     "modi", "takri", "tirhuta"],
    "A836-A837 A839"),
   (["devanagari", "dogra", "gujarati", "gurmukhi", "kaithi", "khojki", "khudawadi", "mahajani",
     "modi", "sharada", "takri", "tirhuta"],
    "A838"),
   (["bengali", "devanagari", "tulutigalari"],
    "A8F1"),
   (["devanagari", "tamil"],
    "A8F3"),
   (["kayahli", "latin", "myanmar"],
    "A92E"),
   (["buginese", "javanese"],
    "A9CF"),
   (["arabic", "nko"],
    "FD3E-FD3F"),
   (["arabic", "thaana"],
    "FDF2 FDFD"),
   (["cypriot", "cyprominoan", "linearb"],
    "10100-10101"),
   (["cypriot", "linearb"],
    "10102 10137-1013F"),
   (["cypriot", "lineara", "linearb"],
    "10107-10133"),
   (["arabic", "coptic"],
    "102E0-102FB"),
   (["manichaean", "olduyghur"],
    "10AF2")]

/-- The code points that a script uses: those listed for it, and its own ones that are listed for none. -/
def scriptUseNamed? (name : String) : Option CodeSet :=
  (scriptTables.entry? name).map fun entry =>
    let listed := sharedTables.filter fun shared => entry.1.any shared.1.contains
    let all := CodeSet.unionAll (sharedTables.map fun shared => CodeSet.ofTable shared.2)
    ((CodeSet.ofTable entry.2).diff all).union
      (CodeSet.unionAll (listed.map fun shared => CodeSet.ofTable shared.2))

end TypedExpr.Text
