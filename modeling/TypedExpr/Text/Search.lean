/-!
# Searching in text

Parts and replacements. Matches are found from the left and do not overlap; the empty text matches before
every character and at the end.
-/

namespace TypedExpr.Text

def consFirst (c : Char) : List (List Char) → List (List Char)
  | [] => [[c]]
  | part :: parts => (c :: part) :: parts

/-- The parts between occurrences of a separator that is not empty; `skip` characters of the last
occurrence are still to be passed over. -/
def splitFrom (separator : List Char) : (skip : Nat) → List Char → List (List Char)
  | _, [] => [[]]
  | skip + 1, _ :: rest => splitFrom separator skip rest
  | 0, c :: rest =>
    if separator.isPrefixOf (c :: rest) then [] :: splitFrom separator (separator.length - 1) rest
    else consFirst c (splitFrom separator 0 rest)

def split (separator text : List Char) : List (List Char) :=
  if separator.isEmpty then [] :: text.map ([·]) ++ [[]] else splitFrom separator 0 text

def join (separator : List Char) (parts : List (List Char)) : List Char := (parts.intersperse separator).flatten

/-- The text with every occurrence of a target that is not empty replaced; `skip` characters of the last
occurrence are still to be passed over. -/
def replaceFrom (target replacement : List Char) : (skip : Nat) → List Char → List Char
  | _, [] => []
  | skip + 1, _ :: rest => replaceFrom target replacement skip rest
  | 0, c :: rest =>
    if target.isPrefixOf (c :: rest) then
      replacement ++ replaceFrom target replacement (target.length - 1) rest
    else c :: replaceFrom target replacement 0 rest

def replace (target replacement text : List Char) : List Char :=
  if target.isEmpty then replacement ++ text.flatMap (· :: replacement) else replaceFrom target replacement 0 text

end TypedExpr.Text
