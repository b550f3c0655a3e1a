import TypedExpr.Text.CaseTable
/-!
# Upper and lower case

Full Unicode case mapping: a character may map to several, and a capital sigma at the end of a word has
a lower-case form of its own.
-/

namespace TypedExpr.Text

def isCased (c : Char) : Bool := casedSet.contains c.toNat

def isCaseIgnorable (c : Char) : Bool := caseIgnorableSet.contains c.toNat

def mapRuns (runs : List CaseRun) (c : Char) : Char :=
  match runs.find? fun r => r.first ≤ c.toNat && c.toNat ≤ r.last && (c.toNat - r.first) % r.step == 0 with
  | some r => Char.ofNat (c.toNat + r.shift).toNat
  | none => c

def mapCase (runs : List CaseRun) (expansions : List (Nat × List Nat)) (c : Char) : List Char :=
  match expansions.lookup c.toNat with
  | some codes => codes.map Char.ofNat
  | none => [mapRuns runs c]

def upperChar (c : Char) : List Char :=
  if c.toNat < 128 then [c.toUpper] else mapCase upperRuns upperExpansions c

def lowerChar (c : Char) : List Char :=
  if c.toNat < 128 then [c.toLower] else mapCase lowerRuns lowerExpansions c

def upper (s : String) : String := String.ofList (s.toList.flatMap upperChar)

/-- Whether the first character that is not ignored for casing is a cased one. -/
def casedFollows (cs : List Char) : Bool :=
  match cs.dropWhile isCaseIgnorable with
  | c :: _ => isCased c
  | [] => false

/-- Lowers the rest of a text; `before` holds the characters already seen, the last one first. -/
def lowerFrom (before : List Char) : List Char → List Char
  | [] => []
  | c :: rest =>
    let mapped := if c = 'Σ' then [if casedFollows before && !casedFollows rest then 'ς' else 'σ'] else lowerChar c
    mapped ++ lowerFrom (c :: before) rest

def lower (s : String) : String := String.ofList (lowerFrom [] s.toList)

/-- Raises the first character only. -/
def capitalize (s : String) : String :=
  match s.toList with
  | [] => ""
  | c :: rest => String.ofList (upperChar c ++ rest)

end TypedExpr.Text
