import TypedExpr.Pattern.Regex
import TypedExpr.Text.Age
import TypedExpr.Text.CaseFold
import TypedExpr.Text.Property
import TypedExpr.Text.ScriptUse
import TypedExpr.Text.Segment
/-!
# Named character classes

The sets that patterns refer to by a letter or by name, and the closure of a set under differences of case.
-/

namespace TypedExpr.Pattern

open Text

/-- Every character with its folded form, where they differ. -/
def foldPairs : List (Nat × Nat) :=
  foldRuns.flatMap fun r =>
    (List.range ((r.last - r.first) / r.step + 1)).map fun i =>
      let code := r.first + i * r.step
      (code, ((code : Int) + r.shift).toNat)

/-- Adds the characters that differ from a member in case only. -/
def foldCase (s : CodeSet) : CodeSet :=
  let folded := (foldPairs.filter fun p => s.contains p.1 || s.contains p.2).map Prod.snd
  let added := (foldPairs.filter fun p => folded.contains p.2).flatMap fun p => [(p.1, p.1), (p.2, p.2)]
  ⟨s.ranges ++ added⟩

def wordSet : CodeSet :=
  .unionAll [.range 48 57, .range 65 90, .range 95 95, .range 97 122, Category.alphabetic,
    Category.nonspacingMarks, Category.spacingMarks, Category.enclosingMarks, Category.decimalDigits,
    Category.connectors, Category.joinControl]

def asciiWordSet : CodeSet := ⟨[(48, 57), (65, 90), (95, 95), (97, 122)]⟩

def asciiSpaceSet : CodeSet := ⟨[(9, 13), (32, 32)]⟩

/-- Classes named within colons, such as `[:alpha:]`. -/
def asciiClasses : List (String × CodeSet) :=
  [("alnum", ⟨[(48, 57), (65, 90), (97, 122)]⟩),
   ("alpha", ⟨[(65, 90), (97, 122)]⟩),
   ("ascii", ⟨[(0, 127)]⟩),
   ("blank", ⟨[(9, 9), (32, 32)]⟩),
   ("cntrl", ⟨[(0, 31), (127, 127)]⟩),
   ("digit", ⟨[(48, 57)]⟩),
   ("graph", ⟨[(33, 126)]⟩),
   ("lower", ⟨[(97, 122)]⟩),
   ("print", ⟨[(32, 126)]⟩),
   ("punct", ⟨[(33, 47), (58, 64), (91, 96), (123, 126)]⟩),
   ("space", asciiSpaceSet),
   ("upper", ⟨[(65, 90)]⟩),
   ("word", asciiWordSet),
   ("xdigit", ⟨[(48, 57), (65, 70), (97, 102)]⟩)]

def letters : CodeSet :=
  .unionAll [Category.upperLetters, Category.lowerLetters, Category.titleLetters, Category.modifierLetters,
    Category.otherLetters]

def marks : CodeSet := .unionAll [Category.nonspacingMarks, Category.spacingMarks, Category.enclosingMarks]

def numbers : CodeSet := .unionAll [Category.decimalDigits, Category.letterNumbers, Category.otherNumbers]

def punctuation : CodeSet :=
  .unionAll [Category.connectors, Category.dashes, Category.openingMarks, Category.closingMarks,
    Category.initialQuotes, Category.finalQuotes, Category.otherPunctuation]

def symbols : CodeSet :=
  .unionAll [Category.mathSymbols, Category.currencySymbols, Category.modifierSymbols, Category.otherSymbols]

def separators : CodeSet :=
  .unionAll [Category.spaceSeparators, Category.lineSeparators, Category.paragraphSeparators]

def assigned : CodeSet :=
  .unionAll [letters, marks, numbers, punctuation, symbols, separators, Category.controls, Category.formats,
    Category.privateUse, .range 0xD800 0xDFFF]

/-- General categories by their names in lower case without separators. -/
def categoryNamed? : String → Option CodeSet
  | "lu" | "uppercaseletter" => some Category.upperLetters
  | "ll" | "lowercaseletter" => some Category.lowerLetters
  | "lt" | "titlecaseletter" => some Category.titleLetters
  | "lc" | "casedletter" => some (.unionAll [Category.upperLetters, Category.lowerLetters, Category.titleLetters])
  | "lm" | "modifierletter" => some Category.modifierLetters
  | "lo" | "otherletter" => some Category.otherLetters
  | "l" | "letter" => some letters
  | "mn" | "nonspacingmark" => some Category.nonspacingMarks
  | "mc" | "spacingmark" => some Category.spacingMarks
  | "me" | "enclosingmark" => some Category.enclosingMarks
  | "m" | "mark" | "combiningmark" => some marks
  | "nd" | "decimalnumber" | "digit" => some Category.decimalDigits
  | "nl" | "letternumber" => some Category.letterNumbers
  | "no" | "othernumber" => some Category.otherNumbers
  | "n" | "number" => some numbers
  | "pc" | "connectorpunctuation" => some Category.connectors
  | "pd" | "dashpunctuation" => some Category.dashes
  | "ps" | "openpunctuation" => some Category.openingMarks
  | "pe" | "closepunctuation" => some Category.closingMarks
  | "pi" | "initialpunctuation" => some Category.initialQuotes
  | "pf" | "finalpunctuation" => some Category.finalQuotes
  | "po" | "otherpunctuation" => some Category.otherPunctuation
  | "p" | "punctuation" | "punct" => some punctuation
  | "sm" | "mathsymbol" => some Category.mathSymbols
  | "sc" | "currencysymbol" => some Category.currencySymbols
  | "sk" | "modifiersymbol" => some Category.modifierSymbols
  | "so" | "othersymbol" => some Category.otherSymbols
  | "s" | "symbol" => some symbols
  | "zs" | "spaceseparator" => some Category.spaceSeparators
  | "zl" | "lineseparator" => some Category.lineSeparators
  | "zp" | "paragraphseparator" => some Category.paragraphSeparators
  | "z" | "separator" => some separators
  | "cc" | "control" | "cntrl" => some Category.controls
  | "cf" | "format" => some Category.formats
  | "co" | "privateuse" => some Category.privateUse
  | "cn" | "unassigned" => some assigned.complement
  | "c" | "other" =>
    some (.unionAll [Category.controls, Category.formats, Category.privateUse, assigned.complement])
  | "any" => some .all
  | "ascii" => some (.range 0 127)
  | "assigned" => some assigned
  | _ => none

/-- Yes-or-no properties by their names in lower case without separators. -/
def propertyNamed? : String → Option CodeSet
  | "alphabetic" | "alpha" => some Category.alphabetic
  | "lowercase" | "lower" => some Category.lowercase
  | "uppercase" | "upper" => some Category.uppercase
  | "whitespace" | "wspace" | "space" => some Category.whiteSpace
  | "graphemeextend" | "grext" => some Category.graphemeExtend
  | "joincontrol" | "joinc" => some Category.joinControl
  | name => tabulatedProperty? name

/-- A name without a leading `is`, in lower case, with only its ASCII characters that are neither blanks,
hyphens nor low lines. A name that is `c` after that keeps its `is`. -/
def normalName (name : List Char) : String :=
  let kept (cs : List Char) :=
    (cs.filter fun c => c != ' ' && c != '_' && c != '-' && c.toNat < 128).map Char.toLower
  match name with
  | i :: s :: rest =>
    if i.toLower = 'i' && s.toLower = 's' then
      String.ofList (if kept rest = ['c'] then ['i', 's', 'c'] else kept rest)
    else String.ofList (kept name)
  | _ => String.ofList (kept name)

/-- The set with this name: a property, a general category or a script. -/
def classNamed? (name : List Char) : Option CodeSet :=
  let normal := normalName name
  (propertyNamed? normal).or ((categoryNamed? normal).or (scriptNamed? normal))

/-- The set of characters for which a property has a value. -/
def classWithValue? (property value : List Char) : Option CodeSet :=
  let value := normalName value
  match normalName property with
  | "generalcategory" | "gc" => categoryNamed? value
  | "script" | "sc" => scriptNamed? value
  | "scriptextensions" | "scx" => scriptUseNamed? value
  | "age" => ageNamed? value
  | "graphemeclusterbreak" | "gcb" => graphemeBreakTables.named? value
  | "wordbreak" | "wb" => wordBreakTables.named? value
  | "sentencebreak" | "sb" => sentenceBreakTables.named? value
  | _ => none

end TypedExpr.Pattern
