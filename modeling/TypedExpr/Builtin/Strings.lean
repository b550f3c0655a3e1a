import TypedExpr.Builtin.Argument
import TypedExpr.Text.Blank
import TypedExpr.Text.Case
import TypedExpr.Text.Search
/-!
# Strings

The types `Object`, `CharSequence`, `Comparable` and `String`. Indices count characters; positions in a text count
bytes.
-/

namespace TypedExpr.Builtin

open Number

variable {H : Type} [HostObject H]

def toText : Native H := fun this _ => .ok (.string this.text)

def valueEquals : Native H := fun this args => do return .bool (this.equals (← argument args 0))

def length : Native H := fun this _ => do
  return .int (Int32.ofNat (← expectString "receiver" this).length)

def isBlankText : Native H := fun this _ => do return .bool (← expectString "receiver" this).isEmpty

def toUpperCase : Native H := fun this _ => do return .string (Text.upper (← expectString "receiver" this))

def toLowerCase : Native H := fun this _ => do return .string (Text.lower (← expectString "receiver" this))

def trimText : Native H := fun this _ => do return .string (Text.trim (← expectString "receiver" this))

def containsText : Native H := fun this args => do
  let needle ← expectString "contains argument" (← argument args 0)
  return .bool ((← expectString "receiver" this).contains needle)

def startsWith : Native H := fun this args => do
  let start ← expectString "startsWith argument" (← argument args 0)
  return .bool ((← expectString "receiver" this).startsWith start)

def endsWith : Native H := fun this args => do
  let finish ← expectString "endsWith argument" (← argument args 0)
  return .bool ((← expectString "receiver" this).endsWith finish)

/-- Equality of the lower-case texts; only strings are equal to strings. -/
def equalsIgnoreCase : Native H := fun this args => do
  let text ← expectString "receiver" this
  match ← argument args 0 with
  | .string other => return .bool (Text.lower text == Text.lower other)
  | _ => return .bool false

/-- How many characters stand before the first occurrence of the argument, or -1. -/
def indexOfText : Native H := fun this args => do
  let text ← expectString "receiver" this
  let needle ← expectString "indexOf argument" (← argument args 0)
  return .int (match text.find? needle with
    | some found => Int32.ofNat (text.sliceTo found).copy.length
    | none => -1)

/-- Where the character with an index starts, in bytes; the end of the text has an index, too. -/
def position (text : String) (index : Int32) : Except RunError text.Pos :=
  if 0 ≤ index.toInt ∧ index.toInt ≤ text.length then .ok (text.startPos.nextn index.toInt.toNat)
  else .error (.indexOutOfBounds index.toInt text.length)

def substringFrom : Native H := fun this args => do
  let text ← expectString "receiver" this
  let start ← position text (← expectInt (← argument args 0))
  return .string (text.sliceFrom start).copy

/-- The characters from the first index up to the second. If the second lies before the first, the error
gives the number of bytes before it. -/
def substring : Native H := fun this args => do
  let text ← expectString "receiver" this
  let start ← position text (← expectInt (← argument args 0))
  let finish ← position text (← expectInt (← argument args 1))
  match text.slice? start finish with
  | some part => return .string part.copy
  | none => .error (.indexOutOfBounds finish.offset.byteIdx text.length)

def concatText : Native H := fun this args => do
  let tail ← expectString "concat argument" (← argument args 0)
  return .string ((← expectString "receiver" this) ++ tail)

def replaceText : Native H := fun this args => do
  let target ← expectString "replace target" (← argument args 0)
  let replacement ← expectString "replace replacement" (← argument args 1)
  let text ← expectString "receiver" this
  return .string (String.ofList (Text.replace target.toList replacement.toList text.toList))

def splitText : Native H := fun this args => do
  let separator ← expectString "split separator" (← argument args 0)
  let text ← expectString "receiver" this
  return .array ((Text.split separator.toList text.toList).map fun part => .string (String.ofList part))

def valueOfObject : Native H := fun _ args => do return .string (← argument args 0).text

def joinTexts : Native H := fun _ args => do
  let delimiter ← expectString "join delimiter" (← argument args 0)
  match (← argument args 1).items? with
  | some parts =>
    return .string (String.ofList (Text.join delimiter.toList (parts.map fun p => p.text.toList)))
  | none => .error (.nullValue "join elements")

def objectType : TypeDef H where
  name := "Object"
  methods :=
    [.declare .object "toString" [] .string toText,
     .declare .object "equals" [.object] .boolean valueEquals]

def charSequenceType : TypeDef H where
  name := "CharSequence"
  isInterface := true
  methods :=
    [.declare .charSequence "length" [] .int length,
     .declare .charSequence "isEmpty" [] .boolean isBlankText]

def comparableType : TypeDef H where
  name := "Comparable"
  isInterface := true
  parameters := ["T"]
  methods := [.declare (.comparableTo (.var 0)) "compareTo" [.var 0] .int compareTo]

def stringType : TypeDef H where
  name := "String"
  supertypes := [.charSequence, .comparableTo .string]
  methods :=
    [.declare .string "toUpperCase" [] .string toUpperCase,
     .declare .string "toLowerCase" [] .string toLowerCase,
     .declare .string "trim" [] .string trimText,
     .declare .string "contains" [.charSequence] .boolean containsText,
     .declare .string "startsWith" [.string] .boolean startsWith,
     .declare .string "endsWith" [.string] .boolean endsWith,
     .declare .string "equalsIgnoreCase" [.string] .boolean equalsIgnoreCase,
     .declare .string "indexOf" [.string] .int indexOfText,
     .declare .string "substring" [.int] .string substringFrom,
     .declare .string "substring" [.int, .int] .string substring,
     .declare .string "concat" [.string] .string concatText,
     .declare .string "replace" [.charSequence, .charSequence] .string replaceText,
     .declare .string "split" [.string] (.array .string) splitText,
     .declare .string "compareTo" [.string] .int compareTo,
     .declareStatic .string "valueOf" [.object] .string valueOfObject,
     { Method.declareStatic .string "join" [.charSequence, .array .charSequence] .string joinTexts with
       isVarargs := true }]

end TypedExpr.Builtin
