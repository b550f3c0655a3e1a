import TypedExpr.Text.Category
import TypedExpr.Text.Recent
/-!
# Quoted text

A text between double quotes, with quotes, backslashes and characters that do not show written as escapes.
-/

namespace TypedExpr.Text

/-- Categories of characters that leave no mark on their own; the blank itself shows. -/
def isPrintable (c : Char) : Bool :=
  if c.toNat < 0x7F then 0x20 ≤ c.toNat
  else
    [Category.upperLetters, Category.lowerLetters, Category.titleLetters, Category.modifierLetters,
      Category.otherLetters, Category.nonspacingMarks, Category.spacingMarks, Category.enclosingMarks,
      Category.decimalDigits, Category.letterNumbers, Category.otherNumbers, Category.connectors,
      Category.dashes, Category.openingMarks, Category.closingMarks, Category.initialQuotes,
      Category.finalQuotes, Category.otherPunctuation, Category.mathSymbols, Category.currencySymbols,
      Category.modifierSymbols, Category.otherSymbols, Recent.printable].any (·.contains c.toNat)

/-- Whether a character joins the one before it. -/
def isExtending (c : Char) : Bool :=
  c.toNat ≥ 0x80 && (Category.graphemeExtend.contains c.toNat || Recent.graphemeExtend.contains c.toNat)

def codeEscape (c : Char) : List Char :=
  "\\u\x7b".toList ++ Nat.toDigits 16 c.toNat ++ ['\x7d']

def quotedChar (c : Char) : List Char :=
  if c = '\t' then ['\\', 't']
  else if c = '\n' then ['\\', 'n']
  else if c = '\r' then ['\\', 'r']
  else if c.toNat = 0 then ['\\', '0']
  else if c = '"' then ['\\', '"']
  else if c = '\\' then ['\\', '\\']
  else if isExtending c then codeEscape c
  else if isPrintable c then [c]
  else codeEscape c

def quoted (s : String) : String := String.ofList ('"' :: s.toList.flatMap quotedChar ++ ['"'])

end TypedExpr.Text
