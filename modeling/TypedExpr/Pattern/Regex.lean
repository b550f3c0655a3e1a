import TypedExpr.Text.Category
/-!
# Regular expressions

The shape of a pattern after its spelling is read, and which stretches of a text it matches. The matcher
moves sets of positions through the pattern, so its work is bounded by the pattern and the text.
-/

namespace TypedExpr.Pattern

open Text

inductive Assertion where
  | startText
  | endText
  | startLine
  | endLine
  /-- Start and end of a line where a carriage return also ends it. -/
  | startLineCRLF
  | endLineCRLF
  | wordBoundary
  | notWordBoundary
  | wordStart
  | wordEnd
  | wordStartHalf
  | wordEndHalf
  /-- The same conditions where only ASCII letters, digits and the low line make words. -/
  | asciiWordBoundary
  | asciiNotWordBoundary
  | asciiWordStart
  | asciiWordEnd
  | asciiWordStartHalf
  | asciiWordEndHalf
  deriving DecidableEq, Repr, Inhabited

inductive Regex where
  | empty
  | one (set : CodeSet)
  | assertion (a : Assertion)
  | seq (first second : Regex)
  | alt (first second : Regex)
  /-- From `least` repetitions on, up to `most` if there is a limit. -/
  | repeat (least : Nat) (most : Option Nat) (body : Regex)
  deriving DecidableEq, Repr, Inhabited

namespace Regex

def isZeroWidth : Regex → Bool
  | .empty => true
  | .one _ => false
  | .assertion _ => true
  | .seq first second => first.isZeroWidth && second.isZeroWidth
  | .alt first second => first.isZeroWidth && second.isZeroWidth
  | .repeat _ most body => most == some 0 || body.isZeroWidth

def repeated (least : Nat) (most : Option Nat) (body : Regex) : Regex :=
  -- Meeting a body without width again changes nothing, so once is enough.
  let (least, most) :=
    if body.isZeroWidth then (min least 1, some (min (most.getD 1) 1)) else (least, most)
  match least, most with
  | 0, some 0 => .empty
  | 1, some 1 => body
  | least, most => .repeat least most body

end Regex

def isWordCode (n : Nat) : Bool :=
  if n < 128 then (48 ≤ n && n ≤ 57) || (65 ≤ n && n ≤ 90) || n == 95 || (97 ≤ n && n ≤ 122)
  else
    [Category.alphabetic, Category.nonspacingMarks, Category.spacingMarks, Category.enclosingMarks,
      Category.decimalDigits, Category.connectors, Category.joinControl].any (·.contains n)

def isAsciiWordCode (n : Nat) : Bool := n < 128 && isWordCode n

namespace Assertion

def holds (a : Assertion) (before after : Option Char) : Bool :=
  let word (c : Option Char) := c.any fun c => isWordCode c.toNat
  let asciiWord (c : Option Char) := c.any fun c => isAsciiWordCode c.toNat
  match a with
  | .startText => before.isNone
  | .endText => after.isNone
  | .startLine => before.isNone || before == some '\n'
  | .endLine => after.isNone || after == some '\n'
  | .startLineCRLF =>
    before.isNone || before == some '\n' || (before == some '\r' && after != some '\n')
  | .endLineCRLF =>
    after.isNone || after == some '\r' || (after == some '\n' && before != some '\r')
  | .wordBoundary => word before != word after
  | .notWordBoundary => word before == word after
  | .wordStart => !word before && word after
  | .wordEnd => word before && !word after
  | .wordStartHalf => !word before
  | .wordEndHalf => !word after
  | .asciiWordBoundary => asciiWord before != asciiWord after
  | .asciiNotWordBoundary => asciiWord before == asciiWord after
  | .asciiWordStart => !asciiWord before && asciiWord after
  | .asciiWordEnd => asciiWord before && !asciiWord after
  | .asciiWordStartHalf => !asciiWord before
  | .asciiWordEndHalf => !asciiWord after

end Assertion

/-- A set of positions; position `i` is in it when bit `i` is set. -/
abbrev Positions := Nat

/-- The positions whose item satisfies the test; the first item has position `index`. -/
def positionsWhere {α : Type} (test : α → Bool) : (index : Nat) → List α → Positions
  | _, [] => 0
  | index, a :: rest => (if test a then Nat.pow 2 index else 0) ||| positionsWhere test (index + 1) rest

def places (before : Option Char) : List Char → List (Option Char × Option Char)
  | [] => [(before, none)]
  | c :: rest => (before, some c) :: places (some c) rest

/-- A regular expression whose leaves are the positions of one text that they accept. -/
inductive Moves where
  | stay
  | step (accepted : Positions)
  | filter (accepted : Positions)
  | seq (first second : Moves)
  | alt (first second : Moves)
  | repeat (least : Nat) (most : Option Nat) (body : Moves)

def Regex.moves (text : List Char) : Regex → Moves
  | .empty => .stay
  | .one set => .step (positionsWhere (fun c => set.contains c.toNat) 0 text)
  | .assertion a => .filter (positionsWhere (fun p => a.holds p.1 p.2) 0 (places none text))
  | .seq first second => .seq (first.moves text) (second.moves text)
  | .alt first second => .alt (first.moves text) (second.moves text)
  | .repeat least most body => .repeat least most (body.moves text)

def iterate (move : Positions → Positions) : (count : Nat) → Positions → Positions
  | 0, s => s
  | count + 1, s => iterate move count (move s)

/-- Adds what a move reaches, up to `rounds` times; stops when nothing is added. -/
def reach (move : Positions → Positions) : (rounds : Nat) → Positions → Positions
  | 0, s => s
  | rounds + 1, s =>
    let next := s ||| move s
    if next = s then s else reach move rounds next

/-- Where matches end that start in `s`; `size` is the number of characters of the text. -/
def Moves.run (size : Nat) : Moves → Positions → Positions
  | .stay, s => s
  | .step accepted, s => (s &&& accepted) <<< 1
  | .filter accepted, s => s &&& accepted
  | .seq first second, s => second.run size (first.run size s)
  | .alt first second, s => first.run size s ||| second.run size s
  | .repeat least most body, s =>
    reach (body.run size) (match most with
      | some limit => limit - least
      | none => size + 1) (iterate (body.run size) least s)

def Regex.isMatch (r : Regex) (text : String) : Bool :=
  let cs := text.toList
  (r.moves cs).run cs.length (Nat.pow 2 (cs.length + 1) - 1) != 0

/-- How many places for characters and conditions the pattern has at least with all repetitions written out.
Alternatives may share their places. -/
def Regex.size : Regex → Nat
  | .empty => 0
  | .one _ => 1
  | .assertion _ => 1
  | .seq first second => first.size + second.size
  | .alt first second => max first.size second.size
  | .repeat least most body => max least (most.getD 1) * body.size

end TypedExpr.Pattern
