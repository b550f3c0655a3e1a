import TypedExpr.Number.Numeral
import TypedExpr.Pattern.CharClass
import TypedExpr.Text.Blank
import TypedExpr.Text.Recent
import TypedExpr.Text.Scanner
/-!
# Reading patterns

The usual spelling of regular expressions: groups, alternatives, repetitions, bracketed classes with set
operations, escapes, and flags that hold until their group ends. There are no references to groups and no
conditions on what surrounds a match other than anchors and word boundaries. Parts within parts may be nested
to a limited depth only.
-/

namespace TypedExpr.Pattern

open Text Scanner

structure Flags where
  ignoreCase : Bool := false
  multiLine : Bool := false
  dotAll : Bool := false
  crlf : Bool := false
  /-- Blanks and comments separate and mean nothing. -/
  verbose : Bool := false
  /-- Classes cover all characters, not only ASCII. -/
  unicode : Bool := true
  deriving DecidableEq, Repr

/-- Passes over blanks and comments, which end with their line. -/
def skipIgnored : (inComment : Bool) → List Char → List Char
  | _, [] => []
  | true, c :: rest => skipIgnored (c != '\n') rest
  | false, c :: rest =>
    if isBlank c then skipIgnored false rest else if c = '#' then skipIgnored true rest else c :: rest

def Flags.skip (f : Flags) (cs : List Char) : List Char := if f.verbose then skipIgnored false cs else cs

/-- The characters that stand for themselves after a backslash because they mean something otherwise. -/
def isMeta (c : Char) : Bool := "\\.+*?()|[]\x7b\x7d^$#&-~".toList.contains c

/-- Whether a backslash before the character is allowed and changes nothing. -/
def isEscapable (c : Char) : Bool :=
  isMeta c || (c.toNat < 128 && !c.isAlphanum && c != '<' && c != '>')

/-- A piece of a pattern that is not built from others. -/
inductive Atom where
  | char (c : Char)
  /-- A byte given by two digits, which is a character only below 128 when classes are ASCII. -/
  | byte (c : Char)
  | set (s : CodeSet)
  | assertion (a : Assertion)

def validCode? (n : Nat) : Option Char := if n.isValidChar then some (Char.ofNat n) else none

def readHexDigits (f : Flags) : (count value : Nat) → Scanner Nat
  | 0, value => return value
  | count + 1, value => do
    let d ← hexDigit? (← next f.skip)
    readHexDigits f count (16 * value + d)

def readHexBraced (f : Flags) : Scanner Nat :=
  loop (fun (value : Option Nat) => do
    let c ← next f.skip
    if c = '\x7d' then return .done (← value)
    else return .again (some (16 * value.getD 0 + (← hexDigit? c)))) none

def readHex (f : Flags) (count : Nat) : Scanner (Char × Bool) := do
  let braced ← accept f.skip ['\x7b']
  let n ← (if braced then readHexBraced f else readHexDigits f count 0)
  return (← validCode? n, braced)

def cutAt? (separator : List Char) : List Char → Option (List Char × List Char)
  | [] => none
  | c :: rest =>
    if separator.isPrefixOf (c :: rest) then some ([], (c :: rest).drop separator.length)
    else (cutAt? separator rest).map fun (before, after) => (c :: before, after)

/-- The set that the text in the braces of a named class stands for, and whether its complement is meant. -/
def bracedClass? (name : List Char) : Option (CodeSet × Bool) :=
  match cutAt? ['!', '='] name with
  | some (property, value) => (classWithValue? property value).map fun s => (s, true)
  | none => match cutAt? [':'] name with
    | some (property, value) => (classWithValue? property value).map fun s => (s, false)
    | none => match cutAt? ['='] name with
      | some (property, value) => (classWithValue? property value).map fun s => (s, false)
      | none => (classNamed? name).map fun s => (s, false)

def letterNamed? (c : Char) : Option (CodeSet × Bool) :=
  if c = '\\' then none else (classNamed? [c]).map fun s => (s, false)

def readClassName (f : Flags) : Scanner (CodeSet × Bool) := do
  if ← accept f.skip ['\x7b'] then bracedClass? (← upTo f.skip '\x7d') else letterNamed? (← next f.skip)

def readNamedClass (f : Flags) (negated : Bool) : Scanner CodeSet := do
  let named ← readClassName f
  if f.unicode then
    let folded := if f.ignoreCase then foldCase named.1 else named.1
    return if negated != named.2 then folded.complement else folded
  else failure

/-- The class of a letter. Without Unicode its complement could split characters and is refused. -/
def letterClass (f : Flags) (unicode ascii : CodeSet) (negated : Bool) : Option CodeSet :=
  if f.unicode then some (if negated then unicode.complement else unicode)
  else if negated then none else some ascii

def Flags.inBrace (f : Flags) : List Char → List Char
  | [] => []
  | c :: rest => if c = '\x7b' then f.skip rest else []

def boundaryNamed? (f : Flags) (name : List Char) : Option Assertion :=
  match String.ofList name, f.unicode with
  | "start", true => some .wordStart
  | "end", true => some .wordEnd
  | "start-half", true => some .wordStartHalf
  | "end-half", true => some .wordEndHalf
  | "start", false => some .asciiWordStart
  | "end", false => some .asciiWordEnd
  | "start-half", false => some .asciiWordStartHalf
  | "end-half", false => some .asciiWordEndHalf
  | _, _ => none

/-- A word boundary after `b`, a special one if its name follows in braces. -/
def readBoundary (f : Flags) : Scanner Assertion := do
  match ← nextIf f.inBrace fun c _ => c.isAlpha || c = '-' with
  | some first => boundaryNamed? f (first :: (← upTo f.skip '\x7d'))
  | none => return if f.unicode then .wordBoundary else .asciiWordBoundary

def escaped? (f : Flags) (c : Char) : Option Atom :=
  if c = 'd' || c = 'D' then (letterClass f Category.decimalDigits (.range 48 57) (c = 'D')).map .set
  else if c = 's' || c = 'S' then (letterClass f Category.whiteSpace asciiSpaceSet (c = 'S')).map .set
  else if c = 'w' || c = 'W' then (letterClass f wordSet asciiWordSet (c = 'W')).map .set
  else if isEscapable c then some (.char c)
  else match c with
    | 'a' => some (.char '\x07')
    | 'f' => some (.char '\x0c')
    | 't' => some (.char '\t')
    | 'n' => some (.char '\n')
    | 'r' => some (.char '\r')
    | 'v' => some (.char '\x0b')
    | 'A' => some (.assertion .startText)
    | 'z' => some (.assertion .endText)
    | 'B' => some (.assertion (if f.unicode then .notWordBoundary else .asciiNotWordBoundary))
    | '<' => some (.assertion (if f.unicode then .wordStart else .asciiWordStart))
    | '>' => some (.assertion (if f.unicode then .wordEnd else .asciiWordEnd))
    | _ => none

def readEscape (f : Flags) : Scanner Atom := do
  let c ← next id
  if c = 'x' then
    let hex ← readHex f 2
    return if f.unicode || hex.2 then .char hex.1 else .byte hex.1
  else if c = 'u' then return .char (← readHex f 4).1
  else if c = 'U' then return .char (← readHex f 8).1
  else if c = 'p' || c = 'P' then return .set (← readNamedClass f (c = 'P'))
  else if c = 'b' then return .assertion (← readBoundary f)
  else escaped? f c

inductive SetOp where
  | inter
  | diff
  | symmDiff

def Flags.fold (f : Flags) (s : CodeSet) : CodeSet :=
  if f.ignoreCase then
    if f.unicode then foldCase s
    else (foldCase (s.inter (.range 0 127))).inter (.range 0 127) |>.union s
  else s

/-- What stands on one side of an operation, and how deep it nests. -/
structure ClassSide where
  set : CodeSet
  depth : Nat

def applyPending (f : Flags) : Option (SetOp × ClassSide) → ClassSide → ClassSide
  | none, right => right
  | some (op, left), right =>
    let (a, b) := (f.fold left.set, f.fold right.set)
    let set := match op with
      | .inter => a.inter b
      | .diff => a.diff b
      | .symmDiff => a.symmDiff b
    ⟨set, max left.depth right.depth + 1⟩

structure Members where
  set : CodeSet := .empty
  count : Nat := 0
  depth : Nat := 0

namespace Members

def add (m : Members) (s : CodeSet) (depth : Nat) : Members :=
  ⟨m.set.union s, m.count + 1, max m.depth depth⟩

/-- All members together; several of them make a level of their own. -/
def side (m : Members) : ClassSide := ⟨m.set, if m.count ≤ 1 then m.depth else m.depth + 1⟩

end Members

/-- The spellings of the classes named within colons after the opening bracket, and whether the complement is
meant. -/
def colonClasses : List (List Char × CodeSet × Bool) :=
  asciiClasses.flatMap fun (name, s) =>
    [(':' :: name.toList ++ [':', ']'], s, false), (':' :: '^' :: name.toList ++ [':', ']'], s, true)]

def readClassItem (f : Flags) : Scanner Atom := do
  let c ← next f.skip
  if c = '\\' then readEscape f else return .char c

def atomSet? (f : Flags) : Atom → Option CodeSet
  | .char c => if f.unicode || c.toNat < 128 then some (.ofChar c) else none
  | .byte c => if c.toNat < 128 then some (.ofChar c) else none
  | .set s => some s
  | .assertion _ => none

def atomChar? (f : Flags) : Atom → Option Char
  | .char c => if f.unicode || c.toNat < 128 then some c else none
  | .byte c => if c.toNat < 128 then some c else none
  | _ => none

/-- The first character that is no blank. The sign of a comment is passed over, the text of the comment is
not. -/
def firstVisible? : (inComment : Bool) → List Char → Option Char
  | _, [] => none
  | inComment, c :: rest =>
    if isBlank c then firstVisible? inComment rest
    else if c = '#' && !inComment then firstVisible? true rest
    else some c

/-- The character after a hyphen that decides whether the hyphen makes a range. -/
def Flags.deciding? (f : Flags) (cs : List Char) : Option Char :=
  if f.verbose then firstVisible? false cs else cs.head?

/-- Whether a character is the hyphen of a range. A hyphen before a closing bracket or another hyphen makes no
range. -/
def Flags.makesRange (f : Flags) (c : Char) (rest : List Char) : Bool :=
  c = '-' && f.deciding? rest != some ']' && f.deciding? rest != some '-'

def range? (f : Flags) (first second : Atom) : Option CodeSet := do
  let low ← atomChar? f first
  let high ← atomChar? f second
  if low ≤ high then return .range low.toNat high.toNat else none

/-- The end of a range if there is a hyphen, else the item alone. -/
def rangeEnd (f : Flags) (first : Atom) : (hyphen : Option Char) → Scanner CodeSet
  | some _ => do range? f first (← readClassItem f)
  | none => atomSet? f first

def readClassRange (f : Flags) : Scanner CodeSet := do
  let first ← readClassItem f
  rangeEnd f first (← nextIf f.skip f.makesRange)

def readHyphens (f : Flags) : Scanner Members :=
  loop (fun (m : Members) => do
    if ← accept f.skip ['-'] then return .again (m.add (.ofChar '-') 0) else return .done m) {}

/-- A class that is being read: whether its complement is meant, the operation that waits for its right side,
and the members since. -/
structure ClassFrame where
  negated : Bool
  pending : Option (SetOp × ClassSide) := none
  members : Members := {}

namespace ClassFrame

def add (frame : ClassFrame) (s : CodeSet) (depth : Nat) : ClassFrame :=
  { frame with members := frame.members.add s depth }

def side (f : Flags) (frame : ClassFrame) : ClassSide := applyPending f frame.pending frame.members.side

def operate (f : Flags) (op : SetOp) (frame : ClassFrame) : ClassFrame :=
  { frame with pending := some (op, frame.side f), members := {} }

/-- The class at its closing bracket. Without Unicode a complement could split characters and is refused. -/
def close? (f : Flags) (frame : ClassFrame) : Option ClassSide :=
  let side := frame.side f
  let s := f.fold side.set
  if !frame.negated then some ⟨s, side.depth + 1⟩
  else if f.unicode then some ⟨s.complement, side.depth + 1⟩
  else none

end ClassFrame

/-- The start of a class after its bracket: negation, hyphens, and a closing bracket that stands for itself. -/
def readClassOpen (f : Flags) : Scanner ClassFrame := do
  let negated ← accept f.skip ['^']
  let hyphens ← readHyphens f
  if hyphens.count = 0 then
    if ← accept f.skip [']'] then return { negated, members := hyphens.add (.ofChar ']') 0 }
    else return { negated, members := hyphens }
  else return { negated, members := hyphens }

/-- A class that is being read, with the classes around it. -/
structure ClassReading where
  enclosing : List ClassFrame := []
  frame : ClassFrame

namespace ClassReading

def add (s : ClassReading) (set : CodeSet) (depth : Nat) : ClassReading :=
  { s with frame := s.frame.add set depth }

def addNamed? (f : Flags) (s : ClassReading) (set : CodeSet) (complemented : Bool) : Option ClassReading :=
  if complemented && !f.unicode then none
  else some (s.add (if complemented then (f.fold set).complement else set) 0)

/-- Closes the class, which then is a member of the one around it if there is one. -/
def close? (f : Flags) (s : ClassReading) : Option (Round ClassReading ClassSide) :=
  (s.frame.close? f).map fun closed =>
    match s.enclosing with
    | [] => .done closed
    | outer :: enclosing => .again ⟨enclosing, outer.add closed.set closed.depth⟩

def operate (f : Flags) (op : SetOp) (s : ClassReading) : ClassReading := { s with frame := s.frame.operate f op }

def nested (f : Flags) (s : ClassReading) : Scanner (Round ClassReading ClassSide) := do
  match ← oneOf id colonClasses with
  | some named => return .again (← s.addNamed? f named.1 named.2)
  | none => return .again ⟨s.frame :: s.enclosing, ← readClassOpen f⟩

def step (f : Flags) (s : ClassReading) : Scanner (Round ClassReading ClassSide) := do
  if ← accept f.skip ['['] then s.nested f
  else if ← accept f.skip [']'] then s.close? f
  else if ← accept f.skip ['&', '&'] then return .again (s.operate f .inter)
  else if ← accept f.skip ['-', '-'] then return .again (s.operate f .diff)
  else if ← accept f.skip ['~', '~'] then return .again (s.operate f .symmDiff)
  else return .again (s.add (← readClassRange f) 0)

end ClassReading

def readBracketed (f : Flags) : Scanner ClassSide := do
  loop (ClassReading.step f) { frame := ← readClassOpen f }

def Flags.skipBlanks (f : Flags) (cs : List Char) : List Char := if f.verbose then f.skip cs else cs.dropWhile isBlank

/-- A number in braces; blanks are allowed before it, whatever the flags say. -/
def readCount (f : Flags) : Scanner Nat := do
  let first ← next f.skipBlanks
  if first.isDigit then
    let n := Number.digitsValue (← loop (fun (digits : List Char) => do
      match ← nextIf f.skip fun c _ => c.isDigit with
      | some d => return .again (d :: digits)
      | none => return .done digits.reverse) [first])
    if n < Nat.pow 2 32 then return n else failure
  else failure

/-- The bounds of a counted repetition after its opening brace; blanks are allowed after the numbers. -/
def readBounds (f : Flags) : Scanner (Nat × Option Nat) := do
  let least ← readCount f
  if ← accept f.skipBlanks ['\x7d'] then return (least, some least)
  else if ← accept f.skipBlanks [','] then
    if ← accept f.skip ['\x7d'] then return (least, none)
    else
      let most ← readCount f
      if ← accept f.skipBlanks ['\x7d'] then if least ≤ most then return (least, some most) else failure
      else failure
  else failure

def Flags.set? (f : Flags) (letter : Char) (on : Bool) : Option Flags :=
  match letter with
  | 'i' => some { f with ignoreCase := on }
  | 'm' => some { f with multiLine := on }
  | 's' => some { f with dotAll := on }
  | 'U' => some f
  | 'u' => some { f with unicode := on }
  | 'R' => some { f with crlf := on }
  | 'x' => some { f with verbose := on }
  | _ => none

inductive Opening where
  /-- A group, read with these flags; a named one adds its name. -/
  | group (flags : Flags) (name : Option (List Char))
  | flags (flags : Flags)

/-- Flag letters up to a colon or a closing parenthesis. No letter may occur twice, and a minus clears the flags
after it. -/
def readFlags (f : Flags) : Scanner Opening :=
  loop (fun (f, seen) => do
    let c ← next id
    if c = ':' then if seen.head? = some '-' then failure else return .done (.group f none)
    else if c = ')' then if seen.isEmpty || seen.head? = some '-' then failure else return .done (.flags f)
    else if seen.contains c then failure
    else if c = '-' then return .again (f, c :: seen)
    else return .again (← f.set? c (!seen.contains '-'), c :: seen)) (f, [])

/-- Whether a character may stand in the name of a group. -/
def isNameChar (first : Bool) (c : Char) : Bool :=
  c = '_' || Category.alphabetic.contains c.toNat || Recent.alphabetic.contains c.toNat
    || (!first && (c = '.' || c = '[' || c = ']' || numbers.contains c.toNat || Recent.numbers.contains c.toNat))

def readGroupName : Scanner (List Char) := do
  match ← upTo id '>' with
  | first :: more => if isNameChar true first && more.all (isNameChar false) then return first :: more else failure
  | [] => failure

def readOpening (f : Flags) : Scanner Opening := do
  if ← accept f.skip ['?', 'P', '<'] then return .group f (some (← readGroupName))
  else if ← accept f.skip ['?', '<'] then return .group f (some (← readGroupName))
  else if ← accept f.skip ['?'] then readFlags f
  else return .group f none

def charRegex (f : Flags) (c : Char) : Regex := .one (f.fold (.ofChar c))

/-- The set of a dot: everything, or everything but the ends of lines. -/
def dotRegex? (f : Flags) : Option Regex :=
  if !f.unicode then none
  else if f.dotAll then some (.one .all)
  else if f.crlf then some (.one (CodeSet.complement ⟨[(10, 10), (13, 13)]⟩))
  else some (.one (CodeSet.complement ⟨[(10, 10)]⟩))

def startRegex (f : Flags) : Regex :=
  .assertion (if !f.multiLine then .startText else if f.crlf then .startLineCRLF else .startLine)

def endRegex (f : Flags) : Regex :=
  .assertion (if !f.multiLine then .endText else if f.crlf then .endLineCRLF else .endLine)

def atomRegex? (f : Flags) : Atom → Option Regex
  | .char c => some (charRegex f c)
  | .byte c => if c.toNat < 128 then some (charRegex f c) else none
  | .set s => some (.one s)
  | .assertion a => some (.assertion a)

/-- What a stretch of a pattern means, and how deep it nests. Single characters, classes without brackets,
anchors and boundaries have depth zero. -/
structure Piece where
  regex : Regex
  depth : Nat

/-- An item of a sequence; flags cannot be repeated. -/
inductive Item where
  | piece (p : Piece)
  | flags

namespace Item

def regex? : Item → Option Regex
  | .piece p => some p.regex
  | .flags => none

def depth : Item → Nat
  | .piece p => p.depth
  | .flags => 0

end Item

/-- The depth of several parts side by side, which make a level of their own. -/
def levelDepth : List Nat → Nat
  | [] => 0
  | [depth] => depth
  | depths => depths.foldl max 0 + 1

def sequence (items : List Item) : Piece where
  regex := (items.filterMap Item.regex?).foldr (fun r rest => match rest with
    | .empty => r
    | rest => .seq r rest) .empty
  depth := levelDepth (items.map Item.depth)

/-- A group that is being read: the alternatives and the items before it, and the flags around it. -/
structure Frame where
  alternatives : List Piece
  items : List Item
  flags : Flags

/-- Alternatives, the latest first, joined in order. -/
def joinAlternatives (last : Piece) (earlier : List Piece) : Piece where
  regex := earlier.foldl (fun acc p => .alt p.regex acc) last.regex
  depth := levelDepth (last.depth :: earlier.map Piece.depth)

def closeGroup (alternatives : List Piece) (items : List Item) : Piece :=
  let inner := joinAlternatives (sequence items.reverse) alternatives
  ⟨inner.regex, inner.depth + 1⟩

def repeatLast (least : Nat) (most : Option Nat) : List Item → Option (List Item)
  | .piece p :: items => some (.piece ⟨p.regex.repeated least most, p.depth + 1⟩ :: items)
  | _ => none

inductive Token where
  | opening (o : Opening)
  | close
  | bar
  | piece (p : Piece)
  | repetition (least : Nat) (most : Option Nat)

def Token.plain (r : Regex) : Token := .piece ⟨r, 0⟩

/-- A repetition. A lazy mark after it changes which match is found, not whether there is one. -/
def repetition (skip : List Char → List Char) (least : Nat) (most : Option Nat) : Scanner Token := do
  let _ ← accept skip ['?']
  return .repetition least most

def readToken (f : Flags) (first : Char) : Scanner Token :=
  match first with
  | '(' => do return .opening (← readOpening f)
  | ')' => return .close
  | '|' => return .bar
  | '[' => do
    let side ← readBracketed f
    return .piece ⟨.one side.set, side.depth⟩
  | '?' => repetition id 0 (some 1)
  | '*' => repetition id 0 none
  | '+' => repetition id 1 none
  | '\x7b' => do
    let bounds ← readBounds f
    repetition f.skip bounds.1 bounds.2
  | '\\' => do return .plain (← atomRegex? f (← readEscape f))
  | '.' => do return .plain (← dotRegex? f)
  | '^' => return .plain (startRegex f)
  | '$' => return .plain (endRegex f)
  | c => return .plain (charRegex f c)

/-- What was read of a pattern: the groups around, the names of groups, and the alternatives and items of the
present group, the latest first. -/
structure Reading where
  frames : List Frame := []
  names : List (List Char) := []
  flags : Flags := {}
  alternatives : List Piece := []
  items : List Item := []

namespace Reading

def enter (s : Reading) (flags : Flags) : Reading :=
  { s with frames := ⟨s.alternatives, s.items, s.flags⟩ :: s.frames, flags, alternatives := [], items := [] }

/-- Takes a token. No two groups have the same name. -/
def take (s : Reading) : Token → Option Reading
  | .opening (.flags flags) => some { s with flags, items := .flags :: s.items }
  | .opening (.group flags none) => some (s.enter flags)
  | .opening (.group flags (some name)) =>
    if s.names.contains name then none else some { s.enter flags with names := name :: s.names }
  | .close =>
    match s.frames with
    | [] => none
    | frame :: frames =>
      some { s with
        frames, flags := frame.flags, alternatives := frame.alternatives,
        items := .piece (closeGroup s.alternatives s.items) :: frame.items }
  | .bar => some { s with alternatives := sequence s.items.reverse :: s.alternatives, items := [] }
  | .piece p => some { s with items := .piece p :: s.items }
  | .repetition least most => (repeatLast least most s.items).map fun items => { s with items }

def finish (s : Reading) : Option Piece :=
  match s.frames with
  | [] => some (joinAlternatives (sequence s.items.reverse) s.alternatives)
  | _ :: _ => none

end Reading

def readFrom : (fuel : Nat) → Reading → List Char → Option Piece
  | 0, _, _ => none
  | fuel + 1, s, cs =>
    match s.flags.skip cs with
    | [] => s.finish
    | c :: rest => do
      let (token, rest) ← readToken s.flags c rest
      readFrom fuel (← s.take token) rest

/-- How deep a pattern may nest. Groups, repetitions and bracketed classes are levels, and so are several
items, alternatives or members side by side and the operations between the parts of a class. -/
def nestLimit : Nat := 250

/-- Reads a whole pattern, however deep it nests. Each round takes at least one character. -/
def readPiece (source : String) : Option Piece := readFrom (source.toList.length + 1) {} source.toList

def readRegex (source : String) : Option Regex := do
  let piece ← readPiece source
  if piece.depth ≤ nestLimit then return piece.regex else none

end TypedExpr.Pattern
