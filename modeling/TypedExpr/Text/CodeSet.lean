/-!
# Sets of code points

A set is a list of inclusive ranges. Tables of character properties are written as text: hexadecimal code
points and ranges such as `41-5A`, separated by blanks.
-/

namespace TypedExpr.Text

/-- The union of inclusive ranges of code points. -/
structure CodeSet where
  ranges : List (Nat × Nat)
  deriving DecidableEq, Repr, Inhabited

def hexDigit? (c : Char) : Option Nat :=
  if '0' ≤ c ∧ c ≤ '9' then some (c.toNat - '0'.toNat)
  else if 'A' ≤ c ∧ c ≤ 'F' then some (c.toNat - 'A'.toNat + 10)
  else if 'a' ≤ c ∧ c ≤ 'f' then some (c.toNat - 'a'.toNat + 10)
  else none

namespace CodeSet

def empty : CodeSet := ⟨[]⟩

def all : CodeSet := ⟨[(0, 0x10FFFF)]⟩

def range (first last : Nat) : CodeSet := ⟨[(first, last)]⟩

def ofChar (c : Char) : CodeSet := range c.toNat c.toNat

def contains (s : CodeSet) (n : Nat) : Bool := s.ranges.any fun (first, last) => first ≤ n && n ≤ last

def isEmpty (s : CodeSet) : Bool := s.ranges.isEmpty

/-- Reads a table; `first` is the start of the range being read, `code` the number so far. -/
def readTable (first code : Option Nat) : List Char → List (Nat × Nat)
  | [] => code.toList.map fun n => (first.getD n, n)
  | '-' :: rest => readTable code none rest
  | c :: rest =>
    match hexDigit? c with
    | some d => readTable first (some (16 * code.getD 0 + d)) rest
    | none => (code.toList.map fun n => (first.getD n, n)) ++ readTable none none rest

def ofTable (table : String) : CodeSet := ⟨readTable none none table.toList⟩

/-- Adds a range to ascending ranges, joining it with those it touches. -/
def insertRange (first last : Nat) : List (Nat × Nat) → List (Nat × Nat)
  | [] => [(first, last)]
  | (a, b) :: rest =>
    if last + 1 < a then (first, last) :: (a, b) :: rest
    else if b + 1 < first then (a, b) :: insertRange first last rest
    else insertRange (min a first) (max b last) rest

/-- Ascending ranges with gaps between them. -/
def normalize (s : CodeSet) : CodeSet := ⟨s.ranges.foldl (fun acc r => insertRange r.1 r.2 acc) []⟩

def union (a b : CodeSet) : CodeSet := ⟨a.ranges ++ b.ranges⟩

/-- What ascending ranges leave out from `start` on. -/
def gaps (start : Nat) : List (Nat × Nat) → List (Nat × Nat)
  | [] => if start ≤ 0x10FFFF then [(start, 0x10FFFF)] else []
  | (a, b) :: rest => if start < a then (start, a - 1) :: gaps (b + 1) rest else gaps (max start (b + 1)) rest

def complement (s : CodeSet) : CodeSet := ⟨gaps 0 s.normalize.ranges⟩

def inter (a b : CodeSet) : CodeSet :=
  ⟨a.ranges.flatMap fun (x, y) => b.ranges.filterMap fun (u, v) =>
    if max x u ≤ min y v then some (max x u, min y v) else none⟩

def diff (a b : CodeSet) : CodeSet := a.inter b.complement

def symmDiff (a b : CodeSet) : CodeSet := (a.diff b).union (b.diff a)

def unionAll (sets : List CodeSet) : CodeSet := ⟨sets.flatMap (·.ranges)⟩

end CodeSet

/-- Tables of code points, each under its names. -/
abbrev NamedTables := List (List String × String)

namespace NamedTables

def entry? (tables : NamedTables) (name : String) : Option (List String × String) :=
  tables.find? fun entry => entry.1.contains name

def named? (tables : NamedTables) (name : String) : Option CodeSet :=
  (tables.entry? name).map fun entry => CodeSet.ofTable entry.2

end NamedTables
end TypedExpr.Text
