import Std.Data.TreeMap
import TypedExpr.Value
/-!
# Constants

The values and types that code refers to by number. A pool holds each constant once; floating-point
constants are the same only if their bits are.
-/

namespace TypedExpr

open Number

inductive Constant where
  | int (n : Int32)
  | long (n : Int64)
  | float (x : Single)
  | double (x : Double)
  | string (s : String)
  /-- A type that an instruction refers to; it is never a value. -/
  | type (t : Ty)
  deriving DecidableEq, Repr, Inhabited

namespace Constant

def value? {H : Type} : Constant → Option (Value H)
  | .int n => some (.int n)
  | .long n => some (.long n)
  | .float x => some (.float x)
  | .double x => some (.double x)
  | .string s => some (.string s)
  | .type _ => none

def type? : Constant → Option Ty
  | .type t => some t
  | _ => none

def textFingerprint (s : String) : Nat := s.toList.foldl (fun h c => (31 * h + c.toNat) % Nat.pow 2 32) 7

/-- A number that is the same for equal constants and mostly different for others. -/
def fingerprint : Constant → Nat
  | .int n => n.toUInt32.toNat
  | .long n => n.toUInt64.toNat
  | .float x => x.bits.toNat
  | .double x => x.bits.toNat
  | .string s => textFingerprint s
  | .type t => textFingerprint t.text

end Constant

/-- Constants in the order of their first use. -/
structure ConstantPool where
  entries : Array Constant := #[]
  /-- The numbers of the entries with each fingerprint. -/
  buckets : Std.TreeMap Nat (List Nat) := {}

namespace ConstantPool

def size (p : ConstantPool) : Nat := p.entries.size

def isEmpty (p : ConstantPool) : Bool := p.entries.isEmpty

def get? (p : ConstantPool) (index : Nat) : Option Constant := p.entries[index]?

def find? (p : ConstantPool) (c : Constant) : Option Nat :=
  (p.buckets.getD c.fingerprint []).find? fun index => p.get? index == some c

/-- The number of a constant, and the pool with the constant in it. -/
def add (p : ConstantPool) (c : Constant) : Nat × ConstantPool :=
  match p.find? c with
  | some index => (index, p)
  | none =>
    let bucket := p.buckets.getD c.fingerprint []
    (p.size, ⟨p.entries.push c, p.buckets.insert c.fingerprint (p.size :: bucket)⟩)

end ConstantPool
end TypedExpr
