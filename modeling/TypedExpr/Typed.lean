import TypedExpr.Expr
import TypedExpr.Pattern
import TypedExpr.Scope
/-!
# Resolved expressions

An expression in which every operator, call and name is settled: operators know their kind, calls their
method, names what they stand for. Each node keeps the line it came from.
-/

namespace TypedExpr

inductive IndexForm where
  | array
  | list
  | map
  deriving DecidableEq, Repr, Inhabited

inductive Typed (H : Type) where
  | literal (line : Nat) (value : Literal)
  | numeric (line : Nat) (op : ArithmeticOp) (kind : Kind) (left right : Typed H)
  | concat (line : Nat) (left right : Typed H)
  | negate (line : Nat) (kind : Kind) (operand : Typed H)
  | logical (line : Nat) (op : LogicalOp) (left right : Typed H)
  | not (line : Nat) (operand : Typed H)
  | empty (line : Nat) (operand : Typed H)
  | equality (line : Nat) (negated : Bool) (left right : Typed H)
  | ordering (line : Nat) (op : RelationalOp) (kind : Kind) (left right : Typed H)
  /-- Values compared by the `compareTo` of the left operand, or of the right one. -/
  | comparison (line : Nat) (op : RelationalOp) (selection : Selection H) (receiverIsLeft : Bool)
      (left right : Typed H)
  | instanceOf (line : Nat) (type : Ty) (operand : Typed H)
  | matches (line : Nat) (pattern : Pattern) (operand : Typed H)
  | ternary (line : Nat) (type : Ty) (condition thenBranch elseBranch : Typed H)
  | elvis (line : Nat) (type : Ty) (left right : Typed H)
  | index (line : Nat) (form : IndexForm) (type : Ty) (target position : Typed H)
  | arrayLength (line : Nat) (nullSafe : Bool) (receiver : Typed H)
  | property (line : Nat) (nullSafe : Bool) (property : Property H) (receiver : Typed H)
  | call (line : Nat) (nullSafe : Bool) (selection : Selection H) (receiver : Typed H) (args : List (Typed H))
  | staticCall (line : Nat) (selection : Selection H) (args : List (Typed H))
  | parameter (line : Nat) (index : Nat) (type : Ty)
  | contextProperty (line : Nat) (owner : Ty) (property : Property H)
  /-- A call without a receiver; an instance method runs on the bean of its owner. -/
  | contextCall (line : Nat) (selection : Selection H) (args : List (Typed H))
  | this (line : Nat) (type : Ty)
  | bean (line : Nat) (type : Ty)
  | environment (line : Nat) (key : Typed H)

def Literal.type : Literal → Ty
  | .bool _ => .boolean
  | .int _ => .int
  | .long _ => .long
  | .float _ => .float
  | .double _ => .double
  | .string _ => .string
  | .null => .null

namespace Typed

variable {H : Type}

def line : Typed H → Nat
  | .literal l .. | .numeric l .. | .concat l .. | .negate l .. | .logical l .. | .not l .. | .empty l ..
  | .equality l .. | .ordering l .. | .comparison l .. | .instanceOf l .. | .matches l .. | .ternary l ..
  | .elvis l .. | .index l .. | .arrayLength l .. | .property l .. | .call l .. | .staticCall l ..
  | .parameter l .. | .contextProperty l .. | .contextCall l .. | .this l .. | .bean l .. | .environment l .. => l

/-- The type of a member that is reached through a null-safe access may be null. -/
def memberType (nullSafe : Bool) (t : Ty) : Ty := if nullSafe then t.box else t

def type : Typed H → Ty
  | .literal _ v => v.type
  | .numeric _ _ kind _ _ => .primitive kind
  | .concat .. => .string
  | .negate _ kind _ => .primitive kind
  | .logical .. | .not .. | .empty .. | .equality .. | .ordering .. | .comparison .. | .instanceOf ..
  | .matches .. => .boolean
  | .ternary _ t .. | .elvis _ t .. | .index _ _ t .. | .parameter _ _ t | .this _ t | .bean _ t => t
  | .arrayLength .. => .int
  | .property _ nullSafe p _ => memberType nullSafe p.type
  | .call _ nullSafe s _ _ => memberType nullSafe s.returns
  | .staticCall _ s _ | .contextCall _ s _ => s.returns
  | .contextProperty _ _ p => p.type
  | .environment .. => .string

end Typed
end TypedExpr
