import TypedExpr.Number.Floating
import TypedExpr.Span
/-!
# Expressions

Expression trees with the positions they came from, and their text, in which every operator stands in
parentheses.
-/

namespace TypedExpr

open Number

inductive ArithmeticOp where
  | add
  | sub
  | mul
  | div
  | mod
  | pow
  deriving DecidableEq, Repr, Inhabited

def ArithmeticOp.symbol : ArithmeticOp → String
  | .add => "+"
  | .sub => "-"
  | .mul => "*"
  | .div => "/"
  | .mod => "%"
  | .pow => "^"

inductive LogicalOp where
  | and
  | or
  deriving DecidableEq, Repr, Inhabited

def LogicalOp.symbol : LogicalOp → String
  | .and => "&&"
  | .or => "||"

inductive RelationalOp where
  | lt
  | le
  | gt
  | ge
  deriving DecidableEq, Repr, Inhabited

namespace RelationalOp

def symbol : RelationalOp → String
  | .lt => "<"
  | .le => "<="
  | .gt => ">"
  | .ge => ">="

/-- The relation that holds with the operands exchanged. -/
def invert : RelationalOp → RelationalOp
  | .lt => .gt
  | .le => .ge
  | .gt => .lt
  | .ge => .le

end RelationalOp

inductive Literal where
  | bool (b : Bool)
  | int (n : Int32)
  | long (n : Int64)
  | float (x : Single)
  | double (x : Double)
  | string (s : String)
  | null
  deriving DecidableEq, Repr, Inhabited

def Literal.text : Literal → String
  | .bool b => if b then "true" else "false"
  | .int n => toString n.toInt
  | .long n => toString n.toInt ++ "L"
  | .float x => x.literalText ++ "f"
  | .double x => x.literalText
  | .string s => "'" ++ s ++ "'"
  | .null => "null"

inductive Expr where
  | literal (span : Span) (value : Literal)
  | arithmetic (span : Span) (op : ArithmeticOp) (left right : Expr)
  | negate (span : Span) (operand : Expr)
  | logical (span : Span) (op : LogicalOp) (left right : Expr)
  | not (span : Span) (operand : Expr)
  /-- Whether the operand is null, or an empty text or collection. -/
  | empty (span : Span) (operand : Expr)
  /-- Equality, or inequality if negated. -/
  | equality (span : Span) (negated : Bool) (left right : Expr)
  | relational (span : Span) (op : RelationalOp) (left right : Expr)
  | instanceOf (span : Span) (operand : Expr) (typeName : String)
  | matches (span : Span) (operand : Expr) (pattern : String)
  | ternary (span : Span) (condition thenBranch elseBranch : Expr)
  /-- The left operand, or the right one where the left one is null. -/
  | elvis (span : Span) (left right : Expr)
  | index (span : Span) (target position : Expr)
  | property (span : Span) (receiver : Expr) (name : String) (nullSafe : Bool)
  | call (span : Span) (receiver : Expr) (name : String) (args : List Expr) (nullSafe : Bool)
  | staticCall (span : Span) (typeName name : String) (args : List Expr)
  | name (span : Span) (name : String)
  /-- A call without a receiver of a method that the scope defines. -/
  | contextCall (span : Span) (name : String) (args : List Expr)
  | this (span : Span)
  | bean (span : Span) (typeName : String)
  | environment (span : Span) (key : Expr)
  deriving Repr, Inhabited

namespace Expr

def span : Expr → Span
  | .literal s .. | .arithmetic s .. | .negate s .. | .logical s .. | .not s .. | .empty s ..
  | .equality s .. | .relational s .. | .instanceOf s .. | .matches s .. | .ternary s .. | .elvis s ..
  | .index s .. | .property s .. | .call s .. | .staticCall s .. | .name s .. | .contextCall s ..
  | .this s | .bean s .. | .environment s .. => s

def dot (nullSafe : Bool) : String := if nullSafe then "?." else "."

mutual
def text : Expr → String
  | .literal _ v => v.text
  | .arithmetic _ op l r => "(" ++ text l ++ " " ++ op.symbol ++ " " ++ text r ++ ")"
  | .negate _ e => "-" ++ text e
  | .logical _ op l r => "(" ++ text l ++ " " ++ op.symbol ++ " " ++ text r ++ ")"
  | .not _ e => "!" ++ text e
  | .empty _ e => "empty " ++ text e
  | .equality _ negated l r => "(" ++ text l ++ (if negated then " != " else " == ") ++ text r ++ ")"
  | .relational _ op l r => "(" ++ text l ++ " " ++ op.symbol ++ " " ++ text r ++ ")"
  | .instanceOf _ e t => "(" ++ text e ++ " instanceof T(" ++ t ++ "))"
  | .matches _ e p => "(" ++ text e ++ " matches '" ++ p ++ "')"
  | .ternary _ c t e => "(" ++ text c ++ " ? " ++ text t ++ " : " ++ text e ++ ")"
  | .elvis _ l r => "(" ++ text l ++ " ?: " ++ text r ++ ")"
  | .index _ t i => text t ++ "[" ++ text i ++ "]"
  | .property _ e n nullSafe => text e ++ dot nullSafe ++ n
  | .call _ e n args nullSafe => text e ++ dot nullSafe ++ n ++ "(" ++ ", ".intercalate (texts args) ++ ")"
  | .staticCall _ t n args => "T(" ++ t ++ ")." ++ n ++ "(" ++ ", ".intercalate (texts args) ++ ")"
  | .name _ n => n
  | .contextCall _ n args => n ++ "(" ++ ", ".intercalate (texts args) ++ ")"
  | .this _ => "this"
  | .bean _ t => "ctx[T(" ++ t ++ ")]"
  | .environment _ k => "env[" ++ text k ++ "]"

def texts : List Expr → List String
  | [] => []
  | e :: es => text e :: texts es
end

end Expr
end TypedExpr
