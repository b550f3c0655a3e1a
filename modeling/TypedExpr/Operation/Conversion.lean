import TypedExpr.Conversion
import TypedExpr.Expr
import TypedExpr.Operation.Arithmetic
/-!
# Conversions and operators on values

What conversions do to values, and the numeric operators of each kind.
-/

namespace TypedExpr.Operation

open Number

variable {H : Type} [HostObject H]

omit [HostObject H] in
/-- A value out of its box, which may not be null. -/
def unboxed : Value H → Except RunError (Value H)
  | .null => .error (.nullValue "primitive value")
  | v => .ok v

/-- A number of one kind as a number of a wider kind. -/
def widen : (source target : Kind) → Value H → Except RunError (Value H)
  | .int, .long, v => (asInt v).map fun n => .long n.toInt64
  | .int, .float, v => (asInt v).map fun n => .float (.ofInt32 n)
  | .int, .double, v => (asInt v).map fun n => .double (.ofInt32 n)
  | .long, .float, v => (asLong v).map fun n => .float (.ofInt64 n)
  | .long, .double, v => (asLong v).map fun n => .double (.ofInt64 n)
  | .float, .double, v => (asFloat v).map fun x => .double x.toDouble
  | _, _, v => .ok v

def convert : Conversion → Value H → Except RunError (Value H)
  | .unboxing _, v => unboxed v
  | .widening source target, v => widen source target v
  | .unboxAndWiden source target, v => do widen source target (← unboxed v)
  | _, v => .ok v

/-- A number of a numeric type, boxed or not, as a number of the kind. -/
def coerce (source : Ty) (target : Kind) (v : Value H) : Except RunError (Value H) := do
  let v ← if source.isBoxed then unboxed v else .ok v
  match source.numericKind? with
  | some kind => widen kind target v
  | none => .ok v

omit [HostObject H] in
def noOperator (symbol : String) (kind : Kind) : Except RunError (Value H) :=
  .error (.invalidBytecode ("no opcode for '" ++ symbol ++ "' on " ++ kind.name))

def arithmeticInt (op : ArithmeticOp) (a b : Int32) : Except RunError (Value H) :=
  match op with
  | .add => .ok (.int (a + b))
  | .sub => .ok (.int (a - b))
  | .mul => .ok (.int (a * b))
  | .div => (divInt a b).map .int
  | .mod => (modInt a b).map .int
  | .pow => noOperator op.symbol .int

def arithmeticLong (op : ArithmeticOp) (a b : Int64) : Except RunError (Value H) :=
  match op with
  | .add => .ok (.long (a + b))
  | .sub => .ok (.long (a - b))
  | .mul => .ok (.long (a * b))
  | .div => (divLong a b).map .long
  | .mod => (modLong a b).map .long
  | .pow => (powLong a b).map .long

def arithmeticFloat (op : ArithmeticOp) (a b : Single) : Except RunError (Value H) :=
  match op with
  | .add => .ok (.float (a.add b))
  | .sub => .ok (.float (a.sub b))
  | .mul => .ok (.float (a.mul b))
  | .div => .ok (.float (a.div b))
  | .mod => .ok (.float (a.rem b))
  | .pow => noOperator op.symbol .float

def arithmeticDouble (op : ArithmeticOp) (a b : Double) : Except RunError (Value H) :=
  match op with
  | .add => .ok (.double (a.add b))
  | .sub => .ok (.double (a.sub b))
  | .mul => .ok (.double (a.mul b))
  | .div => .ok (.double (a.div b))
  | .mod => .ok (.double (a.rem b))
  | .pow => .ok (.double (a.pow b))

def arithmetic (op : ArithmeticOp) (kind : Kind) (a b : Value H) : Except RunError (Value H) :=
  match kind with
  | .int => do arithmeticInt op (← asInt a) (← asInt b)
  | .long => do arithmeticLong op (← asLong a) (← asLong b)
  | .float => do arithmeticFloat op (← asFloat a) (← asFloat b)
  | .double => do arithmeticDouble op (← asDouble a) (← asDouble b)
  | .bool => noOperator op.symbol .bool

def negate (kind : Kind) (a : Value H) : Except RunError (Value H) :=
  match kind with
  | .int => (asInt a).map fun n => .int (-n)
  | .long => (asLong a).map fun n => .long (-n)
  | .float => (asFloat a).map fun x => .float x.neg
  | .double => (asDouble a).map fun x => .double x.neg
  | .bool => noOperator "-" .bool

/-- Whether a relation holds, given the strict and the weak order of its operands in both directions. -/
def relate {α : Type} (lt le : α → α → Bool) (op : RelationalOp) (a b : α) : Bool :=
  match op with
  | .lt => lt a b
  | .le => le a b
  | .gt => lt b a
  | .ge => le b a

def order (op : RelationalOp) (kind : Kind) (a b : Value H) : Except RunError (Value H) :=
  match kind with
  | .int => do return .bool (relate (fun x y => x < y) (fun x y => x ≤ y) op (← asInt a) (← asInt b))
  | .long => do return .bool (relate (fun x y => x < y) (fun x y => x ≤ y) op (← asLong a) (← asLong b))
  | .float => do return .bool (relate Single.lt Single.le op (← asFloat a) (← asFloat b))
  | .double => do return .bool (relate Double.lt Double.le op (← asDouble a) (← asDouble b))
  | .bool => noOperator op.symbol .bool

end TypedExpr.Operation
