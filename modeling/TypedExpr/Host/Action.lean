import TypedExpr.Builtin.Argument
import TypedExpr.Host.Record
/-!
# Actions

Simple things a method of a host can do with records, given as data.
-/

namespace TypedExpr

inductive Action where
  | nothing
  | constant (v : Value Record)
  | field (name : String)
  | fail (message : String)
  | argument (index : Nat)
  | receiver
  | arguments
  | count
  | describe
  /-- Orders the receiver's field `key` and the argument, or the argument's field `key`. -/
  | compareKey
  deriving Inhabited

namespace Action

def describeValue (v : Value Record) : String := v.typeName ++ ":" ++ v.text

def fieldOf? (name : String) : Value Record → Option (Value Record)
  | .object r => r.field? name
  | _ => none

/-- The method body of an action; `name` is the name of the method. -/
def native (name : String) : Action → Native Record
  | .nothing, _, _ => .ok .null
  | .constant v, _, _ => .ok v
  | .field f, this, _ => match fieldOf? f this with
    | some v => .ok v
    | none => .error (.nullValue ("field " ++ f))
  | .fail message, _, _ => .error (.nativeCall name message)
  | .argument index, _, args => .ok (args[index]?.getD .null)
  | .receiver, this, _ => .ok this
  | .arguments, _, args => .ok (.list args)
  | .count, _, args => match args.getLast?.bind Value.items? with
    | some items => .ok (.int (.ofNat items.length))
    | none => .ok (.int (-1))
  | .describe, this, args =>
    .ok (.string (name ++ "(" ++ describeValue this ++ "; " ++ ", ".intercalate (args.map describeValue) ++ ")"))
  | .compareKey, this, args =>
    let argument := args.head?.getD .null
    let own := (fieldOf? "key" this).getD .null
    let other := (fieldOf? "key" argument).getD argument
    match own.compare? other with
    | some o => .ok (Builtin.orderValue o)
    | none => .error (.nativeCall name "not comparable")

end Action
end TypedExpr
