import TypedExpr.Span
import TypedExpr.Ty
/-!
# Errors

The causes for which a registration, a compilation or an evaluation fails, and their wording.
-/

namespace TypedExpr

inductive RegistrationError where
  | typeNotFound (name : String)
  | duplicateType (name : String)
  | duplicateMethod (owner signature : String)
  /-- A method declared on one type was registered with another. -/
  | foreignMethod (signature : String) (owner : Ty) (registeredWith : String)
  deriving DecidableEq, Repr

def RegistrationError.message : RegistrationError → String
  | .typeNotFound name => "type not found: " ++ name
  | .duplicateType name => "duplicate type: " ++ name
  | .duplicateMethod owner signature => "duplicate method: " ++ owner ++ "." ++ signature
  | .foreignMethod signature owner registeredWith =>
    "invalid declaration: method " ++ signature ++ " declared on " ++ owner.text ++ " but registered with "
      ++ registeredWith

inductive Mismatch where
  | noValue (source : String)
  | binaryOperator (symbol : String) (left right : Ty)
  | negation (operand : Ty)
  | numericOperands (left right : Ty)
  | booleanOperand (symbol : String) (operand : Ty)
  | condition (found : Ty)
  | elvisOperand (left : Ty)
  /-- Each operand could be compared with the other, but as different types. -/
  | ambiguousOrdering (left right leftTarget rightTarget : Ty)
  | unusableOrdering (receiver : Ty) (signature : String)
  | instanceType (found : Ty)
  | matchOperand (found : Ty)
  /-- The message ends with the pattern; what an engine says about the fault is left out. -/
  | invalidPattern (pattern : String)
  | indexType (target index : Ty)
  | keyType (target key : Ty)
  | notIndexable (target : Ty)
  | argumentLimit (count limit : Nat)
  | primitiveBean (type : Ty)
  | environmentKey (found : Ty)
  deriving DecidableEq, Repr

def Mismatch.message : Mismatch → String
  | .noValue source => "'" ++ source ++ "' does not produce a value"
  | .binaryOperator symbol left right =>
    "operator '" ++ symbol ++ "' cannot be applied to " ++ left.text ++ " and " ++ right.text
  | .negation operand => "unary '-' cannot be applied to " ++ operand.text
  | .numericOperands left right => "numeric operands required, found " ++ left.text ++ " and " ++ right.text
  | .booleanOperand symbol operand =>
    "operand of '" ++ symbol ++ "' must be boolean, found " ++ operand.text
  | .condition found => "condition must be boolean, found " ++ found.text
  | .elvisOperand left => "left operand of '?:' must be a reference type, found " ++ left.text
  | .ambiguousOrdering left right leftTarget rightTarget =>
    "ordering of " ++ left.text ++ " and " ++ right.text ++ " is ambiguous: both compare as Comparable<"
      ++ leftTarget.text ++ "> and Comparable<" ++ rightTarget.text ++ ">"
  | .unusableOrdering receiver signature =>
    receiver.text ++ "." ++ signature ++ " cannot be used for ordering"
  | .instanceType found => "instanceof requires a reference type, found " ++ found.text
  | .matchOperand found => "matches requires a string operand, found " ++ found.text
  | .invalidPattern pattern => "invalid regular expression '" ++ pattern ++ "'"
  | .indexType target index => "index of " ++ target.text ++ " must be int, found " ++ index.text
  | .keyType target key => "key of " ++ target.text ++ " must be a string, found " ++ key.text
  | .notIndexable target => "cannot index into " ++ target.text
  | .argumentLimit count limit =>
    toString count ++ " arguments exceed the limit of " ++ toString limit
  | .primitiveBean type => "no bean of primitive type " ++ type.text
  | .environmentKey found => "environment key must be a string, found " ++ found.text

inductive InternalFault where
  /-- A table index or a count does not fit its two-byte operand. -/
  | operandOverflow (what : String) (value : Nat)
  | callOverflow (arguments : Nat)
  | jumpOverflow (distance : Nat)
  | noConversion (source target : Ty)
  | noInstruction (symbol : String) (kind : Kind)
  | varargsMismatch (items conversions : Nat)
  | comparisonWithoutArgument
  deriving DecidableEq, Repr

def InternalFault.message : InternalFault → String
  | .operandOverflow what value => what ++ " index " ++ toString value ++ " exceeds u16::MAX"
  | .callOverflow arguments => toString arguments ++ " arguments exceed the call operand"
  | .jumpOverflow distance => "jump distance " ++ toString distance ++ " exceeds u16::MAX"
  | .noConversion source target => "no conversion from " ++ source.text ++ " to " ++ target.text
  | .noInstruction symbol kind => "no opcode for '" ++ symbol ++ "' on " ++ kind.name
  | .varargsMismatch items conversions =>
    toString items ++ " varargs items with " ++ toString conversions ++ " conversions"
  | .comparisonWithoutArgument => "compareTo without argument"

inductive CompileError where
  | unknownName (name : String) (span : Span)
  | ambiguousName (name candidates : String) (span : Span)
  | noMatchingMethod (name arguments candidates : String) (span : Span)
  | ambiguousMethod (name arguments candidates : String) (span : Span)
  | mismatch (cause : Mismatch) (span : Span)
  | unresolvedThis (span : Span)
  | unknownType (name : String) (span : Span)
  | internal (fault : InternalFault)
  deriving DecidableEq, Repr

namespace CompileError

/-- The place of the error; faults of code generation have none. -/
def span : CompileError → Span
  | .unknownName _ s | .ambiguousName _ _ s | .noMatchingMethod _ _ _ s | .ambiguousMethod _ _ _ s
  | .mismatch _ s | .unresolvedThis s | .unknownType _ s => s
  | .internal _ => {}

def message : CompileError → String
  | .unknownName name s => "at " ++ s.text ++ ": unknown name '" ++ name ++ "'"
  | .ambiguousName name candidates s =>
    "at " ++ s.text ++ ": ambiguous name '" ++ name ++ "': could be " ++ candidates
  | .noMatchingMethod name arguments candidates s =>
    "at " ++ s.text ++ ": no method '" ++ name ++ "' matches arguments (" ++ arguments ++ "); candidates: "
      ++ candidates
  | .ambiguousMethod name arguments candidates s =>
    "at " ++ s.text ++ ": call to '" ++ name ++ "' with arguments (" ++ arguments ++ ") is ambiguous between "
      ++ candidates
  | .mismatch cause s => "at " ++ s.text ++ ": " ++ cause.message
  | .unresolvedThis s => "at " ++ s.text ++ ": 'this' is not available in this context"
  | .unknownType name s => "at " ++ s.text ++ ": unknown type '" ++ name ++ "'"
  | .internal fault => "internal compiler error: " ++ fault.message

end CompileError

inductive RunError where
  /-- A null where `context` needs a value. -/
  | nullValue (context : String)
  | indexOutOfBounds (index : Int) (length : Nat)
  | invalidCast (expected found : String)
  | missingArgument (index : Nat)
  | noSuchBean (type : String)
  | missingThis
  | divisionByZero
  | nativeCall (method message : String)
  | invalidBytecode (message : String)
  deriving DecidableEq, Repr

def RunError.message : RunError → String
  | .nullValue context => "null value where " ++ context ++ " was required"
  | .indexOutOfBounds index length =>
    "index " ++ toString index ++ " out of bounds for length " ++ toString length
  | .invalidCast expected found => "cannot cast value of type " ++ found ++ " to " ++ expected
  | .missingArgument index => "no argument at index " ++ toString index
  | .noSuchBean type => "no bean of type " ++ type
  | .missingThis => "no 'this' value in the evaluation context"
  | .divisionByZero => "division by zero"
  | .nativeCall method message => "call to '" ++ method ++ "' failed: " ++ message
  | .invalidBytecode message => "invalid bytecode: " ++ message

end TypedExpr
