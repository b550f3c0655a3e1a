import TypedExpr.Builtin.Argument
import TypedExpr.Number.Numeral
import TypedExpr.Text.Blank
/-!
# Numbers

The types `Number`, `Boolean`, the boxes of the numeric kinds, and `Math`.
-/

namespace TypedExpr.Builtin

open Number

variable {H : Type} [HostObject H]

def intValue : Native H := fun this _ => do return .int (← expectLong this).toInt32

def longValue : Native H := fun this _ => do return .long (← expectLong this)

def floatValue : Native H := fun this _ => do return .float (.ofDouble (← expectDouble this))

def doubleValue : Native H := fun this _ => do return .double (← expectDouble this)

def booleanValue : Native H := fun this _ =>
  match this with
  | .bool b => .ok (.bool b)
  | other => .error (castError "boolean" other)

/-- Whether a text is the word `true` in any case of ASCII letters. -/
def isTrueWord (s : String) : Bool := s.toList.map Char.toLower == ['t', 'r', 'u', 'e']

def parseBoolean : Native H := fun _ args => do
  match ← argument args 0 with
  | .string s => return .bool (isTrueWord s)
  | _ => return .bool false

/-- The name of the method that reads a kind from text. -/
def parseName : Kind → String
  | .int => "parseInt"
  | .long => "parseLong"
  | .float => "parseFloat"
  | .double => "parseDouble"
  | .bool => "parseBoolean"

/-- Reads a value of the kind; only decimals may have blanks around them. -/
def readKind (kind : Kind) (text : String) : Except String (Value H) :=
  match kind with
  | .int => ((readInt32 text).map Value.int).mapError IntegerFault.message
  | .long => ((readInt64 text).map Value.long).mapError IntegerFault.message
  | .float => ((readSingle (Text.trim text)).map Value.float).mapError DecimalFault.message
  | .double => ((readDouble (Text.trim text)).map Value.double).mapError DecimalFault.message
  | .bool => .ok (.bool (isTrueWord text))

def parseNumber (kind : Kind) : Native H := fun _ args => do
  let text ← expectString "number text" (← argument args 0)
  (readKind kind text).mapError fun message =>
    .nativeCall (kind.boxName ++ "." ++ parseName kind) (message ++ ": \"" ++ text ++ "\"")

def firstArgument : Native H := fun _ args => argument args 0

def isNotANumber : Native H := fun this _ => do return .bool (← expectDouble this).isNaN

def sqrt : Native H := fun _ args => do return .double (← expectDouble (← argument args 0)).sqrt

def pow : Native H := fun _ args => do
  let base ← expectDouble (← argument args 0)
  let exponent ← expectDouble (← argument args 1)
  return .double (base.pow exponent)

def floor : Native H := fun _ args => do return .double (← expectDouble (← argument args 0)).floor

def ceil : Native H := fun _ args => do return .double (← expectDouble (← argument args 0)).ceil

/-- One half. -/
def half : Double := ⟨0x3FE0000000000000⟩

/-- The floor of the number plus one half. -/
def round : Native H := fun _ args => do
  return .long ((← expectDouble (← argument args 0)).add half).floor.toInt64

def numberType : TypeDef H where
  name := "Number"
  methods :=
    [.declare .number "intValue" [] .int intValue,
     .declare .number "longValue" [] .long longValue,
     .declare .number "floatValue" [] .float floatValue,
     .declare .number "doubleValue" [] .double doubleValue]

def booleanType : TypeDef H where
  name := "Boolean"
  supertypes := [.comparableTo (.boxed .bool)]
  methods :=
    [.declare (.boxed .bool) "booleanValue" [] .boolean booleanValue,
     .declare (.boxed .bool) "compareTo" [.boxed .bool] .int compareTo,
     .declareStatic (.boxed .bool) "parseBoolean" [.string] .boolean parseBoolean]

/-- The box of a numeric kind. -/
def boxType (kind : Kind) : TypeDef H where
  name := kind.boxName
  supertypes := [.number, .comparableTo (.boxed kind)]
  methods :=
    [.declare (.boxed kind) "compareTo" [.boxed kind] .int compareTo,
     .declareStatic (.boxed kind) "valueOf" [.primitive kind] (.boxed kind) firstArgument,
     .declareStatic (.boxed kind) (parseName kind) [.string] (.primitive kind) (parseNumber kind)]
    ++ if kind.isIntegral then [] else [.declare (.boxed kind) "isNaN" [] .boolean isNotANumber]

def mathType : TypeDef H where
  name := "Math"
  methods :=
    [.declareStatic (.ofName "Math") "sqrt" [.double] .double sqrt,
     .declareStatic (.ofName "Math") "pow" [.double, .double] .double pow,
     .declareStatic (.ofName "Math") "floor" [.double] .double floor,
     .declareStatic (.ofName "Math") "ceil" [.double] .double ceil,
     .declareStatic (.ofName "Math") "round" [.double] .long round]

end TypedExpr.Builtin
