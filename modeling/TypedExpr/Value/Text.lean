import TypedExpr.Text.Quoted
import TypedExpr.Value
/-!
# The text of values

How values read in concatenations and results, and how their structure is listed. Entries of maps are
ordered by key, so the text does not depend on the order in which they were inserted.
-/

namespace TypedExpr.Value

variable {H : Type} [HostObject H]

/-- Orders keyed texts by their keys. -/
def sortByKey (entries : List (String × String)) : List (String × String) :=
  entries.mergeSort fun a b => decide (a.1 ≤ b.1)

mutual
/-- The text of a value. -/
def text : Value H → String
  | .null => "null"
  | .bool b => if b then "true" else "false"
  | .int n => toString n.toInt
  | .long n => toString n.toInt
  | .float x => x.text
  | .double x => x.text
  | .string s => s
  | .array items => "[" ++ ", ".intercalate (texts items) ++ "]"
  | .list items => "[" ++ ", ".intercalate (texts items) ++ "]"
  | .map entries =>
    "\x7b" ++ ", ".intercalate ((sortByKey (entryTexts entries)).map fun (k, t) => k ++ "=" ++ t) ++ "\x7d"
  | .object o => HostObject.text o

def texts : List (Value H) → List String
  | [] => []
  | v :: vs => text v :: texts vs

def entryTexts : List (String × Value H) → List (String × String)
  | [] => []
  | (k, v) :: rest => (k, text v) :: entryTexts rest
end

mutual
/-- A listing of the structure of a value. -/
def inspect : Value H → String
  | .null => "Null"
  | .bool b => "Bool(" ++ (if b then "true" else "false") ++ ")"
  | .int n => "Int(" ++ toString n.toInt ++ ")"
  | .long n => "Long(" ++ toString n.toInt ++ ")"
  | .float x => "Float(" ++ x.plainText ++ ")"
  | .double x => "Double(" ++ x.plainText ++ ")"
  | .string s => "String(" ++ Text.quoted s ++ ")"
  | .array items => "Array([" ++ ", ".intercalate (inspectAll items) ++ "])"
  | .list items => "List([" ++ ", ".intercalate (inspectAll items) ++ "])"
  | .map entries =>
    "Map(\x7b" ++ ", ".intercalate ((sortByKey (inspectEntries entries)).map fun (k, t) => Text.quoted k ++ ": " ++ t)
      ++ "\x7d)"
  | .object o => "Object(" ++ HostObject.inspect o ++ ")"

def inspectAll : List (Value H) → List String
  | [] => []
  | v :: vs => inspect v :: inspectAll vs

def inspectEntries : List (String × Value H) → List (String × String)
  | [] => []
  | (k, v) :: rest => (k, inspect v) :: inspectEntries rest
end

end TypedExpr.Value
