import TypedExpr.Builtin.Argument
/-!
# Collections

The types `Collection`, `List` and `Map`.
-/

namespace TypedExpr.Builtin

variable {H : Type} [HostObject H]

def collectionSize : Native H := fun this _ => do return .int (Int32.ofNat (← expectItems this).length)

def collectionIsEmpty : Native H := fun this _ => do return .bool (← expectItems this).isEmpty

def collectionContains : Native H := fun this args => do
  let needle ← argument args 0
  return .bool ((← expectItems this).any (·.equals needle))

omit [HostObject H] in
/-- The item at an index counted from zero. -/
def itemAt (items : List (Value H)) (index : Int32) : Except RunError (Value H) :=
  match (if 0 ≤ index.toInt then items[index.toInt.toNat]? else none) with
  | some item => .ok item
  | none => .error (.indexOutOfBounds index.toInt items.length)

def listGet : Native H := fun this args => do
  let items ← expectItems this
  itemAt items (← expectInt (← argument args 0))

def listIndexOf : Native H := fun this args => do
  let needle ← argument args 0
  return .int (match (← expectItems this).findIdx? (·.equals needle) with
    | some i => Int32.ofNat i
    | none => -1)

def mapSize : Native H := fun this _ => do return .int (Int32.ofNat (← expectEntries this).length)

def mapIsEmpty : Native H := fun this _ => do return .bool (← expectEntries this).isEmpty

omit [HostObject H] in
/-- The value under a key; only strings are keys. -/
def entryOf? (entries : List (String × Value H)) (key : Value H) : Option (Value H) :=
  key.asString?.bind fun k => entries.lookup k

def mapGet : Native H := fun this args => do
  let entries ← expectEntries this
  return (entryOf? entries (← argument args 0)).getD .null

def mapGetOrDefault : Native H := fun this args => do
  let entries ← expectEntries this
  let fallback ← argument args 1
  return (entryOf? entries (← argument args 0)).getD fallback

def mapContainsKey : Native H := fun this args => do
  let entries ← expectEntries this
  return .bool (entryOf? entries (← argument args 0)).isSome

def collectionType : TypeDef H where
  name := "Collection"
  isInterface := true
  parameters := ["E"]
  methods :=
    let owner := Ty.declared "Collection" [.var 0]
    [.declare owner "size" [] .int collectionSize,
     .declare owner "isEmpty" [] .boolean collectionIsEmpty,
     .declare owner "contains" [.object] .boolean collectionContains]

def listType : TypeDef H where
  name := "List"
  isInterface := true
  parameters := ["E"]
  supertypes := [.declared "Collection" [.var 0]]
  methods :=
    [.declare (.listOf (.var 0)) "get" [.int] (.var 0) listGet,
     .declare (.listOf (.var 0)) "indexOf" [.object] .int listIndexOf]

def mapType : TypeDef H where
  name := "Map"
  isInterface := true
  parameters := ["K", "V"]
  methods :=
    let owner := Ty.mapOf (.var 0) (.var 1)
    [.declare owner "size" [] .int mapSize,
     .declare owner "isEmpty" [] .boolean mapIsEmpty,
     .declare owner "get" [.object] (.var 1) mapGet,
     .declare owner "getOrDefault" [.object, .var 1] (.var 1) mapGetOrDefault,
     .declare owner "containsKey" [.object] .boolean mapContainsKey]

end TypedExpr.Builtin
