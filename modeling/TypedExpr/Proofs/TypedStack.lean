import TypedExpr.Proofs.CallTargets
import TypedExpr.Proofs.Computing
import TypedExpr.Proofs.Inhabitation
/-!
# Typed stacks

`Transfers` says that a piece of code turns stacks of certain types into stacks of other types. Whatever the
values are, the stack has the height that the types say, so no instruction finds it too low. Where the values
are trusted to be of their types, each instruction also reads the operands that it expects.
-/

namespace TypedExpr

open Machine Operation Generation Catalog

variable {H : Type} [HostObject H]

/-- Whether the operation reads all its operands as primitives of one kind. -/
def Opcode.readsPrimitives : Opcode → Bool
  | .addI32 | .subI32 | .mulI32 | .divI32 | .modI32 | .negI32
  | .addI64 | .subI64 | .mulI64 | .divI64 | .modI64 | .negI64 | .powI64
  | .addF32 | .subF32 | .mulF32 | .divF32 | .modF32 | .negF32
  | .addF64 | .subF64 | .mulF64 | .divF64 | .modF64 | .negF64 | .powF64
  | .ltI32 | .leI32 | .gtI32 | .geI32 | .ltI64 | .leI64 | .gtI64 | .geI64
  | .ltF32 | .leF32 | .gtF32 | .geF32 | .ltF64 | .leF64 | .gtF64 | .geF64
  | .not | .jumpIfFalse | .jumpIfTrue
  | .i32ToI64 | .i32ToF32 | .i32ToF64 | .i64ToF32 | .i64ToF64 | .f32ToF64 => true
  | _ => false

/-- No operand that the instruction reads as a primitive is a value of another type. The position is such an
operand of an access by index. -/
def Machine.Reads (p : Program H) (env : Environment H) (i : Instr) (s : State H) : Prop :=
  ∀ expected found, (i.op.readsPrimitives = true → step p env i s ≠ .error (.invalidCast expected found)) ∧
    (i.op = .index → ∀ position rest, s.stack = position :: rest →
      asInt position ≠ .error (.invalidCast expected found))

theorem Machine.reads_of_plain {p : Program H} {env : Environment H} {i : Instr} {s : State H}
    (plain : i.op.readsPrimitives = false) (notIndex : i.op ≠ .index) : Reads p env i s := by
  refine fun _ _ => ⟨fun reads => ?_, fun isIndex => absurd isIndex notIndex⟩
  rw [plain] at reads
  cases reads

/-- The bytecode is not at fault: where the error says so, a native returned it. -/
def Machine.Excused (p : Program H) (env : Environment H) (e : RunError) : Prop :=
  ∀ message, e = .invalidBytecode message → ∃ s m receiver args, Reached p env s ∧ Calls p s m receiver args ∧
    m.native receiver args = .error (.invalidBytecode message)

/-- What the method called at the offset returns is of the type. -/
def Machine.Honest (p : Program H) (env : Environment H) (offset : Nat) (t : Ty) : Prop :=
  ∀ s m receiver args v, Reached p env s → s.offset = offset → Calls p s m receiver args →
    m.native receiver args = .ok v → p.catalog.Inhabits t v

/-- The stack holds as many values as there are types, and trusted values are of their types. -/
def Fits (trusted : Prop) (c : Catalog H) (types : List Ty) (stack : List (Value H)) : Prop :=
  List.Forall₂ (fun t v => trusted → c.Inhabits t v) types stack

/-- From wherever it stands in the program, the code turns stacks that fit `before` into stacks that fit `after`.
Its calls are those of the sites, which return values of their types where they are trusted. -/
structure Transfers (p : Program H) (env : Environment H) (trusted : Prop) (sites : List (Method H × Ty))
    (before : List Ty) (code : Code) (after : List Ty) : Prop where
  calls : code.calls.length = sites.length
  runs : ∀ offset stack,
    (∀ x ∈ ((code.callsFrom offset).map Prod.fst).zip sites, trusted → Honest p env x.1 x.2.2) →
    Fits trusted p.catalog before stack →
    Runs p env (fun i s => trusted → Reads p env i s) (Excused p env) offset code stack
      (Fits trusted p.catalog after)

/-- The stack that an operation leaves fits, and its errors are not those of wrong bytecode; where it reads
primitives, trusted values are what it expects. -/
def Delivers (trusted : Prop) (c : Catalog H) (reads : Bool) (after : List Ty) :
    Except RunError (List (Value H)) → Prop
  | .ok stack => Fits trusted c after stack
  | .error e => (∀ message, e ≠ .invalidBytecode message) ∧
      (reads = true → trusted → ∀ expected found, e ≠ .invalidCast expected found)

/-- The operation decides its jump by a value of the type on top of the stack. -/
def Opcode.Tests (op : Opcode) (c : Catalog H) (t : Ty) : Prop :=
  ∀ v stack e, jumps op (v :: stack) = .error e → (∀ message, e ≠ .invalidBytecode message) ∧
    (c.Inhabits t v → ∀ expected found, e ≠ .invalidCast expected found)

section Fits

variable {trusted : Prop} {c : Catalog H} {t : Ty} {types more : List Ty} {stack : List (Value H)}

theorem fits_cons : Fits trusted c (t :: types) stack ↔
    ∃ v rest, stack = v :: rest ∧ (trusted → c.Inhabits t v) ∧ Fits trusted c types rest := by
  constructor
  · rintro (_ | ⟨first, rest⟩)
    exact ⟨_, _, rfl, first, rest⟩
  · rintro ⟨v, rest, rfl, first, later⟩
    exact .cons first later

theorem fits_append : Fits trusted c (types ++ more) stack ↔
    ∃ values rest, stack = values ++ rest ∧ Fits trusted c types values ∧ Fits trusted c more rest := by
  constructor
  · intro fits
    induction types generalizing stack with
    | nil => exact ⟨[], stack, rfl, .nil, fits⟩
    | cons t types ih =>
      obtain ⟨v, rest, rfl, first, later⟩ := fits_cons.mp fits
      obtain ⟨values, rest, rfl, fits, fits'⟩ := ih later
      exact ⟨v :: values, rest, rfl, .cons first fits, fits'⟩
  · rintro ⟨values, rest, rfl, first, second⟩
    exact List.rel_append first second

end Fits

/-- The result of an operation on operands: where they are of their types, so is the result, and no error says
that they are not. -/
def Outcome {α : Type} (typed : Prop) (good : α → Prop) : Except RunError α → Prop
  | .ok a => typed → good a
  | .error e => (∀ message, e ≠ .invalidBytecode message) ∧
      (typed → ∀ expected found, e ≠ .invalidCast expected found)

/-- A primitive of the kind, or null where one is missing. -/
def Value.Holds (kind : Kind) (v : Value H) : Prop := v.isNull = true ∨ v.kind? = some kind

/-- The operand is read as a primitive of the kind. -/
def Extracts {α : Type} (kind : Kind) (read : Value H → Except RunError α) : Prop :=
  ∀ v, Outcome (v.Holds kind) (fun _ => True) (read v)

section Operators

@[simp] theorem operandError_ne (what : String) (v : Value H) (message : String) :
    operandError what v ≠ .invalidBytecode message := by
  unfold operandError
  split <;> simp

theorem extracts_bool : Extracts .bool (asBool (H := H)) := by
  intro v
  cases v <;> simp [Outcome, asBool, Value.asBool?, operandError, Value.Holds, Value.isNull, Value.kind?]

theorem extracts_int : Extracts .int (asInt (H := H)) := by
  intro v
  cases v <;> simp [Outcome, asInt, Value.asInt?, operandError, Value.Holds, Value.isNull, Value.kind?]

theorem extracts_long : Extracts .long (asLong (H := H)) := by
  intro v
  cases v <;> simp [Outcome, asLong, Value.asLong?, operandError, Value.Holds, Value.isNull, Value.kind?]

theorem extracts_float : Extracts .float (asFloat (H := H)) := by
  intro v
  cases v <;> simp [Outcome, asFloat, Value.asFloat?, operandError, Value.Holds, Value.isNull, Value.kind?]

theorem extracts_double : Extracts .double (asDouble (H := H)) := by
  intro v
  cases v <;> simp [Outcome, asDouble, Value.asDouble?, operandError, Value.Holds, Value.isNull, Value.kind?]

variable {α β : Type} {kind : Kind} {read : Value H → Except RunError α} {good : β → Prop} {a b : Value H}

omit [HostObject H] in
theorem Outcome.bind {typed : Prop} {x : Except RunError α} {f : α → Except RunError β}
    (first : Outcome typed (fun _ => True) x) (second : ∀ a, Outcome typed good (f a)) :
    Outcome typed good (x >>= f) := by
  cases x with
  | error e => exact first
  | ok a => exact second a

omit [HostObject H] in
theorem Outcome.imp {typed typed' : Prop} {good' : β → Prop} {x : Except RunError β}
    (outcome : Outcome typed good x) (stronger : typed' → typed) (weaker : ∀ a, good a → good' a) :
    Outcome typed' good' x := by
  cases x with
  | error e => exact ⟨outcome.1, fun isTyped => outcome.2 (stronger isTyped)⟩
  | ok a => exact fun isTyped => weaker a (outcome (stronger isTyped))

omit [HostObject H] in
theorem Extracts.two (extracts : Extracts kind read) {f : α → α → Except RunError β}
    (results : ∀ x y, Outcome True good (f x y)) :
    Outcome (a.Holds kind ∧ b.Holds kind) good (read a >>= fun x => read b >>= f x) := by
  refine ((extracts a).imp And.left fun _ => id).bind fun x => ?_
  exact ((extracts b).imp And.right fun _ => id).bind fun y => (results x y).imp (fun _ => trivial) fun _ => id

omit [HostObject H] in
theorem outcome_ok {a : β} (isGood : good a) : Outcome True good (.ok a) := fun _ => isGood

omit [HostObject H] in
theorem Outcome.map {typed : Prop} {x : Except RunError α} {f : α → β}
    (outcome : Outcome typed (fun _ => True) x) (isGood : ∀ a, good (f a)) : Outcome typed good (x.map f) := by
  cases x with
  | error e => exact outcome
  | ok a => exact fun _ => isGood a

omit [HostObject H] in
theorem divInt_outcome (x y : Int32) : Outcome True (fun _ => True) (divInt x y) := by
  unfold divInt
  split <;> simp [Outcome]

omit [HostObject H] in
theorem modInt_outcome (x y : Int32) : Outcome True (fun _ => True) (modInt x y) := by
  unfold modInt
  split <;> simp [Outcome]

omit [HostObject H] in
theorem divLong_outcome (x y : Int64) : Outcome True (fun _ => True) (divLong x y) := by
  unfold divLong
  split <;> simp [Outcome]

omit [HostObject H] in
theorem modLong_outcome (x y : Int64) : Outcome True (fun _ => True) (modLong x y) := by
  unfold modLong
  split <;> simp [Outcome]

omit [HostObject H] in
theorem powLong_outcome (x y : Int64) : Outcome True (fun _ => True) (powLong x y) := by
  unfold powLong
  repeat' split
  all_goals simp [Outcome]

omit [HostObject H] in
theorem arithmeticOp?_reads {op : ArithmeticOp} {o : Opcode} (found : arithmeticOp? op kind = some o) :
    o.readsPrimitives = true := by
  cases op <;> cases kind <;> cases found <;> rfl

omit [HostObject H] in
theorem negationOp?_reads {o : Opcode} (found : negationOp? kind = some o) : o.readsPrimitives = true := by
  cases kind <;> cases found <;> rfl

omit [HostObject H] in
theorem relationalOp?_reads {op : RelationalOp} {o : Opcode} (found : relationalOp? op kind = some o) :
    o.readsPrimitives = true := by
  cases op <;> cases kind <;> cases found <;> rfl

omit [HostObject H] in
theorem wideningOp?_reads {target : Kind} {o : Opcode} (found : kind.wideningOp? target = some o) :
    o.readsPrimitives = true := by
  cases kind <;> cases target <;> cases found <;> rfl

omit [HostObject H] in
theorem ne_of_reads {o : Opcode} (reads : o.readsPrimitives = true) : o ≠ .return ∧ o ≠ .index := by
  constructor <;> rintro rfl <;> cases reads

theorem tests_truth {op : Opcode} (isTest : op = .jumpIfFalse ∨ op = .jumpIfTrue) (c : Catalog H) :
    op.Tests c .boolean := by
  intro v stack e h
  have isError : asBool v = .error e := by
    rcases isTest with rfl | rfl
    · exact map_error ((bind_pure_map (asBool v) _).symm.trans h)
    · exact h
  have outcome := extracts_bool v
  rw [isError] at outcome
  exact ⟨outcome.1, fun inhabits => outcome.2 (.inr (inhabits_primitive.mp inhabits))⟩

theorem tests_null {op : Opcode} (isTest : op = .jumpIfNull ∨ op = .jumpIfNotNull) (c : Catalog H) (t : Ty) :
    op.Tests c t := by
  intro v stack e h
  rcases isTest with rfl | rfl <;> cases h

theorem arithmetic_outcome {op : ArithmeticOp} {o : Opcode} (found : arithmeticOp? op kind = some o) :
    Outcome (a.Holds kind ∧ b.Holds kind) (fun v : Value H => v.kind? = some kind)
      (arithmetic op kind a b) := by
  cases kind with
  | bool => cases op <;> cases found
  | int =>
    refine extracts_int.two fun x y => ?_
    cases op with
    | add | sub | mul => exact outcome_ok rfl
    | div => exact (divInt_outcome x y).map fun _ => rfl
    | mod => exact (modInt_outcome x y).map fun _ => rfl
    | pow => cases found
  | long =>
    refine extracts_long.two fun x y => ?_
    cases op with
    | add | sub | mul => exact outcome_ok rfl
    | div => exact (divLong_outcome x y).map fun _ => rfl
    | mod => exact (modLong_outcome x y).map fun _ => rfl
    | pow => exact (powLong_outcome x y).map fun _ => rfl
  | float =>
    refine extracts_float.two fun x y => ?_
    cases op with
    | add | sub | mul | div | mod => exact outcome_ok rfl
    | pow => cases found
  | double =>
    refine extracts_double.two fun x y => ?_
    cases op <;> exact outcome_ok rfl

theorem negate_outcome {o : Opcode} (found : negationOp? kind = some o) :
    Outcome (a.Holds kind) (fun v : Value H => v.kind? = some kind) (negate kind a) := by
  cases kind with
  | bool => cases found
  | int => exact (extracts_int a).map fun _ => rfl
  | long => exact (extracts_long a).map fun _ => rfl
  | float => exact (extracts_float a).map fun _ => rfl
  | double => exact (extracts_double a).map fun _ => rfl

theorem order_outcome {op : RelationalOp} {o : Opcode} (found : relationalOp? op kind = some o) :
    Outcome (a.Holds kind ∧ b.Holds kind) (fun v : Value H => v.kind? = some .bool)
      (order op kind a b) := by
  cases kind with
  | bool => cases op <;> cases found
  | int => exact extracts_int.two fun x y => outcome_ok rfl
  | long => exact extracts_long.two fun x y => outcome_ok rfl
  | float => exact extracts_float.two fun x y => outcome_ok rfl
  | double => exact extracts_double.two fun x y => outcome_ok rfl

theorem widen_outcome {target : Kind} {o : Opcode} (found : kind.wideningOp? target = some o) :
    Outcome (a.Holds kind) (fun v : Value H => v.kind? = some target) (widen kind target a) := by
  cases kind with
  | bool => cases target <;> cases found
  | int => cases target <;> first | exact (extracts_int a).map fun _ => rfl | cases found
  | long => cases target <;> first | exact (extracts_long a).map fun _ => rfl | cases found
  | float => cases target <;> first | exact (extracts_float a).map fun _ => rfl | cases found
  | double => cases target <;> cases found

end Operators

theorem Delivers.push {trusted : Prop} {c : Catalog H} {reads : Bool} {typed : Prop} {u : Ty} {types : List Ty}
    {result : Except RunError (Value H)} {rest : List (Value H)} (outcome : Outcome typed (c.Inhabits u) result)
    (isTyped : trusted → typed) (fits : Fits trusted c types rest) :
    Delivers trusted c reads (u :: types) (result.map (· :: rest)) := by
  cases result with
  | error e => exact ⟨outcome.1, fun _ isTrusted => outcome.2 (isTyped isTrusted)⟩
  | ok v => exact .cons (fun isTrusted => outcome (isTyped isTrusted)) fits

theorem Delivers.fail {trusted : Prop} {c : Catalog H} {reads : Bool} {after : List Ty} {e : RunError}
    (plain : reads = false) (other : ∀ message, e ≠ .invalidBytecode message) :
    Delivers trusted c reads after (.error e) := by
  refine ⟨other, fun isReading => ?_⟩
  rw [plain] at isReading
  cases isReading

theorem Code.callsFrom_length (offset : Nat) (code : Code) :
    (code.callsFrom offset).length = code.calls.length := by
  rw [← Code.callsFrom_snd offset, List.length_map]

namespace Transfers

variable {p : Program H} {env : Environment H} {trusted : Prop} {sites more : List (Method H × Ty)}
  {before middle after types : List Ty} {line : Nat}

theorem nil : Transfers p env trusted [] types [] types :=
  ⟨rfl, fun _ _ _ fits => .nil fits⟩

theorem append {a b : Code} (first : Transfers p env trusted sites before a middle)
    (second : Transfers p env trusted more middle b after) :
    Transfers p env trusted (sites ++ more) before (a ++ b) after := by
  refine ⟨by simp [first.calls, second.calls], fun offset stack honest fits => ?_⟩
  have aligned : ((a.callsFrom offset).map Prod.fst).length = sites.length := by
    rw [List.length_map, Code.callsFrom_length, first.calls]
  rw [Code.callsFrom_append, List.map_append, List.zip_append aligned, List.forall_mem_append] at honest
  exact (first.runs offset stack honest.1 fits).append fun stack' fits' => second.runs _ stack' honest.2 fits'

theorem mono {code : Code} {before' after' : List Ty}
    (transfers : Transfers p env trusted sites before code after)
    (first : ∀ stack, Fits trusted p.catalog before' stack → Fits trusted p.catalog before stack)
    (last : ∀ stack, Fits trusted p.catalog after stack → Fits trusted p.catalog after' stack) :
    Transfers p env trusted sites before' code after' :=
  ⟨transfers.calls, fun offset stack honest fits =>
    (transfers.runs offset stack honest (first stack fits)).mono last fun _ => id⟩

theorem ofSites {code : Code} (transfers : Transfers p env trusted sites before code after)
    (same : sites = more) : Transfers p env trusted more before code after := same ▸ transfers

theorem instr {i : Instr} {r : List (Value H) → Except RunError (List (Value H))} (noCall : i.isCall = false)
    (goesOn : i ≠ .bare .return)
    (position : i.op = .index → ∀ v rest, Fits trusted p.catalog before (v :: rest) → trusted →
      ∀ expected found, asInt v ≠ .error (.invalidCast expected found))
    (stepped : ∀ offset stack, step p env i ⟨stack, offset⟩ =
      (r stack).map fun stack' => ⟨stack', offset + i.size⟩)
    (delivers : ∀ stack, Fits trusted p.catalog before stack →
      Delivers trusted p.catalog i.op.readsPrimitives after (r stack)) :
    Transfers p env trusted [] before [(line, i)] after := by
  refine ⟨by simp [Code.calls, noCall], fun offset stack _ fits => ?_⟩
  have delivered := delivers stack fits
  have failed {e : RunError} (h : step p env i ⟨stack, offset⟩ = .error e) : r stack = .error e :=
    map_error (stepped offset stack ▸ h)
  refine .instr goesOn (fun isTrusted expected found => ⟨fun reads h => ?_, fun isIndex v rest same => ?_⟩)
    (fun e h message same => ?_) fun s h => ?_
  · rw [failed h] at delivered
    exact delivered.2 reads isTrusted expected found rfl
  · exact position isIndex v rest (same ▸ fits) isTrusted expected found
  · rw [failed h] at delivered
    exact absurd same (delivered.1 message)
  · rw [stepped] at h
    obtain ⟨stack', outcome, rfl⟩ := map_ok h
    rw [outcome] at delivered
    exact ⟨delivered, rfl⟩

theorem bare {op : Opcode} (goesOn : op ≠ .return) (notIndex : op ≠ .index)
    (delivers : ∀ stack, Fits trusted p.catalog before stack →
      Delivers trusted p.catalog op.readsPrimitives after (runBare env op stack)) :
    Transfers p env trusted [] before (Code.ofOps line [op]) after := by
  refine instr rfl (by simpa using goesOn) (fun isIndex => absurd isIndex notIndex)
    (fun offset stack => ?_) delivers
  simp only [step]
  cases runBare env op stack <;> rfl

theorem wide {op : Opcode} {n : UInt16} (notJump : isJump op = false) (notIndex : op ≠ .index)
    (delivers : ∀ stack, Fits trusted p.catalog before stack →
      Delivers trusted p.catalog op.readsPrimitives after (runWide p env op n.toNat stack)) :
    Transfers p env trusted [] before [(line, .wide op n)] after := by
  refine instr rfl (by simp) (fun isIndex => absurd isIndex notIndex) (fun offset stack => ?_) delivers
  simp only [step, notJump, Bool.false_eq_true, if_false]
  cases runWide p env op n.toNat stack <;> rfl

theorem reads_jump {op : Opcode} {n : UInt16} {t : Ty} {v : Value H} {rest : List (Value H)} {offset : Nat}
    (isJump : isJump op = true) (tests : op.Tests p.catalog t) (inhabits : p.catalog.Inhabits t v) :
    Reads p env (.wide op n) ⟨v :: rest, offset⟩ := by
  intro expected found
  refine ⟨fun _ h => ?_, fun isIndex => ?_⟩
  · rw [Runs.jump_step isJump] at h
    exact (tests v rest _ (map_error h)).2 inhabits expected found rfl
  · cases isIndex
    cases isJump

theorem skip {op : Opcode} {n : UInt16} {body : Code} {t u : Ty} (isJump : isJump op = true)
    (size : n.toNat = body.size) (tests : op.Tests p.catalog t)
    (taken : trusted → ∀ v stack, jumps op (v :: stack) = .ok true → p.catalog.Inhabits t v →
      p.catalog.Inhabits u v)
    (passed : Transfers p env trusted sites (t :: types) body (u :: types)) :
    Transfers p env trusted sites (t :: types) ((line, .wide op n) :: body) (u :: types) := by
  refine ⟨passed.calls, fun offset stack honest fits => ?_⟩
  obtain ⟨v, rest, rfl, inhabits, fitsRest⟩ := fits_cons.mp fits
  refine .skip isJump size (fun isTrusted => reads_jump isJump tests (inhabits isTrusted)) ?_ ?_ fun _ => ?_
  · exact fun e h message same => absurd same ((tests v rest e h).1 message)
  · exact fun h => .cons (fun isTrusted => taken isTrusted v rest h (inhabits isTrusted)) fitsRest
  · exact passed.runs _ _ honest fits

theorem branch {op : Opcode} {n past : UInt16} {first second : Code} {t : Ty} (isJump : isJump op = true)
    (size : n.toNat = first.size + 3) (pastSize : past.toNat = second.size) (tests : op.Tests p.catalog t)
    (passed : Transfers p env trusted sites (t :: types) first after)
    (taken : Transfers p env trusted more (t :: types) second after) :
    Transfers p env trusted (sites ++ more) (t :: types)
      ((line, .wide op n) :: (first ++ (line, .wide .jump past) :: second)) after := by
  refine ⟨by simp [passed.calls, taken.calls], fun offset stack honest fits => ?_⟩
  obtain ⟨v, rest, rfl, inhabits, _⟩ := fits_cons.mp fits
  -- The sites of the two pieces are told apart by the number of calls in the first one.
  have aligned : ((first.callsFrom (offset + 3)).map Prod.fst).length = sites.length := by
    rw [List.length_map, Code.callsFrom_length, passed.calls]
  have calls : Code.callsFrom offset ((line, .wide op n) :: (first ++ (line, .wide .jump past) :: second)) =
      first.callsFrom (offset + 3) ++ second.callsFrom (offset + 3 + first.size + 3) :=
    Code.callsFrom_append (offset + 3) first ((line, .wide .jump past) :: second)
  rw [calls, List.map_append, List.zip_append aligned, List.forall_mem_append] at honest
  refine .branch isJump size pastSize (fun isTrusted => reads_jump isJump tests (inhabits isTrusted)) ?_ ?_
    (fun _ => taken.runs _ _ honest.2 fits) fun _ => passed.runs _ _ honest.1 fits
  · exact fun s _ => reads_of_plain rfl (by simp [Instr.op])
  · exact fun e h message same => absurd same ((tests v rest e h).1 message)

section Operations

variable {kind : Kind} {o : Opcode} {t u : Ty}

theorem unary {Q : Value H → Prop} {f : Value H → Except RunError (Value H)} (goesOn : o ≠ .return)
    (notIndex : o ≠ .index) (computed : ∀ v rest, runBare env o (v :: rest) = (f v).map (· :: rest))
    (outcome : ∀ v, Outcome (Q v) (p.catalog.Inhabits u) (f v))
    (isTyped : ∀ v, p.catalog.Inhabits t v → Q v) :
    Transfers p env trusted [] (t :: types) (Code.ofOps line [o]) (u :: types) := by
  refine bare goesOn notIndex fun stack fits => ?_
  obtain ⟨v, rest, rfl, inhabits, fits⟩ := fits_cons.mp fits
  rw [computed]
  exact .push (outcome v) (fun isTrusted => isTyped v (inhabits isTrusted)) fits

theorem binary {t' : Ty} {Q : Value H → Value H → Prop} {f : Value H → Value H → Except RunError (Value H)}
    (goesOn : o ≠ .return) (notIndex : o ≠ .index)
    (computed : ∀ a b rest, runBare env o (b :: a :: rest) = (f a b).map (· :: rest))
    (outcome : ∀ a b, Outcome (Q a b) (p.catalog.Inhabits u) (f a b))
    (isTyped : ∀ a b, p.catalog.Inhabits t a → p.catalog.Inhabits t' b → Q a b) :
    Transfers p env trusted [] (t' :: t :: types) (Code.ofOps line [o]) (u :: types) := by
  refine bare goesOn notIndex fun stack fits => ?_
  obtain ⟨b, _, rfl, inhabits', fits⟩ := fits_cons.mp fits
  obtain ⟨a, rest, rfl, inhabits, fits⟩ := fits_cons.mp fits
  rw [computed]
  exact .push (outcome a b) (fun isTrusted => isTyped a b (inhabits isTrusted) (inhabits' isTrusted)) fits

theorem holds_of_inhabits {c : Catalog H} (isKind : t.kind? = some kind) {v : Value H}
    (inhabits : c.Inhabits t v) : v.Holds kind := by
  cases t with
  | primitive k =>
    cases isKind
    exact .inr (inhabits_primitive.mp inhabits)
  | boxed k =>
    cases isKind
    exact inhabits_boxed.mp inhabits
  | _ => cases isKind

theorem arithmetic {op : ArithmeticOp} (found : arithmeticOp? op kind = some o) :
    Transfers p env trusted [] (.primitive kind :: .primitive kind :: types) (Code.ofOps line [o])
      (.primitive kind :: types) := by
  obtain ⟨goesOn, notIndex⟩ := ne_of_reads (arithmeticOp?_reads found)
  refine binary goesOn notIndex (fun _ _ _ => runBare_arithmetic found)
    (fun _ _ => (arithmetic_outcome found).imp id fun _ => inhabits_primitive.mpr) fun a b left right => ?_
  exact ⟨holds_of_inhabits rfl left, holds_of_inhabits rfl right⟩

theorem relation {op : RelationalOp} (found : relationalOp? op kind = some o) (isKind : t.kind? = some kind) :
    Transfers p env trusted [] (.primitive kind :: t :: types) (Code.ofOps line [o]) (.boolean :: types) := by
  obtain ⟨goesOn, notIndex⟩ := ne_of_reads (relationalOp?_reads found)
  refine binary goesOn notIndex (fun _ _ _ => runBare_relation found)
    (fun _ _ => (order_outcome found).imp id fun _ => inhabits_primitive.mpr) fun a b left right => ?_
  exact ⟨holds_of_inhabits isKind left, holds_of_inhabits rfl right⟩

theorem negation (found : negationOp? kind = some o) :
    Transfers p env trusted [] (.primitive kind :: types) (Code.ofOps line [o]) (.primitive kind :: types) := by
  obtain ⟨goesOn, notIndex⟩ := ne_of_reads (negationOp?_reads found)
  exact unary goesOn notIndex (fun _ _ => runBare_negation found)
    (fun _ => (negate_outcome found).imp id fun _ => inhabits_primitive.mpr) fun _ => holds_of_inhabits rfl

theorem widening {target : Kind} (found : kind.wideningOp? target = some o) :
    Transfers p env trusted [] (.primitive kind :: types) (Code.ofOps line [o]) (.primitive target :: types) := by
  obtain ⟨goesOn, notIndex⟩ := ne_of_reads (wideningOp?_reads found)
  exact unary goesOn notIndex (fun _ _ => runBare_widening found)
    (fun _ => (widen_outcome found).imp id fun _ => inhabits_primitive.mpr) fun _ => holds_of_inhabits rfl

theorem unbox : Transfers p env trusted [] (.boxed kind :: types) (Code.ofOps line [.unbox])
    (.primitive kind :: types) := by
  refine unary (by simp) (by simp) (fun _ _ => runBare_unbox) (fun v => ?_)
    (Q := p.catalog.Inhabits (.boxed kind)) fun _ => id
  cases v with
  | null => exact ⟨by simp, by simp⟩
  | _ =>
    intro inhabits
    exact inhabits_primitive.mpr ((inhabits_boxed.mp inhabits).resolve_left (by simp [Value.isNull]))

theorem not : Transfers p env trusted [] (.boolean :: types) (Code.ofOps line [.not]) (.boolean :: types) := by
  refine unary (by simp) (by simp) (fun _ _ => unary_cons _ _) (fun v => ?_) fun _ => holds_of_inhabits rfl
  exact (extracts_bool v).map fun b => inhabits_primitive.mpr rfl

theorem isEmpty : Transfers p env trusted [] (t :: types) (Code.ofOps line [.isEmpty]) (.boolean :: types) :=
  unary (by simp) (by simp) (fun _ _ => unary_cons _ _) (Q := fun _ => True)
    (fun _ _ => inhabits_primitive.mpr rfl) fun _ _ => trivial

theorem equals {t' : Ty} :
    Transfers p env trusted [] (t' :: t :: types) (Code.ofOps line [.eqValue]) (.boolean :: types) :=
  binary (by simp) (by simp) (fun _ _ _ => binaryM_cons _ _) (Q := fun _ _ => True)
    (fun _ _ _ => inhabits_primitive.mpr rfl) fun _ _ _ _ => trivial

theorem pop : Transfers p env trusted [] (t :: types) (Code.ofOps line [.pop]) types := by
  refine bare (by simp) (by simp) fun stack fits => ?_
  obtain ⟨v, rest, rfl, _, fits⟩ := fits_cons.mp fits
  exact fits

theorem swap {t' : Ty} :
    Transfers p env trusted [] (t' :: t :: types) (Code.ofOps line [.swap]) (t :: t' :: types) := by
  refine bare (by simp) (by simp) fun stack fits => ?_
  obtain ⟨b, _, rfl, inhabits', fits⟩ := fits_cons.mp fits
  obtain ⟨a, rest, rfl, inhabits, fits⟩ := fits_cons.mp fits
  exact .cons inhabits (.cons inhabits' fits)

theorem push {v : Value H} (goesOn : o ≠ .return) (notIndex : o ≠ .index)
    (computed : ∀ stack, runBare env o stack = .ok (v :: stack)) (inhabits : p.catalog.Inhabits u v) :
    Transfers p env trusted [] types (Code.ofOps line [o]) (u :: types) := by
  refine bare goesOn notIndex fun stack fits => ?_
  rw [computed]
  exact .cons (fun _ => inhabits) fits

theorem literal {v : Literal} {i : Instr} (loads : p.tables.Loads v i) :
    Transfers p env trusted [] types [(line, i)] (v.type :: types) := by
  have inhabits : p.catalog.Inhabits v.type (v.value : Value H) := by
    cases v with
    | string s => exact inhabits_string s
    | null => rfl
    | _ => exact inhabits_primitive.mpr rfl
  cases loads with
  | bool b => cases b <;> exact push (by simp) (by simp) (fun _ => rfl) inhabits
  | zero | one | null => exact push (by simp) (by simp) (fun _ => rfl) inhabits
  | narrow entry same =>
    refine instr rfl (by simp) (by simp [Instr.op]) (fun _ stack => ?_) (r := fun stack => .ok (v.value :: stack))
      fun stack fits => .cons (fun _ => inhabits) fits
    simp only [step, runNarrow, constantValue, entry, Option.bind_some, same]
    rfl
  | wide entry same =>
    refine Transfers.wide rfl (by simp) fun stack fits => ?_
    simp only [runWide, constantValue, entry, Option.bind_some, same]
    exact .cons (fun _ => inhabits) fits

theorem coercion {source target : Kind} (number : t.numericKind? = some source)
    (widens : source.widensTo target = true) :
    Transfers p env trusted [] (t :: types) (Code.ofOps line (t.coercionCode target))
      (.primitive target :: types) := by
  obtain ⟨kind?, isNumeric⟩ := Option.filter_eq_some_iff.mp number
  have widened : Transfers p env trusted [] (.primitive source :: types)
      (Code.ofOps line (source.wideningOp? target).toList) (.primitive target :: types) := by
    by_cases same : source = target
    · subst same
      have none : source.wideningOp? source = .none := by cases source <;> rfl
      rw [none]
      exact nil
    · obtain ⟨o, found⟩ := wideningOp?_of_widensTo same (Bool.and_eq_true_iff.mpr ⟨isNumeric, widens⟩)
      rw [found]
      exact widening found
  unfold Ty.coercionCode
  rw [number, Code.ofOps_append]
  cases t with
  | primitive k =>
    cases kind?
    exact nil.append widened
  | boxed k =>
    cases kind?
    exact unbox.append widened
  | _ => cases kind?

theorem condition {code : Code} (isKind : t.kind? = some kind)
    (transfers : Transfers p env trusted sites before code (t :: types)) :
    Transfers p env trusted sites before (Generation.condition line code t.isBoxed)
      (.primitive kind :: types) := by
  unfold Generation.condition
  cases t with
  | primitive k =>
    cases isKind
    exact transfers
  | boxed k =>
    cases isKind
    exact (transfers.append unbox).ofSites (List.append_nil _)
  | _ => cases isKind

theorem pass (below : trusted → ∀ v, p.catalog.Inhabits t v → p.catalog.Inhabits u v) :
    Transfers p env trusted [] (t :: types) [] (u :: types) := by
  refine nil.mono (fun _ => id) fun stack fits => ?_
  obtain ⟨v, rest, rfl, inhabits, fits⟩ := fits_cons.mp fits
  exact .cons (fun isTrusted => below isTrusted v (inhabits isTrusted)) fits

theorem conversion {conv : Conversion} (converts : p.catalog.Converts t u conv)
    (keeps : trusted → conv.code = [] → ∀ v, p.catalog.Inhabits t v → p.catalog.Inhabits u v) :
    Transfers p env trusted [] (t :: types) (Code.ofOps line conv.code) (u :: types) := by
  cases converts with
  | identity | nullToReference | upcast | boxing => exact pass fun isTrusted => keeps isTrusted rfl
  | unboxing => exact unbox
  | widening found =>
    simp only [Conversion.code, found]
    exact widening found
  | unboxAndWiden found =>
    simp only [Conversion.code, found]
    exact unbox.append (widening found)

theorem anyType {code : Code} (transfers : Transfers p env trusted sites before code (t :: types)) :
    Transfers p env trusted sites before code (.void :: types) := by
  refine transfers.mono (fun _ => id) fun stack fits => ?_
  obtain ⟨v, rest, rfl, _, fits⟩ := fits_cons.mp fits
  exact .cons (fun _ => trivial) fits

/-- Whatever it is converted to, a value stays a value. -/
theorem conversion_any {conv : Conversion} (converts : p.catalog.Converts t u conv) :
    Transfers p env trusted [] (t :: types) (Code.ofOps line conv.code) (.void :: types) := by
  by_cases noCode : conv.code = []
  · rw [noCode]
    exact pass fun _ _ _ => trivial
  · exact (conversion converts fun _ none => absurd none noCode).anyType

theorem instanceOf {n : UInt16} {type : Ty} (entry : p.tables.Names n type) :
    Transfers p env trusted [] (t :: types) [(line, .wide .instanceOf n)] (.boolean :: types) := by
  refine wide rfl (by simp) fun stack fits => ?_
  obtain ⟨v, rest, rfl, _, fits⟩ := fits_cons.mp fits
  simp only [runWide, constantType_of_names entry, ok_bind]
  exact .cons (fun _ => inhabits_primitive.mpr rfl) fits

theorem «matches» {n : UInt16} {pattern : Pattern} (entry : p.tables.patterns[n.toNat]? = some pattern) :
    Transfers p env trusted [] (t :: types) [(line, .wide .matches n)] (.boolean :: types) := by
  refine wide rfl (by simp) fun stack fits => ?_
  obtain ⟨v, rest, rfl, _, fitsRest⟩ := fits_cons.mp fits
  simp only [runWide, patternAt, entry, ok_bind]
  cases v with
  | null | string => exact .cons (fun _ => inhabits_primitive.mpr rfl) fitsRest
  | _ => exact .fail rfl (by simp)

theorem check {code : Code} (lawful : trusted → p.catalog.Ordered ∧ ∃ names, p.catalog.Distinct names)
    (checks : p.tables.Checks line u code) : Transfers p env trusted [] (t :: types) code (u :: types) := by
  cases checks with
  | object isObject => exact pass fun _ v _ => inhabits_object v isObject
  | cast other entry =>
    refine wide rfl (by simp) fun stack fits => ?_
    obtain ⟨v, rest, rfl, _, fits⟩ := fits_cons.mp fits
    simp only [runWide, constantType_of_names entry, top, ok_bind]
    cases outcome : checkCast p.catalog u v with
    | ok =>
      refine .cons (fun isTrusted => ?_) fits
      obtain ⟨ordered, names, distinct⟩ := lawful isTrusted
      exact inhabits_of_checkCast ordered distinct outcome
    | error e =>
      refine .fail rfl fun message same => ?_
      unfold checkCast at outcome
      split at outcome
      · split at outcome <;> cases outcome
        cases same
      · split at outcome <;> cases outcome
        cases same

theorem getArgument {n : UInt16} :
    Transfers p env trusted [] types [(line, .wide .getArgument n)] (.void :: types) := by
  refine wide rfl (by simp) fun stack fits => ?_
  simp only [runWide]
  cases env.argument n.toNat with
  | none => exact .fail rfl (by simp)
  | some v => exact .cons (fun _ => trivial) fits

theorem getThis : Transfers p env trusted [] types (Code.ofOps line [.getThis]) (.void :: types) := by
  refine bare (by simp) (by simp) fun stack fits => ?_
  rw [runBare_getThis]
  cases env.this with
  | none => exact .fail rfl (by simp)
  | some v => exact .cons (fun _ => trivial) fits

theorem getBean {n : UInt16} (beans : trusted → ∀ v, env.bean t = some v → p.catalog.Inhabits t v)
    (entry : p.tables.Names n t) : Transfers p env trusted [] types [(line, .wide .getBean n)] (t :: types) := by
  refine wide rfl (by simp) fun stack fits => ?_
  simp only [runWide, constantType_of_names entry, ok_bind]
  cases found : env.bean t with
  | none => exact .fail rfl (by simp)
  | some v => exact .cons (fun isTrusted => beans isTrusted v found) fits

theorem getEnv : Transfers p env trusted [] (t :: types) (Code.ofOps line [.getEnv]) (.string :: types) := by
  refine bare (by simp) (by simp) fun stack fits => ?_
  obtain ⟨v, rest, rfl, _, fitsRest⟩ := fits_cons.mp fits
  rw [runBare_getEnv]
  cases v with
  | string key =>
    refine .cons (fun _ => ?_) fitsRest
    show p.catalog.Inhabits .string ((env.property key).elim .null .string)
    cases env.property key with
    | none => exact .inl rfl
    | some text => exact inhabits_string text
  | _ => exact .fail rfl (by simp)

/-- The item of an array or a list; the position is read as an `int`. -/
theorem index (items : trusted → ∀ target position v, p.catalog.Inhabits t target → item target position = .ok v →
      p.catalog.Inhabits u v) :
    Transfers p env trusted [] (.int :: t :: types) (Code.ofOps line [.index]) (u :: types) := by
  have reads (v : Value H) := extracts_int v
  refine instr rfl (by simp) (fun _ v rest fits isTrusted expected found h => ?_) (fun _ stack => ?_)
    (r := runBare env .index) fun stack fits => ?_
  · obtain ⟨_, _, same, isInt, _⟩ := fits_cons.mp fits
    cases same
    have outcome := reads v
    rw [h] at outcome
    exact outcome.2 (holds_of_inhabits rfl (isInt isTrusted)) expected found rfl
  · simp only [step]
    cases runBare env .index stack <;> rfl
  · obtain ⟨position, _, rfl, isInt, fits⟩ := fits_cons.mp fits
    obtain ⟨target, rest, rfl, inhabits, fits⟩ := fits_cons.mp fits
    have outcome := reads position
    rw [runBare_index]
    cases isRead : asInt position with
    | error e =>
      rw [isRead] at outcome
      exact .fail rfl outcome.1
    | ok n =>
      simp only [ok_bind]
      cases found : item target n with
      | error e =>
        refine .fail rfl fun message same => ?_
        subst same
        unfold item at found
        repeat' split at found
        all_goals cases found
      | ok v => exact .cons (fun isTrusted => items isTrusted target n v (inhabits isTrusted) found) fits

theorem mapGet {t' : Ty} :
    Transfers p env trusted [] (t' :: t :: types) (Code.ofOps line [.mapGet]) (.void :: types) := by
  refine bare (by simp) (by simp) fun stack fits => ?_
  obtain ⟨key, _, rfl, _, fits⟩ := fits_cons.mp fits
  obtain ⟨target, rest, rfl, _, fitsRest⟩ := fits_cons.mp fits
  cases target with
  | map entries => exact .cons (fun _ => trivial) fitsRest
  | _ => exact .fail rfl (by simp)

theorem arrayLength :
    Transfers p env trusted [] (t :: types) (Code.ofOps line [.arrayLength]) (.int :: types) := by
  refine bare (by simp) (by simp) fun stack fits => ?_
  obtain ⟨v, rest, rfl, _, fitsRest⟩ := fits_cons.mp fits
  cases v with
  | array items => exact .cons (fun _ => inhabits_primitive.mpr rfl) fitsRest
  | _ => exact .fail rfl (by simp)

theorem collect {op : Opcode} {n : UInt16} {taken : List Ty} {f : List (Value H) → Value H}
    (notJump : isJump op = false) (notIndex : op ≠ .index) (count : taken.length = n.toNat)
    (computed : ∀ stack, runWide p env op n.toNat stack = (takeTop n.toNat [] stack).map fun x => f x.1 :: x.2)
    (inhabits : ∀ values, p.catalog.Inhabits u (f values)) :
    Transfers p env trusted [] (taken ++ types) [(line, .wide op n)] (u :: types) := by
  refine wide notJump notIndex fun stack fits => ?_
  obtain ⟨values, rest, rfl, fitsTaken, fits⟩ := fits_append.mp fits
  have number : values.reverse.length = n.toNat := by rw [List.length_reverse, ← fitsTaken.length_eq, count]
  have taken := takeTop_pushed number rest
  rw [List.reverse_reverse] at taken
  rw [computed, taken]
  exact .cons (fun _ => inhabits _) fits

theorem concat {n : UInt16} {taken : List Ty} (count : taken.length = n.toNat) :
    Transfers p env trusted [] (taken ++ types) [(line, .wide .concat n)] (.string :: types) := by
  refine collect rfl (by simp) count (fun stack => ?_)
    (f := fun values => .string (String.join (values.map Value.text))) fun _ => inhabits_string _
  simp only [runWide]
  cases takeTop n.toNat [] stack <;> rfl

theorem newArray {n : UInt16} {taken : List Ty} (count : taken.length = n.toNat) :
    Transfers p env trusted [] (taken ++ types) [(line, .wide .newArray n)] (.void :: types) := by
  refine collect rfl (by simp) count (fun stack => ?_) (f := .array) fun _ => trivial
  simp only [runWide]
  cases takeTop n.toNat [] stack <;> rfl

end Operations

section Invocation

variable {f : UInt16} {n : UInt8} {m : Method H} {taken : List Ty} {t u : Ty}

theorem call {i : Instr} (isCall : i.isCall = true) (plain : i.op.readsPrimitives = false ∧ i.op ≠ .index)
    (stepped : ∀ offset stack, Fits trusted p.catalog before stack → p.chunk.instrAt? offset = some i →
      (∃ what, step p env i ⟨stack, offset⟩ = .error (.nullValue what)) ∨
      ∃ entry receiver args rest, Calls p ⟨stack, offset⟩ entry receiver args ∧
        Fits trusted p.catalog types rest ∧ step p env i ⟨stack, offset⟩ =
          (entry.native receiver args).map fun v => ⟨v :: rest, offset + i.size⟩) :
    Transfers p env trusted [(m, u)] before [(line, i)] (u :: types) := by
  refine ⟨by simp [Code.calls, isCall], fun offset stack honest fits held reached => ?_⟩
  have called : (Code.callsFrom offset [(line, i)]).map Prod.fst = [offset] := by simp [Code.callsFrom, isCall]
  rw [called] at honest
  have isHonest : trusted → Honest p env offset u := honest (offset, m, u) (by simp)
  have goesOn : i ≠ .bare .return := by
    rintro rfl
    cases isCall
  have asserted : trusted → Reads p env i ⟨stack, offset⟩ := fun _ => reads_of_plain plain.1 plain.2
  rcases stepped offset stack fits held.1 with
    ⟨what, failed⟩ | ⟨entry, receiver, args, rest, calls, fits, stepped⟩
  · exact .fail held.1 goesOn asserted failed (by simp [Excused])
  · refine .ofStep held.1 goesOn asserted (fun e h message same => ?_) fun s h => .done ?_
    · subst same
      exact ⟨_, entry, receiver, args, reached, calls, map_error (stepped ▸ h)⟩
    · rw [stepped] at h
      obtain ⟨v, outcome, rfl⟩ := map_ok h
      refine ⟨.cons (fun isTrusted => ?_) fits, by simp⟩
      exact isHonest isTrusted _ entry receiver args v reached rfl calls outcome

theorem callMethod (target : p.tables.Links f m) (count : taken.length = n.toNat) :
    Transfers p env trusted [(m, u)] (taken ++ t :: types) [(line, .call .callMethod f n)] (u :: types) := by
  obtain ⟨entry, at_f, _⟩ := target
  have found : function p f.toNat = .ok entry := by simp [function, at_f]
  refine call rfl ⟨rfl, by simp [Instr.op]⟩ fun offset stack fits here => ?_
  obtain ⟨values, _, rfl, fitsTaken, fits⟩ := fits_append.mp fits
  obtain ⟨receiver, rest, rfl, _, fits⟩ := fits_cons.mp fits
  have number : values.reverse.length = n.toNat := by rw [List.length_reverse, ← fitsTaken.length_eq, count]
  have operands : values ++ receiver :: rest = values.reverse.reverse ++ receiver :: rest := by
    rw [List.reverse_reverse]
  have stepped : step p env (.call .callMethod f n) ⟨values ++ receiver :: rest, offset⟩ = _ :=
    operands ▸ step_callMethod found number
  cases isNull : receiver.isNull with
  | true =>
    -- The machine stops before the call.
    refine .inl ⟨"receiver of " ++ entry.signature, ?_⟩
    simp only [stepped, invoke, isNull, if_true]
    rfl
  | false =>
    refine .inr ⟨entry, receiver, values.reverse, rest, ?_, fits, ?_⟩
    · exact .method here at_f operands number isNull
    · simp only [stepped, invoke, isNull, Bool.false_eq_true, if_false]
      rfl

theorem callStatic (target : p.tables.Links f m) (count : taken.length = n.toNat) :
    Transfers p env trusted [(m, u)] (taken ++ types) [(line, .call .callStatic f n)] (u :: types) := by
  obtain ⟨entry, at_f, _⟩ := target
  have found : function p f.toNat = .ok entry := by simp [function, at_f]
  refine call rfl ⟨rfl, by simp [Instr.op]⟩ fun offset stack fits here => ?_
  obtain ⟨values, rest, rfl, fitsTaken, fits⟩ := fits_append.mp fits
  have number : values.reverse.length = n.toNat := by rw [List.length_reverse, ← fitsTaken.length_eq, count]
  have operands : values ++ rest = values.reverse.reverse ++ rest := by rw [List.reverse_reverse]
  have stepped : step p env (.call .callStatic f n) ⟨values ++ rest, offset⟩ = _ :=
    operands ▸ step_callStatic found number
  exact .inr ⟨entry, .null, values.reverse, rest, .static here at_f operands number, fits, stepped⟩

end Invocation

end Transfers
end TypedExpr
