import Mathlib.Algebra.MvPolynomial.CommRing
import TypedExpr.Proofs.Standalone
import TypedExpr.Proofs.Totality
/-!
# Polynomials in whole numbers

A tree of sums, differences, products and negations over literals and parameters of one kind of whole numbers has a
value in every ring, and ring homomorphisms carry these values over (`Expr.map_inRing`). Its value in the polynomials
over the names is the polynomial that the tree denotes; its value in the integers is exact; wrapping around commutes
with the operators. So the program of the tree gives the exact value, wrapped around once at the end, and trees with
the same polynomial have the same values (`Expr.integral_exact`).
-/

namespace TypedExpr

open Generation

variable {H : Type}

theorem Kind.isNumeric_of_isIntegral {kind : Kind} (integral : kind.isIntegral = true) : kind.isNumeric = true := by
  cases kind with
  | int | long => rfl
  | _ => cases integral

theorem Ty.numericKind?_of_isIntegral {kind : Kind} (integral : kind.isIntegral = true) :
    (Ty.primitive kind).numericKind? = some kind :=
  Option.filter_eq_some_iff.mpr ⟨rfl, Kind.isNumeric_of_isIntegral integral⟩

namespace ArithmeticOp

/-- Sums, differences and products. -/
def isRing : ArithmeticOp → Bool
  | .add | .sub | .mul => true
  | .div | .mod | .pow => false

theorem ne_pow {op : ArithmeticOp} (ring : op.isRing = true) : op ≠ .pow := by
  rintro rfl
  cases ring

/-- The operator in a ring; those that a ring does not have count as zero. -/
def inRing {R : Type} [CommRing R] : ArithmeticOp → R → R → R
  | .add, a, b => a + b
  | .sub, a, b => a - b
  | .mul, a, b => a * b
  | .div, _, _ | .mod, _, _ | .pow, _, _ => 0

theorem map_inRing {R S : Type} [CommRing R] [CommRing S] (f : R →+* S) (op : ArithmeticOp) (a b : R) :
    f (op.inRing a b) = op.inRing (f a) (f b) := by
  cases op <;> simp [inRing]

end ArithmeticOp

/-- The whole number of a literal; all others count as zero. -/
def Literal.whole : Literal → ℤ
  | .int n => n.toInt
  | .long n => n.toInt
  | _ => 0

/-- Where the argument with a name stands, if the name stands for nothing else. -/
def Scope.position? (s : Scope H) (name : String) : Option ℕ :=
  match s.elements name with
  | [.parameter _ position _] => some position
  | _ => none

/-- Operands of one kind need no common one. -/
theorem Resolution.arithmetic_of_kind {span : Span} {op : ArithmeticOp} {a b : Typed H} {kind : Kind}
    (ring : op.isRing = true) (number : (Ty.primitive kind).numericKind? = some kind)
    (left : a.type = .primitive kind) (right : b.type = .primitive kind) :
    Resolution.arithmetic span op a b = .ok (.numeric span.line op kind a b) := by
  have common : a.type.commonKind? b.type = some kind := by
    rw [left, right, Ty.commonKind?, number]
    exact congrArg some (ite_self kind)
  have noText : (a.type.isStringLike || b.type.isStringLike) = false := by
    rw [left, right]
    rfl
  unfold Resolution.arithmetic
  rw [noText, Bool.and_false, if_neg Bool.false_ne_true, common]
  simp only [if_neg (ArithmeticOp.ne_pow ring)]

namespace Expr

/-- The value in a ring, given the values of the names; forms that a ring does not have count as zero. -/
def inRing {R : Type} [CommRing R] (names : String → R) : Expr → R
  | .literal _ v => v.whole
  | .name _ n => names n
  | .arithmetic _ op l r => op.inRing (l.inRing names) (r.inRing names)
  | .negate _ e => -e.inRing names
  | _ => 0

theorem map_inRing {R S : Type} [CommRing R] [CommRing S] (f : R →+* S) (names : String → R) (e : Expr) :
    f (e.inRing names) = e.inRing (f ∘ names) := by
  fun_induction inRing names e with
  | case1 => exact map_intCast f _
  | case2 => rfl
  | case3 _ op l r left right => rw [ArithmeticOp.map_inRing, left, right, inRing]
  | case4 _ e operand => rw [map_neg, operand, inRing]
  | case5 => simp only [map_zero, inRing]

/-- The polynomial over the names that an expression denotes. -/
noncomputable def polynomial (e : Expr) : MvPolynomial String ℤ := e.inRing MvPolynomial.X

theorem eval_polynomial (names : String → ℤ) (e : Expr) : MvPolynomial.eval names e.polynomial = e.inRing names := by
  rw [polynomial, map_inRing]
  congr 1
  funext name
  exact MvPolynomial.eval_X name

/-- Trees of sums, differences, products and negations over literals and declared parameters of a kind. -/
inductive Integral (s : Scope H) (kind : Kind) : Expr → Prop where
  | literal {span : Span} {v : Literal} (ofKind : v.type = .primitive kind) : Integral s kind (.literal span v)
  | parameter {span : Span} {n declared : String} {position : ℕ}
      (only : s.elements n = [.parameter declared position (.primitive kind)]) : Integral s kind (.name span n)
  | arithmetic {span : Span} {op : ArithmeticOp} {l r : Expr} (ring : op.isRing = true) (left : Integral s kind l)
      (right : Integral s kind r) : Integral s kind (.arithmetic span op l r)
  | negate {span : Span} {e : Expr} (operand : Integral s kind e) : Integral s kind (.negate span e)

def leafCount : Expr → ℕ
  | .arithmetic _ _ l r => l.leafCount + r.leafCount
  | .negate _ e => e.leafCount
  | _ => 1

/-- Where the arguments stand that the leaves read. -/
def positions (s : Scope H) : Expr → List ℕ
  | .name _ n => (s.position? n).toList
  | .arithmetic _ _ l r => l.positions s ++ r.positions s
  | .negate _ e => e.positions s
  | _ => []

/-- What such a tree becomes when it is resolved. -/
inductive Settles (s : Scope H) (kind : Kind) : Expr → Typed H → Prop where
  | literal {span : Span} {v : Literal} (ofKind : v.type = .primitive kind) :
      Settles s kind (.literal span v) (.literal span.line v)
  | parameter {span : Span} {n declared : String} {position : ℕ}
      (only : s.elements n = [.parameter declared position (.primitive kind)]) :
      Settles s kind (.name span n) (.parameter span.line position (.primitive kind))
  | arithmetic {span : Span} {op : ArithmeticOp} {l r : Expr} {a b : Typed H} (ring : op.isRing = true)
      (left : Settles s kind l a) (right : Settles s kind r b) :
      Settles s kind (.arithmetic span op l r) (.numeric span.line op kind a b)
  | negate {span : Span} {e : Expr} {a : Typed H} (operand : Settles s kind e a) :
      Settles s kind (.negate span e) (.negate span.line kind a)

theorem Settles.type {s : Scope H} {kind : Kind} {e : Expr} {t : Typed H} (settles : e.Settles s kind t) :
    t.type = .primitive kind := by
  cases settles with
  | literal ofKind => exact ofKind
  | _ => rfl

theorem Settles.selects {s : Scope H} {kind : Kind} {e : Expr} {t : Typed H} (settles : e.Settles s kind t) :
    t.selected = [] := by
  induction settles with
  | literal | parameter =>
    rw [Typed.selected_eq]
    rfl
  | arithmetic _ _ _ left right =>
    rw [Typed.selected_eq]
    simp [left, right]
  | negate _ operand =>
    rw [Typed.selected_eq]
    simp [operand]

variable {ctx : Context H}

theorem Settles.value {kind : Kind} {e : Expr} {t : Typed H} (settles : e.Settles ctx.scope kind t)
    (resolved : (e.resolve ctx .blank).1 = .ok t) : e.value ctx = .ok t := by
  refine value_ok.mpr ⟨resolved, ?_⟩
  rw [settles.type]
  rfl

theorem Integral.settles {kind : Kind} {e : Expr} (integral : kind.isIntegral = true)
    (tree : e.Integral ctx.scope kind) :
    ∃ t, (e.resolve ctx .blank).1 = .ok t ∧ e.Settles ctx.scope kind t := by
  have number := Ty.numericKind?_of_isIntegral integral
  induction tree with
  | literal ofKind => exact ⟨_, resolve_literal, .literal ofKind⟩
  | parameter only =>
    refine ⟨_, ?_, .parameter only⟩
    rw [resolve_name, Resolution.name, only]
  | @arithmetic span op l r ring _ _ left right =>
    obtain ⟨a, resolved, settles⟩ := left
    obtain ⟨b, resolved', settles'⟩ := right
    refine ⟨_, ?_, .arithmetic ring settles settles'⟩
    rw [resolve_arithmetic, settles.value resolved, settles'.value resolved', ok_bind, ok_bind]
    exact Resolution.arithmetic_of_kind ring number settles.type settles'.type
  | negate _ operand =>
    obtain ⟨a, resolved, settles⟩ := operand
    refine ⟨_, resolve_negate (settles.value resolved) ?_, .negate settles⟩
    rw [settles.type, number]

end Expr

namespace Value

/-- The whole number of a value; all others count as zero. -/
def whole : Value H → ℤ
  | .int n => n.toInt
  | .long n => n.toInt
  | _ => 0

/-- A whole number in a kind, wrapped around. -/
def ofWhole (kind : Kind) (n : ℤ) : Value H :=
  match kind with
  | .int => .int (.ofInt n)
  | _ => .long (.ofInt n)

theorem ofWhole_whole {kind : Kind} {v : Value H} (integral : kind.isIntegral = true) (isKind : v.kind? = some kind) :
    ofWhole kind v.whole = v := by
  cases v with
  | int n =>
    cases isKind
    exact congrArg Value.int (Int32.ofInt_toInt n)
  | long n =>
    cases isKind
    exact congrArg Value.long (Int64.ofInt_toInt n)
  | bool | float | double =>
    cases isKind
    cases integral
  | _ => cases isKind

end Value

theorem Literal.value_eq_ofWhole {kind : Kind} {v : Literal} (integral : kind.isIntegral = true)
    (ofKind : v.type = .primitive kind) : (v.value : Value H) = .ofWhole kind v.whole := by
  cases v with
  | int n =>
    cases ofKind
    exact congrArg Value.int (Int32.ofInt_toInt n).symm
  | long n =>
    cases ofKind
    exact congrArg Value.long (Int64.ofInt_toInt n).symm
  | bool | float | double =>
    cases ofKind
    cases integral
  | _ => cases ofKind

namespace Operation

variable [HostObject H] {kind : Kind}

theorem coerce_ofWhole (integral : kind.isIntegral = true) (a : ℤ) :
    coerce (.primitive kind) kind (.ofWhole kind a : Value H) = .ok (.ofWhole kind a) := by
  cases kind with
  | int | long => rfl
  | _ => cases integral

/-- Wrapping around commutes with sums, differences and products. -/
theorem arithmetic_ofWhole (integral : kind.isIntegral = true) {op : ArithmeticOp} (ring : op.isRing = true) (a b : ℤ) :
    arithmetic op kind (.ofWhole kind a : Value H) (.ofWhole kind b) = .ok (.ofWhole kind (op.inRing a b)) := by
  cases kind with
  | int =>
    cases op with
    | add => exact congrArg (Except.ok ∘ Value.int) (Int32.ofInt_add a b).symm
    | sub => exact congrArg (Except.ok ∘ Value.int) (Int32.ofInt_sub a b).symm
    | mul => exact congrArg (Except.ok ∘ Value.int) (Int32.ofInt_mul a b).symm
    | _ => cases ring
  | long =>
    cases op with
    | add => exact congrArg (Except.ok ∘ Value.long) (Int64.ofInt_add a b).symm
    | sub => exact congrArg (Except.ok ∘ Value.long) (Int64.ofInt_sub a b).symm
    | mul => exact congrArg (Except.ok ∘ Value.long) (Int64.ofInt_mul a b).symm
    | _ => cases ring
  | _ => cases integral

theorem negate_ofWhole (integral : kind.isIntegral = true) (a : ℤ) :
    negate kind (.ofWhole kind a : Value H) = .ok (.ofWhole kind (-a)) := by
  cases kind with
  | int => exact congrArg (Except.ok ∘ Value.int) (Int32.ofInt_neg a).symm
  | long => exact congrArg (Except.ok ∘ Value.long) (Int64.ofInt_neg a).symm
  | _ => cases integral

end Operation

namespace Environment

/-- The whole number that a name stands for. -/
def whole (env : Environment H) (s : Scope H) (name : String) : ℤ :=
  ((s.position? name).bind env.argument).elim 0 Value.whole

/-- There are arguments of the kind at these positions. -/
def Supplies (env : Environment H) (kind : Kind) (positions : List ℕ) : Prop :=
  ∀ position ∈ positions, ∃ v, env.argument position = some v ∧ v.kind? = some kind

end Environment

section Evaluation

variable [HostObject H] {c : Catalog H} {kind : Kind}

theorem Evaluation.checked_of_kind {v : Value H} (isKind : v.kind? = some kind) :
    checked c (.primitive kind) v = .ok v := by
  have notNull : v.isNull = false := by
    cases v with
    | null => cases isKind
    | _ => rfl
  have isInstance : c.isInstance v (.primitive kind) = true := by
    cases v with
    | null => cases isKind
    | _ => simpa [Catalog.isInstance] using isKind
  have passes : Operation.checkCast c (.primitive kind) v = .ok () := by
    rw [Operation.checkCast, notNull, if_neg Bool.false_ne_true, if_pos isInstance]
  rw [checked, passes]
  rfl

namespace Expr.Settles

variable {s : Scope H} {e : Expr} {t : Typed H} {env : Environment H}

/-- The value of a tree is its exact value, wrapped around. -/
theorem eval (integral : kind.isIntegral = true) (settles : e.Settles s kind t)
    (supplies : env.Supplies kind (e.positions s)) :
    t.eval c env = .ok (.ofWhole kind (e.inRing (env.whole s))) := by
  induction settles with
  | literal ofKind =>
    rw [Typed.eval, Literal.value_eq_ofWhole integral ofKind, inRing, Int.cast_id]
  | @parameter _ n _ position only =>
    have isPosition : s.position? n = some position := by rw [Scope.position?, only]
    obtain ⟨v, supplied, isKind⟩ := supplies position (by simp [positions, isPosition])
    have named : env.whole s n = v.whole := by simp [Environment.whole, isPosition, supplied]
    simp only [Typed.eval, supplied, Evaluation.checked_of_kind isKind, inRing, named,
      Value.ofWhole_whole integral isKind]
  | @arithmetic _ _ l r _ _ ring left right ihl ihr =>
    have first := ihl fun position member => supplies position (by simp [positions, member])
    have second := ihr fun position member => supplies position (by simp [positions, member])
    simp only [Typed.eval, first, second, left.type, right.type, ok_bind, Operation.coerce_ofWhole integral,
      Operation.arithmetic_ofWhole integral ring, inRing]
  | negate operand ih =>
    simp only [Typed.eval, ih supplies, operand.type, ok_bind, Operation.coerce_ofWhole integral,
      Operation.negate_ofWhole integral, inRing]

end Expr.Settles

end Evaluation

/-- The number of a constant, or the position of an argument, is beyond what two bytes hold. -/
inductive InternalFault.Exhausts (constants : ℕ) (positions : List ℕ) : InternalFault → Prop where
  | constant {index : ℕ} (beyond : maxOperand < index) (within : index < constants) :
      Exhausts constants positions (.operandOverflow "constant" index)
  | argument {position : ℕ} (beyond : maxOperand < position) (declared : position ∈ positions) :
      Exhausts constants positions (.operandOverflow "argument" position)

theorem InternalFault.Exhausts.mono {m n : ℕ} {p q : List ℕ} {fault : InternalFault} (exhausts : fault.Exhausts m p)
    (more : m ≤ n) (others : ∀ position ∈ p, position ∈ q) : fault.Exhausts n q := by
  cases exhausts with
  | constant beyond within => exact .constant beyond (by omega)
  | argument beyond declared => exact .argument beyond (others _ declared)

theorem Generate.lift_error {α : Type} {x : Except InternalFault α} {T : Tables H} {fault : InternalFault}
    (failed : (liftExcept x : Generate H α) T = .error fault) : x = .error fault := by
  cases x with
  | ok a => cases failed
  | error fault =>
    cases failed
    rfl

/-- Generation that adds at most so many constants, and fails only where a table is exhausted. -/
structure Generate.Bounded {α : Type} (count : ℕ) (positions : List ℕ) (work : Generate H α) : Prop where
  adds : ∀ {T U : Tables H} {a : α}, work T = .ok (a, U) → U.constants.size ≤ T.constants.size + count
  fails : ∀ {T : Tables H} {fault : InternalFault}, work T = .error fault →
    fault.Exhausts (T.constants.size + count) positions

namespace Generate.Bounded

variable {α β : Type} {m n : ℕ} {p q : List ℕ}

theorem lift {x : Except InternalFault α} (allowed : ∀ fault, x = .error fault → fault.Exhausts 0 p) :
    Bounded 0 p (liftExcept x : Generate H α) where
  adds done := by
    obtain ⟨_, rfl⟩ := lift_ok done
    omega
  fails failed := (allowed _ (lift_error failed)).mono (Nat.zero_le _) fun _ => id

theorem pure (a : α) : Bounded (H := H) 0 [] (Pure.pure a) :=
  lift (x := .ok a) (by simp)

theorem bind {x : Generate H α} {f : α → Generate H β} (first : Bounded m p x) (second : ∀ a, Bounded n q (f a)) :
    Bounded (m + n) (p ++ q) (x >>= f) where
  adds done := by
    obtain ⟨a, U, begun, rest⟩ := bind_ok done
    have before := first.adds begun
    have after := (second a).adds rest
    omega
  fails failed := by
    rcases bind_error failed with failed | ⟨a, U, begun, failed⟩
    · exact (first.fails failed).mono (by omega) fun _ => List.mem_append_left q
    · have before := first.adds begun
      exact ((second a).fails failed).mono (by omega) fun _ => List.mem_append_right p

theorem mono {work : Generate H α} (bounded : Bounded m p work) (more : m ≤ n) (others : ∀ position ∈ p, position ∈ q) :
    Bounded n q work where
  adds done := by
    have fewer := bounded.adds done
    omega
  fails failed := (bounded.fails failed).mono (by omega) others

end Generate.Bounded

theorem Tables.constant_size {T U : Tables H} {k : Constant} {index : ℕ} (added : T.constant k = (index, U)) :
    index < U.constants.size ∧ U.constants.size ≤ T.constants.size + 1 := by
  have entry := (constant_spec added).2
  refine ⟨(Array.getElem?_eq_some_iff.mp entry).1, ?_⟩
  cases added
  change (T.constants.add k).2.size ≤ _
  unfold ConstantPool.add
  split
  · exact Nat.le_succ _
  · exact (Array.size_push k).le

theorem operand_error {what : String} {n : ℕ} {fault : InternalFault} (failed : operand what n = .error fault) :
    maxOperand < n ∧ fault = .operandOverflow what n := by
  unfold operand at failed
  split at failed
  · cases failed
  next beyond =>
    cases failed
    exact ⟨Nat.lt_of_not_le beyond, rfl⟩

theorem countInstr_error {op : Opcode} {what : String} {n : ℕ} {fault : InternalFault}
    (failed : countInstr op what n = .error fault) : maxOperand < n ∧ fault = .operandOverflow what n := by
  unfold countInstr at failed
  split at failed
  · cases failed
  next overflow =>
    cases failed
    exact operand_error overflow

namespace Generation

/-- An instruction with the number of a constant. -/
theorem numbered_bounded (k : Constant) (line : ℕ) {make : ℕ → Except InternalFault Instr}
    (overflows : ∀ {index fault}, make index = .error fault →
      maxOperand < index ∧ fault = .operandOverflow "constant" index) :
    Generate.Bounded 1 [] (do
      let index ← modifyGet fun tables : Tables H => tables.constant k
      let i ← liftExcept (make index)
      return [(line, i)] : Generate H Code) where
  adds done := by
    obtain ⟨index, V, added, making⟩ := Generate.bind_ok done
    obtain ⟨i, W, made, placing⟩ := Generate.bind_ok making
    obtain ⟨_, rfl⟩ := Generate.lift_ok made
    obtain ⟨_, rfl⟩ := Generate.pure_ok placing
    exact (Tables.constant_size (Generate.modifyGet_ok added)).2
  fails failed := by
    rcases Generate.bind_error failed with failed | ⟨index, U, added, failed⟩
    · cases failed
    rcases Generate.bind_error failed with failed | ⟨i, V, made, failed⟩
    · obtain ⟨beyond, rfl⟩ := overflows (Generate.lift_error failed)
      have size := Tables.constant_size (Generate.modifyGet_ok added)
      exact .constant beyond (by omega)
    · cases failed

theorem load_bounded (line : ℕ) (k : Constant) : Generate.Bounded 1 [] (load line k : Generate H Code) := by
  apply numbered_bounded
  intro index fault failed
  unfold loadConstant at failed
  split at failed
  · cases failed
  · have wide : countInstr .constantWide "constant" index = .error fault := failed
    exact countInstr_error wide

theorem check_bounded (line : ℕ) (t : Ty) : Generate.Bounded 1 [] (check line t : Generate H Code) := by
  unfold check
  split
  · exact (Generate.Bounded.pure []).mono (Nat.zero_le _) fun _ => id
  · apply numbered_bounded
    intro index fault failed
    have numbered : countInstr .checkCast "constant" index = .error fault := failed
    exact countInstr_error numbered

theorem literal_bounded (line : ℕ) (v : Literal) : Generate.Bounded 1 [] (literal line v : Generate H Code) := by
  have bare (code : Code) : Generate.Bounded 1 [] (pure code : Generate H Code) :=
    (Generate.Bounded.pure code).mono (Nat.zero_le _) fun _ => id
  cases v with
  | bool | null => exact bare _
  | int n =>
    simp only [literal]
    by_cases zero : n = 0
    · rw [if_pos zero]
      exact bare _
    rw [if_neg zero]
    by_cases one : n = 1
    · rw [if_pos one]
      exact bare _
    · rw [if_neg one]
      exact load_bounded line _
  | _ => exact load_bounded line _

end Generation

/-- The leaves bound the constants and the positions. -/
theorem Expr.Settles.bounded {s : Scope H} {kind : Kind} {e : Expr} {t : Typed H} (c : Catalog H)
    (integral : kind.isIntegral = true) (settles : e.Settles s kind t) :
    Generate.Bounded e.leafCount (e.positions s) (part t (t.draft c)) := by
  induction settles with
  | @literal span v ofKind =>
    simp only [part, Typed.draft, bind_assoc, pure_bind]
    exact (literal_bounded span.line v).bind fun code => .lift (by simp [finish])
  | @parameter span n declared position only =>
    have isPosition : s.position? n = some position := by rw [Scope.position?, only]
    simp only [part, Typed.draft, bind_assoc, pure_bind, positions, isPosition]
    refine Generate.Bounded.mono (m := 0 + (1 + 0)) (p := [position] ++ ([] ++ [])) ?_ (by simp [leafCount]) (by simp)
    refine .bind (.lift ?_) fun i => (check_bounded span.line _).bind fun code => .lift (by simp [finish])
    intro fault failed
    obtain ⟨beyond, rfl⟩ := countInstr_error failed
    exact .argument beyond (by simp)
  | @arithmetic span op l r a b ring left right ihl ihr =>
    have found := @arithmeticOp?_isSome op kind (Kind.isNumeric_of_isIntegral integral)
    rw [if_neg (ArithmeticOp.ne_pow ring)] at found
    obtain ⟨o, isOp⟩ := Option.isSome_iff_exists.mp found
    rw [part, Typed.draft, bind_assoc]
    refine Generate.Bounded.mono (m := l.leafCount + (r.leafCount + 0))
      (p := l.positions s ++ (r.positions s ++ [])) ?_ (by simp [leafCount]) (by simp [positions])
    refine ihl.bind fun first => ?_
    simp only [bind_assoc]
    refine ihr.bind fun second => ?_
    simp only [isOp, kindOp, finish]
    exact .lift (x := .ok _) (by simp)
  | @negate span e a operand ih =>
    have number : a.type.numericKind? = some kind := by
      rw [operand.type, Ty.numericKind?_of_isIntegral integral]
    obtain ⟨o, isOp⟩ := negationOp?_numeric number
    rw [part, Typed.draft, bind_assoc]
    refine Generate.Bounded.mono (m := e.leafCount + 0) (p := e.positions s ++ []) ?_ (by simp [leafCount])
      (by simp [positions])
    refine ih.bind fun first => ?_
    simp only [isOp, kindOp, finish]
    exact .lift (x := .ok _) (by simp)

namespace Expr.Integral

variable {ctx : Context H} {kind : Kind} {e : Expr}

theorem compile_error {err : CompileError} (integral : kind.isIntegral = true) (tree : e.Integral ctx.scope kind)
    (failed : e.compile ctx = .error err) :
    ∃ fault, err = .internal fault ∧ fault.Exhausts e.leafCount (e.positions ctx.scope) := by
  obtain ⟨t, resolved, settles⟩ := tree.settles integral
  rcases whole : e.resolve ctx .blank with ⟨result, m⟩
  rw [whole] at resolved
  subst resolved
  simp only [compile, compileWith, whole] at failed
  cases generated : t.generate ctx.catalog with
  | ok result =>
    rw [generated] at failed
    cases failed
  | error fault =>
    rw [generated] at failed
    cases failed
    have exhausts := (settles.bounded ctx.catalog integral).fails generated
    exact ⟨fault, rfl, exhausts.mono (by simp [Tables.empty, ConstantPool.size]) fun _ => id⟩

theorem run [HostObject H] {p : Program H} {env : Environment H} (integral : kind.isIntegral = true)
    (tree : e.Integral ctx.scope kind) (compiled : e.compile ctx = .ok p)
    (supplies : env.Supplies kind (e.positions ctx.scope)) :
    p.run env = .ok (.ofWhole kind (e.inRing (env.whole ctx.scope))) := by
  obtain ⟨t, resolved, settles⟩ := tree.settles integral
  have consistent : t.Consistent := Typed.consistent_of_nodup (by simp [settles.selects])
  rw [Expr.compile_evaluates compiled resolved consistent env]
  exact settles.eval integral supplies

end Expr.Integral

/-- Compilation of a tree of sums, differences, products and negations over literals and declared parameters of a kind
of whole numbers fails only where the number of a constant or of an argument exceeds two bytes; for a constant, the tree
then has more leaves than two bytes can number. The type is the kind, and given arguments of that kind the run succeeds
with the exact value, wrapped around. Trees that denote the same polynomial have the same value. -/
theorem Expr.integral_exact [HostObject H] {ctx : Context H} {kind : Kind} {e : Expr}
    (integral : kind.isIntegral = true) (tree : e.Integral ctx.scope kind) :
    (∀ err, e.compile ctx = .error err → ∃ fault, err = .internal fault ∧
      fault.Exhausts e.leafCount (e.positions ctx.scope)) ∧
    ∀ p, e.compile ctx = .ok p → p.type = .primitive kind ∧
      ∀ env, env.Supplies kind (e.positions ctx.scope) →
        p.run env = .ok (.ofWhole kind (e.inRing (env.whole ctx.scope))) ∧
        ∀ (e' : Expr) (p' : Program H), e'.Integral ctx.scope kind → e'.compile ctx = .ok p' →
          e'.polynomial = e.polynomial → env.Supplies kind (e'.positions ctx.scope) → p'.run env = p.run env := by
  refine ⟨fun err failed => tree.compile_error integral failed, fun p compiled => ⟨?_, fun env supplies => ?_⟩⟩
  · obtain ⟨t, resolved, settles⟩ := tree.settles integral
    rw [Expr.compile_type compiled resolved, settles.type]
  · have ran := tree.run integral compiled supplies
    refine ⟨ran, fun e' p' tree' compiled' same supplies' => ?_⟩
    rw [ran, tree'.run integral compiled' supplies', ← eval_polynomial, same, eval_polynomial]

/-- Two numbers are given. -/
def sidesContext : Context Record where
  catalog := ⟨[]⟩
  scope := ((({} : Declarations Record).parameter "a" .int).parameter "b" .int).scope

/-- The expression `a * a - b * b`. -/
def squaresExpr : Expr :=
  .arithmetic default .sub (.arithmetic default .mul (.name default "a") (.name default "a"))
    (.arithmetic default .mul (.name default "b") (.name default "b"))

/-- The expression `(a + b) * (a - b)`. -/
def factorsExpr : Expr :=
  .arithmetic default .mul (.arithmetic default .add (.name default "a") (.name default "b"))
    (.arithmetic default .sub (.name default "a") (.name default "b"))

/-- The square of the first number does not fit an int. -/
def sides : Environment Record := Supply.environment { arguments := [.int 65537, .int 3] }

theorem sides_supply (e : Expr) (both : ∀ position ∈ e.positions sidesContext.scope, position = 0 ∨ position = 1) :
    sides.Supplies .int (e.positions sidesContext.scope) := by
  intro position member
  rcases both position member with rfl | rfl
  · exact ⟨.int 65537, rfl, rfl⟩
  · exact ⟨.int 3, rfl, rfl⟩

theorem factorsExpr_integral_exact : ∃ p p', squaresExpr.compile sidesContext = .ok p ∧
    factorsExpr.compile sidesContext = .ok p' ∧ p.type = .int ∧
    p.run sides = .ok (.int (.ofInt (65537 * 65537 - 3 * 3))) ∧ p'.run sides = p.run sides := by
  have a : (Expr.name default "a").Integral sidesContext.scope .int :=
    .parameter (show sidesContext.scope.elements "a" = [.parameter "a" 0 .int] from rfl)
  have b : (Expr.name default "b").Integral sidesContext.scope .int :=
    .parameter (show sidesContext.scope.elements "b" = [.parameter "b" 1 .int] from rfl)
  have squares : squaresExpr.Integral sidesContext.scope .int :=
    .arithmetic rfl (.arithmetic rfl a a) (.arithmetic rfl b b)
  have factors : factorsExpr.Integral sidesContext.scope .int :=
    .arithmetic rfl (.arithmetic rfl a b) (.arithmetic rfl a b)
  have same : factorsExpr.polynomial = squaresExpr.polynomial := by
    simp only [Expr.polynomial, factorsExpr, squaresExpr, Expr.inRing, ArithmeticOp.inRing]
    ring
  obtain ⟨p, compiled⟩ := Option.isSome_iff_exists.mp
    (by decide +kernel : (squaresExpr.compile sidesContext).toOption.isSome = true)
  obtain ⟨p', compiled'⟩ := Option.isSome_iff_exists.mp
    (by decide +kernel : (factorsExpr.compile sidesContext).toOption.isSome = true)
  obtain ⟨type, value⟩ := (Expr.integral_exact rfl squares).2 p (toOption_some compiled)
  obtain ⟨ran, others⟩ := value sides (sides_supply squaresExpr (by decide))
  exact ⟨p, p', toOption_some compiled, toOption_some compiled', type, ran,
    others factorsExpr p' factors (toOption_some compiled') same (sides_supply factorsExpr (by decide))⟩

end TypedExpr
