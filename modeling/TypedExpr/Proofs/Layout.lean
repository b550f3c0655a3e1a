import TypedExpr.Evaluation
import TypedExpr.Proofs.Encoding
import TypedExpr.Proofs.Linking
import TypedExpr.Program
/-!
# The layout of generated code

`Layout` says, node by node, what the code of an expression looks like once all tables are complete, without
the bookkeeping of its generation. Generated code has this layout (`draft_layout`); whatever is proved about
code is proved by induction on it.
-/

namespace TypedExpr

open Generation

variable {H : Type}

/-- The instruction loads the value of a literal. -/
inductive Tables.Loads (T : Tables H) : Literal → Instr → Prop where
  | bool (b : Bool) : Loads T (.bool b) (.bare (if b then .pushTrue else .pushFalse))
  | zero : Loads T (.int 0) (.bare .pushZero)
  | one : Loads T (.int 1) (.bare .pushOne)
  | null : Loads T .null (.bare .pushNull)
  | narrow {v : Literal} {k : Constant} {n : UInt8} (entry : T.constants.get? n.toNat = some k)
      (same : k.value? = some (v.value : Value H)) : Loads T v (.narrow .constant n)
  | wide {v : Literal} {k : Constant} {n : UInt16} (entry : T.constants.get? n.toNat = some k)
      (same : k.value? = some (v.value : Value H)) : Loads T v (.wide .constantWide n)

/-- The operand refers to the type. -/
def Tables.Names (T : Tables H) (n : UInt16) (t : Ty) : Prop := T.constants.get? n.toNat = some (.type t)

/-- Code that checks a value of the host against a type. -/
inductive Tables.Checks (T : Tables H) (line : Nat) (t : Ty) : Code → Prop where
  | object (isObject : t.isObject = true) : Checks T line t []
  | cast {n : UInt16} (other : t.isObject = false) (entry : T.Names n t) :
      Checks T line t [(line, .wide .checkCast n)]

/-- The code of an expression as it stands in a program with the tables. An expression may be laid out on its
own, as a part of a chain of one logical operator, or as a part of joined texts. -/
inductive Layout (c : Catalog H) (T : Tables H) : Typed H → Draft → Prop where
  | literal {line : Nat} {v : Literal} {i : Instr} (loads : T.Loads v i) :
      Layout c T (.literal line v) (.closed [(line, i)])
  | numeric {line : Nat} {op : ArithmeticOp} {kind : Kind} {l r : Typed H} {a b : Code} {o : Opcode}
      (left : Layout c T l (.closed a)) (right : Layout c T r (.closed b))
      (operation : arithmeticOp? op kind = some o) :
      Layout c T (.numeric line op kind l r) (.closed (a ++ Code.ofOps line (l.type.coercionCode kind)
        ++ b ++ Code.ofOps line (r.type.coercionCode kind) ++ Code.ofOps line [o]))
  | text {t : Typed H} {a : Code} (alone : Layout c T t (.closed a)) : Layout c T t (.concat 1 a)
  | join {line n m : Nat} {l r : Typed H} {a b : Code} (left : Layout c T l (.concat n a))
      (right : Layout c T r (.concat m b)) : Layout c T (.concat line l r) (.concat (n + m) (a ++ b))
  | concat {line n : Nat} {l r : Typed H} {a : Code} {count : UInt16}
      (joined : Layout c T (.concat line l r) (.concat n a)) (number : count.toNat = n) :
      Layout c T (.concat line l r) (.closed (a ++ [(line, .wide .concat count)]))
  | negate {line : Nat} {kind : Kind} {e : Typed H} {a : Code} {o : Opcode}
      (operand : Layout c T e (.closed a)) (operation : negationOp? kind = some o) :
      Layout c T (.negate line kind e)
        (.closed (a ++ Code.ofOps line (e.type.coercionCode kind) ++ Code.ofOps line [o]))
  | operand {op : LogicalOp} {t : Typed H} {a : Code} (alone : Layout c T t (.closed a)) :
      Layout c T t (.chain op [(a, t.type.isBoxed)])
  | chain {line : Nat} {op : LogicalOp} {l r : Typed H} {a b : List (Code × Bool)}
      (left : Layout c T l (.chain op a)) (right : Layout c T r (.chain op b)) :
      Layout c T (.logical line op l r) (.chain op (a ++ b))
  | logical {line : Nat} {op : LogicalOp} {l r : Typed H} {operands : List (Code × Bool)} {code : Code}
      (chained : Layout c T (.logical line op l r) (.chain op operands))
      (laid : finish line (.chain op operands) = .ok code) : Layout c T (.logical line op l r) (.closed code)
  | not {line : Nat} {e : Typed H} {a : Code} (operand : Layout c T e (.closed a)) :
      Layout c T (.not line e) (.closed (condition line a e.type.isBoxed ++ Code.ofOps line [.not]))
  | empty {line : Nat} {e : Typed H} {a : Code} (operand : Layout c T e (.closed a)) :
      Layout c T (.empty line e) (.closed (a ++ Code.ofOps line [.isEmpty]))
  | equality {line : Nat} {negated : Bool} {l r : Typed H} {a b : Code} (left : Layout c T l (.closed a))
      (right : Layout c T r (.closed b)) :
      Layout c T (.equality line negated l r)
        (.closed (a ++ b ++ Code.ofOps line (if negated then [.eqValue, .not] else [.eqValue])))
  | ordering {line : Nat} {op : RelationalOp} {kind : Kind} {l r : Typed H} {a b : Code} {o : Opcode}
      (left : Layout c T l (.closed a)) (right : Layout c T r (.closed b))
      (operation : relationalOp? op kind = some o) :
      Layout c T (.ordering line op kind l r) (.closed (a ++ Code.ofOps line (l.type.coercionCode kind)
        ++ b ++ Code.ofOps line (r.type.coercionCode kind) ++ Code.ofOps line [o]))
  | comparison {line : Nat} {op : RelationalOp} {s : Selection H} {isLeft : Bool} {l r : Typed H} {a b : Code}
      {conversion : Conversion} {f : UInt16} {o : Opcode} (left : Layout c T l (.closed a))
      (right : Layout c T r (.closed b)) (argument : s.conversions.head? = some conversion)
      (target : T.Links f s.method)
      (operation : relationalOp? (if isLeft then op else op.invert) .int = some o) :
      Layout c T (.comparison line op s isLeft l r) (.closed (a ++ b
        ++ Code.ofOps line (if isLeft then [] else [.swap]) ++ Code.ofOps line conversion.code
        ++ [(line, .call .callMethod f 1)] ++ Code.ofOps line [.pushZero] ++ Code.ofOps line [o]))
  | instanceOf {line : Nat} {t : Ty} {e : Typed H} {a : Code} {n : UInt16} (operand : Layout c T e (.closed a))
      (entry : T.Names n t) : Layout c T (.instanceOf line t e) (.closed (a ++ [(line, .wide .instanceOf n)]))
  | matches {line : Nat} {p : Pattern} {e : Typed H} {a : Code} {n : UInt16}
      (operand : Layout c T e (.closed a)) (entry : T.patterns[n.toNat]? = some p) :
      Layout c T (.matches line p e) (.closed (a ++ [(line, .wide .matches n)]))
  | ternary {line : Nat} {t : Ty} {cond yes no : Typed H} {a b d : Code} {toElse past : UInt16}
      {thenConversion elseConversion : Conversion} (test : Layout c T cond (.closed a))
      (thenBranch : Layout c T yes (.closed b)) (elseBranch : Layout c T no (.closed d))
      (thenConverts : c.conversion? yes.type t = some thenConversion)
      (elseConverts : c.conversion? no.type t = some elseConversion)
      (toElseSize : toElse.toNat = (b ++ Code.ofOps line thenConversion.code).size + 4)
      (pastSize : past.toNat = (Code.ofOps line [.pop] ++ d ++ Code.ofOps line elseConversion.code).size) :
      Layout c T (.ternary line t cond yes no) (.closed (condition line a cond.type.isBoxed
        ++ [(line, .wide .jumpIfFalse toElse), (line, .bare .pop)] ++ b ++ Code.ofOps line thenConversion.code
        ++ (line, .wide .jump past) :: (Code.ofOps line [.pop] ++ d ++ Code.ofOps line elseConversion.code)))
  | elvis {line : Nat} {t : Ty} {l r : Typed H} {a b : Code} {present past : UInt16}
      {leftConversion rightConversion : Conversion} (left : Layout c T l (.closed a))
      (right : Layout c T r (.closed b)) (leftConverts : c.conversion? l.type t = some leftConversion)
      (rightConverts : c.conversion? r.type t = some rightConversion)
      (presentSize : present.toNat = (b ++ Code.ofOps line rightConversion.code).size + 4)
      (pastSize : past.toNat = (Code.ofOps line leftConversion.code).size) :
      Layout c T (.elvis line t l r) (.closed (a ++ [(line, .wide .jumpIfNotNull present), (line, .bare .pop)]
        ++ b ++ Code.ofOps line rightConversion.code
        ++ (line, .wide .jump past) :: Code.ofOps line leftConversion.code))
  | arrayIndex {line : Nat} {t : Ty} {e i : Typed H} {a b : Code} (target : Layout c T e (.closed a))
      (position : Layout c T i (.closed b)) :
      Layout c T (.index line .array t e i)
        (.closed (a ++ condition line b i.type.isBoxed ++ Code.ofOps line [.index]))
  | listIndex {line : Nat} {t : Ty} {e i : Typed H} {a b check : Code} (target : Layout c T e (.closed a))
      (position : Layout c T i (.closed b)) (checked : T.Checks line t check) :
      Layout c T (.index line .list t e i)
        (.closed (a ++ condition line b i.type.isBoxed ++ Code.ofOps line [.index] ++ check))
  | mapIndex {line : Nat} {t : Ty} {e i : Typed H} {a b check : Code} (target : Layout c T e (.closed a))
      (position : Layout c T i (.closed b)) (checked : T.Checks line t check) :
      Layout c T (.index line .map t e i) (.closed (a ++ b ++ Code.ofOps line [.mapGet] ++ check))
  | arrayLength {line : Nat} {nullSafe : Bool} {e : Typed H} {a access : Code}
      (receiver : Layout c T e (.closed a))
      (laid : guarded line nullSafe (Code.ofOps line [.arrayLength]) = .ok access) :
      Layout c T (.arrayLength line nullSafe e) (.closed (a ++ access))
  | property {line : Nat} {nullSafe : Bool} {p : Property H} {e : Typed H} {a access : Code} {f : UInt16}
      (receiver : Layout c T e (.closed a)) (target : T.Links f p.getter)
      (laid : guarded line nullSafe [(line, .call .callMethod f 0)] = .ok access) :
      Layout c T (.property line nullSafe p e) (.closed (a ++ access))
  | call {line : Nat} {nullSafe : Bool} {s : Selection H} {e : Typed H} {args : List (Typed H)}
      {a passing access : Code} {codes : List Code} {f : UInt16} {n : UInt8}
      (receiver : Layout c T e (.closed a)) (each : codes.length = args.length)
      (arguments : ∀ x ∈ args.zip codes, Layout c T x.1 (.closed x.2))
      (passed : passArguments line s codes = .ok passing) (target : T.Links f s.method)
      (count : n.toNat = s.arity)
      (laid : guarded line nullSafe (if s.method.isStatic
        then Code.ofOps line [.pop] ++ passing ++ [(line, .call .callStatic f n)]
        else passing ++ [(line, .call .callMethod f n)]) = .ok access) :
      Layout c T (.call line nullSafe s e args) (.closed (a ++ access))
  | staticCall {line : Nat} {s : Selection H} {args : List (Typed H)} {passing : Code} {codes : List Code}
      {f : UInt16} {n : UInt8} (each : codes.length = args.length)
      (arguments : ∀ x ∈ args.zip codes, Layout c T x.1 (.closed x.2))
      (passed : passArguments line s codes = .ok passing) (target : T.Links f s.method)
      (count : n.toNat = s.arity) :
      Layout c T (.staticCall line s args) (.closed (passing ++ [(line, .call .callStatic f n)]))
  | parameter {line position : Nat} {t : Ty} {n : UInt16} {check : Code} (number : n.toNat = position)
      (checked : T.Checks line t check) :
      Layout c T (.parameter line position t) (.closed ((line, .wide .getArgument n) :: check))
  | contextProperty {line : Nat} {owner : Ty} {p : Property H} {n f : UInt16} (entry : T.Names n owner)
      (target : T.Links f p.getter) :
      Layout c T (.contextProperty line owner p)
        (.closed ([(line, .wide .getBean n)] ++ [(line, .call .callMethod f 0)]))
  | contextCall {line : Nat} {s : Selection H} {args : List (Typed H)} {passing : Code} {codes : List Code}
      {b f : UInt16} {n : UInt8} (onBean : s.method.isStatic = false) (entry : T.Names b s.method.owner)
      (each : codes.length = args.length) (arguments : ∀ x ∈ args.zip codes, Layout c T x.1 (.closed x.2))
      (passed : passArguments line s codes = .ok passing) (target : T.Links f s.method)
      (count : n.toNat = s.arity) :
      Layout c T (.contextCall line s args)
        (.closed ([(line, .wide .getBean b)] ++ passing ++ [(line, .call .callMethod f n)]))
  | contextStaticCall {line : Nat} {s : Selection H} {args : List (Typed H)} {passing : Code}
      {codes : List Code} {f : UInt16} {n : UInt8} (isStatic : s.method.isStatic = true)
      (each : codes.length = args.length) (arguments : ∀ x ∈ args.zip codes, Layout c T x.1 (.closed x.2))
      (passed : passArguments line s codes = .ok passing) (target : T.Links f s.method)
      (count : n.toNat = s.arity) :
      Layout c T (.contextCall line s args) (.closed (passing ++ [(line, .call .callStatic f n)]))
  | this {line : Nat} {t : Ty} {check : Code} (checked : T.Checks line t check) :
      Layout c T (.this line t) (.closed (Code.ofOps line [.getThis] ++ check))
  | bean {line : Nat} {t : Ty} {n : UInt16} (entry : T.Names n t) :
      Layout c T (.bean line t) (.closed [(line, .wide .getBean n)])
  | environment {line : Nat} {k : Typed H} {a : Code} (key : Layout c T k (.closed a)) :
      Layout c T (.environment line k) (.closed (a ++ Code.ofOps line [.getEnv]))

theorem countInstr_ok {op : Opcode} {what : String} {count : Nat} {i : Instr}
    (h : countInstr op what count = .ok i) : ∃ n, i = .wide op n ∧ n.toNat = count := by
  unfold countInstr at h
  split at h
  next n fits =>
    cases h
    exact ⟨n, rfl, (Tables.operand_ok fits).2⟩
  · cases h

/-- The layout of a draft, and of its finished code. -/
def Laid (c : Catalog H) (F : Tables H) (t : Typed H) (d : Draft) : Prop :=
  Layout c F t d ∧ ∀ code, finish t.line d = .ok code → Layout c F t (.closed code)

namespace Laid

variable {c : Catalog H} {F : Tables H} {t : Typed H}

theorem closed {code : Code} (layout : Layout c F t (.closed code)) : Laid c F t (.closed code) := by
  refine ⟨layout, ?_⟩
  intro finished h
  cases h
  exact layout

theorem chainOperands {op : LogicalOp} {d : Draft} {operands : List (Code × Bool)} (laid : Laid c F t d)
    (h : Generation.chainOperands op t d = .ok operands) : Layout c F t (.chain op operands) := by
  unfold Generation.chainOperands at h
  split at h
  · split at h
    next same =>
      cases h
      exact same ▸ laid.1
    · obtain ⟨code, finished, rfl⟩ := map_ok h
      exact .operand (laid.2 code finished)
  · obtain ⟨code, finished, rfl⟩ := map_ok h
    exact .operand (laid.2 code finished)

theorem concatOperands {d : Draft} {n : Nat} {code : Code} (laid : Laid c F t d)
    (h : Generation.concatOperands t d = .ok (n, code)) : Layout c F t (.concat n code) := by
  unfold Generation.concatOperands at h
  split at h
  · cases h
    exact laid.1
  · obtain ⟨_, finished, same⟩ := map_ok h
    cases same
    exact .text (laid.2 _ finished)

theorem joined {line n : Nat} {l r : Typed H} {code : Code}
    (layout : Layout c F (.concat line l r) (.concat n code)) : Laid c F (.concat line l r) (.concat n code) := by
  refine ⟨layout, ?_⟩
  intro finished h
  obtain ⟨i, counted, rfl⟩ := map_ok h
  obtain ⟨count, rfl, number⟩ := countInstr_ok counted
  exact .concat layout number

theorem chained {line : Nat} {op : LogicalOp} {l r : Typed H} {operands : List (Code × Bool)}
    (layout : Layout c F (.logical line op l r) (.chain op operands)) :
    Laid c F (.logical line op l r) (.chain op operands) :=
  ⟨layout, fun _ finished => .logical layout finished⟩

end Laid

/-- The work links these methods, and what it yields has the property as soon as the tables are complete. -/
def Generate.Yields {α : Type} (calls : List (Method H)) (work : Generate H α)
    (property : Tables H → α → Prop) : Prop :=
  ∀ (T U : Tables H) (a : α), T.Valid → work T = .ok (a, U) →
    T.Grows calls U ∧ ∀ F, U.Extends F → property F a

namespace Generate.Yields

variable {α β : Type} {P : Tables H → α → Prop} {Q : Tables H → β → Prop} {calls more : List (Method H)}

theorem pure {a : α} (holds : ∀ F, P F a) : Generate.Yields [] (Pure.pure a) P := by
  intro T U b _ h
  obtain ⟨rfl, rfl⟩ := pure_ok h
  exact ⟨.refl _, fun F _ => holds F⟩

theorem lift (x : Except InternalFault α) : Generate.Yields (H := H) [] (liftExcept x) fun _ a => x = .ok a := by
  intro T U a _ h
  obtain ⟨done, rfl⟩ := lift_ok h
  exact ⟨.refl _, fun _ _ => done⟩

theorem fail (calls : List (Method H)) {fault : InternalFault} :
    Generate.Yields calls (throw fault : Generate H α) P := by
  intro T U a _ h
  cases h

theorem bind {x : Generate H α} {f : α → Generate H β} (first : Generate.Yields calls x P)
    (second : ∀ a, Generate.Yields more (f a) fun F b => P F a → Q F b) :
    Generate.Yields (calls ++ more) (x >>= f) Q := by
  intro T V b valid h
  obtain ⟨a, U, done, rest⟩ := bind_ok h
  obtain ⟨grows, holds⟩ := first T U a valid done
  obtain ⟨grows', holds'⟩ := second a U V b (grows.valid valid) rest
  exact ⟨grows.trans grows', fun F longer => holds' F longer (holds F (grows'.longer.trans longer))⟩

theorem linking {x : Generate H α} (yields : Generate.Yields calls x P) (same : calls = more) :
    Generate.Yields more x P := same ▸ yields

/-- The work for a node links the methods of the nodes below it, then its own. -/
theorem node {t : Typed H} {x : Generate H α} (yields : Generate.Yields calls x P)
    (same : calls = t.children.flatMap Typed.selected ++ (t.site?.map Prod.fst).toList) :
    Generate.Yields t.selected x P := yields.linking (same.trans t.selected_eq.symm)

theorem weaken {x : Generate H α} {P' : Tables H → α → Prop} (yields : Generate.Yields calls x P)
    (weaker : ∀ F a, P F a → P' F a) : Generate.Yields calls x P' := fun T U a valid h =>
  ⟨(yields T U a valid h).1, fun F longer => weaker F a ((yields T U a valid h).2 F longer)⟩

theorem part {c : Catalog H} {t : Typed H} {draft : Generate H Draft}
    (yields : Generate.Yields calls draft fun F d => Laid c F t d) :
    Generate.Yields calls (Generation.part t draft) fun F code => Layout c F t (.closed code) :=
  (yields.bind fun _ => (lift _).weaken fun _ _ finished laid => laid.2 _ finished).linking
    (List.append_nil _)

end Generate.Yields

namespace Generation

open Generate Generate.Yields

theorem constant_yields (k : Constant) :
    Generate.Yields [] (modifyGet fun tables : Tables H => tables.constant k)
      fun F index => F.constants.get? index = some k := by
  intro T U index _ h
  obtain ⟨grows, entry⟩ := Tables.constant_spec (modifyGet_ok h)
  exact ⟨grows, fun F longer => longer.constant entry⟩

theorem typeOp_yields (line : Nat) (op : Opcode) (t : Ty) :
    Generate.Yields [] (Generation.typeOp line op t : Generate H Code)
      fun F code => ∃ n, code = [(line, .wide op n)] ∧ F.Names n t := by
  refine (constant_yields (.type t)).bind fun index => (lift _).bind fun i => pure fun F made entry => ?_
  unfold typeInstr at made
  split at made
  next n fits =>
    cases made
    exact ⟨n, rfl, by rw [Tables.Names, (Tables.operand_ok fits).2, entry]⟩
  · cases made

theorem check_yields (line : Nat) (t : Ty) :
    Generate.Yields [] (Generation.check line t : Generate H Code) fun F code => F.Checks line t code := by
  unfold Generation.check
  split
  next isObject => exact pure fun F => .object isObject
  next other =>
    refine (typeOp_yields line .checkCast t).weaken ?_
    rintro F _ ⟨n, rfl, entry⟩
    exact .cast (by simpa using other) entry

theorem load_yields (line : Nat) {k : Constant} {v : Literal} (same : k.value? = some (v.value : Value H)) :
    Generate.Yields [] (Generation.load line k : Generate H Code)
      fun F code => ∃ i, code = [(line, i)] ∧ F.Loads v i := by
  refine (constant_yields k).bind fun index => (lift _).bind fun i => pure fun F made entry => ⟨i, rfl, ?_⟩
  unfold loadConstant at made
  split at made
  next small =>
    cases made
    exact .narrow (by simpa [Nat.mod_eq_of_lt small] using entry) same
  · split at made
    next fits =>
      cases made
      exact .wide ((Tables.operand_ok fits).2 ▸ entry) same
    · cases made

theorem literal_yields (line : Nat) (v : Literal) :
    Generate.Yields [] (Generation.literal line v : Generate H Code)
      fun F code => ∃ i, code = [(line, i)] ∧ F.Loads v i := by
  cases v with
  | bool b => exact pure fun F => ⟨_, rfl, .bool b⟩
  | null => exact pure fun F => ⟨_, rfl, .null⟩
  | long | float | double | string => exact load_yields line rfl
  | int n =>
    simp only [Generation.literal]
    split
    next isZero => exact isZero ▸ pure fun F => ⟨_, rfl, .zero⟩
    · split
      next isOne => exact isOne ▸ pure fun F => ⟨_, rfl, .one⟩
      · exact load_yields line rfl

theorem call_yields (line : Nat) (op : Opcode) (m : Method H) (count : Nat) :
    Generate.Yields [m] (Generation.call line op m count)
      fun F code => ∃ f n, code = [(line, .call op f n)] ∧ n.toNat = count ∧ F.Links f m := by
  have linked : Generate.Yields [m] (fun tables => tables.function m) fun F f => F.Links f m := by
    intro T U f valid h
    obtain ⟨grows, links⟩ := Tables.function_spec valid h
    exact ⟨grows, fun F longer => longer.links links⟩
  refine linked.bind fun f => (lift _).bind fun i => pure fun F made links => ?_
  unfold callInstr at made
  split at made
  next small =>
    cases made
    exact ⟨f, _, rfl, by simpa using Nat.mod_eq_of_lt small, links⟩
  · cases made

theorem pattern_yields (line : Nat) {p : Pattern} (read : p.IsRead) :
    Generate.Yields [] (Generation.pattern line p : Generate H Code)
      fun F code => ∃ n, code = [(line, .wide .matches n)] ∧ F.patterns[n.toNat]? = some p := by
  have listed : Generate.Yields [] (modifyGet fun tables : Tables H => tables.pattern p)
      fun F index => F.patterns[index]? = some p := by
    intro T U index valid h
    obtain ⟨grows, entry⟩ := Tables.pattern_spec read valid (modifyGet_ok h)
    exact ⟨grows, fun F longer => Tables.prefix_getElem? longer.patterns entry⟩
  refine listed.bind fun index => (lift _).bind fun i => pure fun F made entry => ?_
  obtain ⟨n, rfl, number⟩ := countInstr_ok made
  exact ⟨n, rfl, number ▸ entry⟩

theorem codes_yields {c : Catalog H} {args : List (Typed H)}
    (each : ∀ t ∈ args, Generate.Yields t.selected (t.draft c) fun F d => Laid c F t d) :
    Generate.Yields (args.flatMap Typed.selected) (Typed.codes c args)
      fun F codes => codes.length = args.length ∧ ∀ x ∈ args.zip codes, Layout c F x.1 (.closed x.2) := by
  induction args with
  | nil =>
    unfold Typed.codes
    exact pure fun F => ⟨rfl, by simp⟩
  | cons t ts ih =>
    unfold Typed.codes
    rw [List.flatMap_cons, ← List.append_nil (ts.flatMap _)]
    refine (each t (by simp)).part.bind fun code => (ih fun u member => each u (by simp [member])).bind
      fun rest => pure ?_
    rintro F ⟨lengths, laid⟩ first
    refine ⟨by simp [lengths], ?_⟩
    rw [List.zip_cons_cons]
    exact List.forall_mem_cons.mpr ⟨first, laid⟩

theorem kindOp_ok {line : Nat} {symbol : String} {kind : Kind} {op? : Option Opcode} {code : Code}
    (h : kindOp line symbol kind op? = .ok code) : ∃ op, op? = some op ∧ code = Code.ofOps line [op] := by
  cases op? with
  | none => cases h
  | some op =>
    cases h
    exact ⟨op, rfl, rfl⟩

theorem convert_ok {c : Catalog H} {line : Nat} {source target : Ty} {code : Code}
    (h : Generation.convert c line source target = .ok code) :
    ∃ conversion, c.conversion? source target = some conversion ∧ code = Code.ofOps line conversion.code := by
  unfold Generation.convert at h
  split at h
  next conversion found =>
    cases h
    exact ⟨conversion, found, rfl⟩
  · cases h

theorem jumpOperand_ok {distance : Nat} {operand : UInt16} (h : jumpOperand distance = .ok operand) :
    operand.toNat = distance := by
  unfold jumpOperand at h
  split at h
  next fits =>
    cases h
    simp only [maxOperand] at fits
    simp
    omega
  · cases h

theorem skipping_ok {line : Nat} {op : Opcode} {body code : Code} (h : skipping line op body = .ok code) :
    ∃ past : UInt16, past.toNat = body.size ∧ code = (line, .wide op past) :: body := by
  obtain ⟨past, fits, rfl⟩ := map_ok h
  exact ⟨past, jumpOperand_ok fits, rfl⟩

/-- The jump behind an operand passes over a pop and the rest of the chain. -/
theorem layChain_operand (line : Nat) (exit : Opcode) (operand next : Code) (rest : List Code) :
    layChain line exit (chainSize (operand :: next :: rest)) (operand :: next :: rest) =
      jumpOperand (1 + chainSize (next :: rest)) >>= fun distance =>
        (layChain line exit (chainSize (next :: rest)) (next :: rest)).map fun others =>
          operand ++ (line, .wide exit distance) :: (Code.ofOps line [.pop] ++ others) := by
  have total : chainSize (operand :: next :: rest) = operand.size + 4 + chainSize (next :: rest) := rfl
  have passed : chainSize (operand :: next :: rest) - (operand.size + 3) = 1 + chainSize (next :: rest) := by
    rw [total]
    omega
  have shape (distance : UInt16) (others : Code) :
      operand ++ [(line, .wide exit distance), (line, .bare .pop)] ++ others =
        operand ++ (line, .wide exit distance) :: (Code.ofOps line [.pop] ++ others) := by simp [Code.ofOps]
  rw [layChain, passed, total, Nat.add_sub_cancel_left]
  · simp only [bind_pure_map, shape]
  · exact List.cons_ne_nil next rest

theorem layChain_cons {line : Nat} {exit : Opcode} {operand next code : Code} {rest : List Code}
    (laid : layChain line exit (chainSize (operand :: next :: rest)) (operand :: next :: rest) = .ok code) :
    ∃ (distance : UInt16) (others : Code), distance.toNat = 1 + chainSize (next :: rest) ∧
      layChain line exit (chainSize (next :: rest)) (next :: rest) = .ok others ∧
      code = operand ++ (line, .wide exit distance) :: (Code.ofOps line [.pop] ++ others) := by
  rw [layChain_operand] at laid
  obtain ⟨distance, fits, laid⟩ := bind_ok laid
  obtain ⟨others, inner, rfl⟩ := map_ok laid
  exact ⟨distance, others, jumpOperand_ok fits, inner, rfl⟩

theorem layChain_size {line : Nat} {exit : Opcode} {codes : List Code} {code : Code}
    (laid : layChain line exit (chainSize codes) codes = .ok code) : code.size = chainSize codes := by
  induction codes generalizing code with
  | nil =>
    cases laid
    rfl
  | cons operand rest ih =>
    cases rest with
    | nil =>
      cases laid
      rfl
    | cons next rest =>
      obtain ⟨distance, others, _, inner, rfl⟩ := layChain_cons laid
      simp only [Code.size_append, Code.size_cons, Code.size_ofOps, ih inner, chainSize, Instr.size,
        List.length_singleton]
      omega

end Generation

open Generate.Yields in
open Typed in
/-- Generated code has its layout, and links the methods of the call sites in their order. -/
theorem Typed.draft_yields {c : Catalog H} {t : Typed H} (typed : t.WellTyped c) :
    Generate.Yields t.selected (t.draft c) fun F d => Laid c F t d := by
  induction typed with
  | literal =>
    unfold draft
    refine ((literal_yields _ _).bind fun code => pure ?_).node ?_
    · rintro F ⟨i, rfl, loads⟩
      exact .closed (.literal loads)
    · rfl
  | numeric _ _ _ _ ihl ihr =>
    unfold draft
    refine (ihl.part.bind fun a => ihr.part.bind fun b => (lift _).bind fun o => pure ?_).node ?_
    · intro F operation right left
      obtain ⟨op, found, rfl⟩ := kindOp_ok operation
      exact .closed (.numeric left right found)
    · simp
  | concat _ _ _ ihl ihr =>
    unfold draft
    refine (ihl.bind fun a => (lift _).bind fun left => ihr.bind fun b => (lift _).bind fun right =>
      pure ?_).node ?_
    · intro F rightOperands right leftOperands left
      exact .joined (.join (left.concatOperands leftOperands) (right.concatOperands rightOperands))
    · simp
  | negate _ _ ih =>
    unfold draft
    refine (ih.part.bind fun a => (lift _).bind fun o => pure ?_).node ?_
    · intro F operation operand
      obtain ⟨op, found, rfl⟩ := kindOp_ok operation
      exact .closed (.negate operand found)
    · simp
  | logical _ _ _ _ ihl ihr =>
    unfold draft
    refine (ihl.bind fun a => (lift _).bind fun left => ihr.bind fun b => (lift _).bind fun right =>
      pure ?_).node ?_
    · intro F rightOperands right leftOperands left
      exact .chained (.chain (left.chainOperands leftOperands) (right.chainOperands rightOperands))
    · simp
  | not _ _ ih =>
    unfold draft
    refine (ih.part.bind fun a => pure fun F operand => ?_).node ?_
    · exact .closed (.not operand)
    · simp
  | empty _ ih =>
    unfold draft
    refine (ih.part.bind fun a => pure fun F operand => ?_).node ?_
    · exact .closed (.empty operand)
    · simp
  | equality _ _ ihl ihr =>
    unfold draft
    refine (ihl.part.bind fun a => ihr.part.bind fun b => pure fun F right left => ?_).node ?_
    · exact .closed (.equality left right)
    · simp
  | ordering _ _ _ ihl ihr =>
    unfold draft
    refine (ihl.part.bind fun a => ihr.part.bind fun b => (lift _).bind fun o => pure ?_).node ?_
    · intro F operation right left
      obtain ⟨op, found, rfl⟩ := kindOp_ok operation
      exact .closed (.ordering left right found)
    · simp
  | @comparison _ _ s _ _ _ _ _ _ _ _ _ _ _ _ ihl ihr =>
    unfold draft
    cases argument : s.conversions.head? with
    | none =>
      refine (ihl.part.bind fun a => ihr.part.bind fun b => fail [s.method]).node ?_
      simp
    | some conversion =>
      simp only [pure_bind]
      refine (ihl.part.bind fun a => ihr.part.bind fun b => (call_yields _ _ _ _).bind fun body =>
        (lift _).bind fun o => pure ?_).node ?_
      · rintro F operation ⟨f, n, rfl, one, target⟩ right left
        obtain rfl : n = 1 := UInt8.toNat_inj.mp one
        obtain ⟨op, found, rfl⟩ := kindOp_ok operation
        exact .closed (.comparison left right argument target found)
      · simp
  | instanceOf _ _ _ ih =>
    unfold draft
    refine (ih.part.bind fun a => (typeOp_yields _ _ _).bind fun test => pure ?_).node ?_
    · rintro F ⟨n, rfl, entry⟩ operand
      exact .closed (.instanceOf operand entry)
    · simp
  | «matches» _ _ compiled ih =>
    unfold draft
    refine (ih.part.bind fun a => (pattern_yields _ (Pattern.compileWhole?_isRead compiled)).bind fun test =>
      pure ?_).node ?_
    · rintro F ⟨n, rfl, entry⟩ operand
      exact .closed (.matches operand entry)
    · simp
  | ternary _ _ _ _ _ _ ihc iht ihe =>
    unfold draft
    refine (ihc.part.bind fun a => iht.part.bind fun b => (lift _).bind fun b' => (lift _).bind fun toElse =>
      ihe.part.bind fun d => (lift _).bind fun d' => (lift _).bind fun otherwise => pure ?_).node ?_
    · intro F skips elseConverts elseBranch jumps thenConverts thenBranch test
      obtain ⟨_, thenFound, rfl⟩ := convert_ok thenConverts
      obtain ⟨_, elseFound, rfl⟩ := convert_ok elseConverts
      obtain ⟨past, pastSize, rfl⟩ := skipping_ok skips
      exact .closed (.ternary test thenBranch elseBranch thenFound elseFound (jumpOperand_ok jumps) pastSize)
    · simp
  | elvis _ _ _ _ ihl ihr =>
    unfold draft
    refine (ihl.part.bind fun a => ihr.part.bind fun b => (lift _).bind fun b' => (lift _).bind fun present =>
      (lift _).bind fun a' => (lift _).bind fun otherwise => pure ?_).node ?_
    · intro F skips leftConverts jumps rightConverts right left
      obtain ⟨_, leftFound, rfl⟩ := convert_ok leftConverts
      obtain ⟨_, rightFound, rfl⟩ := convert_ok rightConverts
      obtain ⟨past, pastSize, rfl⟩ := skipping_ok skips
      exact .closed (.elvis left right leftFound rightFound (jumpOperand_ok jumps) pastSize)
    · simp
  | arrayIndex _ _ _ _ ihe ihi =>
    unfold draft
    refine (ihe.part.bind fun a => ihi.part.bind fun b => pure fun F position target => ?_).node ?_
    · exact .closed (.arrayIndex target position)
    · simp
  | listIndex _ _ _ _ _ ihe ihi =>
    unfold draft
    refine (ihe.part.bind fun a => ihi.part.bind fun b => (check_yields _ _).bind fun d =>
      pure fun F checked position target => ?_).node ?_
    · exact .closed (.listIndex target position checked)
    · simp
  | mapIndex _ _ _ _ _ ihe ihi =>
    unfold draft
    refine (ihe.part.bind fun a => ihi.part.bind fun b => (check_yields _ _).bind fun d =>
      pure fun F checked position target => ?_).node ?_
    · exact .closed (.mapIndex target position checked)
    · simp
  | arrayLength _ _ ih =>
    unfold draft
    refine (ih.part.bind fun a => (lift _).bind fun access => pure fun F laid receiver => ?_).node ?_
    · exact .closed (.arrayLength receiver laid)
    · simp
  | property _ _ ih =>
    unfold draft
    refine (ih.part.bind fun a => (call_yields _ _ _ _).bind fun body => (lift _).bind fun access =>
      pure ?_).node ?_
    · rintro F laid ⟨f, n, rfl, none, target⟩ receiver
      obtain rfl : n = 0 := UInt8.toNat_inj.mp none
      exact .closed (.property receiver target laid)
    · simp
  | @call _ _ s _ _ _ _ _ _ _ _ ih iha =>
    unfold draft
    cases kind : s.method.isStatic
    all_goals
      simp only [pure_bind, Bool.false_eq_true, if_true, if_false]
      refine (ih.part.bind fun a => (codes_yields iha).bind fun each => (lift _).bind fun passing =>
        (call_yields _ _ _ _).bind fun body => (lift _).bind fun access => pure ?_).node ?_
      · rintro F laid ⟨f, n, rfl, count, target⟩ passed ⟨each, arguments⟩ receiver
        exact .closed (.call receiver each arguments passed target count (by simpa [kind] using laid))
      · simp
  | staticCall _ _ _ _ _ iha =>
    unfold draft
    refine ((codes_yields iha).bind fun each => (lift _).bind fun passing => (call_yields _ _ _ _).bind fun body =>
      pure ?_).node ?_
    · rintro F ⟨f, n, rfl, count, target⟩ passed ⟨each, arguments⟩
      exact .closed (.staticCall each arguments passed target count)
    · simp
  | parameter =>
    unfold draft
    refine ((lift _).bind fun i => (check_yields _ _).bind fun d => pure ?_).node ?_
    · intro F checked counted
      obtain ⟨n, rfl, number⟩ := countInstr_ok counted
      exact .closed (.parameter number checked)
    · rfl
  | contextProperty =>
    unfold draft
    refine ((typeOp_yields _ _ _).bind fun bean => (call_yields _ _ _ _).bind fun body => pure ?_).node ?_
    · rintro F ⟨f, n, rfl, none, target⟩ ⟨b, rfl, entry⟩
      obtain rfl : n = 0 := UInt8.toNat_inj.mp none
      exact .closed (.contextProperty entry target)
    · rfl
  | @contextCall line s args _ _ _ iha =>
    unfold draft
    cases kind : s.method.isStatic with
    | true =>
      simp only [pure_bind, if_true]
      refine ((codes_yields iha).bind fun each => (lift _).bind fun passing =>
        (call_yields _ _ _ _).bind fun body => pure ?_).node ?_
      · rintro F ⟨f, n, rfl, count, target⟩ passed ⟨each, arguments⟩
        exact .closed (.contextStaticCall kind each arguments passed target count)
      · simp
    | false =>
      refine ((typeOp_yields _ _ _).bind fun receiver => (codes_yields iha).bind fun each =>
        (lift _).bind fun passing => (call_yields _ _ _ _).bind fun body => pure ?_).node ?_
      · rintro F ⟨f, n, rfl, count, target⟩ passed ⟨each, arguments⟩ ⟨b, rfl, entry⟩
        exact .closed (.contextCall kind entry each arguments passed target count)
      · simp
  | this =>
    unfold draft
    refine ((check_yields _ _).bind fun d => pure fun F checked => ?_).node ?_
    · exact .closed (.this checked)
    · rfl
  | bean =>
    unfold draft
    refine ((typeOp_yields _ _ _).bind fun code => pure ?_).node ?_
    · rintro F ⟨n, rfl, entry⟩
      exact .closed (.bean entry)
    · rfl
  | environment _ _ ih =>
    unfold draft
    refine (ih.part.bind fun a => pure fun F key => ?_).node ?_
    · exact .closed (.environment key)
    · simp

theorem convertEach_split {line : Nat} (start : Nat) (codes : List Code) (conversions : List Conversion) :
    convertEach line codes conversions =
      convertEach line (codes.take start) conversions ++
        convertEach line (codes.drop start) (conversions.drop start) := by
  induction start generalizing codes conversions with
  | zero => simp [convertEach]
  | succ start ih =>
    cases codes with
    | nil => simp [convertEach]
    | cons code codes =>
      cases conversions with
      | nil => simp [convertEach]
      | cons conversion conversions =>
        have rest := ih codes conversions
        simp only [convertEach, List.take_succ_cons, List.drop_succ_cons, List.zipWith_cons_cons,
          List.flatten_cons, List.append_assoc] at rest ⊢
        rw [rest]

/-- The code of a program has its layout, and its table holds the methods of the call sites. -/
theorem Typed.generate_layout {c : Catalog H} {t : Typed H} {code : Code} {T : Tables H}
    (typed : t.WellTyped c) (h : t.generate c = .ok (code, T)) :
    Layout c T t (.closed code) ∧ Tables.empty.Grows t.selected T := by
  obtain ⟨grows, laid⟩ := (Typed.draft_yields typed).part .empty T code Tables.empty_valid h
  exact ⟨laid T (.refl T), grows⟩

/-- What a successful compilation consists of. -/
theorem Expr.compile_generates {ctx : Context H} {e : Expr} {p : Program H} (h : e.compile ctx = .ok p) :
    ∃ t code, (e.resolve ctx .blank).1 = .ok t ∧ t.generate ctx.catalog = .ok (code, p.tables) ∧
      p.chunk = Code.chunk (code ++ Code.ofOps e.span.line [.return]) ∧ p.type = t.type ∧
      p.catalog = ctx.catalog := by
  unfold compile compileWith at h
  split at h
  · cases h
  next t m resolved =>
    have settled : (e.resolve ctx .blank).1 = .ok t := by rw [resolved]
    split at h
    · cases h
    next code T generated =>
      cases h
      exact ⟨t, code, settled, generated, rfl, rfl, rfl⟩

theorem Expr.compile_ok {ctx : Context H} {e : Expr} {p : Program H} (h : e.compile ctx = .ok p) :
    ∃ t code, (e.resolve ctx .blank).1 = .ok t ∧ t.WellTyped ctx.catalog ∧
      Layout ctx.catalog p.tables t (.closed code) ∧ Tables.empty.Grows t.selected p.tables ∧
      p.chunk = Code.chunk (code ++ Code.ofOps e.span.line [.return]) ∧ p.type = t.type ∧
      p.catalog = ctx.catalog := by
  obtain ⟨t, code, settled, generated, whole, type, sameCatalog⟩ := Expr.compile_generates h
  have typed := Expr.resolve_typed settled
  obtain ⟨layout, grows⟩ := Typed.generate_layout typed generated
  exact ⟨t, code, settled, typed, layout, grows, whole, type, sameCatalog⟩

end TypedExpr
