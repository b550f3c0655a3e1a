import Mathlib.Data.List.Nodup
import TypedExpr.Proofs.Soundness
/-!
# Runs of compiled programs are safe

A compiled program ends with one value on the stack and is never at fault itself, whatever the host does
(`Expr.compile_safe`). If the host returns values of the types that it declared, the value of the program is one
of its static type, and no operation meets an operand of a type that it does not work on
(`Expr.compile_sound`).
-/

namespace TypedExpr

open Machine Catalog

variable {H : Type} [HostObject H]

/-- A run leads to the end of the program with one value of its type, or fails through no fault of the bytecode.
What the host returns counts only where it is trusted. -/
theorem Expr.compile_leads {ctx : Context H} {e : Expr} {p : Program H} (compiled : e.compile ctx = .ok p) :
    ∃ t, (e.resolve ctx .blank).1 = .ok t ∧ ∀ (env : Environment H) (trusted : Prop) (names : Set String),
      (trusted → t.Trusted ctx.catalog env names) →
      (∀ x ∈ p.chunk.callOffsets.zip t.sites, trusted → Honest p env x.1 x.2.2) →
      Leads p env (fun i s => trusted → Reads p env i s)
        (fun s => Fits trusted ctx.catalog [p.type] s.stack ∧ p.chunk.instrAt? s.offset = some (.bare .return))
        (Excused p env) {} := by
  obtain ⟨t, code, resolved, typed, layout, _, type, sameCatalog, held, isReturn, offsets⟩ :=
    Expr.compile_stands compiled
  refine ⟨t, resolved, fun env trusted names trust honest => ?_⟩
  rw [← sameCatalog] at typed layout trust ⊢
  rw [offsets] at honest
  have transfers := layout.transfers typed trust []
  refine (transfers.runs 0 [] honest .nil held .refl).mono ?_
  rintro s ⟨fits, atEnd⟩
  rw [Nat.zero_add] at atEnd
  exact ⟨type ▸ fits, atEnd ▸ isReturn⟩

/-- A run keeps to the rules of the machine, whatever the host supplies. -/
structure Machine.Safe (p : Program H) (env : Environment H) : Prop where
  /-- The run ends, and executes no more instructions than the program has bytes. -/
  ends : ∃ n ≤ p.chunk.size, Executes p env {} n (p.run env)
  /-- It never stands where there is no instruction. -/
  proceeds : ∀ s, Reached p env s → (p.chunk.instrAt? s.offset).isSome = true
  /-- An error that blames the bytecode comes from a native that was called. -/
  excused : ∀ message, p.run env = .error (.invalidBytecode message) → ∃ s m receiver args, Reached p env s ∧
    Calls p s m receiver args ∧ m.native receiver args = .error (.invalidBytecode message)
  /-- At the end there is exactly one value. -/
  single : ∀ s, Reached p env s → p.chunk.instrAt? s.offset = some (.bare .return) → ∃ v, s.stack = [v]

/-- Runs of compiled expressions are safe. -/
theorem Expr.compile_safe {ctx : Context H} {e : Expr} {p : Program H} (compiled : e.compile ctx = .ok p)
    (env : Environment H) : Safe p env := by
  obtain ⟨t, _, leads⟩ := Expr.compile_leads compiled
  -- Nothing is trusted, so the types say no more than the height of the stack.
  have led := leads env False ∅ False.elim fun _ _ => False.elim
  have one (stack : List (Value H)) (fits : Fits False ctx.catalog [p.type] stack) : ∃ v, stack = [v] := by
    obtain ⟨v, rest, rfl, _, none⟩ := fits_cons.mp fits
    cases none
    exact ⟨v, rfl⟩
  refine ⟨run_executes p env, fun s reached => ?_, fun message failed => ?_, fun s reached isReturn => ?_⟩
  · rcases led.along (fun _ => And.right) reached with ⟨_, found⟩ | ⟨i, found, _⟩ <;> rw [found] <;> rfl
  · rcases led.run fun _ => And.right with ⟨s, ⟨fits, _⟩, ran⟩ | ⟨e, excused, ran⟩
    · obtain ⟨v, single⟩ := one _ fits
      rw [ran, single] at failed
      cases failed
    · exact excused message (Except.error.inj (ran.symm.trans failed))
  · rcases led.along (fun _ => And.right) reached with ⟨fits, _⟩ | ⟨i, found, goesOn, _⟩
    · exact one _ fits
    · exact absurd (Option.some.inj (found.symm.trans isReturn)) goesOn

/-- A host that has only parcels. -/
structure Parcel where
  note : String
  deriving DecidableEq

instance : HostObject Parcel where
  typeOf _ := .ofName "Parcel"
  text o := o.note
  inspect o := o.note
  equals a b := a == b
  compare? _ _ := none

def parcelType : TypeDef Parcel where
  name := "Parcel"
  methods := [.declare (.ofName "Parcel") "note" [] .object fun receiver _ =>
    match receiver with
    | .object o => .ok (.string o.note)
    | _ => .ok .null]

def parcelContext : Context Parcel where
  catalog := ⟨builtinTypes ++ [parcelType]⟩
  scope := ((({} : Declarations Parcel).parameter "parcel" (.ofName "Parcel")).parameter "weight"
    (.boxed .int)).scope

/-- The expression `parcel.note() == 'fragile' ? weight + 1 : 0`. -/
def parcelExpr : Expr :=
  .ternary default
    (.equality default false (.call default (.name default "parcel") "note" [] false)
      (.literal default (.string "fragile")))
    (.arithmetic default .add (.name default "weight") (.literal default (.int 1))) (.literal default (.int 0))

def parcelEnvironment : Environment Parcel where
  argument index := ([.object ⟨"fragile"⟩, .int 41] : List (Value Parcel))[index]?
  bean t := if t = .ofName "Parcel" then some (.object ⟨"sturdy"⟩) else none

theorem parcelExpr_succeeds : ∃ p v, parcelExpr.compile parcelContext = .ok p ∧
    p.run parcelEnvironment = .ok v := by
  have succeeds : ((parcelExpr.compile parcelContext).toOption.bind fun p =>
      (p.run parcelEnvironment).toOption).isSome = true := by decide +kernel
  obtain ⟨v, found⟩ := Option.isSome_iff_exists.mp succeeds
  obtain ⟨p, isProgram, ran⟩ := Option.bind_eq_some_iff.mp found
  exact ⟨p, v, toOption_some isProgram, toOption_some ran⟩

theorem parcelExpr_safe : ∃ p, parcelExpr.compile parcelContext = .ok p ∧ ∀ env, Safe p env := by
  obtain ⟨p, _, compiled, _⟩ := parcelExpr_succeeds
  exact ⟨p, compiled, Expr.compile_safe compiled⟩

/-- Where beans and natives return values of the types that the expression has for them, so does the run of the
expression, and nothing on the way reads a value as one of another type. -/
theorem Expr.compile_sound {ctx : Context H} {e : Expr} {p : Program H} (compiled : e.compile ctx = .ok p) :
    ∃ t, (e.resolve ctx .blank).1 = .ok t ∧ ∀ (env : Environment H) (names : Set String),
      t.Trusted ctx.catalog env names → (∀ x ∈ p.chunk.callOffsets.zip t.sites, Honest p env x.1 x.2.2) →
      (∀ v, p.run env = .ok v → ctx.catalog.Inhabits p.type v) ∧
      ∀ s i, Reached p env s → p.chunk.instrAt? s.offset = some i → Reads p env i s := by
  obtain ⟨t, resolved, leads⟩ := Expr.compile_leads compiled
  refine ⟨t, resolved, fun env names trust honest => ?_⟩
  have led := leads env True names (fun _ => trust) fun x member _ => honest x member
  refine ⟨fun v ran => ?_, fun s i reached found => ?_⟩
  · rcases led.run fun _ => And.right with ⟨s, ⟨fits, _⟩, ended⟩ | ⟨e, _, failed⟩
    · obtain ⟨w, rest, single, inhabits, _⟩ := fits_cons.mp fits
      rw [ended, single] at ran
      cases ran
      exact inhabits trivial
    · rw [failed] at ran
      cases ran
  · rcases led.along (fun _ => And.right) reached with ⟨_, isReturn⟩ | ⟨j, found', _, reads⟩
    · cases found.symm.trans isReturn
      exact reads_of_plain rfl (by simp [Instr.op])
    · cases found.symm.trans found'
      exact reads trivial

def parcelNames : List String :=
  intrinsicNames ++ ["CharSequence", "Comparable", "Number", "Collection", "Math", "Parcel"]

theorem parcel_registered : parcelContext.catalog.Registered fun n => isReserved n = false := by
  refine .type .builtin (d := parcelType) (by decide) ?_
  have fresh : ((builtin : Catalog Parcel).find? parcelType.digest).isSome = false := by decide +kernel
  rw [addType, fresh]
  simp [parcelType, Method.declare, TypeDef.digest, Ty.digest?, Ty.ofName, parcelContext, builtin]

theorem parcel_distinct : parcelContext.catalog.Distinct {n | n ∈ parcelNames} where
  injective n member m member' same := by
    have different : (parcelNames.map Digest.ofName).Nodup := by decide +kernel
    exact List.inj_on_of_nodup_map different member member' same
  intrinsic n member := List.mem_append_left _ member
  registered := by decide +kernel
  hosts _ := by
    have within : (Ty.ofName "Parcel").Within {n | n ∈ parcelNames} := by decide
    have boxless : ∀ s ∈ parcelContext.catalog.hierarchy (.ofName "Parcel"), s.isBoxed = false := by
      decide +kernel
    exact ⟨⟨"Parcel", [], rfl⟩, within, boxless⟩

/-- The types that occur in the expression. -/
def parcelTypes : List Ty := [.int, .boxed .int, .boolean, .string, .object, .ofName "Parcel"]

theorem parcelTypes_within : ∀ t ∈ parcelTypes, t.Within {n | n ∈ parcelNames} := by decide

theorem parcelExpr_trusted {t : Typed Parcel} (resolved : (parcelExpr.resolve parcelContext .blank).1 = .ok t) :
    t.Trusted parcelContext.catalog parcelEnvironment {n | n ∈ parcelNames} ∧
      ∀ site ∈ t.sites, site.2 = .object := by
  have checked : (parcelExpr.resolve parcelContext .blank).1.toOption.all (fun t =>
      t.nodes.all (fun u => parcelTypes.contains u.type && !u.isLoose) && t.sites.all (·.2 == .object)) := by
    decide +kernel
  rw [resolved] at checked
  simp only [Except.toOption, Option.all_some, Bool.and_eq_true, List.all_eq_true, List.contains_iff_mem,
    Bool.not_eq_true', beq_iff_eq] at checked
  obtain ⟨nodes, sites⟩ := checked
  refine ⟨⟨parcel_registered, parcel_distinct, fun u below => ?_, fun u below => (nodes u below).2, ?_⟩, sites⟩
  · exact parcelTypes_within _ (nodes u below).1
  · intro type v found
    unfold parcelEnvironment at found
    dsimp only at found
    split at found
    next same =>
      cases found
      rw [same]
      exact .inr (by decide +kernel)
    · cases found

theorem parcelExpr_sound : ∃ p t v, parcelExpr.compile parcelContext = .ok p ∧
    (parcelExpr.resolve parcelContext .blank).1 = .ok t ∧
    t.Trusted parcelContext.catalog parcelEnvironment {n | n ∈ parcelNames} ∧
    (∀ x ∈ p.chunk.callOffsets.zip t.sites, Honest p parcelEnvironment x.1 x.2.2) ∧
    p.run parcelEnvironment = .ok v ∧ parcelContext.catalog.Inhabits p.type v ∧
    ∀ s i, Reached p parcelEnvironment s → p.chunk.instrAt? s.offset = some i →
      Reads p parcelEnvironment i s := by
  obtain ⟨p, v, compiled, ran⟩ := parcelExpr_succeeds
  obtain ⟨t, resolved, sound⟩ := Expr.compile_sound compiled
  obtain ⟨trust, types⟩ := parcelExpr_trusted resolved
  have honest : ∀ x ∈ p.chunk.callOffsets.zip t.sites, Honest p parcelEnvironment x.1 x.2.2 := by
    intro x member s m receiver args v _ _ _ _
    exact inhabits_object v (by rw [types x.2 (List.of_mem_zip member).2]; rfl)
  obtain ⟨inhabits, reads⟩ := sound parcelEnvironment _ trust honest
  exact ⟨p, t, v, compiled, resolved, trust, honest, ran, inhabits v ran, reads⟩

/-- Two parameters; the name of the first one's type has the digest of `Object`. -/
def collidingContext : Context Parcel where
  catalog := .empty
  scope := ((({} : Declarations Parcel).parameter "p" (.ofName "ItemsmyxdsGT2GE4")).parameter "o" .object).scope

/-- The expression `p ?: o`. -/
def collidingExpr : Expr := .elvis default (.name default "p") (.name default "o")

def collidingEnvironment : Environment Parcel where
  argument index := ([.null, .array []] : List (Value Parcel))[index]?

theorem collidingExpr_unsound : ∃ p t v, collidingExpr.compile collidingContext = .ok p ∧
    (collidingExpr.resolve collidingContext .blank).1 = .ok t ∧
    collidingContext.catalog.Registered (fun n => isReserved n = false) ∧
    (∀ o : Parcel, HostObject.typeOf o = .declared "Parcel" [] ∧
      ∀ s ∈ collidingContext.catalog.hierarchy (HostObject.typeOf o), s.isBoxed = false) ∧
    (∀ u ∈ t.nodes, u.type.Within {n | n ∈ ["ItemsmyxdsGT2GE4", "Object"]} ∧ u.isLoose = false) ∧ t.sites = [] ∧
    (∀ type, collidingEnvironment.bean type = none) ∧ p.run collidingEnvironment = .ok v ∧
    ¬ collidingContext.catalog.Inhabits p.type v := by
  have evaluated : ((collidingExpr.compile collidingContext).toOption.bind fun p =>
      (p.run collidingEnvironment).toOption.map fun v =>
        (p.type, v.isNull || collidingContext.catalog.isInstance v (.ofName "ItemsmyxdsGT2GE4"))) =
      some (.ofName "ItemsmyxdsGT2GE4", false) := by decide +kernel
  have resolved : ((collidingExpr.resolve collidingContext .blank).1.toOption.map fun t => t.sites.isEmpty &&
      t.nodes.all fun u => decide (u.type.Within {n | n ∈ ["ItemsmyxdsGT2GE4", "Object"]}) && !u.isLoose) =
      some true := by decide +kernel
  have boxless : ∀ s ∈ collidingContext.catalog.hierarchy (.ofName "Parcel"), s.isBoxed = false := by
    decide +kernel
  obtain ⟨p, compiled, ran⟩ := Option.bind_eq_some_iff.mp evaluated
  obtain ⟨v, isValue, outcome⟩ := Option.map_eq_some_iff.mp ran
  obtain ⟨t, isTree, checked⟩ := Option.map_eq_some_iff.mp resolved
  obtain ⟨type, foreign⟩ := Prod.mk.inj outcome
  simp only [Bool.and_eq_true, List.isEmpty_iff, List.all_eq_true, decide_eq_true_eq,
    Bool.not_eq_true'] at checked
  refine ⟨p, t, v, toOption_some compiled, toOption_some isTree, .empty, fun _ => ⟨rfl, boxless⟩, checked.2,
    checked.1, fun _ => rfl, toOption_some isValue, ?_⟩
  rw [type]
  rintro (isNull | isInstance)
  · simp [isNull] at foreign
  · exact absurd isInstance (Bool.eq_false_iff.mp (Bool.or_eq_false_iff.mp foreign).2)

end TypedExpr
