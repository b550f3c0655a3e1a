import Mathlib.Logic.Relation
import TypedExpr.Machine
import TypedExpr.Proofs.Encoding
import TypedExpr.Proofs.Sequencing
/-!
# Runs of the machine

`Executes` is the run of a program without a bound on its length; `runFrom_executes` shows that every run ends
within as many instructions as there are bytes left. `Leads` follows a run through a piece of code, with an
assertion about each instruction that it executes.
-/

namespace TypedExpr.Machine

open Relation (ReflTransGen)

variable {H : Type} [HostObject H]

/-- From a state the machine executes a number of instructions and ends with a result. -/
inductive Executes (p : Program H) (env : Environment H) :
    State H → Nat → Except RunError (Value H) → Prop where
  | stuck {s : State H} (nothing : p.chunk.instrAt? s.offset = none) :
      Executes p env s 0 (.error (unreadable p s.offset))
  | halt {s : State H} (found : p.chunk.instrAt? s.offset = some (.bare .return)) :
      Executes p env s 1 (top s.stack)
  | fail {s : State H} {i : Instr} {e : RunError} (found : p.chunk.instrAt? s.offset = some i)
      (goesOn : i ≠ .bare .return) (failed : step p env i s = .error e) : Executes p env s 1 (.error e)
  | next {s s' : State H} {i : Instr} {n : Nat} {result : Except RunError (Value H)}
      (found : p.chunk.instrAt? s.offset = some i) (goesOn : i ≠ .bare .return)
      (stepped : step p env i s = .ok s') (rest : Executes p env s' n result) :
      Executes p env s (n + 1) result

/-- The machine executes an instruction and goes on. -/
def Next (p : Program H) (env : Environment H) (s s' : State H) : Prop :=
  ∃ i, p.chunk.instrAt? s.offset = some i ∧ i ≠ .bare .return ∧ step p env i s = .ok s'

/-- A state that the run of the program passes through. -/
def Reached (p : Program H) (env : Environment H) (s : State H) : Prop :=
  ReflTransGen (Next p env) {} s

omit [HostObject H] in
/-- In this state the machine calls the method on a receiver, which is null for a static method, with arguments. -/
inductive Calls (p : Program H) (s : State H) (m : Method H) : Value H → List (Value H) → Prop where
  | method {f : UInt16} {n : UInt8} {receiver : Value H} {args rest : List (Value H)}
      (found : p.chunk.instrAt? s.offset = some (.call .callMethod f n))
      (entry : p.tables.functions[f.toNat]? = some m) (operands : s.stack = args.reverse ++ receiver :: rest)
      (count : args.length = n.toNat) (present : receiver.isNull = false) : Calls p s m receiver args
  | static {f : UInt16} {n : UInt8} {args rest : List (Value H)}
      (found : p.chunk.instrAt? s.offset = some (.call .callStatic f n))
      (entry : p.tables.functions[f.toNat]? = some m) (operands : s.stack = args.reverse ++ rest)
      (count : args.length = n.toNat) : Calls p s m .null args

variable {p : Program H} {env : Environment H}

/-- Jumps only lead forward. -/
theorem step_offset {i : Instr} {s s' : State H} (h : step p env i s = .ok s') : s.offset < s'.offset := by
  have positive := i.size_pos
  cases i with
  | bare op | narrow op n | call op f n =>
    obtain ⟨stack, _, same⟩ := bind_ok h
    cases same
    exact Nat.lt_add_of_pos_right positive
  | wide op n =>
    simp only [step] at h
    split at h
    · obtain ⟨taken, _, same⟩ := bind_ok h
      cases same
      cases taken with
      | false => exact Nat.lt_add_of_pos_right positive
      | true => exact Nat.lt_add_right _ (Nat.lt_add_of_pos_right positive)
    · obtain ⟨stack, _, same⟩ := bind_ok h
      cases same
      exact Nat.lt_add_of_pos_right positive

/-- With fuel for every byte that is left, a run ends by itself. -/
theorem runFrom_executes (fuel : Nat) (s : State H) (enough : p.chunk.size < fuel + s.offset) :
    ∃ n ≤ p.chunk.size - s.offset, Executes p env s n (runFrom p env fuel s) := by
  induction fuel generalizing s with
  | zero =>
    have nothing : p.chunk.instrAt? s.offset = none := by
      cases found : p.chunk.instrAt? s.offset with
      | none => rfl
      | some i =>
        have inside := Chunk.lt_size_of_instrAt? found
        omega
    exact ⟨0, Nat.zero_le _, .stuck nothing⟩
  | succ fuel ih =>
    cases found : p.chunk.instrAt? s.offset with
    | none => exact ⟨0, Nat.zero_le _, by simpa only [runFrom, found] using .stuck found⟩
    | some i =>
      have inside := Chunk.lt_size_of_instrAt? found
      by_cases isReturn : i = .bare .return
      · subst i
        exact ⟨1, by omega, by simpa only [runFrom, found] using .halt found⟩
      · cases stepped : step p env i s with
        | error e =>
          refine ⟨1, by omega, ?_⟩
          have result : runFrom p env (fuel + 1) s = .error e := by
            rw [runFrom, found]
            split <;> simp_all
          exact result ▸ .fail found isReturn stepped
        | ok s' =>
          -- The step leads forward, so the fuel that is left covers the bytes that are left.
          have forward := step_offset stepped
          obtain ⟨n, bound, rest⟩ := ih s' (by omega)
          refine ⟨n + 1, by omega, ?_⟩
          have result : runFrom p env (fuel + 1) s = runFrom p env fuel s' := by
            rw [runFrom, found]
            split <;> simp_all
          exact result ▸ .next found isReturn stepped rest

/-- The run of a program executes no more instructions than the program has bytes. -/
theorem run_executes (p : Program H) (env : Environment H) :
    ∃ n ≤ p.chunk.size, Executes p env {} n (p.run env) :=
  runFrom_executes (p.chunk.size + 1) {} (by simp)

theorem Next.unique {s a b : State H} (first : Next p env s a) (second : Next p env s b) : a = b := by
  obtain ⟨i, found, _, stepped⟩ := first
  obtain ⟨j, found', _, stepped'⟩ := second
  cases found.symm.trans found'
  exact Except.ok.inj (stepped.symm.trans stepped')

theorem Executes.unique {s : State H} {n m : Nat} {r r' : Except RunError (Value H)}
    (first : Executes p env s n r) (second : Executes p env s m r') : n = m ∧ r = r' := by
  induction first generalizing m r' with
  | stuck nothing => cases second <;> simp_all
  | halt found => cases second <;> simp_all
  | fail found goesOn failed => cases second <;> simp_all
  | next found goesOn stepped rest ih =>
    cases second with
    | stuck | halt | fail => simp_all
    | next found' _ stepped' rest' =>
      cases found.symm.trans found'
      cases stepped.symm.trans stepped'
      obtain ⟨rfl, rfl⟩ := ih rest'
      exact ⟨rfl, rfl⟩

/-- From a state the run goes on to a state in `goal` or fails with an error in `failure`; `assertion` holds of
every instruction that it executes. -/
inductive Leads (p : Program H) (env : Environment H) (assertion : Instr → State H → Prop)
    (goal : State H → Prop) (failure : RunError → Prop) : State H → Prop where
  | done {s : State H} (here : goal s) : Leads p env assertion goal failure s
  | fail {s : State H} {i : Instr} {e : RunError} (found : p.chunk.instrAt? s.offset = some i)
      (goesOn : i ≠ .bare .return) (asserted : assertion i s) (failed : step p env i s = .error e)
      (allowed : failure e) : Leads p env assertion goal failure s
  | next {s s' : State H} {i : Instr} (found : p.chunk.instrAt? s.offset = some i)
      (goesOn : i ≠ .bare .return) (asserted : assertion i s) (stepped : step p env i s = .ok s')
      (rest : Leads p env assertion goal failure s') : Leads p env assertion goal failure s

namespace Leads

variable {assertion : Instr → State H → Prop} {goal goal' : State H → Prop} {failure : RunError → Prop}

/-- One run after another; the second one starts where the first one led. -/
theorem trans {s : State H} (first : Leads p env assertion goal failure s)
    (second : ∀ s', ReflTransGen (Next p env) s s' → goal s' → Leads p env assertion goal' failure s') :
    Leads p env assertion goal' failure s := by
  induction first with
  | done here => exact second _ .refl here
  | fail found goesOn asserted failed allowed => exact .fail found goesOn asserted failed allowed
  | next found goesOn asserted stepped rest ih =>
    refine .next found goesOn asserted stepped (ih fun s' reached here => ?_)
    exact second s' (.head ⟨_, found, goesOn, stepped⟩ reached) here

theorem mono {s : State H} (led : Leads p env assertion goal failure s) (weaker : ∀ s', goal s' → goal' s') :
    Leads p env assertion goal' failure s :=
  led.trans fun s' _ here => .done (weaker s' here)

theorem allow {failure' : RunError → Prop} {s : State H} (led : Leads p env assertion goal failure s)
    (weaker : ∀ e, failure e → failure' e) : Leads p env assertion goal failure' s := by
  induction led with
  | done here => exact .done here
  | fail found goesOn asserted failed allowed => exact .fail found goesOn asserted failed (weaker _ allowed)
  | next found goesOn asserted stepped _ ih => exact .next found goesOn asserted stepped ih

theorem ofStep {s : State H} {i : Instr} (found : p.chunk.instrAt? s.offset = some i)
    (goesOn : i ≠ .bare .return) (asserted : assertion i s) (failed : ∀ e, step p env i s = .error e → failure e)
    (stepped : ∀ s', step p env i s = .ok s' → Leads p env assertion goal failure s') :
    Leads p env assertion goal failure s := by
  cases result : step p env i s with
  | error e => exact .fail found goesOn asserted result (failed e result)
  | ok s' => exact .next found goesOn asserted result (stepped s' result)

/-- Where the goal is the end of the program, the run ends there or with an allowed error. -/
theorem executes {s : State H} (led : Leads p env assertion goal failure s)
    (ending : ∀ s', goal s' → p.chunk.instrAt? s'.offset = some (.bare .return)) :
    ∃ n r, Executes p env s n r ∧ ((∃ s', goal s' ∧ r = top s'.stack) ∨ ∃ e, failure e ∧ r = .error e) := by
  induction led with
  | done here => exact ⟨1, _, .halt (ending _ here), .inl ⟨_, here, rfl⟩⟩
  | fail found goesOn _ failed allowed => exact ⟨1, _, .fail found goesOn failed, .inr ⟨_, allowed, rfl⟩⟩
  | next found goesOn _ stepped _ ih =>
    obtain ⟨n, r, rest, outcome⟩ := ih
    exact ⟨n + 1, r, .next found goesOn stepped rest, outcome⟩

theorem run (led : Leads p env assertion goal failure {})
    (ending : ∀ s', goal s' → p.chunk.instrAt? s'.offset = some (.bare .return)) :
    (∃ s', goal s' ∧ p.run env = top s'.stack) ∨ ∃ e, failure e ∧ p.run env = .error e := by
  obtain ⟨n, r, executed, outcome⟩ := led.executes ending
  obtain ⟨m, _, actual⟩ := run_executes p env
  rw [(actual.unique executed).2]
  exact outcome

/-- What is asserted of the executed instructions holds in every state on the way. -/
theorem along {s u : State H} (led : Leads p env assertion goal failure s)
    (ending : ∀ s', goal s' → p.chunk.instrAt? s'.offset = some (.bare .return))
    (reached : ReflTransGen (Next p env) s u) :
    goal u ∨ ∃ i, p.chunk.instrAt? u.offset = some i ∧ i ≠ .bare .return ∧ assertion i u := by
  induction led with
  | @done s here =>
    rcases reached.cases_head with same | ⟨_, ⟨i, found, goesOn, _⟩, _⟩
    · exact .inl (same ▸ here)
    · rw [ending s here] at found
      exact absurd (Option.some.inj found).symm goesOn
  | @fail s i e found goesOn asserted failed _ =>
    rcases reached.cases_head with same | ⟨_, ⟨j, found', _, stepped⟩, _⟩
    · exact .inr ⟨i, same ▸ found, goesOn, same ▸ asserted⟩
    · cases found.symm.trans found'
      rw [failed] at stepped
      cases stepped
  | @next s s' i found goesOn asserted stepped _ ih =>
    rcases reached.cases_head with same | ⟨u, first, later⟩
    · exact .inr ⟨i, same ▸ found, goesOn, same ▸ asserted⟩
    · -- There is one way to go on, so the state on the way is behind the same step.
      exact ih (Next.unique ⟨i, found, goesOn, stepped⟩ first ▸ later)

end Leads

/-- Where the code stands at the offset and the run gets there with the stack, the run goes on to the end of
the code with a stack in `goal`, or fails as allowed. -/
def Runs (p : Program H) (env : Environment H) (assertion : Instr → State H → Prop) (failure : RunError → Prop)
    (offset : Nat) (code : Code) (stack : List (Value H)) (goal : List (Value H) → Prop) : Prop :=
  p.chunk.Holds offset code → Reached p env ⟨stack, offset⟩ →
    Leads p env assertion (fun s => goal s.stack ∧ s.offset = offset + code.size) failure ⟨stack, offset⟩

namespace Runs

variable {assertion : Instr → State H → Prop} {failure : RunError → Prop} {offset line : Nat}
  {stack : List (Value H)} {goal goal' : List (Value H) → Prop}

theorem nil (here : goal stack) : Runs p env assertion failure offset [] stack goal :=
  fun _ _ => .done ⟨here, rfl⟩

theorem mono {code : Code} {failure' : RunError → Prop} (runs : Runs p env assertion failure offset code stack goal)
    (weaker : ∀ stack', goal stack' → goal' stack') (allowed : ∀ e, failure e → failure' e) :
    Runs p env assertion failure' offset code stack goal' := fun held reached =>
  ((runs held reached).mono fun s here => ⟨weaker s.stack here.1, here.2⟩).allow allowed

theorem append {a b : Code} (first : Runs p env assertion failure offset a stack goal)
    (second : ∀ stack', goal stack' → Runs p env assertion failure (offset + a.size) b stack' goal') :
    Runs p env assertion failure offset (a ++ b) stack goal' := by
  intro held reached
  rw [Chunk.holds_append] at held
  refine (first held.1 reached).trans ?_
  rintro ⟨stack', _⟩ later ⟨here, rfl⟩
  rw [Code.size_append, ← Nat.add_assoc]
  exact second stack' here held.2 (reached.trans later)

theorem instr {i : Instr} (goesOn : i ≠ .bare .return) (asserted : assertion i ⟨stack, offset⟩)
    (failed : ∀ e, step p env i ⟨stack, offset⟩ = .error e → failure e)
    (stepped : ∀ s, step p env i ⟨stack, offset⟩ = .ok s → goal s.stack ∧ s.offset = offset + i.size) :
    Runs p env assertion failure offset [(line, i)] stack goal := by
  intro held _
  refine .ofStep held.1 goesOn asserted failed fun s h => .done ?_
  simpa using stepped s h

theorem jump_step {op : Opcode} (isJump : isJump op = true) (n : UInt16) (s : State H) :
    step p env (.wide op n) s = (jumps op s.stack).map fun taken =>
      ⟨s.stack, if taken then s.offset + 3 + n.toNat else s.offset + 3⟩ := by
  simp only [step, isJump, if_true]
  cases jumps op s.stack <;> rfl

theorem skip {op : Opcode} {n : UInt16} {body : Code} (isJump : isJump op = true) (size : n.toNat = body.size)
    (asserted : assertion (.wide op n) ⟨stack, offset⟩) (failed : ∀ e, jumps op stack = .error e → failure e)
    (taken : jumps op stack = .ok true → goal stack)
    (passed : jumps op stack = .ok false → Runs p env assertion failure (offset + 3) body stack goal) :
    Runs p env assertion failure offset ((line, .wide op n) :: body) stack goal := by
  intro held reached
  have stepped : step p env (.wide op n) ⟨stack, offset⟩ = _ := jump_step isJump n ⟨stack, offset⟩
  cases outcome : jumps op stack with
  | error e =>
    rw [outcome] at stepped
    exact .fail held.1 (by simp) asserted stepped (failed e outcome)
  | ok isTaken =>
    rw [outcome] at stepped
    refine .next held.1 (by simp) asserted stepped ?_
    cases isTaken with
    | true => exact .done ⟨taken outcome, by simp [size, Instr.size]; omega⟩
    | false =>
      have next : Next p env ⟨stack, offset⟩ ⟨stack, offset + 3⟩ := ⟨_, held.1, by simp, stepped⟩
      refine (passed outcome held.2 (reached.tail next)).mono ?_
      rintro s ⟨here, end_⟩
      exact ⟨here, by simp [end_, Instr.size]; omega⟩

theorem branch {op : Opcode} {n past : UInt16} {first second : Code} (isJump : isJump op = true)
    (size : n.toNat = first.size + 3) (pastSize : past.toNat = second.size)
    (asserted : assertion (.wide op n) ⟨stack, offset⟩) (assertedPast : ∀ s, assertion (.wide .jump past) s)
    (failed : ∀ e, jumps op stack = .error e → failure e)
    (taken : jumps op stack = .ok true →
      Runs p env assertion failure (offset + 3 + first.size + 3) second stack goal)
    (passed : jumps op stack = .ok false → Runs p env assertion failure (offset + 3) first stack goal) :
    Runs p env assertion failure offset ((line, .wide op n) :: (first ++ (line, .wide .jump past) :: second))
      stack goal := by
  intro held reached
  have stepped : step p env (.wide op n) ⟨stack, offset⟩ = _ := jump_step isJump n ⟨stack, offset⟩
  obtain ⟨found, rest⟩ := held
  rw [Chunk.holds_append] at rest
  cases outcome : jumps op stack with
  | error e =>
    rw [outcome] at stepped
    exact .fail found (by simp) asserted stepped (failed e outcome)
  | ok isTaken =>
    rw [outcome] at stepped
    refine .next found (by simp) asserted stepped ?_
    cases isTaken with
    | true =>
      have target : offset + 3 + n.toNat = offset + 3 + first.size + 3 := by omega
      simp only [if_true, target] at stepped ⊢
      have next : Next p env ⟨stack, offset⟩ _ := ⟨_, found, by simp, stepped⟩
      refine (taken outcome rest.2.2 (reached.tail next)).mono ?_
      rintro s ⟨here, end_⟩
      exact ⟨here, by simp [end_, Instr.size]; omega⟩
    | false =>
      have next : Next p env ⟨stack, offset⟩ ⟨stack, offset + 3⟩ := ⟨_, found, by simp, stepped⟩
      refine (passed outcome rest.1 (reached.tail next)).trans ?_
      rintro ⟨stack', _⟩ _ ⟨here, rfl⟩
      refine .next rest.2.1 (by simp) (assertedPast _) (jump_step rfl _ _) (.done ⟨here, ?_⟩)
      simp [Instr.size, pastSize]
      omega

end Runs
end TypedExpr.Machine
