import TypedExpr.Proofs.Correctness
/-!
# Which method a call selects

A method accepts arguments as they stand, or with the trailing ones collected in the array of its last parameter.
A call selects the one candidate that accepts its arguments in either way, and passes them so that the call
finds as many values as the method has parameters (`Catalog.selectMethod_spec`). The order in which the candidates
are listed does not matter, also not for the text of an error (`Catalog.selectMethod_perm`).
-/

namespace TypedExpr

open Machine Generation

variable {H : Type}

theorem Ty.isArray_iff_dimensions (t : Ty) : t.isArray = false ↔ t.dimensions = 0 := by
  cases t <;> simp [Ty.isArray, Ty.dimensions]

namespace Catalog

/-- There is an argument for each parameter, and it is assignable to it. -/
def AppliesExactly (c : Catalog H) (m : Method H) (arguments : List Ty) : Prop :=
  arguments.length = m.parameters.length ∧
    ∀ x ∈ arguments.zip m.parameters, c.isAssignable x.1 x.2 = true

/-- The last parameter is an array, which takes the arguments that remain after the other parameters have
theirs; there may be none. The array has one dimension unless the method is declared variadic. -/
def AppliesExpanded (c : Catalog H) (m : Method H) (arguments : List Ty) : Prop :=
  ∃ last ∈ m.parameters.getLast?, (m.isVarargs = true ∨ last.dimensions = 1) ∧
    ∃ element ∈ last.component?, m.parameters.length - 1 ≤ arguments.length ∧
      (∀ x ∈ (arguments.take (m.parameters.length - 1)).zip (m.parameters.take (m.parameters.length - 1)),
        c.isAssignable x.1 x.2 = true) ∧
      ∀ a ∈ arguments.drop (m.parameters.length - 1), c.isAssignable a element = true

/-- The method accepts the arguments in one of the two ways. -/
def Applies (c : Catalog H) (m : Method H) (arguments : List Ty) : Prop :=
  c.AppliesExactly m arguments ∨ c.AppliesExpanded m arguments

instance (c : Catalog H) (m : Method H) (arguments : List Ty) : Decidable (c.AppliesExactly m arguments) :=
  inferInstanceAs (Decidable (_ ∧ _))

instance (c : Catalog H) (m : Method H) (arguments : List Ty) : Decidable (c.AppliesExpanded m arguments) :=
  inferInstanceAs (Decidable (∃ last ∈ m.parameters.getLast?, _))

instance (c : Catalog H) (m : Method H) (arguments : List Ty) : Decidable (c.Applies m arguments) :=
  inferInstanceAs (Decidable (_ ∨ _))

variable {c : Catalog H} {m : Method H} {arguments : List Ty}

theorem conversions?_isSome (arguments parameters : List Ty) :
    (c.conversions? arguments parameters).isSome = true ↔
      ∀ x ∈ arguments.zip parameters, c.isAssignable x.1 x.2 = true := by
  induction arguments generalizing parameters with
  | nil => simp [conversions?]
  | cons a as ih =>
    cases parameters with
    | nil => simp [conversions?]
    | cons p ps =>
      rw [List.zip_cons_cons, List.forall_mem_cons, ← ih ps, isAssignable]
      simp only [conversions?]
      cases c.conversion? a p with
      | none => simp
      | some first => cases c.conversions? as ps <;> simp

theorem conversionsTo?_isSome (target : Ty) (arguments : List Ty) :
    (c.conversionsTo? target arguments).isSome = true ↔
      ∀ a ∈ arguments, c.isAssignable a target = true := by
  induction arguments with
  | nil => simp [conversionsTo?]
  | cons a as ih =>
    rw [List.forall_mem_cons, ← ih, isAssignable]
    simp only [conversionsTo?]
    cases c.conversion? a target with
    | none => simp
    | some first => cases c.conversionsTo? target as <;> simp

theorem selectExact?_isSome : (c.selectExact? m arguments).isSome = true ↔ c.AppliesExactly m arguments := by
  unfold selectExact? AppliesExactly
  split
  next same => rw [Option.isSome_map, conversions?_isSome, and_iff_right same]
  next different => simp [different]

theorem selectExpanded?_isSome :
    (c.selectExpanded? m arguments).isSome = true ↔ c.AppliesExpanded m arguments := by
  unfold selectExpanded? AppliesExpanded
  cases last : m.parameters.getLast? with
  | none => simp
  | some t =>
    cases t with
    | array element =>
      have flat := Ty.isArray_iff_dimensions element
      simp only [Option.mem_def, Option.some.injEq, exists_eq_left', Ty.component?, Ty.dimensions]
      rw [← conversions?_isSome, ← conversionsTo?_isSome]
      split
      next accepted =>
        simp only [Bool.and_eq_true, Bool.or_eq_true, Bool.not_eq_true', decide_eq_true_eq, flat] at accepted
        obtain ⟨variadic, enough⟩ := accepted
        have declared : m.isVarargs = true ∨ element.dimensions + 1 = 1 :=
          variadic.imp_right fun zero => by rw [zero]
        rw [and_iff_right declared, and_iff_right enough]
        cases c.conversions? (arguments.take (m.parameters.length - 1))
            (m.parameters.take (m.parameters.length - 1)) with
        | none => simp
        | some before =>
          cases c.conversionsTo? element (arguments.drop (m.parameters.length - 1)) <;> simp
      next refused =>
        simp only [Bool.and_eq_true, Bool.or_eq_true, Bool.not_eq_true', decide_eq_true_eq, flat] at refused
        constructor
        · simp
        · rintro ⟨declared, enough, _⟩
          exact absurd ⟨declared.imp_right Nat.succ.inj, enough⟩ refused
    | _ => simp [Ty.component?]

theorem select?_isSome : (c.select? m arguments).isSome = true ↔ c.Applies m arguments := by
  rw [select?, Option.isSome_or, Bool.or_eq_true, selectExact?_isSome, selectExpanded?_isSome, Applies]

/-- What is found out about the candidates is in their order, each entry by itself. -/
theorem filterMap_select? (c : Catalog H) (arguments : List Ty) (candidates : List (Method H)) :
    (candidates.filterMap fun m => c.select? m arguments).map Selection.method =
      candidates.filter fun m => c.Applies m arguments := by
  induction candidates with
  | nil => rfl
  | cons m rest ih =>
    rw [List.filterMap_cons, List.filter_cons]
    cases found : c.select? m arguments with
    | none =>
      have refused : ¬ c.Applies m arguments := by
        rw [← select?_isSome, found]
        simp
      simpa [refused] using ih
    | some s =>
      have applies : c.Applies m arguments := by
        rw [← select?_isSome, found]
        rfl
      simp [applies, ih, select?_method found]

end Catalog

/-- What the argument at a position is converted to: the parameter there, or the element type of the array that
collects it. -/
def Selection.target? (s : Selection H) (position : Nat) : Option Ty :=
  if position < s.varargsStart.getD s.arity then s.method.parameters[position]? else s.element?

/-- How the selected method takes the arguments. -/
structure Selection.Fitted (c : Catalog H) (s : Selection H) (arguments : List Ty) : Prop where
  types : s.arguments = arguments
  start : s.varargsStart = if c.AppliesExactly s.method arguments then none else some (s.arity - 1)
  count : s.conversions.length = arguments.length
  converts : ∀ i a, arguments[i]? = some a → ∃ target conversion, s.target? i = some target ∧
    s.conversions[i]? = some conversion ∧ c.conversion? a target = some conversion

namespace Catalog

variable {c : Catalog H} {arguments : List Ty}

theorem conversions?_getElem {parameters : List Ty} {cs : List Conversion}
    (same : arguments.length = parameters.length) (found : c.conversions? arguments parameters = some cs)
    {i : Nat} {a : Ty} (isArgument : arguments[i]? = some a) :
    ∃ target conversion, parameters[i]? = some target ∧ cs[i]? = some conversion ∧
      c.conversion? a target = some conversion := by
  induction arguments generalizing parameters cs i with
  | nil => simp at isArgument
  | cons b as ih =>
    cases parameters with
    | nil => cases same
    | cons p ps =>
      obtain ⟨first, converts, found⟩ := Option.bind_eq_some_iff.mp found
      obtain ⟨rest, later, found⟩ := Option.bind_eq_some_iff.mp found
      cases found
      cases i with
      | zero =>
        cases isArgument
        exact ⟨p, first, rfl, rfl, converts⟩
      | succ i => exact ih (Nat.succ.inj same) later isArgument

theorem conversionsTo?_getElem {element : Ty} {cs : List Conversion}
    (found : c.conversionsTo? element arguments = some cs) {i : Nat} {a : Ty}
    (isArgument : arguments[i]? = some a) :
    ∃ conversion, cs[i]? = some conversion ∧ c.conversion? a element = some conversion := by
  induction arguments generalizing cs i with
  | nil => simp at isArgument
  | cons b as ih =>
    obtain ⟨first, converts, found⟩ := Option.bind_eq_some_iff.mp found
    obtain ⟨rest, later, found⟩ := Option.bind_eq_some_iff.mp found
    cases found
    cases i with
    | zero =>
      cases isArgument
      exact ⟨first, rfl, converts⟩
    | succ i => exact ih later isArgument

theorem selectExact?_fitted {m : Method H} {s : Selection H} (selected : c.selectExact? m arguments = some s) :
    s.Fitted c arguments := by
  have applies := selectExact?_isSome.mp (Option.isSome_of_eq_some selected)
  unfold selectExact? at selected
  split at selected
  next same =>
    obtain ⟨cs, found, rfl⟩ := Option.map_eq_some_iff.mp selected
    refine ⟨rfl, (if_pos applies).symm, (conversions?_spec same found).1, ?_⟩
    intro i a isArgument
    obtain ⟨target, conversion, isParameter, isConversion, converts⟩ := conversions?_getElem same found isArgument
    have inside : i < m.parameters.length := (List.getElem?_eq_some_iff.mp isParameter).1
    refine ⟨target, conversion, ?_, isConversion, converts⟩
    simpa [Selection.target?, Selection.arity, inside] using isParameter
  · cases selected

theorem selectExpanded?_fitted {m : Method H} {s : Selection H} (notExact : ¬ c.AppliesExactly m arguments)
    (selected : c.selectExpanded? m arguments = some s) : s.Fitted c arguments := by
  unfold selectExpanded? at selected
  split at selected
  next element last =>
    dsimp only at selected
    split at selected
    next accepted =>
      obtain ⟨before, found, selected⟩ := Option.bind_eq_some_iff.mp selected
      obtain ⟨after, found', selected⟩ := Option.bind_eq_some_iff.mp selected
      cases selected
      have enough : m.parameters.length - 1 ≤ arguments.length := by simp_all
      have same : (arguments.take (m.parameters.length - 1)).length =
          (m.parameters.take (m.parameters.length - 1)).length := by
        rw [List.length_take, List.length_take]
        omega
      have lengths := (conversions?_spec same found).1
      have lengths' := (conversionsTo?_spec found').1
      rw [List.length_take, Nat.min_eq_left enough] at lengths
      rw [List.length_drop] at lengths'
      refine ⟨rfl, (if_neg notExact).symm, ?_, ?_⟩
      · rw [List.length_append, lengths, lengths']
        omega
      · intro i a isArgument
        by_cases fixed : i < m.parameters.length - 1
        · -- A fixed argument has the parameter at its position.
          have isFixed : (arguments.take (m.parameters.length - 1))[i]? = some a := by
            rw [List.getElem?_take_of_lt fixed, isArgument]
          obtain ⟨target, conversion, isParameter, isConversion, converts⟩ :=
            conversions?_getElem same found isFixed
          rw [List.getElem?_take_of_lt fixed] at isParameter
          refine ⟨target, conversion, ?_, ?_, converts⟩
          · rw [Selection.target?, Option.getD_some, if_pos fixed]
            exact isParameter
          · rw [List.getElem?_append_left (by omega)]
            exact isConversion
        · have isCollected : (arguments.drop (m.parameters.length - 1))[i - (m.parameters.length - 1)]? = some a := by
            rw [List.getElem?_drop, Nat.add_sub_cancel' (by omega), isArgument]
          obtain ⟨conversion, isConversion, converts⟩ := conversionsTo?_getElem found' isCollected
          refine ⟨element, conversion, ?_, ?_, converts⟩
          · rw [Selection.target?, Option.getD_some, if_neg fixed]
            simp [Selection.element?, Selection.isVarargs, last, Ty.component?]
          · rw [List.getElem?_append_right (by omega), lengths]
            exact isConversion
    · cases selected
  · cases selected

theorem select?_fitted {m : Method H} {s : Selection H} (selected : c.select? m arguments = some s) :
    s.Fitted c arguments := by
  rcases Option.or_eq_some_iff.mp selected with exact | ⟨notExact, expanded⟩
  · exact selectExact?_fitted exact
  · refine selectExpanded?_fitted ?_ expanded
    rw [← selectExact?_isSome, notExact]
    simp

end Catalog

section Stack

variable [HostObject H] {p : Program H} {env : Environment H} {line : Nat}

/-- Wherever it stands, the code leaves so many values more on the stack, unless it fails. -/
def Machine.Adds (p : Program H) (env : Environment H) (n : Nat) (code : Code) : Prop :=
  ∀ offset stack, Runs p env (fun _ _ => True) (fun _ => True) offset code stack
    fun stack' => ∃ values, values.length = n ∧ stack' = values ++ stack

theorem Computes.runs {code : Code} {stack : List (Value H)} {result : Except RunError (List (Value H))}
    {goal : List (Value H) → Prop} (computes : Computes p env code stack result)
    (leads : ∀ stack', result = .ok stack' → goal stack') (offset : Nat) :
    Runs p env (fun _ _ => True) (fun _ => True) offset code stack goal :=
  (computes offset).mono leads fun _ _ => trivial

theorem Machine.Adds.convertEach {codes : List Code} {conversions : List Conversion}
    (same : codes.length = conversions.length) (each : ∀ code ∈ codes, Adds p env 1 code) :
    Adds p env codes.length (convertEach line codes conversions) := by
  induction codes generalizing conversions with
  | nil =>
    intro offset stack
    exact .nil ⟨[], rfl, rfl⟩
  | cons code codes ih =>
    cases conversions with
    | nil => cases same
    | cons conversion conversions =>
      intro offset stack
      have first := each code List.mem_cons_self
      have later := ih (Nat.succ.inj same) fun code member => each code (List.mem_cons_of_mem _ member)
      simp only [Generation.convertEach, List.zipWith_cons_cons, List.flatten_cons, List.append_assoc]
      refine (first offset stack).append ?_
      rintro stack₁ ⟨values, one, rfl⟩
      obtain ⟨v, rfl⟩ := List.length_eq_one_iff.mp one
      -- The conversion replaces the value on top; the other arguments go above it.
      have converted (offset : Nat) : Runs p env (fun _ _ => True) (fun _ => True) offset
          (Code.ofOps line conversion.code) (v :: stack) fun stack' => ∃ w, stack' = w :: stack := by
        refine Computes.conversion.runs ?_ offset
        intro stack' done
        obtain ⟨w, _, rfl⟩ := map_ok done
        exact ⟨w, rfl⟩
      refine (converted _).append ?_
      rintro stack₂ ⟨w, rfl⟩
      refine (later _ (w :: stack)).mono ?_ fun _ _ => trivial
      rintro stack₃ ⟨values, count, rfl⟩
      exact ⟨values ++ [w], by simp [count], by simp⟩

/-- Arguments that each push one value are passed as as many values as the method has parameters. They cannot be
passed only if there are too many to collect. -/
theorem Selection.Passes.adds {c : Catalog H} {s : Selection H} {types : List Ty} {codes : List Code}
    (passes : s.Passes c types) (same : codes.length = types.length)
    (each : ∀ code ∈ codes, Adds p env 1 code) :
    (∃ code, passArguments line s codes = .ok code ∧ Adds p env s.arity code) ∨
      ∃ count, maxOperand < count ∧ count ≤ types.length ∧
        passArguments line s codes = .error (.operandOverflow "array element" count) := by
  have lengths := passes.length
  have pushed : Adds p env codes.length (convertEach line codes s.conversions) :=
    .convertEach (same.trans lengths.symm) each
  unfold passArguments
  split
  next notCollected =>
    refine .inl ⟨_, rfl, ?_⟩
    rwa [passes.fixed notCollected, ← same]
  next start isStart =>
    obtain ⟨inside, arity⟩ := passes.collected start isStart
    have balanced : (codes.drop start).length = (s.conversions.drop start).length := by
      rw [List.length_drop, List.length_drop, same, lengths]
    dsimp only
    rw [if_neg (not_not.mpr balanced)]
    by_cases few : (codes.drop start).length ≤ maxOperand
    · have counted : countInstr .newArray "array element" (codes.drop start).length =
          .ok (.wide .newArray (codes.drop start).length.toUInt16) := by
        rw [countInstr, operand, if_pos few]
      obtain ⟨n, same', number⟩ := countInstr_ok counted
      rw [counted, same']
      refine .inl ⟨_, rfl, ?_⟩
      rw [← convertEach_split]
      intro offset stack
      refine (pushed offset stack).append ?_
      rintro _ ⟨values, count, rfl⟩
      rw [List.length_drop] at number
      -- The values to collect are on top.
      have split : values ++ stack = (values.take (codes.length - start)).reverse.reverse ++
          (values.drop (codes.length - start) ++ stack) := by
        rw [List.reverse_reverse, ← List.append_assoc, List.take_append_drop]
      rw [split]
      refine (Computes.newArray ?_).runs ?_ _
      · rw [List.length_reverse, List.length_take, count, number]
        omega
      · intro stack' collected
        cases collected
        refine ⟨_ :: values.drop (codes.length - start), ?_, rfl⟩
        rw [List.length_cons, List.length_drop, count, arity]
        omega
    · refine .inr ⟨_, Nat.lt_of_not_le few, ?_, by rw [countInstr, operand, if_neg few]; rfl⟩
      rw [List.length_drop]
      omega

end Stack

/-- A call selects a method iff exactly one entry of the candidates accepts the arguments; it fails for want of a
method iff none does, and as ambiguous iff several do. The selected method is the entry that accepts them. Its
trailing arguments are collected iff it does not accept the arguments as they stand. Each argument has its
conversion, and the code that passes them adds as many values to the stack as the call consumes. -/
theorem Catalog.selectMethod_spec [HostObject H] (c : Catalog H) (name : String) (candidates : List (Method H))
    (arguments : List Ty) (span : Span) :
    ((∃ s, c.selectMethod name candidates arguments span = .ok s) ↔
      candidates.countP (fun m => c.Applies m arguments) = 1) ∧
    ((∃ arguments' candidates', c.selectMethod name candidates arguments span =
        .error (.noMatchingMethod name arguments' candidates' span)) ↔
      candidates.countP (fun m => c.Applies m arguments) = 0) ∧
    ((∃ arguments' candidates', c.selectMethod name candidates arguments span =
        .error (.ambiguousMethod name arguments' candidates' span)) ↔
      2 ≤ candidates.countP fun m => c.Applies m arguments) ∧
    ∀ s, c.selectMethod name candidates arguments span = .ok s →
      (candidates.filter fun m => c.Applies m arguments) = [s.method] ∧ s.Fitted c arguments ∧
      ∀ (p : Program H) (env : Environment H) (line : Nat) (codes : List Code),
        codes.length = arguments.length → (∀ code ∈ codes, Adds p env 1 code) →
        (∃ code, passArguments line s codes = .ok code ∧ Adds p env s.arity code) ∨
          ∃ count, maxOperand < count ∧ count ≤ arguments.length ∧
            passArguments line s codes = .error (.operandOverflow "array element" count) := by
  have accepted := filterMap_select? c arguments candidates
  rw [List.countP_eq_length_filter, ← accepted, List.length_map]
  unfold selectMethod
  cases found : candidates.filterMap fun m => c.select? m arguments with
  | nil => simp
  | cons s more =>
    cases more with
    | cons s' rest => simp
    | nil =>
      refine ⟨by simp, by simp, by simp, ?_⟩
      intro s₁ same
      cases same
      have member : s ∈ candidates.filterMap fun m => c.select? m arguments := by simp [found]
      obtain ⟨m, isCandidate, selected⟩ := List.mem_filterMap.mp member
      have isMethod := select?_method selected
      refine ⟨rfl, select?_fitted selected, ?_⟩
      intro p env line codes same each
      have chosen : s.ChosenFor c arguments := by
        rw [Selection.ChosenFor, isMethod]
        exact selected
      exact chosen.passes.adds same each

/-- The methods `format(String, Object[])` and `format(String, int)`. -/
def formatMethods : List (Method Record) :=
  [.declare (.ofName "Text") "format" [.string, .array .object] .string fun _ _ => .ok .null,
    .declare (.ofName "Text") "format" [.string, .int] .string fun _ _ => .ok .null]

/-- A number and a truth value are collected after the text, one number alone could be passed in two ways, and a text
is needed in front. -/
theorem formatMethods_selectMethod_spec :
    (∃ s, Catalog.selectMethod ⟨[]⟩ "format" formatMethods [.string, .int, .boolean] default = .ok s ∧
      s.varargsStart = some 1 ∧ s.conversions.length = 3) ∧
    (∃ arguments candidates, Catalog.selectMethod ⟨[]⟩ "format" formatMethods [.string, .int] default =
      .error (.ambiguousMethod "format" arguments candidates default)) ∧
    ∃ arguments candidates, Catalog.selectMethod ⟨[]⟩ "format" formatMethods [.int] default =
      .error (.noMatchingMethod "format" arguments candidates default) := by
  refine ⟨?_, ?_, ?_⟩
  · obtain ⟨selects, _, _, selected⟩ :=
      Catalog.selectMethod_spec ⟨[]⟩ "format" formatMethods [.string, .int, .boolean] default
    obtain ⟨s, found⟩ := selects.mpr (by decide +kernel)
    obtain ⟨only, fitted, _⟩ := selected s found
    have listed : (formatMethods.filter fun m => Catalog.Applies ⟨[]⟩ m [.string, .int, .boolean]).map
        Method.parameters = [[.string, .array .object]] := by decide +kernel
    rw [only] at listed
    have parameters : s.method.parameters = [.string, .array .object] := List.head_eq_of_cons_eq listed
    have notExact : ¬ Catalog.AppliesExactly ⟨[]⟩ s.method [.string, .int, .boolean] := by
      rintro ⟨same, _⟩
      rw [parameters] at same
      cases same
    refine ⟨s, found, ?_, fitted.count⟩
    rw [fitted.start, if_neg notExact, Selection.arity, parameters]
    rfl
  · exact (Catalog.selectMethod_spec ⟨[]⟩ "format" formatMethods [.string, .int] default).2.2.1.mpr (by decide +kernel)
  · exact (Catalog.selectMethod_spec ⟨[]⟩ "format" formatMethods [.int] default).2.1.mpr (by decide +kernel)

theorem Catalog.candidateText_perm {methods methods' : List (Method H)} (permuted : methods.Perm methods') :
    candidateText methods = candidateText methods' := by
  have transitive (a b d : String) (first : decide (a ≤ b) = true) (later : decide (b ≤ d) = true) :
      decide (a ≤ d) = true :=
    decide_eq_true (String.le_trans (of_decide_eq_true first) (of_decide_eq_true later))
  have total (a b : String) : (decide (a ≤ b) || decide (b ≤ a)) = true := by
    rw [Bool.or_eq_true, decide_eq_true_eq, decide_eq_true_eq]
    exact String.le_total a b
  have sorted (texts : List String) := List.pairwise_mergeSort transitive total texts
  have rearranged : ((methods.map Method.qualifiedSignature).mergeSort fun a b => decide (a ≤ b)).Perm
      ((methods'.map Method.qualifiedSignature).mergeSort fun a b => decide (a ≤ b)) :=
    (List.mergeSort_perm _ _).trans ((permuted.map _).trans (List.mergeSort_perm _ _).symm)
  have same := rearranged.eq_of_pairwise
    (fun a b _ _ first later => String.le_antisymm (of_decide_eq_true first) (of_decide_eq_true later))
    (sorted _) (sorted _)
  rw [candidateText, candidateText, permuted.isEmpty_eq, same]

/-- Candidates listed in another order lead to the same selection or to the same error. -/
theorem Catalog.selectMethod_perm (c : Catalog H) (name : String) {candidates candidates' : List (Method H)}
    (permuted : candidates.Perm candidates') (arguments : List Ty) (span : Span) :
    c.selectMethod name candidates arguments span = c.selectMethod name candidates' arguments span := by
  -- Each candidate is tried by itself, so the same ones accept the arguments, with the same conversions.
  have accepting := permuted.filterMap fun m => c.select? m arguments
  unfold selectMethod
  cases found : candidates.filterMap fun m => c.select? m arguments with
  | nil =>
    rw [found] at accepting
    rw [← accepting.nil_eq, candidateText_perm permuted]
  | cons s more =>
    rw [found] at accepting
    cases more with
    | nil => rw [← List.singleton_perm.mp accepting]
    | cons s' rest =>
      have text := candidateText_perm (accepting.map Selection.method)
      cases found' : candidates'.filterMap fun m => c.select? m arguments with
      | nil =>
        rw [found'] at accepting
        cases accepting.eq_nil
      | cons u more' =>
        rw [found'] at accepting text
        cases more' with
        | nil => cases accepting.length_eq
        | cons u' rest' =>
          dsimp only
          rw [text]

/-- The number could be passed in two ways, whichever of the methods is declared first. -/
theorem formatMethods_selectMethod_perm :
    formatMethods.reverse.Perm formatMethods ∧
      Catalog.selectMethod ⟨[]⟩ "format" formatMethods.reverse [.string, .int] default =
        .error (.ambiguousMethod "format" "String, int"
          "Text.format(String, Object[]); Text.format(String, int)" default) := by
  have permuted : formatMethods.reverse.Perm formatMethods := List.reverse_perm _
  refine ⟨permuted, ?_⟩
  have sorted : (formatMethods.map Method.qualifiedSignature).Pairwise fun a b => decide (a ≤ b) = true := by
    decide +kernel
  have text : Catalog.candidateText formatMethods = "Text.format(String, Object[]); Text.format(String, int)" := by
    rw [Catalog.candidateText, List.mergeSort_of_pairwise sorted]
    decide +kernel
  rw [Catalog.selectMethod_perm ⟨[]⟩ "format" permuted [.string, .int] default, ← text]
  rfl

end TypedExpr
