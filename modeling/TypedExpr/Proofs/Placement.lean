import TypedExpr.Proofs.Soundness
/-!
# Where the code of a node stands

The code of every node of an expression stands in the program of the expression (`Expr.compile_places`). Where an
operator takes an operand as a primitive and the operand is boxed, the code of the operand is followed by the
instruction that unboxes it (`Layout.unboxes`).
-/

namespace TypedExpr

open Generation

variable {H : Type}

namespace Typed

/-- The operands that an operator takes as primitives: numbers, truth values and positions. -/
def primitiveOperands : Typed H → List (Typed H)
  | .numeric _ _ _ l r | .ordering _ _ _ l r | .logical _ _ l r => [l, r]
  | .negate _ _ e | .not _ e | .ternary _ _ e _ _ => [e]
  | .index _ .array _ _ i | .index _ .list _ _ i => [i]
  | _ => []

variable {c : Catalog H} {t u : Typed H}

theorem sizeOf_child (isChild : u ∈ t.children) : sizeOf u < sizeOf t := by
  cases t with
  | literal | parameter | contextProperty | this | bean => cases isChild
  | call _ _ _ _ args =>
    rcases List.mem_cons.mp isChild with rfl | isArgument
    · simp only [call.sizeOf_spec]
      omega
    · have smaller : sizeOf u < sizeOf args := List.sizeOf_lt_of_mem isArgument
      simp only [call.sizeOf_spec]
      omega
  | staticCall _ _ args | contextCall _ _ args =>
    have smaller : sizeOf u < sizeOf args := List.sizeOf_lt_of_mem isChild
    simp only [staticCall.sizeOf_spec, contextCall.sizeOf_spec]
    omega
  | negate | not | empty | instanceOf | «matches» | arrayLength | property | environment =>
    obtain rfl := List.mem_singleton.mp isChild
    simp only [negate.sizeOf_spec, not.sizeOf_spec, empty.sizeOf_spec, instanceOf.sizeOf_spec, matches.sizeOf_spec,
      arrayLength.sizeOf_spec, property.sizeOf_spec, environment.sizeOf_spec]
    omega
  | ternary =>
    simp only [children, List.mem_cons, List.not_mem_nil, or_false] at isChild
    simp only [ternary.sizeOf_spec]
    rcases isChild with rfl | rfl | rfl <;> omega
  | _ =>
    simp only [children, List.mem_cons, List.not_mem_nil, or_false] at isChild
    simp only [numeric.sizeOf_spec, concat.sizeOf_spec, logical.sizeOf_spec, equality.sizeOf_spec,
      ordering.sizeOf_spec, comparison.sizeOf_spec, elvis.sizeOf_spec, index.sizeOf_spec]
    rcases isChild with rfl | rfl <;> omega

/-- What passes from a node to those directly below it holds of all nodes of an expression. -/
theorem nodes_induction {P : Typed H → Prop} (step : ∀ w, P w → ∀ v ∈ w.children, P v) {t : Typed H} (here : P t) :
    ∀ u ∈ t.nodes, P u := by
  intro u isNode
  rw [nodes_eq, List.mem_append, List.mem_flatMap, List.mem_singleton] at isNode
  rcases isNode with ⟨child, isChild, inside⟩ | rfl
  · exact nodes_induction step (step t here child isChild) u inside
  · exact here
termination_by sizeOf t
decreasing_by exact sizeOf_child isChild

theorem WellTyped.children (typed : t.WellTyped c) : ∀ u ∈ t.children, u.WellTyped c := by
  cases typed with
  | literal | parameter | contextProperty | this | bean => nofun
  | negate typed | not typed | empty typed | instanceOf typed | «matches» typed | arrayLength typed
  | property typed | environment typed => exact List.forall_mem_singleton.mpr typed
  | numeric left right | concat left right | logical left right | equality left right | ordering left right
  | comparison left right | elvis left right | arrayIndex left right | listIndex left right
  | mapIndex left right => exact List.forall_mem_cons.mpr ⟨left, List.forall_mem_singleton.mpr right⟩
  | ternary condition yes no =>
    exact List.forall_mem_cons.mpr ⟨condition, List.forall_mem_cons.mpr ⟨yes, List.forall_mem_singleton.mpr no⟩⟩
  | call receiver arguments => exact List.forall_mem_cons.mpr ⟨receiver, arguments⟩
  | staticCall arguments | contextCall arguments => exact arguments

theorem isBoxed_of_kind {t : Ty} {kind : Kind} (isKind : t.kind? = some kind) (isReference : t.isPrimitive = false) :
    t.isBoxed = true := by
  cases t with
  | boxed => rfl
  | primitive => cases isReference
  | _ => cases isKind

/-- What is taken as a primitive is one, or its box. -/
theorem WellTyped.isBoxed (typed : t.WellTyped c) :
    ∀ u ∈ t.primitiveOperands, u.type.isPrimitive = false → u.type.isBoxed = true := by
  cases typed with
  | numeric _ _ meet | ordering _ _ meet =>
    obtain ⟨_, _, left, right, _⟩ := commonKind?_widens meet
    exact List.forall_mem_cons.mpr ⟨isBoxed_of_kind (isKind_of_numericKind? left),
      List.forall_mem_singleton.mpr (isBoxed_of_kind (isKind_of_numericKind? right))⟩
  | logical _ _ left right =>
    exact List.forall_mem_cons.mpr ⟨isBoxed_of_kind (isKind_of_isBoolean left),
      List.forall_mem_singleton.mpr (isBoxed_of_kind (isKind_of_isBoolean right))⟩
  | not _ truth | ternary _ _ _ truth =>
    exact List.forall_mem_singleton.mpr (isBoxed_of_kind (isKind_of_isBoolean truth))
  | negate _ number | arrayIndex _ _ _ number | listIndex _ _ _ _ number =>
    exact List.forall_mem_singleton.mpr (isBoxed_of_kind (isKind_of_numericKind? number))
  | _ => nofun

end Typed

theorem Generation.infix_layChain {op : LogicalOp} {line : Nat} {codes : List Code} {code : Code}
    (laid : layChain line (exitOp op) (chainSize codes) codes = .ok code) : ∀ x ∈ codes, x <:+: code := by
  induction codes generalizing code with
  | nil => simp
  | cons operand rest ih =>
    cases rest with
    | nil =>
      cases laid
      simp
    | cons next rest =>
      obtain ⟨distance, others, _, inner, rfl⟩ := layChain_cons laid
      refine List.forall_mem_cons.mpr ⟨(List.prefix_append _ _).isInfix, fun x isOperand => ?_⟩
      obtain ⟨before, after, rfl⟩ := ih inner x isOperand
      exact ⟨operand ++ (line, .wide (exitOp op) distance) :: (Code.ofOps line [.pop] ++ before), after, by simp⟩

/-- The code stands somewhere in the chunk. -/
def Chunk.Shows (k : Chunk) (code : Code) : Prop := ∃ offset, k.Holds offset code

namespace Chunk.Shows

variable {k : Chunk} {a b code : Code} {line : Nat}

theorem left (shown : k.Shows (a ++ b)) : k.Shows a := by
  obtain ⟨offset, held⟩ := shown
  exact ⟨offset, (holds_append.mp held).1⟩

theorem right (shown : k.Shows (a ++ b)) : k.Shows b := by
  obtain ⟨offset, held⟩ := shown
  exact ⟨offset + a.size, (holds_append.mp held).2⟩

theorem tail {i : Nat × Instr} (shown : k.Shows (i :: code)) : k.Shows code := right (a := [i]) shown

theorem conditioned {isBoxed : Bool} (shown : k.Shows (condition line a isBoxed)) : k.Shows a := by
  cases isBoxed with
  | true => exact left shown
  | false => exact shown

theorem guarded {nullSafe : Bool} {body : Code} (shown : k.Shows code)
    (laid : Generation.guarded line nullSafe body = .ok code) : k.Shows body := by
  unfold Generation.guarded at laid
  split at laid
  · obtain ⟨past, _, rfl⟩ := skipping_ok laid
    exact shown.tail
  · cases laid
    exact shown

theorem convertEach {codes : List Code} {conversions : List Conversion} (same : codes.length = conversions.length)
    (shown : k.Shows (Generation.convertEach line codes conversions)) : ∀ code ∈ codes, k.Shows code := by
  induction codes generalizing conversions with
  | nil => simp
  | cons code codes ih =>
    cases conversions with
    | nil => cases same
    | cons conversion conversions =>
      rw [Generation.convertEach, List.zipWith_cons_cons, List.flatten_cons] at shown
      exact List.forall_mem_cons.mpr ⟨shown.left.left, ih (Nat.succ.inj same) shown.right⟩

theorem passArguments {s : Selection H} {codes : List Code} (same : codes.length = s.conversions.length)
    (passed : Generation.passArguments line s codes = .ok code) (shown : k.Shows code) :
    ∀ code ∈ codes, k.Shows code := by
  unfold Generation.passArguments at passed
  split at passed
  · cases passed
    exact shown.convertEach same
  · dsimp only at passed
    split at passed
    · cases passed
    · obtain ⟨i, _, rfl⟩ := map_ok passed
      rw [← convertEach_split] at shown
      exact shown.left.convertEach same

theorem of_inside (shown : k.Shows code) (inside : a <:+: code) : k.Shows a := by
  obtain ⟨before, after, rfl⟩ := inside
  exact shown.left.right

end Chunk.Shows

/-- The code of the draft stands in the chunk, that of a chain operand by operand. -/
def Draft.Stands (k : Chunk) : Draft → Prop
  | .closed code | .concat _ code => k.Shows code
  | .chain _ operands => ∀ x ∈ operands, ∃ line, k.Shows (condition line x.1 x.2)

/-- The code of the expression is part of the draft and is followed there by the unboxing of its value. -/
def Draft.Unboxes (c : Catalog H) (T : Tables H) (u : Typed H) : Draft → Prop
  | .closed code | .concat _ code => ∃ a line, Layout c T u (.closed a) ∧ a ++ Code.ofOps line [.unbox] <:+: code
  | .chain _ operands => ∃ a, Layout c T u (.closed a) ∧
      ∃ x ∈ operands, x = (a, true) ∨ ∃ line, a ++ Code.ofOps line [.unbox] <:+: x.1

/-- The code of the node stands in the chunk. -/
def Typed.Stands (k : Chunk) (c : Catalog H) (T : Tables H) (t : Typed H) : Prop :=
  ∃ d, Layout c T t d ∧ d.Stands k

section Stands

variable {k : Chunk} {c : Catalog H} {T : Tables H} {t : Typed H} {code : Code}

theorem arguments_stand {s : Selection H} {args : List (Typed H)} {codes : List Code} {passing : Code} {line : Nat}
    (chosen : s.ChosenFor c (args.map Typed.type)) (same : codes.length = args.length)
    (passed : passArguments line s codes = .ok passing) (shown : k.Shows passing)
    (each : ∀ x ∈ args.zip codes, Layout c T x.1 (.closed x.2)) : ∀ a ∈ args, a.Stands k c T := by
  have lengths := chosen.passes.length
  rw [List.length_map] at lengths
  have all := Chunk.Shows.passArguments (same.trans lengths.symm) passed shown
  intro a isArgument
  obtain ⟨i, inside, rfl⟩ := List.getElem_of_mem isArgument
  have member : (args[i], codes[i]) ∈ args.zip codes := by
    rw [← List.getElem_zip (h := by simp; omega)]
    exact List.getElem_mem _
  exact ⟨_, each _ member, all _ (List.of_mem_zip member).2⟩

/-- Where the code of a node stands, so does that of the nodes directly below. -/
theorem Layout.children_stand {d : Draft} (layout : Layout c T t d) (typed : t.WellTyped c) (stands : d.Stands k) :
    ∀ u ∈ t.children, u.Stands k c T := by
  have one {e : Typed H} {a : Code} (below : Layout c T e (.closed a)) (shown : k.Shows a) :
      ∀ u ∈ [e], u.Stands k c T := List.forall_mem_singleton.mpr ⟨_, below, shown⟩
  have two {l r : Typed H} {a b : Code} (left : Layout c T l (.closed a)) (right : Layout c T r (.closed b))
      (shown : k.Shows a) (shown' : k.Shows b) : ∀ u ∈ [l, r], u.Stands k c T :=
    List.forall_mem_cons.mpr ⟨⟨_, left, shown⟩, one right shown'⟩
  -- On the layout, not on the node: a node that joins a chain is laid out twice, alone and as an operand.
  induction layout with
  | literal | parameter | contextProperty | this | bean => nofun
  | text _ ih => exact ih typed stands
  | concat _ _ ih => exact ih typed (Chunk.Shows.left stands)
  | operand _ ih =>
    obtain ⟨line, shown⟩ := stands _ List.mem_cons_self
    exact ih typed shown.conditioned
  | logical _ laid ih =>
    apply ih typed
    intro x isOperand
    exact ⟨_, Chunk.Shows.of_inside stands (infix_layChain laid _ (List.mem_map_of_mem isOperand))⟩
  | join left right =>
    have shown : k.Shows _ := stands
    exact List.forall_mem_cons.mpr ⟨⟨_, left, shown.left⟩, List.forall_mem_singleton.mpr ⟨_, right, shown.right⟩⟩
  | chain left right =>
    obtain ⟨stands, stands'⟩ := List.forall_mem_append.mp stands
    exact List.forall_mem_cons.mpr ⟨⟨_, left, stands⟩, List.forall_mem_singleton.mpr ⟨_, right, stands'⟩⟩
  | numeric left right | ordering left right =>
    have shown : k.Shows _ := stands
    exact two left right shown.left.left.left.left shown.left.left.right
  | negate operand => exact one operand (Chunk.Shows.left (Chunk.Shows.left stands))
  | not operand => exact one operand (Chunk.Shows.conditioned (Chunk.Shows.left stands))
  | empty operand | instanceOf operand | «matches» operand | environment operand | arrayLength operand
  | property operand => exact one operand (Chunk.Shows.left stands)
  | equality left right =>
    have shown : k.Shows _ := stands
    exact two left right shown.left.left shown.left.right
  | comparison left right =>
    have shown : k.Shows _ := stands
    have operands := shown.left.left.left.left.left
    exact two left right operands.left operands.right
  | elvis left right =>
    have shown : k.Shows _ := stands
    exact two left right shown.left.left.left.left shown.left.left.right
  | arrayIndex target position =>
    have shown : k.Shows _ := stands
    exact two target position shown.left.left shown.left.right.conditioned
  | listIndex target position =>
    have shown : k.Shows _ := stands
    exact two target position shown.left.left.left shown.left.left.right.conditioned
  | mapIndex target position =>
    have shown : k.Shows _ := stands
    exact two target position shown.left.left.left shown.left.left.right
  | ternary test thenBranch elseBranch =>
    have shown : k.Shows _ := stands
    exact List.forall_mem_cons.mpr ⟨⟨_, test, shown.left.left.left.left.conditioned⟩,
      two thenBranch elseBranch shown.left.left.right shown.right.tail.left.right⟩
  | @call _ _ _ _ _ _ passing _ _ _ _ receiver same arguments passed _ _ laid =>
    have shown : k.Shows _ := stands
    have inside : k.Shows passing := by
      have body := shown.right.guarded laid
      split at body
      · exact body.left.right
      · exact body.left
    cases typed with
    | call _ _ _ _ chosen =>
      exact List.forall_mem_cons.mpr ⟨⟨_, receiver, shown.left⟩, arguments_stand chosen same passed inside arguments⟩
  | staticCall same arguments passed =>
    cases typed with
    | staticCall _ _ _ _ chosen => exact arguments_stand chosen same passed (Chunk.Shows.left stands) arguments
  | contextCall _ _ same arguments passed =>
    have shown : k.Shows _ := stands
    cases typed with
    | contextCall _ _ chosen => exact arguments_stand chosen same passed shown.left.right arguments
  | contextStaticCall _ same arguments passed =>
    cases typed with
    | contextCall _ _ chosen => exact arguments_stand chosen same passed (Chunk.Shows.left stands) arguments

/-- In a compiled program the code of every node stands somewhere. -/
theorem Expr.compile_places [HostObject H] {ctx : Context H} {e : Expr} {p : Program H}
    (compiled : e.compile ctx = .ok p) (resolved : (e.resolve ctx .blank).1 = .ok t) :
    ∀ u ∈ t.nodes, u.WellTyped ctx.catalog ∧ u.Stands p.chunk ctx.catalog p.tables := by
  obtain ⟨_, code, resolved', typed, layout, _, _, _, held, _⟩ := Expr.compile_stands compiled
  cases resolved.symm.trans resolved'
  have whole : t.Stands p.chunk ctx.catalog p.tables := ⟨_, layout, 0, held⟩
  refine Typed.nodes_induction (fun w below u isChild => ?_) ⟨typed, whole⟩
  obtain ⟨typed, d, layout, stands⟩ := below
  exact ⟨typed.children u isChild, layout.children_stand typed stands u isChild⟩

end Stands

section Unboxing

variable {c : Catalog H} {T : Tables H} {t : Typed H}

theorem infix_appended {x a b : Code} (inside : x <:+: a) : x <:+: a ++ b :=
  inside.trans (List.prefix_append a b).isInfix

theorem infix_prepended {x a b : Code} (inside : x <:+: b) : x <:+: a ++ b :=
  inside.trans (List.suffix_append a b).isInfix

theorem infix_coerced {t : Ty} (isBoxed : t.isBoxed = true) (line : Nat) (kind : Kind) (a : Code) :
    a ++ Code.ofOps line [.unbox] <:+: a ++ Code.ofOps line (t.coercionCode kind) := by
  rw [Ty.coercionCode, isBoxed, if_pos rfl, Code.ofOps_append, ← List.append_assoc]
  exact infix_appended List.infix_rfl

theorem infix_condition {isBoxed : Bool} (line : Nat) (a : Code) : a <:+: condition line a isBoxed := by
  cases isBoxed with
  | true => exact infix_appended List.infix_rfl
  | false => exact List.infix_rfl

/-- Of two numbers that are coerced one after the other, each is unboxed right behind its code. -/
theorem coerced_unboxed {l r : Typed H} {a b after : Code} {kind : Kind} {line : Nat}
    (first : Layout c T l (.closed a)) (second : Layout c T r (.closed b)) :
    ∀ u ∈ [l, r], u.type.isBoxed = true → (Draft.closed (a ++ Code.ofOps line (l.type.coercionCode kind) ++ b
      ++ Code.ofOps line (r.type.coercionCode kind) ++ after)).Unboxes c T u := by
  refine List.forall_mem_cons.mpr ⟨fun isBoxed => ?_, List.forall_mem_singleton.mpr fun isBoxed => ?_⟩
  · have inside := infix_coerced isBoxed line kind a
    exact ⟨a, line, first, infix_appended (infix_appended (infix_appended inside))⟩
  · have inside := infix_coerced isBoxed line kind b
    refine ⟨b, line, second, infix_appended ?_⟩
    rw [List.append_assoc]
    exact infix_prepended inside

/-- A boxed operand of a logical operator stands alone in the chain. -/
theorem Layout.chain_boxed {op : LogicalOp} {operands : List (Code × Bool)} (layout : Layout c T t (.chain op operands))
    (isBoxed : t.type.isBoxed = true) : ∃ a, Layout c T t (.closed a) ∧ (a, true) ∈ operands := by
  cases layout with
  | operand alone => exact ⟨_, alone, by simp [isBoxed]⟩
  | chain => cases isBoxed

/-- An operator unboxes the operands that it takes as primitives, right behind their code. -/
theorem Layout.unboxes {d : Draft} (layout : Layout c T t d) :
    ∀ u ∈ t.primitiveOperands, u.type.isBoxed = true → d.Unboxes c T u := by
  induction layout with
  | numeric left right | ordering left right => exact coerced_unboxed left right
  | text _ ih => exact ih
  | operand _ ih =>
    intro u isOperand isBoxed
    obtain ⟨a, line, below, inside⟩ := ih u isOperand isBoxed
    exact ⟨a, below, _, List.mem_cons_self, .inr ⟨line, inside⟩⟩
  | chain left right =>
    refine List.forall_mem_cons.mpr ⟨fun isBoxed => ?_, List.forall_mem_singleton.mpr fun isBoxed => ?_⟩
    · obtain ⟨a, below, member⟩ := left.chain_boxed isBoxed
      exact ⟨a, below, _, List.mem_append_left _ member, .inl rfl⟩
    · obtain ⟨a, below, member⟩ := right.chain_boxed isBoxed
      exact ⟨a, below, _, List.mem_append_right _ member, .inl rfl⟩
  | logical _ laid ih =>
    intro u isOperand isBoxed
    obtain ⟨a, below, x, member, place⟩ := ih u isOperand isBoxed
    have inside := infix_layChain laid _ (List.mem_map_of_mem member)
    -- The chain unboxes the operand itself, or the operand is part of one that does.
    rcases place with rfl | ⟨line, within⟩
    · exact ⟨a, _, below, inside⟩
    · exact ⟨a, line, below, within.trans ((infix_condition _ _).trans inside)⟩
  | negate operand =>
    refine List.forall_mem_singleton.mpr fun isBoxed => ?_
    exact ⟨_, _, operand, infix_appended (infix_coerced isBoxed _ _ _)⟩
  | @not line _ a operand =>
    refine List.forall_mem_singleton.mpr fun isBoxed => ?_
    rw [isBoxed]
    exact ⟨a, line, operand, infix_appended List.infix_rfl⟩
  | @ternary line _ _ _ _ a _ _ _ _ _ _ test =>
    refine List.forall_mem_singleton.mpr fun isBoxed => ?_
    rw [isBoxed]
    exact ⟨a, line, test, infix_appended (infix_appended (infix_appended (infix_appended List.infix_rfl)))⟩
  | @arrayIndex line _ _ _ _ b _ position =>
    refine List.forall_mem_singleton.mpr fun isBoxed => ?_
    rw [isBoxed]
    exact ⟨b, line, position, infix_appended (infix_prepended List.infix_rfl)⟩
  | @listIndex line _ _ _ _ b _ _ position =>
    refine List.forall_mem_singleton.mpr fun isBoxed => ?_
    rw [isBoxed]
    exact ⟨b, line, position, infix_appended (infix_appended (infix_prepended List.infix_rfl))⟩
  | _ => nofun

end Unboxing

end TypedExpr
