import TypedExpr.Proofs.Soundness
import TypedExpr.Proofs.StackFrames
import TypedExpr.Proofs.Standalone
import TypedExpr.Proofs.Subtyping
/-!
# Items of checked arrays

Arrays that come from the host are checked item by item when they are read, and null items pass. An item of an
array of primitives is therefore a primitive of its kind, or a null that the host put there
(`Expr.item_of_checked`).
-/

namespace TypedExpr

open Machine Operation Evaluation Catalog

variable {H : Type} [HostObject H]

/-- Expressions whose value was checked against their type when it came from the host, as a whole or as an item of
such a value, and choices among them. -/
inductive Typed.Checked : Typed H → Prop where
  | null {line : Nat} : Checked (.literal line .null)
  | parameter {line position : Nat} {t : Ty} : Checked (.parameter line position t)
  | this {line : Nat} {t : Ty} : Checked (.this line t)
  | listItem {line : Nat} {t : Ty} {e i : Typed H} : Checked (.index line .list t e i)
  | mapItem {line : Nat} {t : Ty} {e i : Typed H} : Checked (.index line .map t e i)
  | arrayItem {line : Nat} {t : Ty} {e i : Typed H} (target : Checked e) : Checked (.index line .array t e i)
  | ternary {line : Nat} {t : Ty} {cond yes no : Typed H} (first : Checked yes) (second : Checked no) :
      Checked (.ternary line t cond yes no)
  | elvis {line : Nat} {t : Ty} {l r : Typed H} (left : Checked l) (right : Checked r) :
      Checked (.elvis line t l r)

/-- What a check against the type leaves of a value, as far as its items show: a value that has items at all is
an array of such values, and a primitive may be missing. -/
def Ty.Admits : Ty → Value H → Prop
  | .array t, v => v.items? = none ∨ ∃ items, v = .array items ∧ ∀ x ∈ items, t.Admits x
  | .primitive k, v => v.Holds k
  | .null, v => v.items? = none
  | _, _ => True

theorem Ty.eq_array_of_component? {t u : Ty} (h : t.component? = some u) : t = .array u := by
  cases t with
  | array a => exact congrArg Ty.array (Option.some.inj h)
  | _ => cases h

/-- Arrays, and the null that may stand for one. -/
def Ty.isArrayLike (t : Ty) : Bool := t.isArray || t.isNull

section Values

variable {c : Catalog H} {t u : Ty} {v w : Value H}

omit [HostObject H] in
theorem items?_of_null (isNull : v.isNull = true) : v.items? = none := by
  rw [Value.eq_null isNull]
  rfl

omit [HostObject H] in
theorem isSubtype_nullType (sub : c.isSubtype t .null = true) : t = .null := by
  rcases isSubtype_elim (by simp [Ty.isArray]) sub with same | ⟨_, _, top | isNull | ⟨_, nominal, _⟩⟩
  · exact same
  · cases top
  · cases t <;> first | rfl | cases isNull
  · cases nominal

omit [HostObject H] in
/-- Below an array are arrays and the type of null. -/
theorem isSubtype_toArray (sub : c.isSubtype t (.array u) = true) :
    t = .null ∨ ∃ a, t = .array a ∧ (a = u ∨ c.isSubtype a u = true) := by
  cases t with
  | null => exact .inl rfl
  | array a => exact .inr ⟨a, rfl, (isSubtype_array.mp sub).imp_right And.right⟩
  | _ =>
    rcases isSubtype_elim rfl sub with same | ⟨_, _, top | isNull | ⟨_, nominal, _⟩⟩
    · cases same
    · cases top
    · cases isNull
    · cases nominal

theorem items?_of_nullType (belongs : c.isInstance v .null = true) : v.items? = none := by
  have noSub {t : Ty} (other : t ≠ .null) : c.isSubtype t .null ≠ true := fun sub => other (isSubtype_nullType sub)
  cases v with
  | array items | list items =>
    simp only [isInstance, Ty.isObject, Ty.isNamed, Ty.isArray, Bool.not_false, Bool.true_and,
      Bool.false_or] at belongs
    exact absurd belongs (noSub (by simp [Value.runtimeType, Ty.ofName]))
  | _ => rfl

theorem admits_of_instance (t : Ty) {v : Value H} (h : v.isNull = true ∨ c.isInstance v t = true) :
    t.Admits v := by
  match t with
  | .array u =>
    rcases h with isNull | belongs
    · exact .inl (items?_of_null isNull)
    · obtain ⟨items, rfl, each⟩ := (isInstance_array v u).mp belongs
      exact .inr ⟨items, rfl, fun x member => admits_of_instance u (each x member)⟩
  | .primitive k => exact h.imp_right fun belongs => by simpa using belongs
  | .null => exact h.elim items?_of_null items?_of_nullType
  | .void | .boxed _ | .declared _ _ | .var _ => trivial

theorem admits_of_checked (h : checked c t v = .ok w) : t.Admits w := by
  unfold checked at h
  split at h
  next isObject =>
    cases t with
    | declared n args => trivial
    | _ => cases isObject
  · obtain ⟨_, passed, rfl⟩ := map_ok h
    apply admits_of_instance t
    unfold checkCast at passed
    split at passed
    next isNull => exact .inl isNull
    · split at passed
      next belongs => exact .inr belongs
      · cases passed

omit [HostObject H] in
/-- Where one type is below another, its values are admitted there as well. -/
theorem Ty.Admits.upcast {s t : Ty} (sub : c.isSubtype s t = true) {v : Value H} (admits : s.Admits v) :
    t.Admits v := by
  match t with
  | .array b =>
    rcases isSubtype_toArray sub with rfl | ⟨a, rfl, below⟩
    · exact .inl admits
    · rcases admits with none | ⟨items, rfl, each⟩
      · exact .inl none
      · refine .inr ⟨items, rfl, fun x member => ?_⟩
        rcases below with rfl | below
        · exact each x member
        · exact (each x member).upcast below
  | .null =>
    cases isSubtype_nullType sub
    exact admits
  | .primitive k =>
    rcases isSubtype_elim (by simp [Ty.isArray]) sub with rfl | ⟨_, reference, _⟩
    · exact admits
    · cases reference
  | .void | .boxed _ | .declared _ _ | .var _ => trivial

omit [HostObject H] in
theorem isArrayLike_of_isSubtype (sub : c.isSubtype t u = true) (shape : u.isArrayLike = true) :
    t.isArrayLike = true := by
  cases u with
  | array b =>
    rcases isSubtype_toArray sub with rfl | ⟨a, rfl, _⟩
    · rfl
    · rfl
  | null =>
    cases isSubtype_nullType sub
    rfl
  | _ => cases shape

/-- To an array only values of arrays are converted, and of null; they stay what they are. -/
theorem conversion?_toArray {conv : Conversion} (found : c.conversion? t u = some conv)
    (shape : u.isArrayLike = true) :
    t.isArrayLike = true ∧ c.isSubtype t u = true ∧ ∀ v : Value H, convert conv v = .ok v := by
  cases conversion?_converts found with
  | identity => exact ⟨shape, by cases t <;> simp [isSubtype], fun _ => rfl⟩
  | nullToReference reference => exact ⟨rfl, isSubtype_null reference, fun _ => rfl⟩
  | upcast _ sub => exact ⟨isArrayLike_of_isSubtype sub shape, sub, fun _ => rfl⟩
  | boxing sub => cases isArrayLike_of_isSubtype sub shape
  | unboxing | widening | unboxAndWiden => cases shape

theorem asInt_ok {n : Int32} (h : asInt v = .ok n) : v = .int n := by
  cases v with
  | int m =>
    cases h
    rfl
  | _ => cases h

theorem item_ok {position : Int32} (h : item v position = .ok w) :
    ∃ items, v.items? = some items ∧ items[position.toInt.toNat]? = some w := by
  unfold item at h
  split at h
  next items isItems =>
    split at h
    next found =>
      cases h
      split at found
      · exact ⟨items, isItems, found⟩
      · cases found
    · cases h
  · split at h <;> cases h

/-- The item that is read from a checked array was checked with it. -/
theorem Ty.Admits.item {position : Int32} (admits : (Ty.array t).Admits v) (h : item v position = .ok w) :
    t.Admits w ∧ ∃ items, v = .array items ∧ items[position.toInt.toNat]? = some w := by
  obtain ⟨items, isItems, found⟩ := item_ok h
  rcases admits with none | ⟨items', rfl, each⟩
  · rw [none] at isItems
    cases isItems
  · cases isItems
    exact ⟨each w (List.mem_of_getElem? found), items, rfl, found⟩

end Values

section Runs

variable {p : Program H} {env : Environment H} {line : Nat}

namespace Machine

theorem Carries.converted {t u : Ty} {conv : Conversion} (found : p.catalog.conversion? t u = some conv)
    (shape : u.isArrayLike = true) :
    Carries p env t.Admits (Code.ofOps line conv.code) u.Admits := by
  obtain ⟨_, sub, stays⟩ := conversion?_toArray (H := H) found shape
  refine .ofComputes (fun _ _ => .conversion) fun v w admits converted => ?_
  rw [stays v] at converted
  cases converted
  exact admits.upcast sub

theorem Yields.checked {t : Ty} {code check : Code} (yields : Yields p env code fun _ => True)
    (checks : p.tables.Checks line t check) : Yields p env (code ++ check) t.Admits :=
  yields.thenCarries (.ofComputes (fun _ _ => .check checks) fun _ _ _ => admits_of_checked)

/-- The code reads an item of an array whose items are admitted; the array is on the stack when it is read. -/
theorem Yields.index {t : Ty} {a b : Code} (target : Yields p env a (Ty.array t).Admits)
    (position : Machine.Adds p env 1 b) (offset : Nat) (stack : List (Value H)) :
    Runs p env (fun _ _ => True) (fun _ => True) offset (a ++ b ++ Code.ofOps line [.index]) stack
      fun stack' => ∃ w, stack' = w :: stack ∧ t.Admits w ∧ ∃ n items,
        Reached p env ⟨.int n :: .array items :: stack, offset + (a ++ b).size⟩ ∧
        items[n.toInt.toNat]? = some w := by
  rw [List.append_assoc]
  refine (target offset stack).append ?_
  rintro _ ⟨v, rfl, admits⟩
  refine (adds_one.mp position _ (v :: stack)).append ?_
  rintro _ ⟨i, rfl, _⟩ held reached
  -- The state before the read is kept, to tell where a null came from.
  have before : Reached p env ⟨i :: v :: stack, offset + (a ++ b).size⟩ := by
    rwa [Code.size_append, ← Nat.add_assoc]
  refine .ofStep held.1 (by simp) trivial (fun _ _ => trivial) fun s stepped => .done ?_
  obtain ⟨stack', done, same⟩ := bind_ok stepped
  cases same
  rw [runBare_index] at done
  obtain ⟨w, found, rfl⟩ := map_ok done
  obtain ⟨n, isInt, read⟩ := bind_ok found
  obtain ⟨admitted, items, rfl, inside⟩ := admits.item read
  rw [asInt_ok isInt] at before
  exact ⟨⟨w, rfl, admitted, n, items, before, inside⟩, rfl⟩

theorem Yields.item {t : Ty} {a b : Code} (target : Yields p env a (Ty.array t).Admits)
    (position : Machine.Adds p env 1 b) : Yields p env (a ++ b ++ Code.ofOps line [.index]) t.Admits := by
  intro offset stack
  refine (target.index position offset stack).mono ?_ fun _ _ => trivial
  rintro _ ⟨w, rfl, admitted, _⟩
  exact ⟨w, rfl, admitted⟩

end Machine

/-- The code of a checked expression leaves a value that its type admits. -/
theorem Layout.admits {t : Typed H} {code : Code} (layout : Layout p.catalog p.tables t (.closed code))
    (typed : t.WellTyped p.catalog) (checked : t.Checked) (shape : t.type.isArrayLike = true) :
    Yields p env code t.type.Admits := by
  -- A choice may convert its branches; what becomes an array was one before, or null, so the shape passes down.
  induction checked generalizing code with
  | null =>
    cases layout with
    | literal loads =>
      refine .ofPushes (.literal loads) fun v same => ?_
      cases same
      rfl
  | parameter =>
    cases layout with
    | parameter _ checks => exact Yields.checked (.ofPushes .getArgument fun _ _ => trivial) checks
  | this =>
    cases layout with
    | this checks => exact .checked (.ofPushes .getThis fun _ _ => trivial) checks
  | listItem =>
    cases layout with
    | listIndex target position checks =>
      cases typed with
      | listIndex typed typed' =>
        have first : Machine.Adds p env 1 _ := target.adds typed
        have second : Machine.Adds p env 1 _ := position.adds typed'
        exact (adds_one.mp ((first.thenTurns ((second.condition _).turns 1)).thenTurns .index)).checked checks
  | mapItem =>
    cases layout with
    | mapIndex target position checks =>
      cases typed with
      | mapIndex typed typed' =>
        have first : Machine.Adds p env 1 _ := target.adds typed
        have second : Machine.Adds p env 1 _ := position.adds typed'
        have read {line : Nat} : Turns p env 2 (Code.ofOps line [.mapGet]) 1 :=
          .binary fun _ _ _ => .bare (by simp) runBare_mapGet
        exact (adds_one.mp ((first.thenTurns (second.turns 1)).thenTurns read)).checked checks
  | arrayItem _ ih =>
    cases layout with
    | arrayIndex target position =>
      cases typed with
      | arrayIndex typed typed' component =>
        have isArray := Ty.eq_array_of_component? component
        have items := ih target typed (by rw [isArray]; rfl)
        rw [isArray] at items
        have second : Machine.Adds p env 1 _ := position.adds typed'
        exact items.item (second.condition _)
  | ternary _ _ ihFirst ihSecond =>
    cases layout with
    | ternary test thenBranch elseBranch thenConverts elseConverts toElseSize pastSize =>
      cases typed with
      | ternary condition typed typed' =>
        have tested : Machine.Adds p env 1 _ := test.adds condition
        have first := ihFirst thenBranch typed (conversion?_toArray (H := H) thenConverts shape).1
        have second := ihSecond elseBranch typed' (conversion?_toArray (H := H) elseConverts shape).1
        refine (adds_one.mp (tested.condition _)).choice rfl toElseSize pastSize ?_ ?_
        · exact first.thenCarries (.converted thenConverts shape)
        · rw [List.append_assoc]
          exact (second.thenCarries (.converted elseConverts shape)).afterPop
  | elvis _ _ ihLeft ihRight =>
    cases layout with
    | elvis left right leftConverts rightConverts presentSize pastSize =>
      cases typed with
      | elvis typed typed' =>
        have first := ihLeft left typed (conversion?_toArray (H := H) leftConverts shape).1
        have second := ihRight right typed' (conversion?_toArray (H := H) rightConverts shape).1
        exact first.choice rfl presentSize pastSize (second.thenCarries (.converted rightConverts shape))
          (.converted leftConverts shape)

end Runs

/-- An item of an array of primitives that was checked when it came from the host. Whatever the host supplies, the
run fails, or its value is a primitive of the kind, or it is null; in the last case the program has read it
from an array in which the host left that item out. -/
theorem Expr.item_of_checked {ctx : Context H} {span : Span} {a i : Expr} {t : Typed H} {k : Kind} {p : Program H}
    (resolved : (a.resolve ctx .blank).1 = .ok t) (checked : t.Checked) (type : t.type = .array (.primitive k))
    (compiled : (Expr.index span a i).compile ctx = .ok p) (env : Environment H) :
    (∃ e, p.run env = .error e) ∨ (∃ v, p.run env = .ok v ∧ v.kind? = some k) ∨
      p.run env = .ok .null ∧ ∃ (n : Int32) (items : List (Value H)) (offset : Nat),
        p.chunk.instrAt? offset = some (.bare .index) ∧
        p.chunk.instrAt? (offset + 1) = some (.bare .return) ∧
        Reached p env ⟨[.int n, .array items], offset⟩ ∧ items[n.toInt.toNat]? = some .null := by
  obtain ⟨root, code, whole, typed, layout, _, _, sameCatalog, held, returns, _⟩ := Expr.compile_stands compiled
  rw [Expr.resolve_index] at whole
  obtain ⟨target, isTarget, whole⟩ := bind_ok whole
  obtain ⟨position, _, whole⟩ := bind_ok whole
  cases resolved.symm.trans (Expr.value_ok.mp isTarget).1
  simp only [Resolution.index, type, Ty.component?] at whole
  split at whole
  case isFalse => cases whole
  cases whole
  rw [← sameCatalog] at typed layout
  cases typed with
  | arrayIndex targetTyped positionTyped =>
    cases layout with
    | arrayIndex targetLayout positionLayout =>
      have array : Yields p env _ t.type.Admits := targetLayout.admits targetTyped checked (by rw [type]; rfl)
      rw [type] at array
      have second : Machine.Adds p env 1 _ := positionLayout.adds positionTyped
      have led := array.index (second.condition position.type.isBoxed) 0 [] held .refl
      rw [Chunk.holds_append] at held
      have ended := led.run fun s final => by rw [final.2, Nat.zero_add]; exact returns
      rcases ended with ⟨s, ⟨⟨w, rest, admitted, n, items, reached, inside⟩, _⟩, ran⟩ | ⟨e, _, failed⟩
      · rw [rest] at ran
        rcases admitted with isNull | isKind
        · cases Value.eq_null isNull
          refine .inr (.inr ⟨ran, n, items, _, ?_, ?_, reached, inside⟩)
          · exact held.2.1
          · simpa [Nat.add_assoc] using returns
        · exact .inr (.inl ⟨w, ran, isKind⟩)
      · exact .inl ⟨e, failed⟩

def rowsContext : Context Record where
  catalog := ⟨[]⟩
  scope := ((({} : Declarations Record).parameter "rows" (.array (.array .int))).parameter "spare"
    (.array .int)).scope

/-- The expression `rows[0] ?: spare`. -/
def rowExpr : Expr :=
  .elvis default (.index default (.name default "rows") (.literal default (.int 0))) (.name default "spare")

/-- The expression `(rows[0] ?: spare)[1]`. -/
def cellExpr : Expr := .index default rowExpr (.literal default (.int 1))

/-- Whether a row of a parameter is chosen, or else another parameter. -/
def Typed.choosesRow : Typed H → Bool
  | .elvis _ (.array (.primitive .int)) (.index _ .array _ (.parameter ..) _) (.parameter ..) => true
  | _ => false

theorem cellExpr_of_checked : ∃ t p, (rowExpr.resolve rowsContext .blank).1 = .ok t ∧ t.Checked ∧
    t.type = .array .int ∧ cellExpr.compile rowsContext = .ok p ∧
    ∀ env, (∃ e, p.run env = .error e) ∨ (∃ v, p.run env = .ok v ∧ v.kind? = some .int) ∨
      p.run env = .ok .null ∧ ∃ (n : Int32) (items : List (Value Record)) (offset : Nat),
        p.chunk.instrAt? offset = some (.bare .index) ∧
        p.chunk.instrAt? (offset + 1) = some (.bare .return) ∧
        Reached p env ⟨[.int n, .array items], offset⟩ ∧ items[n.toInt.toNat]? = some .null := by
  have shape : (rowExpr.resolve rowsContext .blank).1.toOption.map Typed.choosesRow = some true := by decide +kernel
  have succeeds : (cellExpr.compile rowsContext).toOption.isSome = true := by decide +kernel
  obtain ⟨t, isRow, isChecked⟩ := Option.map_eq_some_iff.mp shape
  obtain ⟨p, compiled⟩ := Option.isSome_iff_exists.mp succeeds
  unfold Typed.choosesRow at isChecked
  split at isChecked
  · exact ⟨_, p, toOption_some isRow, .elvis (.arrayItem .parameter) .parameter, rfl, toOption_some compiled,
      Expr.item_of_checked (toOption_some isRow) (.elvis (.arrayItem .parameter) .parameter) rfl
        (toOption_some compiled)⟩
  · cases isChecked

/-- The expression `spare[1]`. -/
def spareItem : Expr := .index default (.name default "spare") (.literal default (.int 1))

/-- No rows, and a spare one in which the second item is missing. -/
def rowsEnvironment : Environment Record where
  argument index := ([.null, .array [.int 1, .null]] : List (Value Record))[index]?

/-- The check of an array passes the items that are missing, so that the item of an `int[]` may be null. -/
theorem spareItem_null : ∃ p, spareItem.compile rowsContext = .ok p ∧ p.type = .int ∧
    p.run rowsEnvironment = .ok .null := by
  have runs : ((spareItem.compile rowsContext).toOption.map fun p =>
      (p.type, (p.run rowsEnvironment).toOption.map Value.isNull)) = some (.int, some true) := by decide +kernel
  obtain ⟨p, compiled, same⟩ := Option.map_eq_some_iff.mp runs
  obtain ⟨v, ran, isNull⟩ := Option.map_eq_some_iff.mp (Prod.ext_iff.mp same).2
  cases Value.eq_null isNull
  exact ⟨p, toOption_some compiled, (Prod.ext_iff.mp same).1, toOption_some ran⟩

end TypedExpr
