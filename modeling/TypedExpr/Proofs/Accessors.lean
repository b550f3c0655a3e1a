import TypedExpr.Proofs.Registration
import TypedExpr.Proofs.Standalone
import TypedExpr.Proofs.Subtyping
/-!
# Reading a collection by index and by method

The items of a `List<T>` and the values of a `Map<K, V>` are read by index or by the method `get`. Both ways find
the same, but only what is read by index is checked against the type that is expected of it
(`Expr.index_checks_get`).
-/

namespace TypedExpr

open Operation Evaluation Builtin

/-- The collections that are read both ways, with the type of the index and that of what is read. -/
inductive Ty.Reads : (collection index result : Ty) → Prop where
  | list {t index : Ty} (whole : index.numericKind? = some .int) : Reads (.listOf t) index t
  | map {k v index : Ty} (text : index.isStringLike = true) : Reads (.mapOf k v) index v

theorem Ty.Reads.types {collection index result : Ty} (reads : Ty.Reads collection index result) :
    collection.box = collection ∧ collection.isVoid = false ∧ index.isVoid = false := by
  cases reads with
  | list whole =>
    refine ⟨rfl, rfl, ?_⟩
    cases index <;> first | rfl | cases whole
  | map text =>
    refine ⟨rfl, rfl, ?_⟩
    cases index <;> first | rfl | cases text

variable {H : Type}

namespace Catalog

variable {c : Catalog H} {t : Ty} {name : String}

theorem appendVisible_starts (found ms : List (Method H)) : ∃ more, appendVisible found ms = found ++ more := by
  induction ms generalizing found with
  | nil => exact ⟨[], by simp [appendVisible]⟩
  | cons m rest ih =>
    unfold appendVisible
    split
    · exact ih found
    · obtain ⟨more, same⟩ := ih (found ++ [m])
      exact ⟨m :: more, by rw [same, List.append_assoc, List.singleton_append]⟩

/-- The first method that a type declares itself is the first one visible on it. -/
theorem methods_starts {m : Method H} {rest : List (Method H)} (declared : c.declaredMethods t name = m :: rest) :
    ∃ more, c.methods t name = m :: more := by
  obtain ⟨above, hierarchy⟩ := hierarchy_starts (c := c) t
  obtain ⟨more, visible⟩ := appendVisible_starts [m] (rest ++ above.flatMap fun s => c.declaredMethods s name)
  refine ⟨more, ?_⟩
  rw [methods, hierarchy, List.flatMap_cons, declared]
  exact visible

/-- Methods that are registered later stand behind those that the type came with. -/
theorem methods_of_find? {d : TypeDef H} {m : Method H} {more : List (Method H)}
    (found : c.find? d.digest = some { d with methods := d.methods ++ more })
    (name : String) (own : d.methods.filter (·.name == name) = [m]) (args : List Ty) :
    ∃ more, c.methods (.declared d.name args) name = m.instantiate args :: more := by
  apply methods_starts
  have isKnown : (Ty.declared d.name args).digest? = some d.digest := rfl
  rw [declaredMethods, isKnown, Option.bind_some, found]
  simp only [List.filter_append, own]
  rfl

theorem findSupertype?_self {n : String} {args : List Ty} :
    c.findSupertype? (.declared n args) (.ofName n) = some (.declared n args) := by
  obtain ⟨above, hierarchy⟩ := hierarchy_starts (c := c) (.declared n args)
  rw [findSupertype?, hierarchy, List.find?_cons_of_pos]
  simp [Ty.digest?, Ty.isPrimitive]

theorem isSubtype_ofName {n : String} {args : List Ty} : c.isSubtype (.declared n args) (.ofName n) = true := by
  simp [isSubtype, isDeclaredSubtype, Ty.ofName, Ty.digest?, Ty.isReference, Ty.isArray, Ty.args,
    findSupertype?_self]

/-- A method with one parameter takes an argument that converts to it. -/
theorem select?_single {m : Method H} {p : Ty} {conversion : Conversion} (parameters : m.parameters = [p])
    (converts : c.conversion? t p = some conversion) : c.select? m [t] = some ⟨m, [t], none, [conversion]⟩ := by
  have converted : c.conversions? [t] m.parameters = some [conversion] := by
    rw [parameters, conversions?, converts]
    rfl
  rw [select?, selectExact?, converted, parameters]
  rfl

end Catalog

section Accessors

variable [HostObject H] {c : Catalog H}

/-- What an index finds in a collection, before it is checked. -/
def Evaluation.found (form : IndexForm) (index : Ty) (target position : Value H) : Except RunError (Value H) :=
  match form with
  | .map => entry target position
  | .array | .list => do item target (← asInt (← condition index position))

/-- A method of the name `get` that does what an index does: it comes first, takes the index as its argument and
finds the same. -/
structure Catalog.Accessor (c : Catalog H) (collection index result : Ty) (form : IndexForm) (m : Method H)
    (conversion : Conversion) : Prop where
  visible : ∃ more, c.methods collection "get" = m :: more
  accepts : c.select? m [index] = some ⟨m, [index], none, [conversion]⟩
  onReceiver : m.isStatic = false
  returns : m.returns = result
  resolves : ∀ (span : Span) (a b : Typed H), a.type = collection → b.type = index →
    Resolution.index c span a b = .ok (.index span.line form result a b)
  checks : form ≠ .array
  agrees : ∀ target position : Value H, (Evaluation.found form index target position).toOption =
    (convert conversion position >>= fun v => invoke m target [v]).toOption

/-- A builtin type stays as it is, but for methods that are registered after its own. -/
theorem builtin_find? (calls : List (Registration H)) {d : TypeDef H} (isBuiltin : d ∈ builtinTypes) : ∃ more,
    ((Registry.start true).after calls : Registry H).catalog.find? d.digest =
      some { d with methods := d.methods ++ more } := by
  obtain ⟨valid, catalog⟩ := Registry.start_valid (H := H) true
  apply (valid.after calls).2.types
  apply (Registry.find?_iff valid.distinct).mpr
  rw [catalog]
  exact ⟨isBuiltin, rfl⟩

omit [HostObject H] in
theorem toOption_bind {α β : Type} (x : Except RunError α) (f : α → Except RunError β) :
    (x >>= f).toOption = x.toOption.bind fun a => (f a).toOption := by
  cases x <;> rfl

theorem asInt_toOption (v : Value H) : (asInt v).toOption = (expectInt v).toOption := by cases v <;> rfl

theorem item_eq_itemAt {target : Value H} {items : List (Value H)} (isItems : target.items? = some items)
    (position : Int32) : item target position = itemAt items position := by
  have bounds : 0 ≤ position ↔ 0 ≤ position.toInt := Int32.le_iff_toInt_le
  by_cases inside : 0 ≤ position.toInt
  · cases found : items[position.toInt.toNat]? with
    | none => simp only [item, itemAt, isItems, if_pos inside, if_pos (bounds.mpr inside), found]
    | some v => simp only [item, itemAt, isItems, if_pos inside, if_pos (bounds.mpr inside), found]
  · simp only [item, itemAt, isItems, if_neg inside, if_neg (inside ∘ bounds.mp)]

theorem item_fails {target : Value H} (noItems : target.items? = none) (position : Int32) :
    (item target position).toOption = none := by
  simp only [item, noItems]
  split <;> rfl

/-- The method finds in a list what the index finds. -/
theorem invoke_listGet {m : Method H} (native : m.native = listGet) (target v : Value H) :
    (asInt v >>= item target).toOption = (invoke m target [v]).toOption := by
  have read : listGet target [v] = expectItems target >>= fun items => expectInt v >>= itemAt items := rfl
  rw [invoke, native, read, expectItems, toOption_bind, asInt_toOption]
  -- The method looks at the collection first and the index at the position, so they may fail for different reasons.
  cases isItems : target.items? with
  | none =>
    simp only [item_fails isItems, Option.bind_fun_none]
    split <;> rfl
  | some items =>
    have present : target.isNull = false := by
      cases target with
      | null => cases isItems
      | _ => rfl
    rw [present, if_neg Bool.false_ne_true, ok_bind, toOption_bind]
    simp only [item_eq_itemAt isItems]

theorem invoke_mapGet {m : Method H} (native : m.native = mapGet) (target v : Value H) :
    (entry target v).toOption = (invoke m target [v]).toOption := by
  rw [invoke, native]
  cases target <;> rfl

theorem eq_int_of_numericKind? {t : Ty} (whole : t.numericKind? = some .int) : t = .int ∨ t = .boxed .int := by
  have kind : t.kind? = some .int := (Option.filter_eq_some_iff.mp whole).1
  cases t with
  | primitive k => exact .inl (congrArg Ty.primitive (Option.some.inj kind))
  | boxed k => exact .inr (congrArg Ty.boxed (Option.some.inj kind))
  | _ => cases kind

theorem list_accessor (calls : List (Registration H)) {t index : Ty} (whole : index.numericKind? = some .int) :
    ∃ m conversion, ((Registry.start true).after calls : Registry H).catalog.Accessor (.listOf t) index t .list m
      conversion := by
  obtain ⟨more, found⟩ := builtin_find? calls (d := listType (H := H)) (by simp [builtinTypes])
  generalize ((Registry.start true).after calls : Registry H).catalog = c at found ⊢
  obtain ⟨more, visible⟩ := Catalog.methods_of_find? found "get" rfl [t]
  refine ⟨_, if index.isBoxed then .unboxing .int else .identity, ⟨more, visible⟩, ?_, rfl, rfl, ?_, by simp, ?_⟩
  · apply Catalog.select?_single (p := .int) rfl
    rcases eq_int_of_numericKind? whole with rfl | rfl
    · rfl
    · rfl
  · intro span a b isList isIndex
    have isSub : c.isSubtype (.listOf t) (.ofName "List") = true := Catalog.isSubtype_ofName
    have argument : Resolution.typeArgument c (.listOf t) "List" 0 = t := by
      rw [Resolution.typeArgument, Ty.listOf, Catalog.findSupertype?_self]
      rfl
    simp only [Resolution.index, isList, isIndex, isSub, argument]
    simp [Ty.listOf, Ty.component?, whole]
  · intro target position
    rcases eq_int_of_numericKind? whole with rfl | rfl
    · exact invoke_listGet rfl target position
    · simp only [Evaluation.found, Evaluation.condition, convert, Ty.isBoxed, if_true]
      cases unboxed position with
      | error e => rfl
      | ok v => exact invoke_listGet rfl target v

omit [HostObject H] in
/-- A map is not a list: above it there is only `Object`. -/
theorem isSubtype_mapOf_list {d : TypeDef H} (found : c.find? (.ofName "Map") = some d) (none : d.supertypes = [])
    (k v : Ty) : c.isSubtype (.mapOf k v) (.ofName "List") = false := by
  have above : ∀ s ∈ c.hierarchy (.mapOf k v), s = .mapOf k v ∨ s = .object := by
    refine Catalog.hierarchy_induction (.inl rfl) fun s below u isAbove => ?_
    rcases below with rfl | rfl
    · have isKnown : (Ty.mapOf k v).digest? = some (.ofName "Map") := rfl
      rw [Catalog.supertypes, isKnown, Option.bind_some, found, Option.map_some, none] at isAbove
      exact .inr (List.mem_singleton.mp isAbove)
    · cases isAbove
  have different : Digest.ofName "Map" ≠ Digest.ofName "List" ∧
      Digest.ofName "Object" ≠ Digest.ofName "List" := by decide +kernel
  apply Bool.eq_false_iff.mpr
  intro isSub
  rcases Catalog.isSubtype_elim rfl isSub with same | ⟨_, _, top | isNull | ⟨_, _, s, member, _, sameDigest, _⟩⟩
  · simp [Ty.mapOf, Ty.ofName] at same
  · cases top
  · cases isNull
  · rcases above s member with rfl | rfl
    · exact different.1 (Option.some.inj sameDigest)
    · exact different.2 (Option.some.inj sameDigest)

omit [HostObject H] in
theorem conversion?_object {t : Ty} (text : t.isStringLike = true) : c.conversion? t .object = some .upcast := by
  cases t with
  | declared n args =>
    have other : ¬ Ty.declared n args = .object := by
      rintro ⟨⟩
      cases text
    have isSub : c.isSubtype (.declared n args) .object = true := Catalog.isSubtype_object rfl rfl
    rw [Catalog.conversion?, if_neg other]
    exact if_pos isSub
  | _ => cases text

theorem map_accessor (calls : List (Registration H)) {k v index : Ty} (text : index.isStringLike = true) :
    ∃ m conversion, ((Registry.start true).after calls : Registry H).catalog.Accessor (.mapOf k v) index v .map m
      conversion := by
  obtain ⟨more, found⟩ := builtin_find? calls (d := mapType (H := H)) (by simp [builtinTypes])
  generalize ((Registry.start true).after calls : Registry H).catalog = c at found ⊢
  obtain ⟨more, visible⟩ := Catalog.methods_of_find? found "get" rfl [k, v]
  refine ⟨_, .upcast, ⟨more, visible⟩, ?_, rfl, rfl, ?_, by simp, ?_⟩
  · exact Catalog.select?_single rfl (conversion?_object text)
  · intro span a b isMap isIndex
    have isSub : c.isSubtype (.mapOf k v) (.ofName "Map") = true := Catalog.isSubtype_ofName
    have argument : Resolution.typeArgument c (.mapOf k v) "Map" 1 = v := by
      rw [Resolution.typeArgument, Ty.mapOf, Catalog.findSupertype?_self]
      rfl
    simp only [Resolution.index, isMap, isIndex, isSub, isSubtype_mapOf_list found rfl, argument]
    simp [Ty.mapOf, Ty.component?, text]
  · intro target position
    exact invoke_mapGet rfl target position

theorem Ty.Reads.accessor {collection index result : Ty} (reads : Ty.Reads collection index result)
    (calls : List (Registration H)) : ∃ form m conversion,
      ((Registry.start true).after calls : Registry H).catalog.Accessor collection index result form m conversion := by
  cases reads with
  | list whole => exact ⟨.list, list_accessor calls whole⟩
  | map text => exact ⟨.map, map_accessor calls text⟩

omit [HostObject H] in
theorem Resolution.argumentLimit_ok {ctx : Context H} {span : Span} {args : List Expr} {u : Unit} :
    argumentLimit ctx span args = .ok u ↔ args.length ≤ ctx.options.maxArguments := by
  unfold argumentLimit
  dsimp only
  split <;> simp <;> omega

theorem Typed.eval_index_found {a b : Typed H} {t : Ty} {form : IndexForm} (checks : form ≠ .array) (line : Nat)
    (env : Environment H) : (Typed.index line form t a b).eval c env = (do
      let target ← a.eval c env
      let position ← b.eval c env
      checked c t (← Evaluation.found form b.type target position)) := by
  rw [Typed.eval]
  cases form with
  | array => exact absurd rfl checks
  | list => simp only [Evaluation.found, bind_assoc]
  | map => simp only [Evaluation.found]

theorem Typed.eval_call_single {a b : Typed H} {m : Method H} {conversion : Conversion}
    (onReceiver : m.isStatic = false) (line : Nat) (env : Environment H) :
    (Typed.call line false ⟨m, [b.type], none, [conversion]⟩ a [b]).eval c env = (do
      let target ← a.eval c env
      let position ← b.eval c env
      let v ← convert conversion position
      invoke m target [v]) := by
  simp only [Typed.eval, Typed.evalArguments, onReceiver, collect]
  cases a.eval c env with
  | error e => rfl
  | ok target =>
    cases b.eval c env with
    | error e => rfl
    | ok position =>
      simp only [ok_bind]
      cases convert conversion position <;> rfl

namespace Catalog.Accessor

variable {a b : Typed H} {t : Ty} {form : IndexForm} {m : Method H} {conversion : Conversion}

/-- Reading by index is reading by method and checking what is found. -/
theorem eval_eq (accessor : c.Accessor a.type b.type t form m conversion) (line line' : Nat) (env : Environment H) :
    ((Typed.index line form t a b).eval c env).toOption =
      ((Typed.call line' false ⟨m, [b.type], none, [conversion]⟩ a [b]).eval c env >>= checked c t).toOption := by
  rw [Typed.eval_index_found accessor.checks, Typed.eval_call_single accessor.onReceiver]
  cases a.eval c env with
  | error e => rfl
  | ok target =>
    cases b.eval c env with
    | error e => rfl
    | ok position =>
      simp only [ok_bind]
      rw [toOption_bind, accessor.agrees, ← toOption_bind]

/-- The call resolves where it may have an argument at all and no other method takes it. -/
theorem resolve_get {ctx : Context H} {e i : Expr} {span : Span} {w : Typed H}
    (accessor : ctx.catalog.Accessor a.type b.type t form m conversion) (whole : a.type.box = a.type)
    (collection : e.value ctx = .ok a) (position : i.value ctx = .ok b) :
    ((Expr.call span e "get" [i] false).resolve ctx .blank).1 = .ok w ↔ 1 ≤ ctx.options.maxArguments ∧
      (∀ other ∈ (ctx.catalog.methods a.type "get").tail, ctx.catalog.select? other [b.type] = none) ∧
      w = .call span.line false ⟨m, [b.type], none, [conversion]⟩ a [b] := by
  obtain ⟨more, visible⟩ := accessor.visible
  have arguments : [i].mapM (Expr.value ctx) = .ok [b] := by
    rw [List.mapM_cons, position, List.mapM_nil]
    rfl
  have selects {s : Selection H} : ctx.catalog.selectMethod "get" (ctx.catalog.methods a.type "get") [b.type] span =
      .ok s ↔ (∀ other ∈ more, ctx.catalog.select? other [b.type] = none) ∧
        s = ⟨m, [b.type], none, [conversion]⟩ := by
    rw [Catalog.selectMethod_ok, visible, List.filterMap_cons, accessor.accepts]
    rw [List.cons.injEq, List.filterMap_eq_nil_iff, and_comm, eq_comm]
  rw [Expr.resolve_call, collection, ok_bind, arguments, whole]
  rw [visible] at selects ⊢
  -- The accessor takes the index in any case, so the call is ambiguous as soon as another method does.
  constructor
  · intro resolved
    obtain ⟨_, within, resolved⟩ := bind_ok resolved
    rw [ok_bind] at resolved
    obtain ⟨s, selected, same⟩ := bind_ok resolved
    obtain ⟨alone, rfl⟩ := selects.mp selected
    cases same
    exact ⟨Resolution.argumentLimit_ok.mp within, alone, rfl⟩
  · rintro ⟨within, alone, rfl⟩
    have limit : Resolution.argumentLimit ctx span [i] = .ok () := Resolution.argumentLimit_ok.mpr within
    have selected : ctx.catalog.selectMethod "get" (m :: more) ([b].map Typed.type) span = .ok _ :=
      selects.mpr ⟨alone, rfl⟩
    rw [limit, ok_bind, ok_bind, selected]
    rfl

end Catalog.Accessor

end Accessors

/-- Reading a list or a map by index. The index finds what the method `get` finds and checks it against the type of
the items or values, so that both ways succeed with the same value or both fail, unless the host put something
into the collection that does not belong there: then only the method returns it. The method is not resolved where
another one of its name takes the index as well. -/
theorem Expr.index_checks_get [HostObject H] {ctx : Context H} {calls : List (Registration H)} {e i : Expr}
    {a b : Typed H} {t : Ty} (registered : ctx.catalog = ((Registry.start true).after calls : Registry H).catalog)
    (collection : (e.resolve ctx .blank).1 = .ok a) (position : (i.resolve ctx .blank).1 = .ok b)
    (reads : Ty.Reads a.type b.type t) (span span' : Span) :
    ∃ u, ((Expr.index span e i).resolve ctx .blank).1 = .ok u ∧ u.type = t ∧
      ((∃ w, ((Expr.call span' e "get" [i] false).resolve ctx .blank).1 = .ok w) ↔
        1 ≤ ctx.options.maxArguments ∧
          ∀ other ∈ (ctx.catalog.methods a.type "get").tail, ctx.catalog.select? other [b.type] = none) ∧
      ∀ w, ((Expr.call span' e "get" [i] false).resolve ctx .blank).1 = .ok w → w.type = t ∧
        (∀ env, (u.eval ctx.catalog env).toOption =
          (w.eval ctx.catalog env >>= checked ctx.catalog t).toOption) ∧
        ∀ p q, (Expr.index span e i).compile ctx = .ok p →
          (Expr.call span' e "get" [i] false).compile ctx = .ok q → w.Consistent →
          ∀ env, (p.run env).toOption = (q.run env >>= checked ctx.catalog t).toOption := by
  obtain ⟨form, m, conversion, accessor⟩ := reads.accessor calls
  rw [← registered] at accessor
  obtain ⟨whole, isValue, isValue'⟩ := reads.types
  have first : e.value ctx = .ok a := Expr.value_ok.mpr ⟨collection, isValue⟩
  have second : i.value ctx = .ok b := Expr.value_ok.mpr ⟨position, isValue'⟩
  have indexed : ((Expr.index span e i).resolve ctx .blank).1 = .ok (.index span.line form t a b) := by
    rw [Expr.resolve_index, first, ok_bind, second, ok_bind]
    exact accessor.resolves span a b rfl rfl
  have called {w : Typed H} : ((Expr.call span' e "get" [i] false).resolve ctx .blank).1 = .ok w ↔ _ :=
    accessor.resolve_get whole first second
  refine ⟨_, indexed, rfl, ?_, ?_⟩
  · constructor
    · rintro ⟨w, resolved⟩
      exact ⟨(called.mp resolved).1, (called.mp resolved).2.1⟩
    · rintro ⟨within, alone⟩
      exact ⟨_, called.mpr ⟨within, alone, rfl⟩⟩
  · intro w resolved
    obtain ⟨_, _, rfl⟩ := called.mp resolved
    have agree := accessor.eval_eq span.line span'.line
    refine ⟨accessor.returns, agree, ?_⟩
    intro p q compiled compiled' consistent env
    -- The call selects one method more than the index, so what cannot be mistaken there cannot be here.
    have inherited : (Typed.index span.line form t a b).Consistent := by
      refine consistent.mono fun n isSelected => ?_
      rw [Typed.selected_eq] at isSelected ⊢
      exact List.mem_append_left _ (by simpa using isSelected)
    rw [Expr.compile_evaluates compiled indexed inherited, Expr.compile_evaluates compiled' resolved consistent]
    exact agree env

/-- Lists can be asked for an item by a text as well. -/
def shelfContext : Context Record where
  catalog := ((Registry.start true).after [.method (.declare (.listOf (.var 0)) "get" [.string] (.var 0)
    fun _ _ => .ok .null)] : Registry Record).catalog
  scope := ((({} : Declarations Record).parameter "titles" (.listOf .string)).parameter "prices"
    (.mapOf .string (.boxed .int))).scope

/-- The expression `titles[0]`. -/
def titleAt : Expr := .index default (.name default "titles") (.literal default (.int 0))

/-- The expression `titles.get(0)`. -/
def titleGot : Expr := .call default (.name default "titles") "get" [.literal default (.int 0)] false

theorem titleAt_checks_get : ∃ a b u w p q, ((Expr.name default "titles").resolve shelfContext .blank).1 = .ok a ∧
    ((Expr.literal default (.int 0)).resolve shelfContext .blank).1 = .ok b ∧ Ty.Reads a.type b.type .string ∧
    (titleAt.resolve shelfContext .blank).1 = .ok u ∧ (titleGot.resolve shelfContext .blank).1 = .ok w ∧
    w.Consistent ∧ titleAt.compile shelfContext = .ok p ∧ titleGot.compile shelfContext = .ok q ∧
    (∀ env, (u.eval shelfContext.catalog env).toOption =
      (w.eval shelfContext.catalog env >>= checked shelfContext.catalog .string).toOption) ∧
    ∀ env, (p.run env).toOption = (q.run env >>= checked shelfContext.catalog .string).toOption := by
  have types : ((Expr.name default "titles").resolve shelfContext .blank).1.toOption.map Typed.type =
        some (.listOf .string) ∧
      ((Expr.literal default (.int 0)).resolve shelfContext .blank).1.toOption.map Typed.type = some .int := by
    decide +kernel
  have distinct : ((titleGot.resolve shelfContext .blank).1.toOption.map fun w =>
      decide (w.selected.map Method.digest).Nodup) = some true := by decide +kernel
  have succeeds : (titleAt.compile shelfContext).toOption.isSome = true ∧
      (titleGot.compile shelfContext).toOption.isSome = true := by decide +kernel
  obtain ⟨a, isList, listType⟩ := Option.map_eq_some_iff.mp types.1
  obtain ⟨b, isIndex, indexType⟩ := Option.map_eq_some_iff.mp types.2
  obtain ⟨w, isCall, nodup⟩ := Option.map_eq_some_iff.mp distinct
  obtain ⟨p, compiled⟩ := Option.isSome_iff_exists.mp succeeds.1
  obtain ⟨q, compiled'⟩ := Option.isSome_iff_exists.mp succeeds.2
  have reads : Ty.Reads a.type b.type .string := by
    rw [listType, indexType]
    exact .list rfl
  have consistent : w.Consistent := Typed.consistent_of_nodup (of_decide_eq_true nodup)
  obtain ⟨u, indexed, _, _, agree⟩ := Expr.index_checks_get rfl (toOption_some isList) (toOption_some isIndex) reads
    default default
  obtain ⟨_, evals, runs⟩ := agree w (toOption_some isCall)
  exact ⟨a, b, u, w, p, q, toOption_some isList, toOption_some isIndex, reads, indexed, toOption_some isCall,
    consistent, toOption_some compiled, toOption_some compiled', evals,
    runs p q (toOption_some compiled) (toOption_some compiled') consistent⟩

/-- The expression `prices['b']`. -/
def priceAt : Expr := .index default (.name default "prices") (.literal default (.string "b"))

/-- The expression `prices.get('b')`. -/
def priceGot : Expr := .call default (.name default "prices") "get" [.literal default (.string "b")] false

/-- A number among the titles and a text among the prices. -/
def shelfEnvironment : Environment Record where
  argument index := ([.list [.int 5], .map [("b", .string "much")]] : List (Value Record))[index]?

/-- What does not belong into a collection is refused by the index and returned by the method. -/
theorem shelf_disagrees : ∃ p q p' q', titleAt.compile shelfContext = .ok p ∧ titleGot.compile shelfContext = .ok q ∧
    priceAt.compile shelfContext = .ok p' ∧ priceGot.compile shelfContext = .ok q' ∧
    p.run shelfEnvironment = .error (.invalidCast "String" "Integer") ∧ q.run shelfEnvironment = .ok (.int 5) ∧
    p'.run shelfEnvironment = .error (.invalidCast "Integer" "String") ∧
    q'.run shelfEnvironment = .ok (.string "much") := by
  have fail : titleAt.failure? shelfContext shelfEnvironment = some (.invalidCast "String" "Integer") ∧
      priceAt.failure? shelfContext shelfEnvironment = some (.invalidCast "Integer" "String") := by decide +kernel
  have title : ((titleGot.compile shelfContext).toOption.bind fun q =>
      (q.run shelfEnvironment).toOption.bind Value.asInt?) = some 5 := by decide +kernel
  have price : ((priceGot.compile shelfContext).toOption.bind fun q =>
      (q.run shelfEnvironment).toOption.bind Value.asString?) = some "much" := by decide +kernel
  obtain ⟨p, compiled, failed⟩ := Expr.exists_of_failure? fail.1
  obtain ⟨p', compiled', failed'⟩ := Expr.exists_of_failure? fail.2
  obtain ⟨q, isCall, got⟩ := Option.bind_eq_some_iff.mp title
  obtain ⟨q', isCall', got'⟩ := Option.bind_eq_some_iff.mp price
  obtain ⟨v, ran, isInt⟩ := Option.bind_eq_some_iff.mp got
  obtain ⟨v', ran', isText⟩ := Option.bind_eq_some_iff.mp got'
  have isFive : v = .int 5 := by cases v <;> simp_all [Value.asInt?]
  have isMuch : v' = .string "much" := by cases v' <;> simp_all [Value.asString?]
  rw [isFive] at ran
  rw [isMuch] at ran'
  exact ⟨p, q, p', q', compiled, toOption_some isCall, compiled', toOption_some isCall',
    failed, toOption_some ran, failed', toOption_some ran'⟩

end TypedExpr
