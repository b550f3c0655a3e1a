import TypedExpr.Code.Generation
/-!
# Computations that may fail

A computation in several steps succeeds only if all its steps do. These lemmas take successful computations
apart: those that only fail, and those that also extend the tables of a program.
-/

namespace TypedExpr

variable {H α β ε : Type}

theorem ok_bind (a : α) (f : α → Except ε β) : (Except.ok a >>= f) = f a := rfl

theorem map_bind {γ : Type} (x : Except ε α) (f : α → Except ε β) (g : β → γ) :
    (x >>= f).map g = x >>= fun a => (f a).map g := by cases x <;> rfl

theorem bind_pure_map (x : Except ε α) (g : α → β) : (x >>= fun a => pure (g a)) = x.map g := by
  cases x <;> rfl

theorem bind_ok {x : Except ε α} {f : α → Except ε β} {b : β} (h : x >>= f = .ok b) :
    ∃ a, x = .ok a ∧ f a = .ok b := by
  cases x with
  | error e => cases h
  | ok a => exact ⟨a, rfl, h⟩

theorem map_ok {x : Except ε α} {f : α → β} {b : β} (h : x.map f = .ok b) : ∃ a, x = .ok a ∧ f a = b := by
  cases x with
  | error e => cases h
  | ok a => exact ⟨a, rfl, Except.ok.inj h⟩

theorem map_error {x : Except ε α} {f : α → β} {e : ε} (h : x.map f = .error e) : x = .error e := by
  cases x with
  | error e =>
    cases h
    rfl
  | ok a => cases h

theorem mapError_ok {ε' : Type} {x : Except ε α} {f : ε → ε'} {a : α} (h : x.mapError f = .ok a) : x = .ok a := by
  cases x with
  | error e => cases h
  | ok b => exact congrArg Except.ok (Except.ok.inj h)

theorem map_mapError {ε' : Type} (x : Except ε α) (f : α → β) (g : ε → ε') :
    (x.mapError g).map f = (x.map f).mapError g := by cases x <;> rfl

theorem toOption_some {x : Except ε α} {a : α} (h : x.toOption = some a) : x = .ok a := by
  cases x with
  | error e => cases h
  | ok b => exact congrArg Except.ok (Option.some.inj h)

theorem exists_ok {x : Except ε α × β} (succeeds : x.1.toOption.isSome = true) : ∃ a b, x = (.ok a, b) := by
  obtain ⟨a, found⟩ := Option.isSome_iff_exists.mp succeeds
  exact ⟨a, x.2, Prod.ext (toOption_some found) rfl⟩

namespace Generate

variable {T T' : Tables H}

theorem bind_ok {x : Generate H α} {f : α → Generate H β} {b : β} (h : (x >>= f) T = .ok (b, T')) :
    ∃ a U, x T = .ok (a, U) ∧ f a U = .ok (b, T') := by
  obtain ⟨⟨a, U⟩, first, second⟩ := TypedExpr.bind_ok h
  exact ⟨a, U, first, second⟩

theorem bind_error {x : Generate H α} {f : α → Generate H β} {fault : InternalFault}
    (h : (x >>= f) T = .error fault) :
    x T = .error fault ∨ ∃ a U, x T = .ok (a, U) ∧ f a U = .error fault := by
  cases first : x T with
  | error fault' =>
    simp only [Bind.bind, StateT.bind, first, Except.bind] at h
    exact .inl (congrArg Except.error (Except.error.inj h))
  | ok result =>
    simp only [Bind.bind, StateT.bind, first, Except.bind] at h
    exact .inr ⟨result.1, result.2, rfl, h⟩

theorem pure_ok {a b : α} (h : (pure a : Generate H α) T = .ok (b, T')) : b = a ∧ T' = T := by
  cases h
  exact ⟨rfl, rfl⟩

theorem lift_ok {x : Except InternalFault α} {a : α} (h : (liftExcept x : Generate H α) T = .ok (a, T')) :
    x = .ok a ∧ T' = T := by
  cases x with
  | error e => cases h
  | ok b =>
    cases h
    exact ⟨rfl, rfl⟩

theorem modifyGet_ok {f : Tables H → α × Tables H} {a : α}
    (h : (modifyGet f : Generate H α) T = .ok (a, T')) : f T = (a, T') := Except.ok.inj h

end Generate
end TypedExpr
