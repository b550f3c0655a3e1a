import TypedExpr.Host.Record
import TypedExpr.Proofs.Enclosing
import TypedExpr.Proofs.Standalone
/-!
# Matching a whole text

A match expression puts the text of its pattern in a group between the start and the end of the operand. A well-formed
pattern that can stand there matches the operand as a whole; a text that is no pattern is accepted only if it closes
that group itself.
-/

namespace TypedExpr

open Pattern

variable {H : Type} {ctx : Context H}

/-- Below the limit, the pattern is compiled if it can be read between the start and the end. -/
theorem Pattern.compileWhole?_eq {limit : ℕ} {source : String}
    (fits : ∀ regex, readRegex (whole source) = some regex → regex.size * placeBytes ≤ limit) :
    compileWhole? limit source = (readRegex (whole source)).map fun regex => ⟨whole source, regex⟩ := by
  unfold compileWhole? compile?
  cases read : readRegex (whole source) with
  | none => rfl
  | some regex => exact if_pos (fits regex read)

theorem Expr.resolve_matches_ok {e : Expr} {operand t : Typed H} {span : Span} {source : String}
    (value : e.value ctx = .ok operand) (text : operand.type.isStringLike = true)
    (fits : ∀ regex, readRegex (whole source) = some regex →
      regex.size * placeBytes ≤ ctx.options.patternSizeLimit) :
    ((Expr.matches span e source).resolve ctx .blank).1 = .ok t ↔
      ∃ regex, readRegex (whole source) = some regex ∧ t = .matches span.line ⟨whole source, regex⟩ operand := by
  rw [Expr.resolve_matches, value, ok_bind, Resolution.matches, text, Pattern.compileWhole?_eq fits]
  cases readRegex (whole source) with
  | none => simp
  | some regex => simp [eq_comm]

variable [HostObject H]

theorem Typed.eval_matches {operand : Typed H} {env : Environment H} {v : String} (line : ℕ) (p : Pattern)
    (value : operand.eval ctx.catalog env = .ok (.string v)) :
    (Typed.matches line p operand).eval ctx.catalog env = .ok (.bool (p.isMatch v)) := by
  rw [Typed.eval, value]
  rfl

omit [HostObject H] in
theorem Typed.Consistent.matches {operand : Typed H} (consistent : operand.Consistent) (line : ℕ) (p : Pattern) :
    (Typed.matches line p operand).Consistent := by
  refine consistent.mono fun m isSelected => ?_
  simpa [Typed.selected_eq (.matches ..), Typed.children, Typed.site?] using isSelected

/-- A match whose pattern is well-formed resolves exactly if the pattern can stand in the group around it, and then
yields whether the pattern matches the operand from its first to its last character. A match whose pattern is not
well-formed resolves only if the pattern closes that group itself. -/
theorem Expr.matches_whole {e : Expr} {operand : Typed H} {source : String}
    (value : e.value ctx = .ok operand) (text : operand.type.isStringLike = true)
    (fits : ∀ regex, readRegex (whole source) = some regex →
      regex.size * placeBytes ≤ ctx.options.patternSizeLimit) (span : Span) :
    (∀ regex, readRegex source = some regex →
      ((∃ t, ((Expr.matches span e source).resolve ctx .blank).1 = .ok t) ↔ Encloses source) ∧
      ∀ t, ((Expr.matches span e source).resolve ctx .blank).1 = .ok t →
        ∀ env v, operand.eval ctx.catalog env = .ok (.string v) →
          ∃ b, t.eval ctx.catalog env = .ok (.bool b) ∧ (b = true ↔ regex.MatchesWhole v) ∧
            ∀ p, (Expr.matches span e source).compile ctx = .ok p → operand.Consistent →
              p.run env = .ok (.bool b)) ∧
    (readRegex source = none → (∃ t, ((Expr.matches span e source).resolve ctx .blank).1 = .ok t) →
      ClosesGroup source) := by
  refine ⟨fun regex alone => ⟨?_, ?_⟩, ?_⟩
  · constructor
    · rintro ⟨t, resolved⟩
      obtain ⟨regex', read, -⟩ := (Expr.resolve_matches_ok value text fits).mp resolved
      exact ((readRegex_whole alone).mp read).1
    · intro encloses
      exact ⟨_, (Expr.resolve_matches_ok value text fits).mpr
        ⟨_, (readRegex_whole alone).mpr ⟨encloses, rfl⟩, rfl⟩⟩
  · intro t resolved env v evaluated
    obtain ⟨regex', read, rfl⟩ := (Expr.resolve_matches_ok value text fits).mp resolved
    obtain ⟨-, rfl⟩ := (readRegex_whole alone).mp read
    have evaluates := Typed.eval_matches span.line ⟨whole source, regex.enclosed⟩ evaluated
    refine ⟨_, evaluates, regex.isMatch_enclosed v, fun p compiled consistent => ?_⟩
    rw [Expr.compile_evaluates compiled resolved (consistent.matches _ _) env, evaluates]
  · rintro malformed ⟨t, resolved⟩
    obtain ⟨regex', read, -⟩ := (Expr.resolve_matches_ok value text fits).mp resolved
    exact closesGroup_of_readRegex_whole malformed read

def noteContext : Context Record where
  catalog := ⟨[]⟩
  scope := (({} : Declarations Record).parameter "note" .string).scope

def noteEnvironment (v : String) : Environment Record where
  argument index := ([.string v] : List (Value Record))[index]?

/-- The expression `note matches source`. -/
def noteMatch (source : String) : Expr := .matches default (.name default "note") source

/-- Alternatives with blanks between them, and a comment that ends with its line. -/
def laidOut : String := "(?x) a+ | b # either\n"

def laidOutRegex : Regex := .alt (.repeat 1 none (.one ⟨[(97, 97)]⟩)) (.one ⟨[(98, 98)]⟩)

theorem noteMatch_whole : readRegex laidOut = some laidOutRegex ∧ Encloses laidOut ∧
    ∃ p, (noteMatch laidOut).compile noteContext = .ok p ∧
      ∀ v, ∃ b, p.run (noteEnvironment v) = .ok (.bool b) ∧ (b = true ↔ laidOutRegex.MatchesWhole v) := by
  have read : readRegex laidOut = some laidOutRegex := by decide +kernel
  have around : readRegex (whole laidOut) = some laidOutRegex.enclosed := by decide +kernel
  have compiles : ((noteMatch laidOut).compile noteContext).toOption.isSome := by decide +kernel
  have fits (regex : Regex) (read' : readRegex (whole laidOut) = some regex) :
      regex.size * placeBytes ≤ noteContext.options.patternSizeLimit := by
    cases around.symm.trans read'
    decide
  have value : (Expr.name default "note").value noteContext = .ok (.parameter 0 0 .string) := rfl
  obtain ⟨resolves, yields⟩ := (Expr.matches_whole value rfl fits default).1 laidOutRegex read
  have encloses : Encloses laidOut := ((readRegex_whole read).mp around).1
  obtain ⟨p, compiled⟩ := Option.isSome_iff_exists.mp compiles
  obtain ⟨t, resolved⟩ := resolves.mpr encloses
  refine ⟨read, encloses, p, toOption_some compiled, fun v => ?_⟩
  obtain ⟨b, -, met, runs⟩ := yields t resolved (noteEnvironment v) v rfl
  exact ⟨b, runs p (toOption_some compiled) (Typed.consistent_of_nodup (by decide)), met⟩

/-- A text that closes the group is accepted though it is no pattern, and matches a part of the operand. A pattern
with a comment at its end is refused. -/
theorem noteMatch_unlike_alone :
    (readRegex "a)|(?:b" = none ∧ ∃ p, (noteMatch "a)|(?:b").compile noteContext = .ok p ∧
      p.run (noteEnvironment "ax") = .ok (.bool true)) ∧
    (readRegex "(?x) a # c").isSome = true ∧
      ∀ t, ((noteMatch "(?x) a # c").resolve noteContext .blank).1 ≠ .ok t := by
  have alone : readRegex "a)|(?:b" = none ∧ (readRegex "(?x) a # c").isSome = true := by decide +kernel
  have splits : ((noteMatch "a)|(?:b").compile noteContext).toOption.bind (fun p =>
      (p.run (noteEnvironment "ax")).toOption.bind Value.asBool?) = some true := by decide +kernel
  have refused : ((noteMatch "(?x) a # c").resolve noteContext .blank).1.toOption.isNone = true := by decide +kernel
  obtain ⟨p, compiled, ran⟩ := Option.bind_eq_some_iff.mp splits
  obtain ⟨v, ran, isTrue⟩ := Option.bind_eq_some_iff.mp ran
  have isTrue' : v = .bool true := by cases v <;> simp_all [Value.asBool?]
  refine ⟨⟨alone.1, p, toOption_some compiled, isTrue' ▸ toOption_some ran⟩, alone.2, fun t resolved => ?_⟩
  rw [resolved] at refused
  cases refused

end TypedExpr
