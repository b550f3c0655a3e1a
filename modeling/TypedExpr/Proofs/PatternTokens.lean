import TypedExpr.Pattern.Reader
import TypedExpr.Proofs.Scanning
/-!
# Tokens before a closing parenthesis

Every token of a pattern is read by a local scanner: a closing parenthesis after a pattern, with anything behind it,
does not change how the tokens before it are read. A parenthesis in a bracketed class or after a backslash is part of
its token and closes nothing.
-/

namespace TypedExpr.Pattern

open Text Scanner

section Skipping

theorem skipIgnored_suffix (inComment : Bool) (cs : List Char) : skipIgnored inComment cs <:+ cs := by
  fun_induction skipIgnored inComment cs with
  | case1 => exact List.suffix_refl _
  | case2 c rest ih => exact ih.trans (List.suffix_cons c rest)
  | case3 c rest _ ih => exact ih.trans (List.suffix_cons c rest)
  | case4 rest _ ih => exact ih.trans (List.suffix_cons _ rest)
  | case5 => exact List.suffix_refl _

theorem skipIgnored_append {inComment : Bool} {cs rest : List Char} {c : Char}
    (found : skipIgnored inComment cs = c :: rest) (t : List Char) :
    skipIgnored inComment (cs ++ t) = c :: rest ++ t := by
  fun_induction skipIgnored inComment cs with
  | case1 => cases found
  | case2 d more ih => exact ih found
  | case3 d more blank ih =>
    rw [List.cons_append, skipIgnored, if_pos blank]
    exact ih found
  | case4 more blank ih =>
    rw [List.cons_append, skipIgnored, if_neg blank, if_pos rfl]
    exact ih found
  | case5 d more blank other =>
    rw [List.cons_append, skipIgnored, if_neg blank, if_neg other, ← found]
    rfl

/-- Behind a text in which nothing counts, a comment may go on or not. -/
theorem skipIgnored_past {inComment : Bool} {cs : List Char} (nothing : skipIgnored inComment cs = []) :
    ∃ goesOn, ∀ t, skipIgnored inComment (cs ++ t) = skipIgnored goesOn t := by
  fun_induction skipIgnored inComment cs with
  | case1 inComment => exact ⟨inComment, fun _ => rfl⟩
  | case2 d more ih => exact ih nothing
  | case3 d more blank ih =>
    obtain ⟨goesOn, same⟩ := ih nothing
    refine ⟨goesOn, fun t => ?_⟩
    rw [List.cons_append, skipIgnored, if_pos blank, same]
  | case4 more blank ih =>
    obtain ⟨goesOn, same⟩ := ih nothing
    refine ⟨goesOn, fun t => ?_⟩
    rw [List.cons_append, skipIgnored, if_neg blank, if_pos rfl, same]
  | case5 => cases nothing

theorem skipIgnored_comment {cs : List Char} (line : '\n' ∉ cs) : skipIgnored true cs = [] := by
  induction cs with
  | nil => rfl
  | cons c rest ih =>
    rw [List.mem_cons, not_or] at line
    rw [skipIgnored, bne_iff_ne.mpr (Ne.symm line.1), ih line.2]

theorem skips_skipIgnored : Skips (skipIgnored false) where
  suffix := skipIgnored_suffix false
  append := skipIgnored_append
  past := by
    intro cs nothing t
    obtain ⟨goesOn, same⟩ := skipIgnored_past nothing
    exact same t ▸ skipIgnored_suffix goesOn t
  hidden := by
    intro cs nothing
    obtain ⟨goesOn, same⟩ := skipIgnored_past nothing
    cases goesOn with
    | true => exact .inl fun r line => (same _).trans (skipIgnored_comment (by simpa using line))
    | false => exact .inr fun r => same _

theorem skips_dropWhile : Skips (List.dropWhile isBlank) where
  suffix := fun _ => List.dropWhile_suffix isBlank
  append := by
    intro cs c rest found t
    simp [List.dropWhile_append, found]
  past := by
    intro cs nothing t
    simpa [List.dropWhile_append, nothing] using List.dropWhile_suffix isBlank
  hidden := by
    intro cs nothing
    exact .inr fun r => by simp [List.dropWhile_append, nothing, show isBlank ')' = false from rfl]

variable (f : Flags)

theorem Flags.skips : Skips f.skip := by
  unfold Flags.skip
  cases f.verbose with
  | true => exact skips_skipIgnored
  | false => exact Skips.id

theorem Flags.skips_blanks : Skips f.skipBlanks := by
  unfold Flags.skipBlanks
  cases verbose : f.verbose with
  | true => exact f.skips
  | false => exact skips_dropWhile

theorem Flags.inBrace_cases (cs : List Char) :
    cs = [] ∨ (∃ rest, cs = '\x7b' :: rest) ∨ ∀ t, f.inBrace (cs ++ t) = [] := by
  cases cs with
  | nil => exact .inl rfl
  | cons c rest =>
    by_cases brace : c = '\x7b'
    · exact .inr (.inl ⟨rest, brace ▸ rfl⟩)
    · exact .inr (.inr fun _ => if_neg brace)

theorem Flags.inBrace_suffix (cs : List Char) : f.inBrace cs <:+ cs := by
  rcases f.inBrace_cases cs with rfl | ⟨rest, rfl⟩ | other
  · exact List.suffix_refl _
  · exact (f.skips.suffix rest).trans (List.suffix_cons _ rest)
  · have nothing := other []
    rw [List.append_nil] at nothing
    exact nothing ▸ List.nil_suffix

theorem Flags.skips_inBrace : Skips f.inBrace where
  suffix := f.inBrace_suffix
  append := by
    intro cs c rest found t
    rcases f.inBrace_cases cs with rfl | ⟨more, rfl⟩ | other
    · cases found
    · exact f.skips.append found t
    · have nothing := other []
      rw [List.append_nil, found] at nothing
      cases nothing
  past := by
    intro cs nothing t
    rcases f.inBrace_cases cs with rfl | ⟨more, rfl⟩ | other
    · exact f.inBrace_suffix t
    · exact f.skips.past nothing t
    · exact other t ▸ List.nil_suffix
  hidden := by
    intro cs nothing
    rcases f.inBrace_cases cs with rfl | ⟨more, rfl⟩ | other
    · exact .inl fun _ _ => rfl
    · exact f.skips.hidden nothing
    · exact .inl fun _ _ => other _

end Skipping

section Atoms

variable (f : Flags)

theorem local_readHexDigits (count value : ℕ) : Local (readHexDigits f count value) := by
  induction count generalizing value with
  | zero => exact .pure value
  | succ count ih => exact (Local.next f.skips).bind fun c => (Local.lift _).bind fun d => ih _

theorem local_readHexBraced : Local (readHexBraced f) :=
  .loopNext f.skips (fun _ _ => .ite ((Local.lift _).bind fun _ => .pure _) ((Local.lift _).bind fun _ => .pure _)) none

theorem local_readHex (count : ℕ) : Local (readHex f count) :=
  (Local.accept f.skips (by decide)).bind fun _ =>
    (Local.ite (local_readHexBraced f) (local_readHexDigits f count 0)).bind fun _ =>
      (Local.lift _).bind fun _ => .pure _

theorem local_readClassName : Local (readClassName f) :=
  (Local.accept f.skips (by decide)).bind fun _ =>
    .ite ((Local.upTo f.skips _).bind fun _ => .lift _) ((Local.next f.skips).bind fun _ => .lift _)

theorem local_readNamedClass (negated : Bool) : Local (readNamedClass f negated) :=
  (local_readClassName f).bind fun _ => .ite (.pure _) .failure

theorem local_readBoundary : Local (readBoundary f) := by
  refine (Local.nextIf f.skips_inBrace (fun _ => rfl) fun _ _ _ => rfl).bind fun found => ?_
  cases found with
  | some first => exact (Local.upTo f.skips _).bind fun _ => .lift _
  | none => exact .pure _

theorem local_readEscape : Local (readEscape f) :=
  (Local.next Skips.id).bind fun _ =>
    .ite ((local_readHex f 2).bind fun _ => .pure _) <|
    .ite ((local_readHex f 4).bind fun _ => .pure _) <|
    .ite ((local_readHex f 8).bind fun _ => .pure _) <|
    .ite ((local_readNamedClass f _).bind fun _ => .pure _) <|
    .ite ((local_readBoundary f).bind fun _ => .pure _) (.lift _)

end Atoms

section Classes

variable (f : Flags)

theorem firstVisible?_append (inComment : Bool) (cs r : List Char) :
    firstVisible? inComment (cs ++ ')' :: r) = (firstVisible? inComment cs).or (some ')') := by
  fun_induction firstVisible? inComment cs with
  | case1 inComment => cases inComment <;> rfl
  | case2 inComment c rest blank ih => rw [List.cons_append, firstVisible?, if_pos blank, ih]
  | case3 inComment c rest blank sign ih => rw [List.cons_append, firstVisible?, if_neg blank, if_pos sign, ih]
  | case4 inComment c rest blank other =>
    rw [List.cons_append, firstVisible?, if_neg blank, if_neg other, Option.some_or]

theorem Flags.deciding?_append (cs r : List Char) : f.deciding? (cs ++ ')' :: r) = (f.deciding? cs).or (some ')') := by
  unfold Flags.deciding?
  cases f.verbose with
  | true => exact firstVisible?_append false cs r
  | false => cases cs <;> rfl

theorem Flags.makesRange_append (c : Char) (cs r : List Char) :
    f.makesRange c (cs ++ ')' :: r) = f.makesRange c cs := by
  unfold Flags.makesRange
  rw [f.deciding?_append]
  cases f.deciding? cs <;> rfl

theorem local_readClassItem : Local (readClassItem f) :=
  (Local.next f.skips).bind fun _ => .ite (local_readEscape f) (.pure _)

theorem local_rangeEnd (first : Atom) (hyphen : Option Char) : Local (rangeEnd f first hyphen) := by
  cases hyphen with
  | some _ => exact (local_readClassItem f).bind fun _ => .lift _
  | none => exact .lift _

theorem local_readClassRange : Local (readClassRange f) :=
  (local_readClassItem f).bind fun first =>
    (Local.nextIf f.skips (fun _ => rfl) f.makesRange_append).bind (local_rangeEnd f first)

theorem advances_readClassRange : Advances (readClassRange f) := by
  have item : Advances (readClassItem f) :=
    (advances_next f.skips).bind fun _ => .ite (local_readEscape f) (.pure _)
  exact item.bind fun first =>
    (Local.nextIf f.skips (fun _ => rfl) f.makesRange_append).bind (local_rangeEnd f first)

theorem local_readHyphens : Local (readHyphens f) := by
  refine .loop (fun m => ?_) ?_ _
  · exact (Local.accept f.skips (by decide)).bind fun _ => .ite (.pure _) (.pure _)
  · intro m cs m' rest read
    obtain ⟨found, middle, read₁, read₂⟩ := bind_some.mp read
    cases found with
    | false => cases read₂
    | true =>
      cases read₂
      exact accept_length f.skips (by decide) read₁

theorem local_readClassOpen : Local (readClassOpen f) :=
  (Local.accept f.skips (by decide)).bind fun _ => (local_readHyphens f).bind fun _ =>
    .ite ((Local.accept f.skips (by decide)).bind fun _ => .ite (.pure _) (.pure _)) (.pure _)

theorem local_colonClasses : Local (oneOf id colonClasses) := .oneOf Skips.id (by decide +kernel)

theorem local_nested (s : ClassReading) : Local (s.nested f) := by
  refine local_colonClasses.bind fun named => ?_
  cases named with
  | some named => exact (Local.lift _).bind fun _ => .pure _
  | none => exact (local_readClassOpen f).bind fun _ => .pure _

theorem local_step (s : ClassReading) : Local (s.step f) :=
  (Local.accept f.skips (by decide)).bind fun _ => .ite (local_nested f s) <|
    (Local.accept f.skips (by decide)).bind fun _ => .ite (.lift _) <|
    (Local.accept f.skips (by decide)).bind fun _ => .ite (.pure _) <|
    (Local.accept f.skips (by decide)).bind fun _ => .ite (.pure _) <|
    (Local.accept f.skips (by decide)).bind fun _ => .ite (.pure _) <|
    (local_readClassRange f).bind fun _ => .pure _

theorem advances_step (s : ClassReading) : Advances (s.step f) :=
  .accept f.skips (by decide) (local_nested f s) <|
    .accept f.skips (by decide) (.lift _) <|
    .accept f.skips (by decide) (.pure _) <|
    .accept f.skips (by decide) (.pure _) <|
    .accept f.skips (by decide) (.pure _) <|
    (advances_readClassRange f).bind fun _ => .pure _

theorem local_readBracketed : Local (readBracketed f) :=
  (local_readClassOpen f).bind fun _ => .loop (local_step f) (advances_step f _ _ _ _) _

end Classes

section Tokens

variable (f : Flags)

theorem local_readCount : Local (readCount f) := by
  refine (Local.next f.skips_blanks).bind fun first => .ite (.bind ?_ fun _ => .ite (.pure _) .failure) .failure
  refine .loop (fun digits => ?_) ?_ _
  · refine (Local.nextIf f.skips (fun _ => rfl) fun _ _ _ => rfl).bind fun found => ?_
    cases found with
    | some d => exact .pure _
    | none => exact .pure _
  · intro digits cs digits' rest read
    obtain ⟨found, middle, read₁, read₂⟩ := bind_some.mp read
    cases found with
    | none => cases read₂
    | some d =>
      cases read₂
      exact nextIf_length f.skips read₁

theorem local_readBounds : Local (readBounds f) :=
  (local_readCount f).bind fun _ => (Local.accept f.skips_blanks (by decide)).bind fun _ => .ite (.pure _) <|
    (Local.accept f.skips_blanks (by decide)).bind fun _ => .ite
      ((Local.accept f.skips (by decide)).bind fun _ => .ite (.pure _) <|
        (local_readCount f).bind fun _ => (Local.accept f.skips_blanks (by decide)).bind fun _ =>
          .ite (.ite (.pure _) .failure) .failure)
      .failure

theorem local_readFlags : Local (readFlags f) :=
  .loopNext Skips.id (fun _ _ => .ite (.ite .failure (.pure _)) <| .ite (.ite .failure (.pure _)) <|
    .ite .failure <| .ite (.pure _) ((Local.lift _).bind fun _ => .pure _)) _

theorem local_readGroupName : Local readGroupName := by
  refine (Local.upTo Skips.id _).bind fun name => ?_
  cases name with
  | nil => exact .failure
  | cons first more => exact .ite (.pure _) .failure

theorem local_readOpening : Local (readOpening f) :=
  (Local.accept f.skips (by decide)).bind fun _ => .ite (local_readGroupName.bind fun _ => .pure _) <|
    (Local.accept f.skips (by decide)).bind fun _ => .ite (local_readGroupName.bind fun _ => .pure _) <|
    (Local.accept f.skips (by decide)).bind fun _ => .ite (local_readFlags f) (.pure _)

theorem local_repetition {skip : List Char → List Char} (skips : Skips skip) (least : ℕ) (most : Option ℕ) :
    Local (repetition skip least most) :=
  (Local.accept skips (by decide)).bind fun _ => .pure _

theorem local_readToken (first : Char) : Local (readToken f first) := by
  unfold readToken
  split
  · exact (local_readOpening f).bind fun _ => .pure _
  · exact .pure _
  · exact .pure _
  · exact (local_readBracketed f).bind fun _ => .pure _
  · exact local_repetition Skips.id _ _
  · exact local_repetition Skips.id _ _
  · exact local_repetition Skips.id _ _
  · exact (local_readBounds f).bind fun _ => local_repetition f.skips _ _
  · exact (local_readEscape f).bind fun _ => (Local.lift _).bind fun _ => .pure _
  · exact (Local.lift _).bind fun _ => .pure _
  · exact .pure _
  · exact .pure _
  · exact .pure _

end Tokens

end TypedExpr.Pattern
