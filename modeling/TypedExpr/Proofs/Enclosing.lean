import TypedExpr.Proofs.Matching
import TypedExpr.Proofs.PatternTokens
/-!
# Patterns within a group

Whether the text of a pattern can stand in a group and mean there what it means alone. A run of the reader over a
well-formed pattern goes the same way when there are more groups around it and a closing parenthesis follows
(`Reads.keep`), and a run that leaves a group has read a well-formed pattern up to the parenthesis that closes the group
(`Reads.cut`). So a well-formed pattern keeps its meaning unless a comment at its end hides the parenthesis, and a text
that is no pattern can be read in a group only if it closes the group itself.
-/

namespace TypedExpr.Pattern

open Text Scanner

/-- One round of reading. -/
def Reading.Step (s : Reading) (cs : List Char) (s' : Reading) (rest : List Char) : Prop :=
  ∃ c more token, s.flags.skip cs = c :: more ∧ readToken s.flags c more = some (token, rest) ∧ s.take token = some s'

/-- A run of the reader from a state to the end of a text. -/
inductive Reads : Reading → List Char → Piece → Prop
  | finish {s : Reading} {cs : List Char} {piece : Piece} (atEnd : s.flags.skip cs = [])
    (finished : s.finish = some piece) : Reads s cs piece
  | step {s s' : Reading} {cs rest : List Char} {piece : Piece} (first : s.Step cs s' rest)
    (others : Reads s' rest piece) : Reads s cs piece

theorem Reading.Step.length {s s' : Reading} {cs rest : List Char} (step : s.Step cs s' rest) :
    rest.length < cs.length := by
  obtain ⟨c, more, token, next, read, -⟩ := step
  have shorter := s.flags.skips.length_le cs
  have inside := ((local_readToken s.flags c).suffix read).length_le
  rw [next, List.length_cons] at shorter
  omega

theorem Reading.Step.readFrom {s s' : Reading} {cs rest : List Char} (step : s.Step cs s' rest) (fuel : ℕ) :
    readFrom (fuel + 1) s cs = readFrom fuel s' rest := by
  obtain ⟨c, more, token, next, read, taken⟩ := step
  rw [Pattern.readFrom, next]
  simp only [read, taken, Option.bind_eq_bind, Option.bind_some]

theorem readFrom_finish {s : Reading} {cs : List Char} (atEnd : s.flags.skip cs = []) (fuel : ℕ) :
    readFrom (fuel + 1) s cs = s.finish := by
  rw [Pattern.readFrom, atEnd]

theorem reads_of_readFrom {fuel : ℕ} {s : Reading} {cs : List Char} {piece : Piece}
    (read : readFrom fuel s cs = some piece) : Reads s cs piece := by
  induction fuel generalizing s cs with
  | zero => cases read
  | succ fuel ih =>
    cases next : s.flags.skip cs with
    | nil => exact .finish next (readFrom_finish next fuel ▸ read)
    | cons c more =>
      rw [readFrom, next] at read
      obtain ⟨⟨token, rest⟩, token_read, read⟩ := Option.bind_eq_some_iff.mp read
      obtain ⟨s', taken, read⟩ := Option.bind_eq_some_iff.mp read
      exact .step ⟨c, more, token, next, token_read, taken⟩ (ih read)

theorem Reads.readFrom {s : Reading} {cs : List Char} {piece : Piece} (reads : Reads s cs piece) {fuel : ℕ}
    (enough : cs.length < fuel) : readFrom fuel s cs = some piece := by
  induction reads generalizing fuel with
  | finish atEnd finished =>
    obtain ⟨fuel, rfl⟩ : ∃ k, fuel = k + 1 := ⟨fuel - 1, by omega⟩
    rw [readFrom_finish atEnd, finished]
  | step first others ih =>
    obtain ⟨fuel, rfl⟩ : ∃ k, fuel = k + 1 := ⟨fuel - 1, by omega⟩
    have shorter := first.length
    rw [first.readFrom]
    exact ih (by omega)

theorem readPiece_eq_some {source : String} {piece : Piece} :
    readPiece source = some piece ↔ Reads {} source.toList piece :=
  ⟨reads_of_readFrom, fun reads => reads.readFrom (Nat.lt_succ_self _)⟩

theorem Reading.Step.reads_iff {s s' : Reading} {cs rest : List Char} (step : s.Step cs s' rest) {piece : Piece} :
    Reads s cs piece ↔ Reads s' rest piece := by
  constructor
  · intro reads
    have read := reads.readFrom (Nat.lt_succ_self _)
    rw [step.readFrom] at read
    exact reads_of_readFrom read
  · exact .step step

theorem reads_finish {s : Reading} {cs : List Char} (atEnd : s.flags.skip cs = []) {piece : Piece} :
    Reads s cs piece ↔ s.finish = some piece := by
  constructor
  · intro reads
    rw [← readFrom_finish atEnd cs.length]
    exact reads.readFrom (Nat.lt_succ_self _)
  · exact .finish atEnd

namespace Reading

/-- The same state with more groups around. -/
def inside (s : Reading) (below : List Frame) : Reading := { s with frames := s.frames ++ below }

theorem inside_nil (s : Reading) : s.inside [] = s := by
  simp [inside]

variable {s s' : Reading} {token : Token}

/-- Only a parenthesis that closes nothing of its own sees the groups around. -/
theorem take_inside (below : List Frame) (opens : token = .close → s.frames ≠ []) :
    (s.inside below).take token = (s.take token).map fun s' => s'.inside below := by
  cases token with
  | opening o =>
    cases o with
    | flags flags => rfl
    | group flags name =>
      cases name with
      | none => rfl
      | some name =>
        by_cases known : name ∈ s.names <;> simp [take, inside, enter, known]
  | close =>
    obtain ⟨frame, frames, opened⟩ := List.exists_cons_of_ne_nil (opens rfl)
    simp only [take, inside, opened, List.cons_append, Option.map_some]
  | bar => rfl
  | piece p => rfl
  | repetition least most =>
    simp only [take, inside]
    cases repeatLast least most s.items <;> rfl

theorem frames_of_take_close (taken : s.take .close = some s') : s.frames ≠ [] := by
  intro none
  simp [take, none] at taken

/-- With groups around, a token is taken as without them, or closes one of them. -/
theorem take_inside_cases {below : List Frame} (taken : (s.inside below).take token = some s') :
    (∃ u, s.take token = some u ∧ s' = u.inside below) ∨ token = .close ∧ s.frames = [] := by
  by_cases closes : token = .close ∧ s.frames = []
  · exact .inr closes
  · rw [take_inside below fun isClose none => closes ⟨isClose, none⟩] at taken
    obtain ⟨u, taken, same⟩ := Option.map_eq_some_iff.mp taken
    exact .inl ⟨u, taken, same.symm⟩

theorem Step.keep {cs rest : List Char} (step : s.Step cs s' rest) (below : List Frame) {r : List Char}
    (line : '\n' ∉ r) : (s.inside below).Step (cs ++ ')' :: r) (s'.inside below) (rest ++ ')' :: r) := by
  obtain ⟨c, more, token, next, read, taken⟩ := step
  refine ⟨c, more ++ ')' :: r, token, s.flags.skips.append next _, (local_readToken s.flags c).keep read line, ?_⟩
  rw [take_inside below, taken]
  · rfl
  · rintro rfl
    exact frames_of_take_close taken

theorem frames_of_finish {piece : Piece} (finished : s.finish = some piece) : s.frames = [] := by
  unfold finish at finished
  split at finished
  next none => exact none
  · cases finished

end Reading

/-- A pattern is read the same way with groups around and a closing parenthesis behind, up to its end. -/
theorem Reads.keep {s : Reading} {cs : List Char} {piece : Piece} (reads : Reads s cs piece) :
    ∃ (last : Reading) (rest : List Char), last.flags.skip rest = [] ∧ last.finish = some piece ∧
      ∀ (below : List Frame) (r : List Char) (whole : Piece), '\n' ∉ r →
        (Reads (s.inside below) (cs ++ ')' :: r) whole ↔ Reads (last.inside below) (rest ++ ')' :: r) whole) := by
  induction reads with
  | @finish s cs piece atEnd finished => exact ⟨s, cs, atEnd, finished, fun _ _ _ _ => Iff.rfl⟩
  | step first others ih =>
    obtain ⟨last, rest, atEnd, finished, same⟩ := ih
    refine ⟨last, rest, atEnd, finished, fun below r whole line => ?_⟩
    exact (first.keep below line).reads_iff.trans (same below r whole line)

theorem readToken_close {f : Flags} {c : Char} {more rest : List Char}
    (read : readToken f c more = some (.close, rest)) : c = ')' ∧ rest = more := by
  unfold readToken at read
  split at read <;> simp [-bind_pure_comp, bind_some, pure_some, repetition, Token.plain] at read
  exact ⟨rfl, read.symm⟩

/-- A round with groups around stays in the text before a closing parenthesis, or takes the parenthesis that closes one
of those groups. -/
theorem Reading.Step.cut {s s' : Reading} {below : List Frame} {cs rest : List Char}
    (step : (s.inside below).Step cs s' rest) :
    (∃ u, s' = u.inside below ∧ ∀ q r, rest = q ++ ')' :: r → ∃ q', cs = q' ++ ')' :: r ∧ s.Step q' u q) ∨
      s.frames = [] ∧ ∃ q, cs = q ++ ')' :: rest ∧ s.flags.skip q = [] := by
  obtain ⟨c, more, token, next, read, taken⟩ := step
  change s.flags.skip cs = c :: more at next
  obtain ⟨passed, parts⟩ := s.flags.skips.suffix cs
  rw [next] at parts
  rcases Reading.take_inside_cases taken with ⟨u, taken', rfl⟩ | ⟨rfl, outermost⟩
  · refine .inl ⟨u, rfl, ?_⟩
    rintro q r rfl
    obtain ⟨spelled, rfl⟩ := (local_readToken s.flags c).suffix read
    have parts' : (passed ++ c :: (spelled ++ q)) ++ ')' :: r = cs := by simpa using parts
    have next' : s.flags.skip (passed ++ c :: (spelled ++ q)) = c :: (spelled ++ q) :=
      s.flags.skips.cut (t := ')' :: r) (by rw [parts', next]; simp)
    have read' : readToken s.flags c (spelled ++ q) = some (token, q) :=
      (local_readToken s.flags c).cut (r := r) (by rw [List.append_assoc]; exact read)
    exact ⟨_, parts'.symm, c, spelled ++ q, token, next', read', taken'⟩
  · obtain ⟨rfl, rfl⟩ := readToken_close read
    have next' : s.flags.skip passed = [] := s.flags.skips.cut (t := ')' :: rest) (by rw [parts, next]; rfl)
    exact .inr ⟨outermost, passed, parts.symm, next'⟩

/-- What is read in a group up to the parenthesis that closes it is a pattern. -/
theorem Reads.cut {s : Reading} {outer : Frame} {below : List Frame} {cs : List Char} {whole : Piece}
    (reads : Reads (s.inside (outer :: below)) cs whole) :
    ∃ q r piece, cs = q ++ ')' :: r ∧ Reads s q piece := by
  generalize entered : s.inside (outer :: below) = inner at reads
  induction reads generalizing s with
  | finish atEnd finished =>
    subst entered
    have outermost := Reading.frames_of_finish finished
    simp [Reading.inside] at outermost
  | @step _ _ _ rest _ first others ih =>
    subst entered
    rcases first.cut with ⟨u, rfl, within⟩ | ⟨outermost, q, parts, atEnd⟩
    · obtain ⟨q, r, piece, parts, reads⟩ := ih rfl
      obtain ⟨q', parts', step⟩ := within q r parts
      exact ⟨q', r, piece, parts', .step step reads⟩
    · have finished : s.finish = some (joinAlternatives (sequence s.items.reverse) s.alternatives) := by
        unfold Reading.finish
        rw [outermost]
      exact ⟨q, rest, _, parts, .finish atEnd finished⟩

/-- A closing parenthesis outside all groups is refused. -/
theorem not_reads_close {s : Reading} {cs more : List Char} {piece : Piece} (outermost : s.frames = [])
    (next : s.flags.skip cs = ')' :: more) : ¬Reads s cs piece := by
  intro reads
  cases reads with
  | finish atEnd finished =>
    rw [next] at atEnd
    cases atEnd
  | step first others =>
    obtain ⟨c, more', token, next', read, taken⟩ := first
    obtain ⟨rfl, rfl⟩ := List.cons.inj (next.symm.trans next')
    cases read
    exact Reading.frames_of_take_close taken outermost

/-- What is read before the group in the text that must match from start to end. -/
def opened : Frame := ⟨[], [.piece ⟨.assertion .startText, 0⟩], {}⟩

/-- The state behind the group. -/
def closed (names : List (List Char)) (piece : Piece) : Reading where
  names := names
  items := [.piece ⟨piece.regex, piece.depth + 1⟩, .piece ⟨.assertion .startText, 0⟩]

/-- A piece in a group between the conditions of the start and the end. -/
def Piece.enclosed (p : Piece) : Piece := ⟨p.regex.enclosed, p.depth + 2⟩

theorem reads_whole {source : String} {piece : Piece} :
    readPiece (whole source) = some piece ↔
      Reads (({} : Reading).inside [opened]) (source.toList ++ ')' :: ['$']) piece := by
  have anchor (rest : List Char) :
      ({} : Reading).Step ('^' :: rest) { items := [.piece ⟨.assertion .startText, 0⟩] } rest :=
    ⟨'^', rest, _, rfl, rfl, rfl⟩
  have group (rest : List Char) : ({ items := [.piece ⟨.assertion .startText, 0⟩] } : Reading).Step
      ('(' :: '?' :: ':' :: rest) (({} : Reading).inside [opened]) rest :=
    ⟨'(', '?' :: ':' :: rest, .opening (.group {} none), rfl, rfl, rfl⟩
  have text : (whole source).toList = '^' :: '(' :: '?' :: ':' :: (source.toList ++ ')' :: ['$']) := by
    simp [whole]
  rw [readPiece_eq_some, text, (anchor _).reads_iff, (group _).reads_iff]

theorem sequence_enclosed (p : Piece) :
    joinAlternatives (sequence [.piece ⟨.assertion .startText, 0⟩, .piece ⟨p.regex, p.depth + 1⟩,
      .piece ⟨.assertion .endText, 0⟩]) [] = p.enclosed := by
  simp [joinAlternatives, sequence, Piece.enclosed, Regex.enclosed, levelDepth, Item.depth, Item.regex?]

/-- The end of the text that must match from start to end. -/
theorem reads_closed {last : Reading} {piece : Piece} (finished : last.finish = some piece) {cs : List Char}
    (next : last.flags.skip cs = ')' :: ['$']) : Reads (last.inside [opened]) cs piece.enclosed := by
  have outermost := Reading.frames_of_finish finished
  have joined : joinAlternatives (sequence last.items.reverse) last.alternatives = piece := by
    simpa [Reading.finish, outermost] using finished
  have close : (last.inside [opened]).Step cs (closed last.names piece) ['$'] := by
    refine ⟨')', ['$'], .close, next, rfl, ?_⟩
    simp [Reading.take, Reading.inside, outermost, opened, closeGroup, joined, closed]
  refine .step close (.step ⟨'$', [], .plain (.assertion .endText), rfl, rfl, rfl⟩ (.finish rfl ?_))
  exact congrArg some (sequence_enclosed piece)

theorem not_reads_hidden {last : Reading} {cs : List Char} (next : last.flags.skip cs = []) (piece : Piece) :
    ¬Reads (last.inside [opened]) cs piece := by
  intro reads
  have finished : (last.inside [opened]).finish = some piece := (reads_finish (s := last.inside [opened]) next).mp reads
  have outermost := Reading.frames_of_finish finished
  simp [Reading.inside] at outermost

/-- A well-formed pattern is read in the group as it is alone, unless a comment at its end hides the parenthesis. -/
theorem readPiece_whole {source : String} {piece : Piece} (alone : readPiece source = some piece) :
    readPiece (source ++ ")") = none ∧ readPiece (whole source) = some piece.enclosed ∨
      readPiece (source ++ ")") = some piece ∧ readPiece (whole source) = none := by
  obtain ⟨last, rest, atEnd, finished, same⟩ := (readPiece_eq_some.mp alone).keep
  have outermost := Reading.frames_of_finish finished
  have behind (other : Piece) : readPiece (source ++ ")") = some other ↔ Reads last (rest ++ [')']) other := by
    have ended := same [] [] other (by decide)
    rw [Reading.inside_nil, Reading.inside_nil] at ended
    rw [readPiece_eq_some, String.toList_append]
    exact ended
  have around (other : Piece) : readPiece (whole source) = some other ↔
      Reads (last.inside [opened]) (rest ++ ')' :: ['$']) other :=
    reads_whole.trans (same [opened] ['$'] other (by decide))
  rcases last.flags.skips.hidden atEnd with hidden | visible
  · refine .inr ⟨(behind piece).mpr (.finish (hidden [] (by decide)) finished), ?_⟩
    refine Option.eq_none_iff_forall_ne_some.mpr fun other read => ?_
    exact not_reads_hidden (hidden ['$'] (by decide)) other ((around other).mp read)
  · refine .inl ⟨?_, (around _).mpr (reads_closed finished (visible ['$']))⟩
    refine Option.eq_none_iff_forall_ne_some.mpr fun other read => ?_
    exact not_reads_close outermost (visible []) ((behind other).mp read)

/-- The parenthesis that ends a prefix stands in the text or is the one behind it. -/
theorem split_before_end {cs q r : List Char} (split : cs ++ ')' :: ['$'] = q ++ ')' :: r) :
    q = cs ∨ ∃ more, cs = q ++ ')' :: more := by
  rcases List.append_eq_append_iff.mp split with ⟨more, rfl, tail⟩ | ⟨more, before, tail⟩
  · cases more with
    | nil => exact .inl (List.append_nil cs)
    | cons c more =>
      -- Only one character is left for the parenthesis, and that is the sign of the end.
      have length := congrArg List.length tail
      simp only [List.length_cons, List.length_append, List.length_nil] at length
      obtain rfl : more = [] := List.eq_nil_of_length_eq_zero (by omega)
      simp at tail
  · cases more with
    | nil => exact .inl (before.trans (List.append_nil q)).symm
    | cons c more =>
      obtain ⟨rfl, -⟩ := List.cons.inj tail
      exact .inr ⟨more, before⟩

/-- A text closes a group that it did not open, behind a well-formed pattern. -/
def ClosesGroup (source : String) : Prop := ∃ q r, source = q ++ ")" ++ r ∧ (readPiece q).isSome = true

/-- A text that is no pattern is read in the group only if it closes the group itself. -/
theorem closes_of_readPiece_whole {source : String} {piece : Piece} (alone : readPiece source = none)
    (read : readPiece (whole source) = some piece) : ClosesGroup source := by
  obtain ⟨q, r, inner, split, reads⟩ := (reads_whole.mp read).cut
  rcases split_before_end split with rfl | ⟨more, before⟩
  · rw [readPiece_eq_some.mpr reads] at alone
    cases alone
  · have early : readPiece (String.ofList q) = some inner := readPiece_eq_some.mpr (by rwa [String.toList_ofList])
    refine ⟨String.ofList q, String.ofList more, ?_, by rw [early]; rfl⟩
    exact String.toList_inj.mp (by simp [before])

/-- A pattern can stand in a group between the start and the end: no comment at its end hides the parenthesis behind it,
and it does not nest too deep with the two levels around it. -/
def Encloses (source : String) : Prop :=
  readPiece (source ++ ")") = none ∧ ∀ piece, readPiece source = some piece → piece.depth + 2 ≤ nestLimit

theorem readRegex_eq_some {source : String} {regex : Regex} :
    readRegex source = some regex ↔
      ∃ piece, readPiece source = some piece ∧ piece.depth ≤ nestLimit ∧ piece.regex = regex := by
  unfold readRegex
  constructor
  · intro read
    obtain ⟨piece, read, limited⟩ := Option.bind_eq_some_iff.mp read
    split at limited
    next flat => exact ⟨piece, read, flat, Option.some.inj limited⟩
    · cases limited
  · rintro ⟨piece, read, flat, rfl⟩
    rw [read]
    exact if_pos flat

/-- What a pattern means between the start and the end, and when it can stand there. -/
theorem readRegex_whole {source : String} {regex regex' : Regex} (alone : readRegex source = some regex) :
    readRegex (whole source) = some regex' ↔ Encloses source ∧ regex' = regex.enclosed := by
  obtain ⟨piece, inner, -, rfl⟩ := readRegex_eq_some.mp alone
  rw [readRegex_eq_some, Encloses, inner]
  rcases readPiece_whole inner with ⟨visible, read⟩ | ⟨hidden, read⟩
  · rw [read, visible]
    constructor
    · rintro ⟨_, ⟨⟩, flat, rfl⟩
      refine ⟨⟨rfl, ?_⟩, rfl⟩
      rintro _ ⟨⟩
      exact flat
    · rintro ⟨⟨-, flat⟩, rfl⟩
      exact ⟨_, rfl, flat piece rfl, rfl⟩
  · rw [read, hidden]
    simp

theorem closesGroup_of_readRegex_whole {source : String} {regex : Regex} (alone : readRegex source = none)
    (read : readRegex (whole source) = some regex) : ClosesGroup source := by
  obtain ⟨piece, read, flat, -⟩ := readRegex_eq_some.mp read
  cases inner : readPiece source with
  | none => exact closes_of_readPiece_whole inner read
  | some inner' =>
    -- A pattern refused for its depth is too deep in the group as well.
    exfalso
    rcases readPiece_whole inner with ⟨-, same⟩ | ⟨-, same⟩
    · cases same.symm.trans read
      have found := readRegex_eq_some.mpr ⟨inner', inner, Nat.le_trans (Nat.le_add_right _ 2) flat, rfl⟩
      rw [alone] at found
      cases found
    · rw [same] at read
      cases read

end TypedExpr.Pattern
