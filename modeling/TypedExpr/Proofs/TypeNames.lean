import Mathlib.Data.List.Induction
import Mathlib.Data.List.TakeWhile
import Mathlib.Logic.Function.Iterate
import TypedExpr.Proofs.Registration
/-!
# Spellings of types

A type is spelled by a simple name and pairs of brackets behind it, with blanks anywhere but inside the name and the
pairs (`Spells`). Reading takes a spelling apart from its end, so it accepts exactly the spellings of what the registry
names (`lookup?_exact`); the text of a type without arguments is one of them.
-/

namespace TypedExpr

variable {H : Type}

namespace Text

theorem trimList_blanks_append {lead : List Char} (blanks : ∀ c ∈ lead, isBlank c = true) (cs : List Char) :
    trimList (lead ++ cs) = trimList cs := by
  rw [trimList, List.dropWhile_append_of_pos blanks]
  rfl

/-- Behind a character that is no blank nothing is trimmed. -/
theorem trimList_concat {c : Char} (visible : isBlank c = false) (cs : List Char) :
    trimList (cs ++ [c]) = cs.dropWhile isBlank ++ [c] := by
  have kept : (cs ++ [c]).dropWhile isBlank = cs.dropWhile isBlank ++ [c] := by
    induction cs with
    | nil => simp [visible]
    | cons d cs ih =>
      by_cases blank : isBlank d = true
      · simp only [List.cons_append, List.dropWhile_cons_of_pos blank, ih]
      · simp only [List.cons_append, List.dropWhile_cons_of_neg blank]
  rw [trimList, kept, List.reverse_append, List.reverse_singleton, List.singleton_append,
    List.dropWhile_cons_of_neg (by simp [visible]), List.reverse_cons, List.reverse_reverse]

theorem visible_of_trimList {text cs : List Char} {c : Char} (trimmed : trimList text = cs ++ [c]) :
    isBlank c = false := by
  have last : ((text.dropWhile isBlank).reverse.dropWhile isBlank).head? = some c := by
    have reversed := congrArg List.reverse trimmed
    rw [trimList, List.reverse_reverse, List.reverse_append] at reversed
    rw [reversed]
    rfl
  have visible := List.head?_dropWhile_not isBlank (text.dropWhile isBlank).reverse
  rwa [last] at visible

end Text

namespace Kind

theorem ofName?_eq_some_iff {name : String} {k : Kind} : ofName? name = some k ↔ name = k.name := by
  constructor
  · intro found
    have same := List.find?_some found
    exact (eq_of_beq same).symm
  · rintro rfl
    cases k <;> decide

theorem ofBoxName?_eq_some_iff {name : String} {k : Kind} : ofBoxName? name = some k ↔ name = k.boxName := by
  constructor
  · intro found
    have same := List.find?_some found
    exact (eq_of_beq same).symm
  · rintro rfl
    cases k <;> decide

theorem name_ne_boxName (k l : Kind) : k.name ≠ l.boxName := by
  cases k <;> cases l <;> decide

end Kind

/-- A name of a type, and behind it blanks and a number of pairs of brackets. Blanks may stand before the name, too. -/
inductive Spells (name : List Char) : ℕ → List Char → Prop where
  | name {lead : List Char} (blanks : ∀ c ∈ lead, Text.isBlank c = true) : Spells name 0 (lead ++ name)
  | blank {n : ℕ} {cs : List Char} {c : Char} (isBlank : Text.isBlank c = true) (before : Spells name n cs) :
      Spells name n (cs ++ [c])
  | brackets {n : ℕ} {cs : List Char} (before : Spells name n cs) : Spells name (n + 1) (cs ++ ['[', ']'])

namespace Catalog

variable {c : Catalog H}

theorem readReversed_blank {ch : Char} (blank : Text.isBlank ch = true) (cs : List Char) :
    c.readReversed (cs ++ [ch]).reverse = c.readReversed cs.reverse := by
  rw [List.reverse_append, List.reverse_singleton, List.singleton_append, readReversed.eq_def]
  split
  next closing =>
    rw [(List.cons.inj closing).1] at blank
    exact absurd blank (by decide)
  next same =>
    cases same
    exact if_pos blank
  next same => cases same

theorem readReversed_brackets (cs : List Char) :
    c.readReversed (cs ++ ['[', ']']).reverse = (c.readReversed cs.reverse).map .array := by
  rw [List.reverse_append]
  rfl

theorem readReversed_name {ch : Char} {cs : List Char} (visible : Text.isBlank ch = false)
    (simple : ¬['[', ']'] <:+ cs ++ [ch]) :
    c.readReversed (cs ++ [ch]).reverse = c.simpleType? (.ofList (Text.trimList (cs ++ [ch]))) := by
  have forward : (ch :: cs.reverse).reverse = cs ++ [ch] := by simp
  rw [List.reverse_append, List.reverse_singleton, List.singleton_append, readReversed.eq_def]
  split
  next rest closing =>
    refine absurd ⟨rest.reverse, ?_⟩ simple
    rw [← forward, closing]
    simp
  next same =>
    cases same
    rw [if_neg (by simp [visible]), forward, Text.trim, String.toList_ofList]
  next same => cases same

end Catalog

namespace Registry

/-- The types that names without brackets stand for. Keywords and boxes come before registered types. -/
inductive Names (r : Registry H) : String → Ty → Prop where
  | keyword (k : Kind) : r.Names k.name (.primitive k)
  | box (k : Kind) : r.Names k.boxName (.boxed k)
  | declared {name : String} (registered : r.contains name = true) (trimmed : Text.trim name = name)
      (simple : ¬['[', ']'] <:+ name.toList) (noKeyword : ∀ k : Kind, name ≠ k.name)
      (noBox : ∀ k : Kind, name ≠ k.boxName) : r.Names name (.ofName name)

/-- The types that can be spelled: named ones, and arrays of them. -/
inductive Spellable (r : Registry H) : Ty → Prop where
  | named {name : String} {t : Ty} (names : r.Names name t) : r.Spellable t
  | array {t : Ty} (component : r.Spellable t) : r.Spellable (.array t)

variable {r : Registry H} {name : String} {t : Ty}

theorem Valid.contains_eq (valid : r.Valid) (name : String) : r.catalog.contains name = r.contains name := by
  rw [Catalog.contains, ← valid.get?_eq, get?, contains]
  cases indexed : r.digest? name with
  | none => rfl
  | some digest =>
    obtain ⟨d, found, -⟩ := (valid.indexed name digest).mp indexed
    rw [Option.bind_some, found]
    rfl

theorem Names.trimmed (names : r.Names name t) : Text.trimList name.toList = name.toList := by
  cases names with
  | keyword k => cases k <;> decide
  | box k => cases k <;> decide
  | declared _ trimmed =>
    have characters := congrArg String.toList trimmed
    rwa [Text.trim, String.toList_ofList] at characters

theorem Names.simple (names : r.Names name t) : ¬['[', ']'] <:+ name.toList := by
  cases names with
  | keyword k => cases k <;> decide
  | box k => cases k <;> decide
  | declared _ _ simple => exact simple

theorem Names.simpleType?_eq (valid : r.Valid) (names : r.Names name t) : r.catalog.simpleType? name = some t := by
  unfold Catalog.simpleType?
  cases names with
  | keyword k => rw [Kind.ofName?_eq_some_iff.mpr rfl]
  | box k =>
    have noKeyword : Kind.ofName? k.boxName = none := by
      apply Option.eq_none_iff_forall_ne_some.mpr
      intro l isKeyword
      exact Kind.name_ne_boxName l k (Kind.ofName?_eq_some_iff.mp isKeyword).symm
    rw [noKeyword, Kind.ofBoxName?_eq_some_iff.mpr rfl]
  | declared registered _ _ noKeyword noBox =>
    have isNoKeyword : Kind.ofName? name = none :=
      Option.eq_none_iff_forall_ne_some.mpr fun k found => noKeyword k (Kind.ofName?_eq_some_iff.mp found)
    have isNoBox : Kind.ofBoxName? name = none :=
      Option.eq_none_iff_forall_ne_some.mpr fun k found => noBox k (Kind.ofBoxName?_eq_some_iff.mp found)
    rw [isNoKeyword, isNoBox]
    exact if_pos (by rw [valid.contains_eq, registered])

theorem Valid.names_of_simpleType? (valid : r.Valid) (trimmed : Text.trim name = name)
    (simple : ¬['[', ']'] <:+ name.toList) (found : r.catalog.simpleType? name = some t) : r.Names name t := by
  unfold Catalog.simpleType? at found
  split at found
  next k isKeyword =>
    cases found
    obtain rfl := Kind.ofName?_eq_some_iff.mp isKeyword
    exact .keyword k
  next noKeyword =>
    split at found
    next k isBox =>
      cases found
      obtain rfl := Kind.ofBoxName?_eq_some_iff.mp isBox
      exact .box k
    next noBox =>
      split at found
      next registered =>
        cases found
        rw [valid.contains_eq] at registered
        refine .declared registered trimmed simple (fun k isKeyword => ?_) fun k isBox => ?_
        · rw [Kind.ofName?_eq_some_iff.mpr isKeyword] at noKeyword
          cases noKeyword
        · rw [Kind.ofBoxName?_eq_some_iff.mpr isBox] at noBox
          cases noBox
      · cases found

theorem not_brackets_suffix {lead cs : List Char} {c : Char} (simple : ¬['[', ']'] <:+ cs ++ [c])
    (blanks : ∀ d ∈ lead, Text.isBlank d = true) : ¬['[', ']'] <:+ lead ++ cs ++ [c] := by
  rintro ⟨before, same⟩
  rw [show before ++ ['[', ']'] = (before ++ ['[']) ++ [']'] by simp] at same
  obtain ⟨same, isClosing⟩ := List.append_inj' same rfl
  rcases List.eq_nil_or_concat' cs with rfl | ⟨more, d, rfl⟩
  · rw [List.append_nil] at same
    have isBlank := blanks '[' (by simp [← same])
    exact absurd isBlank (by decide)
  · rw [← List.append_assoc] at same
    obtain ⟨-, isOpening⟩ := List.append_inj' same rfl
    refine simple ⟨more, ?_⟩
    rw [← isOpening, ← isClosing]
    simp

theorem Names.readReversed_eq (valid : r.Valid) (names : r.Names name t) {lead : List Char}
    (blanks : ∀ c ∈ lead, Text.isBlank c = true) : r.catalog.readReversed (lead ++ name.toList).reverse = some t := by
  have found := names.simpleType?_eq valid
  rcases List.eq_nil_or_concat' name.toList with empty | ⟨cs, c, characters⟩
  · rw [String.toList_eq_nil_iff.mp empty] at found
    rw [empty, List.append_nil]
    induction lead using List.reverseRecOn with
    | nil => exact found
    | append_singleton lead c ih =>
      rw [Catalog.readReversed_blank (blanks c (by simp))]
      exact ih fun d member => blanks d (by simp [member])
  · have trimmed := names.trimmed
    have visible : Text.isBlank c = false := Text.visible_of_trimList (trimmed.trans characters)
    have simple := not_brackets_suffix (characters ▸ names.simple) blanks
    rw [characters] at trimmed
    rw [characters, ← List.append_assoc, Catalog.readReversed_name visible simple, List.append_assoc,
      Text.trimList_blanks_append blanks, trimmed, ← characters, String.ofList_toList, found]

/-- Reading accepts every spelling of a named type. -/
theorem Names.lookup?_eq (valid : r.Valid) (names : r.Names name t) {n : ℕ} {s : String}
    (spells : Spells name.toList n s.toList) : r.catalog.lookup? s = some (Ty.array^[n] t) := by
  unfold Catalog.lookup?
  generalize s.toList = cs at spells
  induction spells with
  | name blanks => exact names.readReversed_eq valid blanks
  | blank isBlank _ ih => rw [Catalog.readReversed_blank isBlank, ih]
  | brackets _ ih =>
    rw [Catalog.readReversed_brackets, ih, Function.iterate_succ_apply']
    rfl

/-- What reading accepts is a spelling of a named type. -/
theorem Valid.spells_of_readReversed (valid : r.Valid) {cs : List Char}
    (found : r.catalog.readReversed cs = some t) :
    ∃ name base n, r.Names name base ∧ Spells name.toList n cs.reverse ∧ t = Ty.array^[n] base := by
  fun_induction Catalog.readReversed r.catalog cs generalizing t with
  | case1 rest ih =>
    obtain ⟨component, isFound, rfl⟩ := Option.map_eq_some_iff.mp found
    obtain ⟨name, base, n, names, spells, rfl⟩ := ih isFound
    refine ⟨name, base, n + 1, names, ?_, (Function.iterate_succ_apply' ..).symm⟩
    simpa using spells.brackets
  | case2 ch rest _ blank ih =>
    obtain ⟨name, base, n, names, spells, rfl⟩ := ih found
    refine ⟨name, base, n, names, ?_, rfl⟩
    simpa using spells.blank blank
  | case3 ch rest noBrackets visible =>
    -- The name is all that stands behind the leading blanks, since the last character is no blank.
    have isVisible : Text.isBlank ch = false := by simpa using visible
    have parts : rest.reverse.takeWhile Text.isBlank ++ (rest.reverse.dropWhile Text.isBlank ++ [ch]) =
        (ch :: rest).reverse := by
      rw [← List.append_assoc, List.takeWhile_append_dropWhile, List.reverse_cons]
    have blanks : ∀ c ∈ rest.reverse.takeWhile Text.isBlank, Text.isBlank c = true := fun c => List.mem_takeWhile_imp
    have trimmed : Text.trim (.ofList (rest.reverse.dropWhile Text.isBlank ++ [ch])) =
        .ofList (rest.reverse.dropWhile Text.isBlank ++ [ch]) := by
      rw [Text.trim, String.toList_ofList, ← Text.trimList_blanks_append blanks, parts, List.reverse_cons,
        Text.trimList_concat isVisible]
    have simple : ¬['[', ']'] <:+ rest.reverse.dropWhile Text.isBlank ++ [ch] := by
      rintro ⟨before, same⟩
      have whole : ch :: rest = ']' :: '[' :: (rest.reverse.takeWhile Text.isBlank ++ before).reverse := by
        rw [← List.reverse_reverse (ch :: rest), ← parts, ← same]
        simp
      exact noBrackets _ (List.cons.inj whole).1 (List.cons.inj whole).2
    rw [List.reverse_cons, Text.trim, String.toList_ofList, Text.trimList_concat isVisible] at found
    have names := valid.names_of_simpleType? trimmed (by rwa [String.toList_ofList]) found
    refine ⟨_, t, 0, names, ?_, rfl⟩
    rw [String.toList_ofList, ← parts]
    exact .name blanks
  | case4 =>
    have names := valid.names_of_simpleType? (by decide) (by decide) found
    exact ⟨"", t, 0, names, @Spells.name _ [] (by simp), rfl⟩

theorem Names.text_eq (names : r.Names name t) : t.text = name := by
  cases names <;> rfl

theorem Spellable.spells (spellable : r.Spellable t) :
    ∃ name base n, r.Names name base ∧ Spells name.toList n t.text.toList ∧ t = Ty.array^[n] base := by
  induction spellable with
  | @named name t names =>
    refine ⟨name, t, 0, names, ?_, rfl⟩
    rw [names.text_eq]
    exact @Spells.name _ [] (by simp)
  | array _ ih =>
    obtain ⟨name, base, n, names, spells, rfl⟩ := ih
    refine ⟨name, base, n + 1, names, ?_, (Function.iterate_succ_apply' ..).symm⟩
    rw [Ty.text, String.toList_append]
    exact spells.brackets

/-- A text stands for a type exactly if it spells the type by a keyword, by the name of a box or by a registered name
that is trimmed and does not end in brackets. So the text of a type that can be spelled stands for the type. -/
theorem lookup?_exact [HostObject H] (builtins : Bool) (calls : List (Registration H)) :
    (∀ s t, ((start builtins).after calls : Registry H).catalog.lookup? s = some t ↔
      ∃ name base n, ((start builtins).after calls).Names name base ∧ Spells name.toList n s.toList ∧
        t = Ty.array^[n] base) ∧
    ∀ t, ((start builtins).after calls : Registry H).Spellable t →
      ((start builtins).after calls).catalog.lookup? t.text = some t := by
  have valid := ((start_valid (H := H) builtins).1.after calls).1
  generalize (start builtins).after calls = r at valid
  refine ⟨fun s t => ⟨fun found => ?_, ?_⟩, fun t spellable => ?_⟩
  · simpa using valid.spells_of_readReversed found
  · rintro ⟨name, base, n, names, spells, rfl⟩
    exact names.lookup?_eq valid spells
  · obtain ⟨name, base, n, names, spells, rfl⟩ := spellable.spells
    exact names.lookup?_eq valid spells

end Registry
end TypedExpr
