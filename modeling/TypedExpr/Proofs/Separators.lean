import TypedExpr.Proofs.Substrings
/-!
# Texts and separators

Splitting a text and replacing in it are two scans from the left: each meets an occurrence and passes over it, or goes
on behind one character. They take the same occurrences. So the parts of a text, joined with another text, are the text
with the separator replaced (`replace_eq_join_split`), and joined with the separator they are the text itself
(`join_split`).
-/

namespace TypedExpr.Text

variable {separator replacement text : List Char}

theorem consFirst_ne_nil (c : Char) (parts : List (List Char)) : consFirst c parts ≠ [] := by
  cases parts <;> simp [consFirst]

theorem splitFrom_ne_nil (separator : List Char) (skip : ℕ) (text : List Char) :
    splitFrom separator skip text ≠ [] := by
  fun_induction splitFrom separator skip text with
  | case1 => simp
  | case2 skip c rest ih => exact ih
  | case3 c rest starts ih => simp
  | case4 c rest absent ih => exact consFirst_ne_nil c _

theorem join_cons (part : List Char) {parts : List (List Char)} (more : parts ≠ []) :
    join separator (part :: parts) = part ++ (separator ++ join separator parts) := by
  cases parts with
  | nil => exact absurd rfl more
  | cons next parts => simp [join, List.intersperse]

theorem join_consFirst (c : Char) (parts : List (List Char)) :
    join separator (consFirst c parts) = c :: join separator parts := by
  cases parts with
  | nil => rfl
  | cons part parts => cases parts <;> simp [join, consFirst, List.intersperse]

theorem join_characters (separator text : List Char) :
    join separator (text.map ([·]) ++ [[]]) = text.flatMap (· :: separator) := by
  induction text with
  | nil => rfl
  | cons c rest ih =>
    rw [List.map_cons, List.cons_append, join_cons _ (by simp), ih]
    rfl

/-- The empty text occurs before every character and at the end. -/
theorem join_split_nil (separator text : List Char) :
    join separator (split [] text) = separator ++ text.flatMap (· :: separator) := by
  have parts : split [] text = [] :: (text.map ([·]) ++ [[]]) := rfl
  rw [parts, join_cons _ (by simp), join_characters]
  rfl

theorem replaceFrom_eq_join (target replacement : List Char) (skip : ℕ) (text : List Char) :
    replaceFrom target replacement skip text = join replacement (splitFrom target skip text) := by
  fun_induction replaceFrom target replacement skip text with
  | case1 skip => cases skip <;> rfl
  | case2 skip c rest ih => exact ih
  | case3 c rest starts ih =>
    rw [splitFrom, if_pos starts, join_cons _ (splitFrom_ne_nil _ _ _), ih]
    rfl
  | case4 c rest absent ih => rw [splitFrom, if_neg absent, join_consFirst, ih]

theorem replace_eq_join_split (target replacement text : List Char) :
    replace target replacement text = join replacement (split target text) := by
  by_cases empty : target = []
  · subst empty
    rw [join_split_nil]
    rfl
  · have isScan : ¬target.isEmpty = true := by simpa using empty
    rw [replace, split, if_neg isScan, if_neg isScan, replaceFrom_eq_join]

/-- An occurrence is the separator itself, of which the first character was met. -/
theorem append_drop_of_isPrefixOf {c : Char} {rest : List Char} (nonempty : separator ≠ [])
    (starts : separator.isPrefixOf (c :: rest) = true) :
    separator ++ rest.drop (separator.length - 1) = c :: rest := by
  obtain ⟨tail, append⟩ := List.isPrefixOf_iff_prefix.mp starts
  cases separator with
  | nil => exact absurd rfl nonempty
  | cons d more =>
    rw [List.cons_append] at append
    obtain ⟨rfl, rfl⟩ := List.cons.inj append
    rw [List.length_cons, Nat.add_sub_cancel, List.drop_left]
    rfl

theorem join_splitFrom (nonempty : separator ≠ []) (skip : ℕ) (text : List Char) :
    join separator (splitFrom separator skip text) = text.drop skip := by
  fun_induction splitFrom separator skip text with
  | case1 skip =>
    rw [List.drop_nil]
    rfl
  | case2 skip c rest ih => exact ih
  | case3 c rest starts ih =>
    rw [join_cons _ (splitFrom_ne_nil _ _ _), ih, append_drop_of_isPrefixOf nonempty starts]
    rfl
  | case4 c rest absent ih =>
    rw [join_consFirst, ih]
    rfl

theorem join_split (separator text : List Char) : join separator (split separator text) = text := by
  by_cases empty : separator = []
  · subst empty
    rw [join_split_nil]
    simp
  · rw [split, if_neg (by simpa using empty), join_splitFrom empty]
    rfl

/-- The first part starts the text, so an occurrence at its start is one that the scan would have met. -/
theorem splitFrom_parts (nonempty : separator ≠ []) (skip : ℕ) (text : List Char) :
    (∀ first parts, splitFrom separator skip text = first :: parts → first <+: text.drop skip) ∧
      ∀ part ∈ splitFrom separator skip text, ¬separator <:+: part := by
  have absent : ¬separator <:+: [] := by
    rw [List.infix_nil]
    exact nonempty
  fun_induction splitFrom separator skip text with
  | case1 skip => simpa using nonempty
  | case2 skip c rest ih => exact ih
  | case3 c rest starts ih =>
    constructor
    · rintro first parts ⟨⟩
      exact List.nil_prefix
    · rintro part (_ | ⟨_, member⟩)
      · exact absent
      · exact ih.2 part member
  | case4 c rest unmet ih =>
    obtain ⟨first, parts, scanned⟩ := List.exists_cons_of_ne_nil (splitFrom_ne_nil separator 0 rest)
    rw [scanned] at ih ⊢
    have starts : c :: first <+: c :: rest := List.cons_prefix_cons.mpr ⟨rfl, ih.1 first parts rfl⟩
    constructor
    · rintro _ _ ⟨⟩
      exact starts
    · rintro part (_ | ⟨_, member⟩)
      · rw [List.infix_cons_iff]
        rintro (isFirst | later)
        · exact unmet (List.isPrefixOf_iff_prefix.mpr (isFirst.trans starts))
        · exact ih.2 first List.mem_cons_self later
      · exact ih.2 part (List.mem_cons_of_mem _ member)

end TypedExpr.Text

namespace TypedExpr.Builtin

variable {H : Type} [HostObject H]

theorem splitText_string (s separator : String) :
    splitText (H := H) (.string s) [.string separator] =
      .ok (.array (((Text.split separator.toList s.toList).map String.ofList).map .string)) := by
  rw [List.map_map]
  rfl

theorem replaceText_string (s target replacement : String) :
    replaceText (H := H) (.string s) [.string target, .string replacement] =
      .ok (.string (.ofList (Text.replace target.toList replacement.toList s.toList))) := rfl

theorem joinTexts_strings (this : Value H) (separator : String) (parts : List (List Char)) :
    joinTexts this [.string separator, .array ((parts.map String.ofList).map .string)] =
      .ok (.string (.ofList (Text.join separator.toList parts))) := by
  have texts : ((parts.map String.ofList).map Value.string).map (fun p : Value H => p.text.toList) = parts := by
    simp [Function.comp_def, Value.text]
  change Except.ok (Value.string (String.ofList (Text.join _ (List.map _ _)))) = _
  rw [texts]

/-- The parts of a text between the occurrences of a separator give the text back when they are joined with the
separator, and the text with all occurrences replaced when they are joined with another text. If the separator is not
empty, no part contains it. -/
theorem split_coherent (this : Value H) (s separator replacement : String) :
    ∃ parts : List String,
      splitText (H := H) (.string s) [.string separator] = .ok (.array (parts.map .string)) ∧
      joinTexts this [.string separator, .array (parts.map .string)] = .ok (.string s) ∧
      replaceText (.string s) [.string separator, .string replacement] =
        joinTexts this [.string replacement, .array (parts.map .string)] ∧
      (separator ≠ "" → ∀ part ∈ parts,
        containsText (H := H) (.string part) [.string separator] = .ok (.bool false)) := by
  refine ⟨_, splitText_string s separator, ?_, ?_, fun nonempty part member => ?_⟩
  · rw [joinTexts_strings, Text.join_split, String.ofList_toList]
  · rw [joinTexts_strings, replaceText_string, Text.replace_eq_join_split]
  · obtain ⟨characters, isPart, rfl⟩ := List.mem_map.mp member
    have isScan : separator.toList ≠ [] := by simpa using nonempty
    rw [Text.split, if_neg (by simpa using nonempty)] at isPart
    have absent := (Text.splitFrom_parts isScan 0 s.toList).2 characters isPart
    have lacks : (String.ofList characters).contains separator = false := by
      rw [Bool.eq_false_iff, ne_eq, String.contains_string_iff, String.toList_ofList]
      exact absent
    change Except.ok (Value.bool ((String.ofList characters).contains separator)) = _
    rw [lacks]

end TypedExpr.Builtin
