import Mathlib.Logic.Function.Iterate
import TypedExpr.Ty
/-!
# Types by their texts

The text of a type begins with a name, which ends at the first delimiter; arguments and pairs of brackets follow. Read
from its start it leaves no choice: where two texts stand before something that cannot continue them and all is the
same, the types are the same but for brackets at their ends (`text_cancel`). So types have different texts as long as
their names are told from each other and from keywords, boxes and variables (`text_identifies`).
-/

namespace TypedExpr.Ty

/-- The characters that structure the text of a type. -/
def isDelimiter (c : Char) : Bool := c ∈ ['<', '>', '[', ']', ',', ' ']

/-- Whether a name is that of a variable: `T` and a number. -/
def isVariableName : List Char → Bool
  | 'T' :: d :: ds => (d :: ds).all Char.isDigit
  | _ => false

/-- A name that reads as the name of a declared type only. -/
structure PlainName (name : String) : Prop where
  noDelimiter : ∀ c ∈ name.toList, isDelimiter c = false
  noVoid : name ≠ "void"
  noNull : name ≠ "null"
  noKeyword : ∀ k : Kind, name ≠ k.name
  noBox : ∀ k : Kind, name ≠ k.boxName
  noVariable : isVariableName name.toList = false

/-- All declared types in the type have plain names. -/
inductive Plain : Ty → Prop where
  | void : Plain .void
  | null : Plain .null
  | primitive (k : Kind) : Plain (.primitive k)
  | boxed (k : Kind) : Plain (.boxed k)
  | var (i : Nat) : Plain (.var i)
  | array {component : Ty} (plain : Plain component) : Plain (.array component)
  | declared {name : String} {args : List Ty} (plainName : PlainName name) (plain : ∀ a ∈ args, Plain a) :
      Plain (.declared name args)

/-! ### Names -/

/-- The name at the start of the text of a type. -/
def leadingName : Ty → String
  | .void => "void"
  | .null => "null"
  | .primitive k => k.name
  | .boxed k => k.boxName
  | .array c => leadingName c
  | .declared n _ => n
  | .var i => "T" ++ toString i

theorem toList_var (i : Nat) : ("T" ++ toString i).toList = 'T' :: Nat.toDigits 10 i := by
  rw [String.toList_append, Nat.toString_eq_repr, Nat.repr, String.toList_ofList, String.toList_ofList]
  rfl

theorem isVariableName_var (i : Nat) : isVariableName ("T" ++ toString i).toList = true := by
  have digits : ∀ c ∈ Nat.toDigits 10 i, c.isDigit = true :=
    fun c isDigit => Nat.isDigit_of_mem_toDigits (by decide) (by decide) isDigit
  rw [toList_var]
  cases written : Nat.toDigits 10 i with
  | nil => exact absurd written Nat.toDigits_ne_nil
  | cons d ds => exact List.all_eq_true.mpr (written ▸ digits)

theorem PlainName.ne_var {name : String} (plain : PlainName name) (i : Nat) : name ≠ "T" ++ toString i := by
  intro same
  have named := isVariableName_var i
  rw [← same, plain.noVariable] at named
  cases named

theorem isDelimiter_of_isDigit {c : Char} (digit : c.isDigit = true) : isDelimiter c = false := by
  have none : (['<', '>', '[', ']', ',', ' '].all fun d => !d.isDigit) = true := rfl
  apply decide_eq_false
  intro listed
  have other := List.all_eq_true.mp none c listed
  rw [digit] at other
  cases other

theorem plain_of_all {cs : List Char} (all : (cs.all fun c => !isDelimiter c) = true) :
    ∀ c ∈ cs, isDelimiter c = false := by
  simpa using all

theorem Plain.leadingName_plain {t : Ty} (plain : t.Plain) : ∀ c ∈ t.leadingName.toList, isDelimiter c = false := by
  induction plain with
  | void | null => exact plain_of_all rfl
  | primitive k | boxed k => cases k <;> exact plain_of_all rfl
  | var i =>
    rw [leadingName, toList_var, List.forall_mem_cons]
    refine ⟨by decide, fun c isDigit => isDelimiter_of_isDigit ?_⟩
    exact Nat.isDigit_of_mem_toDigits (by decide) (by decide) isDigit
  | array _ ih => exact ih
  | declared plainName => exact plainName.noDelimiter

/-- The types that are known by a fixed name. -/
def basics : List Ty := .void :: .null :: (Kind.all.map .primitive ++ Kind.all.map .boxed)

theorem basics_distinct : ∀ s ∈ basics, ∀ t ∈ basics, s.leadingName = t.leadingName → s = t := by decide +kernel

theorem basics_noVariable : ∀ t ∈ basics, ∀ i : Nat, t.leadingName ≠ "T" ++ toString i := by
  intro t basic i same
  have other : ∀ t ∈ basics, t.leadingName.toList.head? ≠ some 'T' := by decide +kernel
  exact other t basic (by rw [same, toList_var, List.head?_cons])

theorem PlainName.noBasic {name : String} (plain : PlainName name) : ∀ t ∈ basics, name ≠ t.leadingName := by
  simp only [basics, List.forall_mem_cons, List.forall_mem_append, List.forall_mem_map]
  exact ⟨plain.noVoid, plain.noNull, fun k _ => plain.noKeyword k, fun k _ => plain.noBox k⟩

theorem Plain.simple_cases {t : Ty} (plain : t.Plain) (simple : t.isArray = false) :
    (∃ name args, PlainName name ∧ t = .declared name args) ∨ (∃ i, t = .var i) ∨ t ∈ basics := by
  cases plain with
  | void | null => exact .inr (.inr (by decide +kernel))
  | primitive k | boxed k => cases k <;> exact .inr (.inr (by decide +kernel))
  | var i => exact .inr (.inl ⟨i, rfl⟩)
  | array => cases simple
  | declared plainName => exact .inl ⟨_, _, plainName, rfl⟩

/-- Apart from arrays, a type is known by its name and its arguments. -/
theorem Plain.eq_of_leadingName {s t : Ty} (plain : s.Plain) (plain' : t.Plain) (simple : s.isArray = false)
    (simple' : t.isArray = false) (name : s.leadingName = t.leadingName) (args : s.args = t.args) : s = t := by
  rcases plain.simple_cases simple with ⟨n, as, plainName, rfl⟩ | ⟨i, rfl⟩ | basic <;>
    rcases plain'.simple_cases simple' with ⟨m, bs, plainName', rfl⟩ | ⟨j, rfl⟩ | basic'
  · exact congrArg₂ Ty.declared name args
  · exact absurd name (plainName.ne_var j)
  · exact absurd name (plainName.noBasic t basic')
  · exact absurd name.symm (plainName'.ne_var i)
  · have same := congrArg String.toList name
    simp only [leadingName, toList_var, List.cons.injEq, true_and] at same
    have number := congrArg (Nat.ofDigitChars 10 · 0) same
    simp only [Nat.ofDigitChars_ten_toDigits] at number
    rw [number]
  · exact absurd name.symm (basics_noVariable t basic' i)
  · exact absurd name.symm (plainName'.noBasic s basic)
  · exact absurd name (basics_noVariable s basic j)
  · exact basics_distinct s basic t basic' name

/-! ### What follows a name -/

/-- The text of the arguments of a type, with the brackets around them. -/
def argumentText : List Ty → List Char
  | [] => []
  | a :: as => '<' :: (a.text.toList ++ ((textMore as).toList ++ ['>']))

theorem text_simple {t : Ty} (simple : t.isArray = false) :
    t.text.toList = t.leadingName.toList ++ argumentText t.args := by
  cases t with
  | array => cases simple
  | declared n as => cases as <;> simp [text, leadingName, args, argumentText]
  | _ => simp [text, leadingName, args, argumentText]

/-- The brackets behind an array of arrays. -/
def brackets : Nat → List Char
  | 0 => []
  | n + 1 => '[' :: ']' :: brackets n

theorem brackets_append_succ (n : Nat) (r : List Char) : brackets n ++ '[' :: ']' :: r = brackets (n + 1) ++ r := by
  induction n with
  | zero => rfl
  | succ n ih => rw [brackets, List.cons_append, List.cons_append, ih, brackets, brackets]; rfl

/-- The text cannot continue the text of a type, except by brackets. -/
def Stops (r : List Char) : Prop := ∀ c ∈ r.head?, c ∈ ['>', ',', '[']

/-- The text cannot continue the text of a type. -/
def Ends (r : List Char) : Prop := ∀ c ∈ r.head?, c ∈ ['>', ',']

theorem Ends.stops {r : List Char} (ends : Ends r) : Stops r := by
  intro c first
  exact List.mem_append_left ['['] (ends c first)

theorem brackets_cancel {n m : Nat} {r r' : List Char} (ends : Ends r) (ends' : Ends r')
    (same : brackets n ++ r = brackets m ++ r') : n = m ∧ r = r' := by
  induction n generalizing m with
  | zero =>
    cases m with
    | zero => exact ⟨rfl, same⟩
    | succ m =>
      obtain rfl : r = '[' :: ']' :: (brackets m ++ r') := same
      exact absurd (ends '[' rfl) (by decide)
  | succ n ih =>
    cases m with
    | zero =>
      obtain rfl : '[' :: ']' :: (brackets n ++ r) = r' := same
      exact absurd (ends' _ rfl) (by decide)
    | succ m =>
      obtain ⟨rfl, rest⟩ := ih (List.cons.inj (List.cons.inj same).2).2
      exact ⟨rfl, rest⟩

/-- A name ends at the first delimiter. -/
theorem name_cancel {a b r r' : List Char} (plain : ∀ c ∈ a, isDelimiter c = false)
    (plain' : ∀ c ∈ b, isDelimiter c = false) (delimited : ∀ c ∈ r.head?, isDelimiter c = true)
    (delimited' : ∀ c ∈ r'.head?, isDelimiter c = true) (same : a ++ r = b ++ r') : a = b ∧ r = r' := by
  have whole {name rest : List Char} (plain : ∀ c ∈ name, isDelimiter c = false)
      (delimited : ∀ c ∈ rest.head?, isDelimiter c = true) : (name ++ rest).takeWhile (!isDelimiter ·) = name := by
    rw [List.takeWhile_append_of_pos (by simpa using plain)]
    cases rest with
    | nil => simp
    | cons c rest => simp [delimited c rfl]
  have name : a = b := by rw [← whole plain delimited, same, whole plain' delimited']
  subst name
  exact ⟨rfl, List.append_cancel_left same⟩

theorem Stops.delimited {r : List Char} (stops : Stops r) (as : List Ty) :
    ∀ c ∈ (argumentText as ++ r).head?, isDelimiter c = true := by
  cases as with
  | nil =>
    intro c first
    have delimiters : ∀ d ∈ ['>', ',', '['], isDelimiter d = true := by simp [isDelimiter]
    exact delimiters c (stops c first)
  | cons a as =>
    intro c first
    cases first
    decide

theorem textMore_cons (a : Ty) (as : List Ty) :
    (textMore (a :: as)).toList = ',' :: ' ' :: (a.text.toList ++ (textMore as).toList) := by
  rw [textMore, String.toList_append, String.toList_append]
  rfl

theorem textMore_ends (as : List Ty) (r : List Char) : Ends ((textMore as).toList ++ '>' :: r) := by
  cases as with
  | nil =>
    intro c first
    cases first
    decide
  | cons a as =>
    intro c first
    rw [textMore_cons] at first
    cases first
    decide

/-! ### Reading from the start -/

/-- The types differ only in how many arrays they make of one type, and the texts only in the brackets for them. -/
def SameBase (s t : Ty) (r r' : List Char) : Prop :=
  ∃ base n m, s = array^[n] base ∧ t = array^[m] base ∧ brackets n ++ r = brackets m ++ r'

theorem SameBase.symm {s t : Ty} {r r' : List Char} : SameBase s t r r' → SameBase t s r' r := by
  rintro ⟨base, n, m, first, second, same⟩
  exact ⟨base, m, n, second, first, same.symm⟩

theorem SameBase.array {s t : Ty} {r r' : List Char} :
    SameBase s t ('[' :: ']' :: r) r' → SameBase (.array s) t r r' := by
  rintro ⟨base, n, m, rfl, second, same⟩
  refine ⟨base, n + 1, m, (Function.iterate_succ_apply' ..).symm, second, ?_⟩
  rw [← brackets_append_succ, same]

theorem SameBase.eq {s t : Ty} {r r' : List Char} (ends : Ends r) (ends' : Ends r') :
    SameBase s t r r' → s = t ∧ r = r' := by
  rintro ⟨base, n, m, rfl, rfl, same⟩
  obtain ⟨rfl, rest⟩ := brackets_cancel ends ends' same
  exact ⟨rfl, rest⟩

/-- The arguments are told apart by their texts, wherever these end. -/
def Separates (as : List Ty) : Prop :=
  ∀ {bs : List Ty} {r r' : List Char}, (∀ b ∈ bs, b.Plain) →
    (textMore as).toList ++ '>' :: r = (textMore bs).toList ++ '>' :: r' → as = bs ∧ r = r'

theorem Separates.argumentText {as bs : List Ty} (separates : Separates as) (plain : ∀ b ∈ bs, b.Plain)
    {r r' : List Char} (stops : Stops r) (stops' : Stops r')
    (same : argumentText as ++ r = Ty.argumentText bs ++ r') : as = bs ∧ r = r' := by
  cases as with
  | nil =>
    cases bs with
    | nil => exact ⟨rfl, same⟩
    | cons b bs =>
      have rest : r = '<' :: _ := same
      rw [rest] at stops
      exact absurd (stops '<' rfl) (by decide)
  | cons a as =>
    cases bs with
    | nil =>
      have rest : '<' :: _ = r' := same
      rw [← rest] at stops'
      exact absurd (stops' _ rfl) (by decide)
    | cons b bs =>
      apply separates plain
      rw [textMore_cons, textMore_cons]
      simpa [Ty.argumentText] using same

theorem Plain.args {t : Ty} (plain : t.Plain) : ∀ a ∈ t.args, a.Plain := by
  cases plain with
  | declared _ plain => exact plain
  | _ => simp [Ty.args]

theorem Plain.simple_cancel {s t : Ty} (plain : s.Plain) (plain' : t.Plain) (simple : s.isArray = false)
    (simple' : t.isArray = false) (separates : Separates s.args) {r r' : List Char} (stops : Stops r)
    (stops' : Stops r') (same : s.text.toList ++ r = t.text.toList ++ r') : SameBase s t r r' := by
  rw [text_simple simple, text_simple simple', List.append_assoc, List.append_assoc] at same
  obtain ⟨name, rest⟩ := name_cancel plain.leadingName_plain plain'.leadingName_plain (stops.delimited s.args)
    (stops'.delimited t.args) same
  obtain ⟨args, rfl⟩ := separates.argumentText plain'.args stops stops' rest
  obtain rfl := plain.eq_of_leadingName plain' simple simple' (String.toList_inj.mp name) args
  exact ⟨s, 0, 0, rfl, rfl, rfl⟩

theorem text_array_append (t : Ty) (r : List Char) :
    (Ty.array t).text.toList ++ r = t.text.toList ++ '[' :: ']' :: r := by
  simp [text]

theorem stops_brackets (r : List Char) : Stops ('[' :: ']' :: r) := by
  intro c first
  cases first
  decide

/-- Arrays on the right are taken off first; those on the left are taken off in `text_cancel`. -/
theorem Plain.cancel {s : Ty} (plain : s.Plain) (simple : s.isArray = false) (separates : Separates s.args) (t : Ty)
    (plain' : t.Plain) {r r' : List Char} (stops : Stops r) (stops' : Stops r')
    (same : s.text.toList ++ r = t.text.toList ++ r') : SameBase s t r r' := by
  cases t with
  | array c =>
    rw [text_array_append] at same
    cases plain' with
    | array plain' => exact (plain.cancel simple separates c plain' stops (stops_brackets r') same).symm.array.symm
  | _ => exact plain.simple_cancel plain' simple rfl separates stops stops' same

theorem separates_nil : Separates [] := by
  intro bs r r' _ same
  cases bs with
  | nil => exact ⟨rfl, (List.cons.inj same).2⟩
  | cons b bs =>
    rw [textMore_cons] at same
    exact absurd (List.cons.inj same).1 (by decide)

mutual
theorem text_cancel (s t : Ty) (plain : s.Plain) (plain' : t.Plain) {r r' : List Char} (stops : Stops r)
    (stops' : Stops r') (same : s.text.toList ++ r = t.text.toList ++ r') : SameBase s t r r' := by
  cases s with
  | array c =>
    rw [text_array_append] at same
    cases plain with
    | array plain => exact (text_cancel c t plain plain' (stops_brackets r) stops' same).array
  | declared n as =>
    have separates : Separates as := separates_of_plain as plain.args
    exact plain.cancel rfl separates t plain' stops stops' same
  | _ => exact plain.cancel rfl separates_nil t plain' stops stops' same

theorem separates_of_plain (as : List Ty) (plain : ∀ a ∈ as, a.Plain) : Separates as := by
  cases as with
  | nil => exact separates_nil
  | cons a as =>
    intro bs r r' plain' same
    cases bs with
    | nil =>
      rw [textMore_cons] at same
      exact absurd (List.cons.inj same).1 (by decide)
    | cons b bs =>
      rw [List.forall_mem_cons] at plain plain'
      rw [textMore_cons, textMore_cons] at same
      simp only [List.cons_append, List.cons.injEq, true_and, List.append_assoc] at same
      have ends := textMore_ends as r
      have ends' := textMore_ends bs r'
      obtain ⟨rfl, rest⟩ := (text_cancel a b plain.1 plain'.1 ends.stops ends'.stops same).eq ends ends'
      obtain ⟨rfl, rfl⟩ := separates_of_plain as plain.2 plain'.2 rest
      exact ⟨rfl, rfl⟩
end

/-- Types with plain names have the same text only if they are the same. -/
theorem text_identifies {s t : Ty} (plain : s.Plain) (plain' : t.Plain) : s.text = t.text ↔ s = t := by
  refine ⟨fun same => ?_, congrArg text⟩
  have ends : Ends [] := by simp [Ends]
  have texts : s.text.toList ++ [] = t.text.toList ++ [] := by rw [same]
  exact ((text_cancel s t plain plain' ends.stops ends.stops texts).eq ends ends).1

theorem plainName_tag : PlainName "Tag" where
  noDelimiter := plain_of_all rfl
  noVoid := by decide
  noNull := by decide
  noKeyword k := by cases k <;> decide
  noBox k := by cases k <;> decide
  noVariable := by decide

/-- An array of tags and a tag of arrays, each with a further argument, differ in the order of the same characters. -/
theorem tag_text_identifies :
    let s : Ty := .array (.declared "Tag" [.var 1, .declared "Tag" [.boxed .int]])
    let t : Ty := .declared "Tag" [.array (.var 1), .declared "Tag" [.boxed .int]]
    s.Plain ∧ t.Plain ∧ s.text.toList.Perm t.text.toList ∧ s.text ≠ t.text := by
  intro s t
  have inner : ∀ a ∈ [Ty.boxed .int], a.Plain := List.forall_mem_singleton.mpr (.boxed .int)
  have plain : s.Plain := .array (.declared plainName_tag
    (List.forall_mem_cons.mpr ⟨.var 1, List.forall_mem_singleton.mpr (.declared plainName_tag inner)⟩))
  have plain' : t.Plain := .declared plainName_tag
    (List.forall_mem_cons.mpr ⟨.array (.var 1), List.forall_mem_singleton.mpr (.declared plainName_tag inner)⟩)
  refine ⟨plain, plain', by decide +kernel, fun same => ?_⟩
  exact absurd ((text_identifies plain plain').mp same) (by decide)

end TypedExpr.Ty
