import TypedExpr.Builtin
import TypedExpr.Proofs.Computing
import TypedExpr.Proofs.ValueEquality
/-!
# Equal values have one text

The entries of a map are shown in the order of their keys. No key occurs twice, so there is one such order
(`sortByKey_perm`), and maps that agree show the same entries (`Agree.entryTexts`). So equal values without host
objects have the same text, and what concatenation, `toString`, `valueOf` and `join` make of them does not depend on
the order in which the entries of a map stand (`text_respects_equality`).
-/

namespace TypedExpr.Value

variable {H : Type} [HostObject H]

theorem texts_eq (vs : List (Value H)) : texts vs = vs.map text := by
  induction vs with
  | nil => rfl
  | cons v vs ih => rw [texts, ih, List.map_cons]

theorem entryTexts_eq (entries : List (String × Value H)) :
    entryTexts entries = entries.map fun e => (e.1, e.2.text) := by
  induction entries with
  | nil => rfl
  | cons e rest ih => rw [entryTexts, ih, List.map_cons]

theorem entryTexts_keys (entries : List (String × Value H)) :
    (entryTexts entries).map Prod.fst = entries.map Prod.fst := by
  rw [entryTexts_eq, List.map_map]
  rfl

theorem sortByKey_sorted (entries : List (String × String)) :
    (sortByKey entries).Pairwise fun x y => x.1 ≤ y.1 := by
  have sorted := @List.pairwise_mergeSort _ (fun x y : String × String => decide (x.1 ≤ y.1))
    (fun x y z first second => by
      simp only [decide_eq_true_eq] at first second ⊢
      exact String.le_trans first second)
    (fun x y => by simpa using String.le_total x.1 y.1) entries
  simpa only [decide_eq_true_eq, sortByKey] using sorted

/-- Where no key occurs twice, the order of the keys leaves no choice. -/
theorem sortByKey_perm {a b : List (String × String)} (distinct : (a.map Prod.fst).Nodup) (same : a.Perm b) :
    sortByKey a = sortByKey b := by
  have first : (sortByKey a).Perm a := List.mergeSort_perm a _
  have second : (sortByKey b).Perm b := List.mergeSort_perm b _
  refine List.Perm.eq_of_pairwise (fun x y inFirst inSecond below above => ?_) (sortByKey_sorted a)
    (sortByKey_sorted b) (first.trans (same.trans second.symm))
  have isEntry : x ∈ a := first.mem_iff.mp inFirst
  have isEntry' : y ∈ a := same.mem_iff.mpr (second.mem_iff.mp inSecond)
  exact List.inj_on_of_nodup_map distinct isEntry isEntry' (String.le_antisymm below above)

/-- Maps that agree show the same entries, each perhaps in another place. -/
theorem Agree.entryTexts {a b : List (String × Value H)} (first : Distinct a) (second : Distinct b)
    (each : ∀ e ∈ a, ∀ e' ∈ b, e.2.equals e'.2 = true → e.2.text = e'.2.text) (agree : Agree a b) :
    (entryTexts a).Perm (entryTexts b) := by
  have distinct : (Value.entryTexts a).Nodup := .of_map Prod.fst (entryTexts_keys a ▸ first)
  have distinct' : (Value.entryTexts b).Nodup := .of_map Prod.fst (entryTexts_keys b ▸ second)
  have shown {entries : List (String × Value H)} (apart : Distinct entries) (key shown : String) :
      (key, shown) ∈ Value.entryTexts entries ↔ ∃ v, entries.lookup key = some v ∧ v.text = shown := by
    simp only [entryTexts_eq, List.mem_map, Prod.mk.injEq, ← apart.mem_iff]
    constructor
    · rintro ⟨e, member, same, isText⟩
      exact ⟨e.2, same ▸ member, isText⟩
    · rintro ⟨v, member, isText⟩
      exact ⟨(key, v), member, rfl, isText⟩
  rw [List.perm_ext_iff_of_nodup distinct distinct']
  rintro ⟨key, text⟩
  rw [shown first, shown second]
  rcases agree.cases key with ⟨inFirst, inSecond⟩ | ⟨v, w, inFirst, inSecond, same⟩
  · rw [inFirst, inSecond]
  · have sameText : v.text = w.text := each _ (first.mem_iff.mpr inFirst) _ (second.mem_iff.mpr inSecond) same
    simp [inFirst, inSecond, sameText]

theorem equalItems_map {α : Type} {f : Value H → α} {as bs : List (Value H)}
    (each : ∀ v ∈ as, ∀ w ∈ bs, v.equals w = true → f v = f w) (same : equalItems as bs = true) :
    as.map f = bs.map f := by
  induction as generalizing bs with
  | nil =>
    cases bs with
    | nil => rfl
    | cons => cases same
  | cons v rest ih =>
    cases bs with
    | nil => cases same
    | cons w others =>
      rw [equalItems_cons] at same
      rw [List.map_cons, List.map_cons, each v List.mem_cons_self w List.mem_cons_self same.1,
        ih (fun x isItem y isItem' => each x (List.mem_cons_of_mem _ isItem) y (List.mem_cons_of_mem _ isItem'))
          same.2]

theorem text_of_equals {P : H → Prop}
    (host : ∀ o o', P o → P o' → HostObject.equals o o' = true → HostObject.text o = HostObject.text o')
    {a b : Value H} (built : a.Built P) (built' : b.Built P) (same : a.equals b = true) : a.text = b.text := by
  induction built generalizing b with
  | scalar scalar => rw [(equals_of_isScalar scalar).mp same]
  | array _ ih =>
    obtain ⟨items, rfl, same⟩ := equals_array.mp same
    have each := built'.items rfl
    simp only [text, texts_eq, equalItems_map (fun v isItem w isItem' => ih v isItem (each w isItem')) same]
  | list _ ih =>
    obtain ⟨items, rfl, same⟩ := equals_list.mp same
    have each := built'.items rfl
    simp only [text, texts_eq, equalItems_map (fun v isItem w isItem' => ih v isItem (each w isItem')) same]
  | @map inserted _ ih =>
    obtain ⟨entries, isMap, distinct, known⟩ := ofEntries_spec inserted
    rw [isMap] at same ⊢
    obtain ⟨entries', rfl⟩ := equals_map same
    obtain ⟨distinct', each⟩ := built'.distinct
    have shown := ((equals_map_iff distinct distinct').mp same).entryTexts distinct distinct'
      fun e member e' member' => ih e (known e member) (each e' member')
    simp only [text, sortByKey_perm (entryTexts_keys entries ▸ distinct) shown]
  | object holds =>
    obtain ⟨o', rfl, same⟩ := equals_object.mp same
    exact host _ _ holds built'.of_object same

/-- Equal values that are built without host objects. -/
structure Alike (a b : Value H) : Prop where
  first : a.Built fun _ => False
  second : b.Built fun _ => False
  same : a.equals b = true

namespace Alike

variable {a b : Value H}

theorem text (alike : Alike a b) : a.text = b.text :=
  text_of_equals (fun _ _ none => none.elim) alike.first alike.second alike.same

theorem typeName (alike : Alike a b) : a.typeName = b.typeName := by
  obtain ⟨first, _, same⟩ := alike
  cases first with
  | scalar scalar => rw [(equals_of_isScalar scalar).mp same]
  | array =>
    obtain ⟨items, rfl, _⟩ := equals_array.mp same
    rfl
  | list =>
    obtain ⟨items, rfl, _⟩ := equals_list.mp same
    rfl
  | map =>
    obtain ⟨entries, rfl⟩ := equals_map same
    rfl
  | object none => exact none.elim

theorem expectString (alike : Alike a b) (what : String) :
    Builtin.expectString what a = Builtin.expectString what b := by
  have names := alike.typeName
  obtain ⟨first, _, same⟩ := alike
  cases a <;> cases b <;> simp_all [Value.equals, Builtin.expectString, Builtin.castError]

theorem itemTexts (alike : Alike a b) :
    a.items?.map (List.map Value.text) = b.items?.map (List.map Value.text) := by
  obtain ⟨first, second, same⟩ := alike
  have items {as bs : List (Value H)} (isFirst : a.items? = some as) (isSecond : b.items? = some bs)
      (same : equalItems as bs = true) : as.map Value.text = bs.map Value.text :=
    equalItems_map (fun v isItem w isItem' same => Alike.text
      ⟨first.items isFirst v isItem, second.items isSecond w isItem', same⟩) same
  cases first with
  | scalar scalar => rw [(equals_of_isScalar scalar).mp same]
  | array =>
    obtain ⟨bs, rfl, same⟩ := equals_array.mp same
    exact congrArg some (items rfl rfl same)
  | list =>
    obtain ⟨bs, rfl, same⟩ := equals_list.mp same
    exact congrArg some (items rfl rfl same)
  | map =>
    obtain ⟨entries, rfl⟩ := equals_map same
    rfl
  | object none => exact none.elim

end Alike

/-- The methods of the builtin types that give the text of values. -/
def textMethods : List (Method H) :=
  (Builtin.objectType.methods ++ Builtin.stringType.methods).filter fun m => m.name ∈ ["toString", "valueOf", "join"]

theorem toText_alike {this this' : Value H} (alike : Alike this this') (args args' : List (Value H)) :
    Builtin.toText this args = Builtin.toText this' args' := by
  rw [Builtin.toText, Builtin.toText, alike.text]

theorem valueOfObject_alike (this this' : Value H) {args args' : List (Value H)}
    (alike : List.Forall₂ Alike args args') :
    Builtin.valueOfObject this args = Builtin.valueOfObject this' args' := by
  cases alike with
  | nil => rfl
  | cons first _ => simp only [Builtin.valueOfObject, Builtin.argument, List.getElem?_cons_zero, ok_bind, first.text]

theorem joinTexts_alike (this this' : Value H) {args args' : List (Value H)}
    (alike : List.Forall₂ Alike args args') : Builtin.joinTexts this args = Builtin.joinTexts this' args' := by
  cases alike with
  | nil => rfl
  | @cons d d' _ _ delimiter rest =>
    simp only [Builtin.joinTexts, Builtin.argument, List.getElem?_cons_zero, List.getElem?_cons_succ, ok_bind,
      delimiter.expectString]
    cases rest with
    | nil => rfl
    | @cons a b _ _ parts rest =>
      have shown := parts.itemTexts
      have toLists (vs : List (Value H)) : (vs.map fun v => v.text.toList) = (vs.map Value.text).map String.toList := by
        rw [List.map_map]
        rfl
      simp only [List.getElem?_cons_zero, ok_bind, toLists]
      congr 1
      funext separator
      generalize a.items? = as, b.items? = bs at shown
      cases as <;> cases bs <;> simp_all

theorem textMethods_alike {m : Method H} (isText : m ∈ textMethods) {this this' : Value H}
    (receiver : Alike this this') {args args' : List (Value H)} (alike : List.Forall₂ Alike args args') :
    m.native this args = m.native this' args' := by
  have natives : (textMethods : List (Method H)).map Method.native =
      [Builtin.toText, Builtin.valueOfObject, Builtin.joinTexts] := by
    simp [textMethods, Builtin.objectType, Builtin.stringType, Method.declare, Method.declareStatic]
  have isNative : m.native ∈ (textMethods : List (Method H)).map Method.native := List.mem_map_of_mem isText
  simp only [natives, List.mem_cons, List.not_mem_nil, or_false] at isNative
  rcases isNative with isNative | isNative | isNative <;> rw [isNative]
  · exact toText_alike receiver args args'
  · exact valueOfObject_alike this this' alike
  · exact joinTexts_alike this this' alike

theorem concat_alike (p : Program H) (env : Environment H) {parts parts' : List (Value H)} (stack : List (Value H))
    (alike : List.Forall₂ Alike parts parts') :
    ∃ joined, Machine.runWide p env .concat parts.length (parts.reverse ++ stack) = .ok (.string joined :: stack) ∧
      Machine.runWide p env .concat parts'.length (parts'.reverse ++ stack) = .ok (.string joined :: stack) := by
  have shown : parts.map Value.text = parts'.map Value.text := by
    induction alike with
    | nil => rfl
    | cons first _ ih => rw [List.map_cons, List.map_cons, first.text, ih]
  have joins (vs : List (Value H)) : Machine.runWide p env .concat vs.length (vs.reverse ++ stack) =
      .ok (.string (String.join (vs.map Value.text)) :: stack) := by
    simp only [Machine.runWide, takeTop_pushed rfl]
    rfl
  exact ⟨_, joins parts, shown ▸ joins parts'⟩

/-- Equal values without host objects have the same text. So what the machine joins, and what the builtin methods
make a text of, is the same for them, whatever the order in which the entries of their maps stand. -/
theorem text_respects_equality :
    (∀ a b : Value H, a.Built (fun _ => False) → b.Built (fun _ => False) → a.equals b = true → a.text = b.text) ∧
      (∀ (p : Program H) (env : Environment H) (parts parts' stack : List (Value H)),
        List.Forall₂ Alike parts parts' → ∃ joined,
          Machine.runWide p env .concat parts.length (parts.reverse ++ stack) = .ok (.string joined :: stack) ∧
          Machine.runWide p env .concat parts'.length (parts'.reverse ++ stack) = .ok (.string joined :: stack)) ∧
      ∀ m ∈ textMethods, ∀ (this this' : Value H) (args args' : List (Value H)), Alike this this' →
        List.Forall₂ Alike args args' → m.native this args = m.native this' args' := by
  refine ⟨fun a b built built' same => Alike.text ⟨built, built', same⟩, ?_, ?_⟩
  · exact fun p env parts parts' stack alike => concat_alike p env stack alike
  · exact fun m isText this this' args args' receiver alike => textMethods_alike isText receiver alike

end TypedExpr.Value

namespace TypedExpr

/-- Stock by article, the count of apples corrected later. -/
def stockEntries : List (String × Value Badge) :=
  [("apples", .int 3), ("pears", .ofEntries [("ripe", .bool true), ("crates", .array [.double ⟨0x3ff8000000000000⟩])]),
    ("apples", .int 4)]

/-- The same stock, each map filled in another order. -/
def stockEntriesReordered : List (String × Value Badge) :=
  [("pears", .ofEntries [("crates", .array [.double ⟨0x3ff8000000000000⟩]), ("ripe", .bool true)]), ("apples", .int 4)]

theorem stock_text_respects_equality :
    (Value.ofEntries stockEntries).equals (.ofEntries stockEntriesReordered) = true ∧
      (Value.ofEntries stockEntries).text = (Value.ofEntries stockEntriesReordered).text := by
  have crates : (Value.array [.double ⟨0x3ff8000000000000⟩] : Value Badge).Built fun _ => False :=
    .array (List.forall_mem_singleton.mpr (.scalar rfl))
  have built : (Value.ofEntries stockEntries).Built fun _ => False :=
    .map (List.forall_mem_cons.mpr ⟨.scalar rfl, List.forall_mem_cons.mpr ⟨.map (List.forall_mem_cons.mpr
      ⟨.scalar rfl, List.forall_mem_singleton.mpr crates⟩), List.forall_mem_singleton.mpr (.scalar rfl)⟩⟩)
  have built' : (Value.ofEntries stockEntriesReordered).Built fun _ => False :=
    .map (List.forall_mem_cons.mpr ⟨.map (List.forall_mem_cons.mpr ⟨crates,
      List.forall_mem_singleton.mpr (.scalar rfl)⟩), List.forall_mem_singleton.mpr (.scalar rfl)⟩)
  have same : (Value.ofEntries stockEntries).equals (.ofEntries stockEntriesReordered) = true := by decide +kernel
  exact ⟨same, Value.text_respects_equality.1 _ _ built built' same⟩

end TypedExpr
