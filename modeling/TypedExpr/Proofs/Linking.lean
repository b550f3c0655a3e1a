import TypedExpr.Proofs.Sequencing
import TypedExpr.Proofs.WellTyped
/-!
# Call sites and tables

The call sites of an expression in the order of its code, and how the tables of a program grow while code is
generated. Entries are never moved or replaced. The methods in the table are those of the call sites, of each
digest the first one.
-/

namespace TypedExpr

variable {H : Type}

namespace Typed

mutual
/-- The expression and all those below it, in the order in which their code ends. -/
def nodes : Typed H → List (Typed H)
  | .literal line v => [.literal line v]
  | .numeric line op kind l r => l.nodes ++ r.nodes ++ [.numeric line op kind l r]
  | .concat line l r => l.nodes ++ r.nodes ++ [.concat line l r]
  | .negate line kind e => e.nodes ++ [.negate line kind e]
  | .logical line op l r => l.nodes ++ r.nodes ++ [.logical line op l r]
  | .not line e => e.nodes ++ [.not line e]
  | .empty line e => e.nodes ++ [.empty line e]
  | .equality line negated l r => l.nodes ++ r.nodes ++ [.equality line negated l r]
  | .ordering line op kind l r => l.nodes ++ r.nodes ++ [.ordering line op kind l r]
  | .comparison line op s isLeft l r => l.nodes ++ r.nodes ++ [.comparison line op s isLeft l r]
  | .instanceOf line t e => e.nodes ++ [.instanceOf line t e]
  | .matches line p e => e.nodes ++ [.matches line p e]
  | .ternary line t cond yes no => cond.nodes ++ yes.nodes ++ no.nodes ++ [.ternary line t cond yes no]
  | .elvis line t l r => l.nodes ++ r.nodes ++ [.elvis line t l r]
  | .index line form t e i => e.nodes ++ i.nodes ++ [.index line form t e i]
  | .arrayLength line nullSafe e => e.nodes ++ [.arrayLength line nullSafe e]
  | .property line nullSafe p e => e.nodes ++ [.property line nullSafe p e]
  | .call line nullSafe s e args => e.nodes ++ nodesOfAll args ++ [.call line nullSafe s e args]
  | .staticCall line s args => nodesOfAll args ++ [.staticCall line s args]
  | .parameter line position t => [.parameter line position t]
  | .contextProperty line owner p => [.contextProperty line owner p]
  | .contextCall line s args => nodesOfAll args ++ [.contextCall line s args]
  | .this line t => [.this line t]
  | .bean line t => [.bean line t]
  | .environment line k => k.nodes ++ [.environment line k]

def nodesOfAll : List (Typed H) → List (Typed H)
  | [] => []
  | t :: ts => t.nodes ++ nodesOfAll ts
end

/-- The method that a node calls itself, and the static type of what the call returns. -/
@[simp] def site? : Typed H → Option (Method H × Ty)
  | .comparison _ _ s _ _ _ => some (s.method, s.returns)
  | .property line nullSafe p e => some (p.getter, (property line nullSafe p e).type)
  | .call line nullSafe s e args => some (s.method, (call line nullSafe s e args).type)
  | .staticCall _ s _ | .contextCall _ s _ => some (s.method, s.returns)
  | .contextProperty _ _ p => some (p.getter, p.type)
  | _ => none

/-- The call sites, in the order of the code. -/
def sites (t : Typed H) : List (Method H × Ty) := t.nodes.filterMap site?

/-- The methods selected at the call sites. -/
def selected (t : Typed H) : List (Method H) := t.sites.map Prod.fst

/-- The expressions directly below, in the order of the code. -/
@[simp] def children : Typed H → List (Typed H)
  | .literal .. | .parameter .. | .contextProperty .. | .this .. | .bean .. => []
  | .negate _ _ e | .not _ e | .empty _ e | .instanceOf _ _ e | .matches _ _ e | .arrayLength _ _ e
  | .property _ _ _ e | .environment _ e => [e]
  | .numeric _ _ _ l r | .concat _ l r | .logical _ _ l r | .equality _ _ l r | .ordering _ _ _ l r
  | .comparison _ _ _ _ l r | .elvis _ _ l r | .index _ _ _ l r => [l, r]
  | .ternary _ _ cond yes no => [cond, yes, no]
  | .call _ _ _ e args => e :: args
  | .staticCall _ _ args | .contextCall _ _ args => args

theorem nodesOfAll_eq (args : List (Typed H)) : nodesOfAll args = args.flatMap nodes := by
  induction args with
  | nil => rfl
  | cons t ts ih => simp [nodesOfAll, ih]

theorem nodes_eq (t : Typed H) : t.nodes = t.children.flatMap nodes ++ [t] := by
  cases t <;> simp [nodes, children, nodesOfAll_eq]

theorem mem_nodes (t : Typed H) : t ∈ t.nodes := by simp [nodes_eq t]

theorem mem_nodes_of_child {t u v : Typed H} (child : u ∈ t.children) (below : v ∈ u.nodes) : v ∈ t.nodes := by
  rw [nodes_eq t]
  exact List.mem_append_left _ (List.mem_flatMap.mpr ⟨u, child, below⟩)

theorem sites_eq (t : Typed H) : t.sites = t.children.flatMap sites ++ t.site?.toList := by
  have below : (t.children.flatMap nodes).filterMap site? = t.children.flatMap sites := List.filterMap_flatMap
  rw [sites, nodes_eq t, List.filterMap_append, below]
  cases own : t.site? <;> simp only [List.filterMap_cons, List.filterMap_nil, own, Option.toList]

theorem selected_eq (t : Typed H) :
    t.selected = t.children.flatMap selected ++ (t.site?.map Prod.fst).toList := by
  rw [selected, sites_eq t, List.map_append, List.map_flatMap]
  cases t.site? <;> rfl

end Typed

/-- The pattern is what its text reads as. -/
def Pattern.IsRead (p : Pattern) : Prop := Pattern.readRegex p.source = some p.regex

theorem Pattern.compileWhole?_isRead {limit : Nat} {source : String} {p : Pattern}
    (compiled : Pattern.compileWhole? limit source = some p) : p.IsRead := by
  unfold compileWhole? compile? at compiled
  split at compiled
  next read =>
    split at compiled
    · cases compiled
      exact read
    · cases compiled
  · cases compiled

theorem Pattern.IsRead.unique {p q : Pattern} (first : p.IsRead) (second : q.IsRead)
    (same : p.source = q.source) : p = q := by
  obtain ⟨source, regex⟩ := p
  obtain ⟨source', regex'⟩ := q
  cases same
  cases first.symm.trans second
  rfl

namespace Tables

/-- The entry that serves a method: the first one with its digest. -/
def linked? (T : Tables H) (m : Method H) : Option (Method H) :=
  T.functions.toList.find? fun f => f.digest == m.digest

/-- The number of the entry that serves a method. -/
def Links (T : Tables H) (f : UInt16) (m : Method H) : Prop :=
  ∃ entry, T.functions[f.toNat]? = some entry ∧ T.linked? m = some entry

/-- The methods of a table after one more was linked. -/
def link (functions : List (Method H)) (m : Method H) : List (Method H) :=
  if functions.any fun f => f.digest == m.digest then functions else functions ++ [m]

/-- What holds of tables as generation builds them. -/
structure Valid (T : Tables H) : Prop where
  functions : T.functions.size ≤ maxOperand + 1
  patterns : ∀ p ∈ T.patterns.toList, p.IsRead

theorem empty_valid : (Tables.empty : Tables H).Valid := ⟨by simp [empty], by simp [empty]⟩

/-- All entries keep their numbers. -/
structure Extends (T F : Tables H) : Prop where
  constants : T.constants.entries.toList <+: F.constants.entries.toList
  functions : T.functions.toList <+: F.functions.toList
  patterns : T.patterns.toList <+: F.patterns.toList

theorem Extends.refl (T : Tables H) : T.Extends T := ⟨List.prefix_rfl, List.prefix_rfl, List.prefix_rfl⟩

theorem Extends.trans {T U F : Tables H} (first : T.Extends U) (second : U.Extends F) : T.Extends F :=
  ⟨first.constants.trans second.constants, first.functions.trans second.functions,
    first.patterns.trans second.patterns⟩

theorem prefix_getElem? {α : Type} {a b : Array α} {index : Nat} {x : α} (longer : a.toList <+: b.toList)
    (entry : a[index]? = some x) : b[index]? = some x := by
  rw [← Array.getElem?_toList] at entry ⊢
  obtain ⟨rest, whole⟩ := longer
  rw [← whole, List.getElem?_append_left (List.getElem?_eq_some_iff.mp entry).1, entry]

namespace Extends

variable {T F : Tables H}

theorem constant {index : Nat} {k : Constant} (longer : T.Extends F) (entry : T.constants.get? index = some k) :
    F.constants.get? index = some k :=
  prefix_getElem? longer.constants entry

theorem linked {m entry : Method H} (longer : T.Extends F) (found : T.linked? m = some entry) :
    F.linked? m = some entry := by
  obtain ⟨rest, whole⟩ := longer.functions
  rw [linked?, ← whole, List.find?_append, ← linked?, found, Option.some_or]

theorem links {f : UInt16} {m : Method H} (longer : T.Extends F) (links : T.Links f m) : F.Links f m := by
  obtain ⟨entry, at_f, found⟩ := links
  exact ⟨entry, prefix_getElem? longer.functions at_f, longer.linked found⟩

end Extends

theorem prefix_link (functions : List (Method H)) (m : Method H) : functions <+: link functions m := by
  unfold link
  split
  · exact List.prefix_rfl
  · exact List.prefix_append _ _

theorem prefix_links (functions calls : List (Method H)) : functions <+: calls.foldl link functions := by
  induction calls generalizing functions with
  | nil => exact List.prefix_rfl
  | cons m rest ih => exact (prefix_link functions m).trans (ih _)

/-- Linking adds nothing to the methods that serve a digest but the first one. -/
theorem find?_links (functions calls : List (Method H)) (digest : Digest) :
    (calls.foldl link functions).find? (fun f => f.digest == digest) =
      (functions ++ calls).find? fun f => f.digest == digest := by
  induction calls generalizing functions with
  | nil => simp
  | cons m rest ih =>
    rw [List.foldl_cons, ih, link]
    split
    next present =>
      -- The method is left out, but an earlier one with its digest is found before it anyway.
      obtain ⟨f, member, same⟩ := List.any_eq_true.mp present
      simp only [List.find?_append, List.find?_cons]
      by_cases served : m.digest = digest
      · have found : (functions.find? fun f => f.digest == digest).isSome = true := by
          rw [List.find?_isSome]
          exact ⟨f, member, by simpa [served] using same⟩
        obtain ⟨first, isFirst⟩ := Option.isSome_iff_exists.mp found
        simp [isFirst]
      · have other : (m.digest == digest) = false := by simpa using served
        rw [other]
    · simp

/-- The tables after methods were linked, and possibly constants and patterns added. -/
structure Grows (T : Tables H) (calls : List (Method H)) (U : Tables H) : Prop where
  constants : T.constants.entries.toList <+: U.constants.entries.toList
  functions : U.functions.toList = calls.foldl link T.functions.toList
  patterns : T.patterns.toList <+: U.patterns.toList
  valid : T.Valid → U.Valid

namespace Grows

variable {T U V : Tables H} {calls more : List (Method H)}

theorem refl (T : Tables H) : T.Grows [] T := ⟨List.prefix_rfl, rfl, List.prefix_rfl, id⟩

theorem trans (first : T.Grows calls U) (second : U.Grows more V) : T.Grows (calls ++ more) V where
  constants := first.constants.trans second.constants
  functions := by rw [second.functions, first.functions, List.foldl_append]
  patterns := first.patterns.trans second.patterns
  valid := second.valid ∘ first.valid

theorem longer (grows : T.Grows calls U) : T.Extends U :=
  ⟨grows.constants, grows.functions ▸ prefix_links _ _, grows.patterns⟩

/-- A table that was empty serves a method by the first one linked with its digest. -/
theorem linked? (grows : Tables.empty.Grows calls U) (m : Method H) :
    U.linked? m = calls.find? fun f => f.digest == m.digest := by
  rw [Tables.linked?, grows.functions, find?_links]
  rfl

end Grows

theorem constantPool_add_spec {p q : ConstantPool} {k : Constant} {index : Nat}
    (h : p.add k = (index, q)) : p.entries.toList <+: q.entries.toList ∧ q.get? index = some k := by
  unfold ConstantPool.add at h
  split at h
  next found =>
    cases h
    have hit := List.find?_some found
    exact ⟨List.prefix_rfl, by simpa using hit⟩
  · cases h
    exact ⟨by simp, by simp [ConstantPool.get?, ConstantPool.size]⟩

variable {T U : Tables H}

theorem constant_spec {k : Constant} {index : Nat} (h : T.constant k = (index, U)) :
    T.Grows [] U ∧ U.constants.get? index = some k := by
  cases h
  obtain ⟨longer, entry⟩ := constantPool_add_spec (p := T.constants) (k := k) rfl
  exact ⟨⟨longer, rfl, List.prefix_rfl, fun valid => ⟨valid.functions, valid.patterns⟩⟩, entry⟩

theorem pattern_spec {p : Pattern} {index : Nat} (read : p.IsRead) (valid : T.Valid)
    (h : T.pattern p = (index, U)) : T.Grows [] U ∧ U.patterns[index]? = some p := by
  unfold pattern at h
  split at h
  next found =>
    cases h
    obtain ⟨q, entry, same⟩ : ∃ q, T.patterns[index]? = some q ∧ q.source = p.source := by
      obtain ⟨inside, same, _⟩ := Array.findIdx?_eq_some_iff_getElem.mp found
      exact ⟨T.patterns[index], Array.getElem?_eq_getElem inside, by simpa using same⟩
    have member : q ∈ T.patterns.toList := by simpa using Array.mem_of_getElem? entry
    exact ⟨.refl T, (valid.patterns q member).unique read same ▸ entry⟩
  · cases h
    refine ⟨⟨List.prefix_rfl, rfl, by simp, fun valid => ⟨valid.functions, ?_⟩⟩, by simp⟩
    intro q member
    rw [Array.toList_push, List.mem_append, List.mem_singleton] at member
    rcases member with old | rfl
    · exact valid.patterns q old
    · exact read

theorem operand_ok {what : String} {n : Nat} {operand : UInt16} (h : TypedExpr.operand what n = .ok operand) :
    n ≤ maxOperand ∧ operand.toNat = n := by
  unfold TypedExpr.operand at h
  split at h
  next fits =>
    cases h
    exact ⟨fits, by simp [maxOperand] at fits ⊢; omega⟩
  · cases h

theorem function_spec {m : Method H} {f : UInt16} (valid : T.Valid) (h : T.function m = .ok (f, U)) :
    T.Grows [m] U ∧ U.Links f m := by
  unfold function at h
  split at h
  next index found =>
    cases h
    obtain ⟨inside, same, before⟩ := Array.findIdx?_eq_some_iff_getElem.mp found
    have small : index.toUInt16.toNat = index := by
      have bound := valid.functions
      simp [maxOperand] at bound ⊢
      omega
    refine ⟨⟨List.prefix_rfl, ?_, List.prefix_rfl, id⟩, T.functions[index], ?_, ?_⟩
    · have present : T.functions.toList.any (fun f => f.digest == m.digest) = true :=
        List.any_eq_true.mpr ⟨T.functions[index], by simp, same⟩
      simp only [List.foldl_cons, List.foldl_nil, link, present, if_true]
    · rw [small, Array.getElem?_eq_getElem inside]
    · rw [linked?, List.find?_eq_some_iff_getElem]
      exact ⟨same, index, by simpa using inside, by simp, fun j lower => by simpa using before j lower⟩
  next absent =>
    split at h
    next operand fits =>
      cases h
      obtain ⟨bound, number⟩ := operand_ok fits
      have none : ∀ f ∈ T.functions, (f.digest == m.digest) = false := by
        simpa using Array.findIdx?_eq_none_iff.mp absent
      refine ⟨⟨List.prefix_rfl, ?_, List.prefix_rfl, fun valid => ⟨?_, valid.patterns⟩⟩, m, ?_, ?_⟩
      · have missing : T.functions.toList.any (fun f => f.digest == m.digest) = false :=
          List.any_eq_false.mpr fun f member => by simpa using none f (by simpa using member)
        simp only [List.foldl_cons, List.foldl_nil, link, missing, Array.toList_push]
        rfl
      · simp only [Array.size_push]
        omega
      · rw [number]
        simp
      · have missing : T.functions.toList.find? (fun f => f.digest == m.digest) = Option.none := by
          simpa using none
        simp [linked?, missing]
    · cases h

end Tables
end TypedExpr
