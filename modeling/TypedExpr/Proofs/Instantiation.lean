import Mathlib.Data.List.Find
import TypedExpr.Proofs.BreadthFirst
/-!
# Generic types and their instances

Binding the variables of a generic type binds those of all types above it, level by level. Types that differ before
may be the same afterwards, but the first one of each name stays the first (`findSupertype?_substitute`). Bindings that
follow each other are one binding, for types and for methods alike (`Method.instantiate_composed`).
-/

namespace TypedExpr

variable {H : Type}

namespace Ty

theorem substituteAll_eq_map (bindings ts : List Ty) : substituteAll bindings ts = ts.map (substitute bindings) := by
  induction ts with
  | nil => rfl
  | cons t rest ih => rw [substituteAll, ih, List.map_cons]

mutual
/-- Binding twice is binding once, to types that are bound themselves. -/
theorem substitute_substitute (inner outer : List Ty) (t : Ty) :
    (t.substitute inner).substitute outer = t.substitute (inner.map (substitute outer)) := by
  cases t with
  | var i =>
    simp only [substitute, List.getD_eq_getElem?_getD, List.getElem?_map]
    cases inner[i]? <;> rfl
  | array t => rw [substitute, substitute, substitute, substitute_substitute inner outer t]
  | declared n args => rw [substitute, substitute, substitute, substituteAll_substituteAll inner outer args]
  | _ => rfl

theorem substituteAll_substituteAll (inner outer ts : List Ty) :
    substituteAll outer (substituteAll inner ts) = substituteAll (inner.map (substitute outer)) ts := by
  cases ts with
  | nil => rfl
  | cons t rest =>
    simp only [substituteAll, substitute_substitute inner outer t, substituteAll_substituteAll inner outer rest]
end

section Named

variable {t : Ty} (args : List Ty) (named : t.digest?.isSome = true)

include named

theorem substitute_named : (t.substitute args).digest? = t.digest? := by
  obtain ⟨digest, found⟩ := Option.isSome_iff_exists.mp named
  rw [found, substitute_digest? args found]

theorem substitute_isPrimitive : (t.substitute args).isPrimitive = t.isPrimitive := by
  cases t <;> first | rfl | cases named

theorem substitute_args : (t.substitute args).args = t.args.map (substitute args) := by
  cases t with
  | declared n ts => exact substituteAll_eq_map args ts
  | primitive | boxed => rfl
  | _ => cases named

end Named

end Ty

namespace Method

theorem instantiate_instantiate (m : Method H) (inner outer : List Ty) :
    (m.instantiate inner).instantiate outer = m.instantiate (inner.map (Ty.substitute outer)) := by
  have composed (t : Ty) := Ty.substitute_substitute inner outer t
  simp only [instantiate, List.map_map, Function.comp_def, composed]

/-- Bindings compose, for types and for methods, and a variable that the first one leaves out is `Object` either way. A
method keeps its digest, its name, its modifiers and its implementation. -/
theorem instantiate_composed (inner outer : List Ty) :
    (∀ t : Ty, (t.substitute inner).substitute outer = t.substitute (inner.map (Ty.substitute outer))) ∧
    (∀ i : Nat, ((Ty.var (inner.length + i)).substitute inner).substitute outer = .object ∧
      (Ty.var (inner.length + i)).substitute (inner.map (Ty.substitute outer)) = .object) ∧
    ∀ m : Method H,
      (m.instantiate inner).instantiate outer = m.instantiate (inner.map (Ty.substitute outer)) ∧
      (m.instantiate inner).instantiate outer =
        { m with
          owner := m.owner.substitute (inner.map (Ty.substitute outer))
          parameters := m.parameters.map (Ty.substitute (inner.map (Ty.substitute outer)))
          returns := m.returns.substitute (inner.map (Ty.substitute outer)) } := by
  refine ⟨Ty.substitute_substitute inner outer, fun i => ?_, fun m => ?_⟩
  · have unbound (bindings : List Ty) (same : bindings.length = inner.length) :
        (Ty.var (inner.length + i)).substitute bindings = .object := by
      rw [Ty.substitute, List.getD_eq_getElem?_getD, List.getElem?_eq_none (by omega)]
      rfl
    rw [unbound inner rfl, unbound (inner.map (Ty.substitute outer)) (List.length_map _)]
    exact ⟨rfl, rfl⟩
  · have once := m.instantiate_instantiate inner outer
    exact ⟨once, once⟩

end Method

/-- A generic type with its own variables becomes any instance by binding them, as long as one byte numbers them. -/
theorem TypeDef.selfType_substitute {g : TypeDef H} {args : List Ty} (complete : args.length = g.parameters.length)
    (few : g.parameters.length ≤ 256) : g.selfType.substitute args = .declared g.name args := by
  have bound : (List.range g.parameters.length).map (fun i => args.getD (i % 256) .object) = args := by
    apply List.ext_getElem
    · simp [complete]
    · intro i inside inside'
      have low : i < g.parameters.length := by simpa using inside
      simp [Nat.mod_eq_of_lt (Nat.lt_of_lt_of_le low few), inside']
  rw [selfType, Ty.substitute, Ty.substituteAll_eq_map, List.map_map]
  exact congrArg (Ty.declared g.name) bound

namespace Catalog

variable {c : Catalog H} {t u : Ty}

theorem Ordered.level_named (ordered : c.Ordered) (named : t.digest?.isSome = true) {n : Nat}
    (member : u ∈ c.level t n) : u.digest?.isSome = true := by
  cases n with
  | zero => exact List.mem_singleton.mp member ▸ named
  | succ n =>
    obtain ⟨s, _, above⟩ := List.mem_flatMap.mp member
    exact ordered.supertype_named above

/-- The supertypes of an instance are the instances of the supertypes. -/
theorem supertypes_substitute (c : Catalog H) (args : List Ty) (named : t.digest?.isSome = true) :
    c.supertypes (t.substitute args) = (c.supertypes t).map (Ty.substitute args) := by
  have sameForm : ((t.substitute args).isObject || !(t.substitute args).isReference || (t.substitute args).isNull) =
      (t.isObject || !t.isReference || t.isNull) := by
    cases t <;> first | rfl | cases named
  have bound (s : Ty) : s.substitute (t.substitute args).args = (s.substitute t.args).substitute args := by
    rw [Ty.substitute_args args named, Ty.substitute_substitute]
  unfold supertypes
  rw [sameForm, Ty.substitute_named args named]
  simp only [bound]
  split
  · rfl
  · cases t.digest?.bind c.find? with
    | none => rfl
    | some d =>
      cases declared : d.supertypes with
      | nil =>
        simp only [Option.map_some, declared, List.map_nil]
        rfl
      | cons s rest => simp [declared]

theorem level_substitute (ordered : c.Ordered) (args : List Ty) (named : t.digest?.isSome = true) (n : Nat) :
    c.level (t.substitute args) n = (c.level t n).map (Ty.substitute args) := by
  induction n with
  | zero => rfl
  | succ n ih =>
    rw [level, level, ih, List.flatMap_map, List.map_flatMap]
    refine List.flatMap_congr fun u member => ?_
    exact c.supertypes_substitute args (ordered.level_named named member)

theorem levels_substitute (ordered : c.Ordered) (args : List Ty) (named : t.digest?.isSome = true) (n : Nat) :
    c.levels (t.substitute args) n = (c.levels t n).map (Ty.substitute args) := by
  rw [levels, levels, List.map_flatMap]
  exact List.flatMap_congr fun k _ => level_substitute ordered args named k

/-- The lookup in the hierarchy of an instance gives the instance of what is found for the type itself. -/
theorem findSupertype?_substitute (ordered : c.Ordered) (args : List Ty) (named : t.digest?.isSome = true)
    (digest : Digest) : c.findSupertype? (t.substitute args) digest =
      (c.findSupertype? t digest).map (Ty.substitute args) := by
  have sameName : ∀ s ∈ c.levels t (c.size + 2),
      ((s.substitute args).digest? == some digest && !(s.substitute args).isPrimitive) =
        (s.digest? == some digest && !s.isPrimitive) := by
    intro s member
    obtain ⟨n, _, isLevel⟩ := List.mem_flatMap.mp member
    have named := ordered.level_named named isLevel
    rw [Ty.substitute_named args named, Ty.substitute_isPrimitive args named]
  -- Neither side is changed by leaving out types that come again.
  simp only [findSupertype?, hierarchy_eq_levels, appendNew_find?, List.find?_nil, Option.none_or]
  rw [levels_substitute ordered args named, List.find?_map]
  exact congrArg _ (List.find?_congr sameName)

end Catalog

/-- After any calls, what a lookup finds for an instance of a generic type is the instance of what it finds for the
type with its own variables. -/
theorem Registry.findSupertype?_instance [HostObject H] (builtins : Bool) (calls : List (Registration H))
    (g : TypeDef H) {args : List Ty} (complete : args.length = g.parameters.length)
    (few : g.parameters.length ≤ 256) (digest : Digest) :
    let c := ((start builtins).after calls : Registry H).catalog
    c.findSupertype? (.declared g.name args) digest =
      (c.findSupertype? g.selfType digest).map (Ty.substitute args) := by
  intro c
  have ordered : c.Ordered := (after_registered builtins calls).ordered
  rw [← g.selfType_substitute complete few]
  exact Catalog.findSupertype?_substitute ordered args rfl digest

def slotType : TypeDef Record where
  name := "Slot"
  parameters := ["T"]

/-- A generic type that stands below two instances of another one. -/
def pairType : TypeDef Record where
  name := "Pair"
  parameters := ["A", "B"]
  supertypes := [.declared "Slot" [.var 0], .declared "Slot" [.var 1]]

/-- Both types above `Pair<A, B>` become `Slot<String>` above `Pair<String, String>`. -/
theorem pairType_instance :
    let c := ((Registry.start false).after [.type slotType, .type pairType]).catalog
    (c.find? pairType.digest).isSome = true ∧
      c.hierarchy pairType.selfType =
        [pairType.selfType, .declared "Slot" [.var 0], .declared "Slot" [.var 1], .object] ∧
      c.hierarchy (.declared "Pair" [.string, .string]) =
        [.declared "Pair" [.string, .string], .declared "Slot" [.string], .object] ∧
      c.findSupertype? (.declared "Pair" [.string, .string]) slotType.digest =
        (c.findSupertype? pairType.selfType slotType.digest).map (Ty.substitute [.string, .string]) := by
  refine ⟨by decide +kernel, by decide +kernel, by decide +kernel, ?_⟩
  exact Registry.findSupertype?_instance false [.type slotType, .type pairType] pairType rfl (by decide) slotType.digest

end TypedExpr
