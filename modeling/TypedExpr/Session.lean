import TypedExpr.Emission
/-!
# Sessions

Expressions that live while calls are made on their nodes. A call resolves a node, generates its code or compiles
it, each with a context of its own. What the nodes remember stays for the calls that follow.
-/

namespace TypedExpr

namespace Expr

@[simp] def children : Expr → List Expr
  | .literal .. | .name .. | .this _ | .bean .. => []
  | .negate _ e | .not _ e | .empty _ e | .instanceOf _ e _ | .matches _ e _ | .property _ e _ _
  | .environment _ e => [e]
  | .arithmetic _ _ l r | .logical _ _ l r | .equality _ _ l r | .relational _ _ l r | .elvis _ l r
  | .index _ l r => [l, r]
  | .ternary _ c t e => [c, t, e]
  | .call _ e _ args _ => e :: args
  | .staticCall _ _ _ args | .contextCall _ _ args => args

/-- The node to which a path of positions leads. -/
def follow? : Expr → List Nat → Option Expr
  | e, [] => some e
  | e, i :: path => e.children[i]?.bind (follow? · path)

end Expr

namespace Memo

variable {H : Type}

def child (m : Memo H) (i : Nat) : Memo H := m.children.getD i .blank

def follow : Memo H → List Nat → Memo H
  | m, [] => m
  | m, i :: path => follow (m.child i) path

/-- Puts a memory at a position; those in front of it that are missing are blank. -/
def place (m : Memo H) : (position : Nat) → List (Memo H) → List (Memo H)
  | 0, ms => m :: ms.tail
  | i + 1, ms => ms.headD .blank :: place m i ms.tail

def update (work : Memo H → Memo H) : List Nat → Memo H → Memo H
  | [], m => work m
  | i :: path, m => .node m.outcome ((update work path (m.child i)).place i m.children)

end Memo

inductive Request (H : Type) where
  | resolve
  /-- Code is generated behind other code, with the tables of that. -/
  | generate (tables : Tables H)
  | compile

variable {H : Type}

def Request.perform (e : Expr) (ctx : Context H) : Request H → Memo H → Memo H
  | .resolve, m => (e.resolve ctx m).2
  | .generate tables, m => (e.emitCode ctx m tables).2
  | .compile, m => (e.emitProgram ctx m).2

/-- A call on the node to which the path leads from the root of an expression. -/
structure Call (H : Type) where
  path : List Nat
  request : Request H
  context : Context H

/-- What the nodes of an expression remember after a call. Where there is no such node, nothing happens. -/
def Call.perform (call : Call H) (e : Expr) (m : Memo H) : Memo H :=
  match e.follow? call.path with
  | some node => m.update (call.request.perform node call.context) call.path
  | none => m

/-- What the nodes of an expression remember after calls, which found them blank. -/
def Expr.after (e : Expr) (calls : List (Call H)) : Memo H := calls.foldl (fun m call => call.perform e m) .blank

/-- Expressions with what their nodes remember. -/
abbrev Forest (H : Type) := List (Expr × Memo H)

namespace Forest

def perform (f : Forest H) (call : Nat × Call H) : Forest H :=
  f.modify call.1 fun tree => (tree.1, call.2.perform tree.1 tree.2)

def after (trees : List Expr) (calls : List (Nat × Call H)) : Forest H :=
  calls.foldl perform (trees.map (·, .blank))

def node? (f : Forest H) (tree : Nat) (path : List Nat) : Option (Expr × Memo H) :=
  f[tree]?.bind fun found => (found.1.follow? path).map (·, found.2.follow path)

end Forest
end TypedExpr
