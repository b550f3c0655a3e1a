import TypedExpr.Code.Generation
import TypedExpr.Resolution
/-!
# Programs

A program is the code of one expression with all that it refers to. It can be run any number of times.
-/

namespace TypedExpr

structure Program (H : Type) where
  chunk : Chunk
  tables : Tables H
  type : Ty
  /-- The catalog in which types are tested at run time. -/
  catalog : Catalog H

namespace Expr

variable {H : Type}

/-- The program of an expression whose nodes remember what was settled before. -/
def compileWith (ctx : Context H) (e : Expr) (m : Memo H) : Except CompileError (Program H) × Memo H :=
  match e.resolve ctx m with
  | (.error err, m) => (.error err, m)
  | (.ok t, m) => match t.generate ctx.catalog with
    | .error fault => (.error (.internal fault), m)
    | .ok (code, tables) =>
      let chunk := Code.chunk (code ++ Code.ofOps e.span.line [.return])
      (.ok { chunk, tables, type := t.type, catalog := ctx.catalog }, m)

def compile (ctx : Context H) (e : Expr) : Except CompileError (Program H) := (e.compileWith ctx .blank).1

end Expr
end TypedExpr
