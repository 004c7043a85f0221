import EmbeddedSql.Call.Find
import EmbeddedSql.Recipe.Basic

/-! Finding calls of functions by name. -/
namespace EmbeddedSql.Recipe

structure FindFunction where
  engine : Engine
  pattern : Call.Pattern
  queries : Table QueryRow
  functions : Table Call.Match

namespace FindFunction

def title : Title := ⟨"Find SQL function", "Find SQL functions by name."⟩

def new (e : Engine) (pattern : String) : Except Error FindFunction :=
  match Call.Pattern.read pattern with
  | .ok p =>
    .ok ⟨e, p, queryTable,
      .empty "Database functions" "Functions called by queries found in the source."⟩
  | .error fault => .error (.invalidPattern fault)

/-- The calls that a visit notes. -/
def found (r : FindFunction) (h : Host) (l : Location) : List Call.Match :=
  (r.engine.view? h).elim [] fun v => Call.find r.pattern v.statement l

def visit (r : FindFunction) (h : Host) (l : Location) : Host × FindFunction :=
  let calls := r.found h l
  if calls.isEmpty then (h, r)
  else
    (h.markFound none,
      {r with
        queries := r.queries.insertAll (calls.map fun c => ⟨c.path, h.text⟩)
        functions := r.functions.insertAll calls})

end FindFunction

end EmbeddedSql.Recipe
