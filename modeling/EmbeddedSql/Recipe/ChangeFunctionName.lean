import EmbeddedSql.Call.Rename
import EmbeddedSql.Recipe.Basic

/-! Renaming calls of functions. -/
namespace EmbeddedSql.Recipe

structure ChangeFunctionName where
  engine : Engine
  change : Call.Renaming
  queries : Table QueryRow

namespace ChangeFunctionName

def title : Title :=
  ⟨"Change a SQL function name",
    "When migrating between dialects, often one name can be substituted for another."⟩

def new (e : Engine) (pattern newName : String) : Except Error ChangeFunctionName :=
  match Call.Pattern.read pattern with
  | .ok p => .ok ⟨e, ⟨p, newName⟩, queryTable⟩
  | .error fault => .error (.invalidPattern fault)

/-- Notes the query once for each call, as it was, whether or not the calls can be renamed. -/
def visit (r : ChangeFunctionName) (h : Host) (l : Location) : Host × ChangeFunctionName :=
  match r.engine.view? h with
  | none => (h, r)
  | some v =>
    let calls := Call.count r.change.pattern v.statement
    if calls = 0 then (h, r)
    else
      (r.engine.revise v (.rename r.change),
        {r with queries := r.queries.insertAll (List.replicate calls ⟨l.slashed, h.text⟩)})

end ChangeFunctionName

end EmbeddedSql.Recipe
