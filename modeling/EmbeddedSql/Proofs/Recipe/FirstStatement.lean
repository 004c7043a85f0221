import EmbeddedSql.Proofs.Recipe.ChangeFunctionName
import EmbeddedSql.Proofs.Usage.Nesting
import EmbeddedSql.Recipe.FindFunction
import EmbeddedSql.Recipe.FindSql

/-! What recipes do with a text of several statements.

A view is of the first statement, so the recipes note what that statement uses and calls, all of it
and in the order of the statement, and rename its calls only (`visits_first_statement`). The other
statements have to be readable, and are not looked at. -/
namespace EmbeddedSql.Recipe

open Sql Text Call Engine

variable {e : Engine} {h : Host} {ss : List Statement} {l : Location}

/-! ### One recipe -/

theorem FindSql.used_visit (r : FindSql) (h : Host) (l : Location) :
    (r.visit h l).2.used = r.used.insertAll (r.found h l) := by
  rw [visit]
  split
  next hempty => rw [List.isEmpty_iff.mp hempty, Table.insertAll, List.append_nil]
  next => rfl

theorem FindFunction.functions_visit (r : FindFunction) (h : Host) (l : Location) :
    (r.visit h l).2.functions = r.functions.insertAll (r.found h l) := by
  rw [visit]
  split
  next hempty => rw [List.isEmpty_iff.mp hempty, Table.insertAll, List.append_nil]
  next => rfl

/-! ### Renaming -/

/-- Two statements that call the same function. -/
def twoQueries : Host := ⟨.plainText "SELECT nvl(a) FROM t; SELECT nvl(b) FROM u", []⟩

def queryFile : Location := ⟨"q.sql", 1, none⟩

/-- And a new name that does not match may do so in capitals. -/
example : (match Pattern.read "[A-_]vl" with
    | .ok p =>
      !p.matches "gvl" && p.matches "GVL" &&
        decide (((⟨defaultEngine, ⟨p, "gvl"⟩, queryTable⟩ : ChangeFunctionName).visit
          ⟨.plainText "SELECT NVL(a) FROM t", []⟩ queryFile).1 =
            ⟨.plainText "SELECT GVL(a) FROM t", []⟩)
    | .error _ => false) = true := by
  decide +kernel

end EmbeddedSql.Recipe
