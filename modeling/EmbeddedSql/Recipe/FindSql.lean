import EmbeddedSql.Recipe.Basic
import EmbeddedSql.Usage

/-! Finding SQL, and noting which tables and columns it uses. -/
namespace EmbeddedSql.Recipe

structure FindSql where
  engine : Engine
  used : Table Usage.Row

namespace FindSql

def title : Title :=
  ⟨"Find SQL in code and resource files",
    "Find SQL in code (e.g. in string literals) and in resources like those ending with "
      ++ "\x60.sql\x60."⟩

def new (e : Engine) : FindSql :=
  ⟨e, .empty "Database columns used"
    "Shows which database columns are read/written by a SQL statement."⟩

/-- Whether a part of a document is looked at. Of files, only those of SQL are. -/
def admits (h : Host) (l : Location) : Bool :=
  match h.kind with
  | .plainText _ => l.path.endsWith ".sql"
  | _ => true

/-- The uses that a visit notes. -/
def found (r : FindSql) (h : Host) (l : Location) : List Usage.Row :=
  if admits h l then (r.engine.view? h).elim [] fun v => Usage.rows v.statement l else []

def visit (r : FindSql) (h : Host) (l : Location) : Host × FindSql :=
  let rows := r.found h l
  if rows.isEmpty then (h, r) else (h.markFound none, {r with used := r.used.insertAll rows})

end FindSql

end EmbeddedSql.Recipe
