import EmbeddedSql.Call.Pattern
import EmbeddedSql.Location
import EmbeddedSql.Sql.Layout
import EmbeddedSql.Sql.Visit

/-! Which functions a statement calls, and which of the calls match a pattern. -/
namespace EmbeddedSql.Call

open Sql Text

/-- The names of the functions that a statement calls, with dots, in the order of the walk. -/
def names (s : Statement) : List String := s.calls.map fun c => Name.dotted c.name

/-- A call whose name matches a pattern. -/
structure Match where
  path : String
  /-- The name in lower case. -/
  function : String
  /-- The whole statement. -/
  query : String
deriving DecidableEq, Repr

def find (p : Pattern) (s : Statement) (l : Location) : List Match :=
  ((names s).filter p.matches).map fun name => ⟨l.slashed, lower name, s.text⟩

/-- The number of calls that match. -/
def count (p : Pattern) (s : Statement) : Nat := (names s).countP p.matches

end EmbeddedSql.Call
