/-! Where a text was found. -/
namespace EmbeddedSql

/-- A line of a file, and perhaps the revision that was looked at. -/
structure Location where
  path : String
  line : Nat
  revision : Option String
deriving DecidableEq, Repr

/-- The path with slashes, whatever stands between its parts. -/
def Location.slashed (l : Location) : String :=
  String.ofList (l.path.toList.map fun c => if c = '\\' then '/' else c)

end EmbeddedSql
