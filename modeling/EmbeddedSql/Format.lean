import EmbeddedSql.Engine
import EmbeddedSql.Sql.Layout

/-! Laying out texts of SQL. -/
namespace EmbeddedSql.Format

open Sql Text

/-- A line whose steps of two blanks are replaced by `unit`. -/
def indented (unit : List Char) : List Char → List Char
  | ' ' :: ' ' :: cs => unit ++ indented unit cs
  | cs => cs

/-- One statement over many lines, each level of it indented by `unit`. -/
def statement (unit : String) (s : Statement) : List Char :=
  join ['\n'] ((linesOf s.laidOut.toList).map (indented unit.toList))

/-- Statements with an empty line between them. -/
def statements (unit : String) (ss : List Statement) : List Char :=
  join [';', '\n', '\n'] (ss.map (statement unit))

/-- Whether the last character that is not blank is a semicolon. -/
def endsInSemicolon (sql : String) : Bool := (trimEndChars sql.toList).getLast? = some ';'

/-- A text laid out. A semicolon at its end is kept. -/
def all (d : Dialect) (unit sql : String) : Except Error String := do
  let ss ← readStatements d sql
  if ss.isEmpty then throw .emptyQuery
  else
    return String.ofList (statements unit ss ++ if endsInSemicolon sql then [';'] else [])

/-- The indentation of a text that nobody chose another one for. -/
def defaultUnit : String := "  "

end EmbeddedSql.Format
