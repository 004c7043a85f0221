import EmbeddedSql.Call.Rename
import EmbeddedSql.Settings
import EmbeddedSql.Sql.Grammar.Basic

/-! What can go wrong. -/
namespace EmbeddedSql

inductive Error
  | invalidQuery (e : Sql.SyntaxError)
  /-- A text without statements. -/
  | emptyQuery
  | invalidPattern (e : Call.PatternError)
  | unknownDialect (name : String)
  | settings (e : SettingsError)
  | format (text : String)
  | rename (e : Call.RenamingError)
deriving Repr

def Error.message : Error → String
  | invalidQuery e => "Invalid query: sql parser error: " ++ e.message
  | emptyQuery => "Empty query"
  | invalidPattern e => "Invalid function pattern: " ++ e.message
  | unknownDialect name => "Unknown SQL dialect: " ++ name
  | settings e => "Configuration error: " ++ e.message
  | format text => "Format error: " ++ text
  | rename e => "Internal error: " ++ e.message

end EmbeddedSql
