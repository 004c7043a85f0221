import EmbeddedSql.Sql.Grammar.Definition.Object
import EmbeddedSql.Sql.Grammar.Definition.Routine
import EmbeddedSql.Sql.Grammar.Definition.View
import EmbeddedSql.Sql.Grammar.Stage

/-! Definitions of any kind: what stands behind `CREATE`. -/
namespace EmbeddedSql.Sql.Grammar

open Text

variable (n : Nested)

/-- Whether a view is ahead. -/
def viewAhead : Parser Bool := do
  return (← peekIsOf ["MATERIALIZED", "VIEW"]) || (← peekWords ["SECURE", "MATERIALIZED", "VIEW"])
    || (← peekWords ["SECURE", "VIEW"])

/-- A definition that does not take the place of another one. -/
def createNew (alter temporary : String) : Parser Wording := do
  if ← word "EXTENSION" then createExtension
  else if ← word "INDEX" then createIndex n ""
  else if ← words ["UNIQUE", "INDEX"] then createIndex n "UNIQUE "
  else
    match ← oneOf ["VIRTUAL", "SCHEMA", "DATABASE", "ROLE", "SEQUENCE", "TYPE", "PROCEDURE",
        "CONNECTOR", "OPERATOR", "SERVER"] with
    | some "VIRTUAL" => createVirtualTable n
    | some "SCHEMA" => createSchema n
    | some "DATABASE" => createDatabase n
    | some "ROLE" => createRole n
    | some "SEQUENCE" => createSequence n temporary
    | some "TYPE" => createType n
    | some "PROCEDURE" => createProcedure n alter
    | some "CONNECTOR" => createConnector n
    | some "OPERATOR" =>
      if ← word "FAMILY" then operatorFamily n
      else if ← word "CLASS" then operatorClass n
      else createOperator n
    | some _ => createServer n
    | none => expected "an object type after CREATE"

/-- A definition, behind `CREATE`. -/
def create : Parser Wording := do
  let replace := if ← words ["OR", "REPLACE"] then "OR REPLACE " else ""
  let alter := if ← words ["OR", "ALTER"] then "OR ALTER " else ""
  let «local» ← word "LOCAL"
  let scope := if ← word "GLOBAL" then "GLOBAL " else if «local» then "LOCAL " else ""
  let transient := if ← word "TRANSIENT" then "TRANSIENT " else ""
  let temporary := if (← oneOf ["TEMP", "TEMPORARY"]).isSome then "TEMPORARY " else ""
  let persistent ← pure (decide ((← dialect) = .duckdb)) <&&> word "PERSISTENT"
  let parameters ← viewParameters n
  if ← word "TABLE" then createTable n (replace ++ scope ++ temporary ++ transient)
  else if ← viewAhead then createView n (alter ++ replace) temporary parameters
  else
    let left ← get
    match ← oneOf ["POLICY", "EXTERNAL", "FUNCTION", "DOMAIN", "TRIGGER", "MACRO", "SECRET",
        "USER"] with
    | some "POLICY" => createPolicy n
    | some "EXTERNAL" => createExternalTable n replace
    | some "FUNCTION" => createFunction n alter replace temporary left
    | some "DOMAIN" => createDomain n
    | some "TRIGGER" => createTrigger n (temporary ++ alter ++ replace) left
    | some "MACRO" =>
      if ← dialectIn [.duckdb, .generic] then createMacro n (replace ++ temporary)
      else expectedAt "an object type after CREATE" left
    | some "SECRET" => createSecret replace (temporary ≠ "") persistent
    | some _ => createUser replace
    | none =>
      if ← words ["CONSTRAINT", "TRIGGER"] then
        createTrigger n (temporary ++ alter ++ replace ++ "CONSTRAINT ") (left.drop 1)
      else if replace ≠ "" then
        expected "[EXTERNAL] TABLE or [MATERIALIZED] VIEW or FUNCTION after CREATE OR REPLACE"
      else createNew n alter temporary

/-- A table, database or stage whose clauses come in any order, behind `CREATE`, which `left`
starts with; nothing if another definition is ahead. -/
def createLoose (left : List Lexeme) : Parser (Option Wording) := do
  let replace := if ← words ["OR", "REPLACE"] then "OR REPLACE " else ""
  let scope := (← oneOf ["LOCAL", "GLOBAL"]).elim "" (· ++ " ")
  let dynamic := if ← word "DYNAMIC" then "DYNAMIC " else ""
  let kind := (← oneOf ["TEMP", "TEMPORARY", "VOLATILE", "TRANSIENT", "ICEBERG"]).elim "" fun k =>
    if k = "TEMP" then "TEMPORARY " else k ++ " "
  if ← word "STAGE" then
    let temporary := if kind = "TEMPORARY " then kind else ""
    return some (← createStage n (replace ++ temporary))
  else if ← word "TABLE" then
    let mark :=
      if kind = "ICEBERG " then replace ++ scope ++ dynamic ++ kind
      else replace ++ scope ++ kind ++ dynamic
    return some (← createLooseTable n mark (kind = "ICEBERG "))
  else if ← word "DATABASE" then
    let transient := if kind = "TRANSIENT " then kind else ""
    return some (← createLooseDatabase n (replace ++ transient))
  else
    let lost := [scope, dynamic, if kind = "TEMPORARY " then "" else kind].filter (· ≠ "")
    if lost.isEmpty then return none
    else expectedAt "an SQL statement" (left.drop lost.length)

end EmbeddedSql.Sql.Grammar
