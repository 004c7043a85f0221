import EmbeddedSql.Sql.Grammar.Transaction

/-! What a session does besides reading and writing rows: it carries out procedures and
prepared statements, holds other databases and locks, hears and tells. Each reading starts
behind the verb. -/
namespace EmbeddedSql.Sql.Grammar

open Text

variable (n : Nested)

/-! ### Carrying out -/

/-- A procedure and its arguments. -/
def callProcedure : Parser Wording := do
  let procedure ← name n false
  if ← peekSign "(" then
    let c ← callOf n (operand n (← bound)) procedure
    flatStatement (say "CALL " ++ Call.wording c)
  else flatStatement (say "CALL " ++ procedure.wording)

def prepare : Parser Wording := do
  let label ← identWording
  let types ← if ← peekSign "(" then parens (commaList (typeWording n)) else pure []
  needWord "AS"
  let s ← n.statement
  flatStatement (say "PREPARE " ++ label ++ titled " " types ++ say " AS " ++ [.statement s])

/-- Values that a statement is carried out with. Without parentheses, only the end of the
statement or what else is said of it tells that there are none. -/
def executionValues : Parser Wording := do
  if ← sign "(" then
    let values ← commaWording ")" (return (← expr n).wording)
    needSign ")"
    return say "(" ++ values ++ say ")"
  else if (← peek) = .endOfInput || (← peekSign ";") || (← peekIsOf ["USING", "OUTPUT", "DEFAULT"])
  then return []
  else return say " " ++ (← exprs n)

/-- A prepared statement, or a text that is one. -/
def execute : Parser Wording := do
  let immediate ← allows Dialect.executeImmediate <&&> word "IMMEDIATE"
  let label ← if immediate then pure (say "IMMEDIATE") else nameWording n false
  let values ← executionValues n
  let targets ← optionalClause ["INTO"] idents
  let bindings ← optionalClause ["USING"] do
    return commas (← commaList do maybeLabelled (← expr n))
  let output ← optionalWords ["OUTPUT"]
  let standard ← optionalWords ["DEFAULT"]
  flatStatement (say "EXECUTE " ++ label ++ values ++ targets ++ bindings
    ++ say (output ++ standard))

def deallocate : Parser Wording := do
  let mark ← optionalWords ["PREPARE"]
  flatStatement (say ("DEALLOCATE" ++ mark ++ " ") ++ (← identWording))

def discarding : Parser Wording := do
  match ← oneOf ["ALL", "PLANS", "SEQUENCES", "TEMP", "TEMPORARY"] with
  | some k => flatStatement (say ("DISCARD " ++ if k = "TEMPORARY" then "TEMP" else k))
  | none => expected "ALL, PLANS, SEQUENCES, TEMP or TEMPORARY after DISCARD"

/-- A condition that must hold. -/
def assertion : Parser Wording := do
  let condition ← expr n
  let message ← exprAfter n "AS"
  flatStatement (say "ASSERT " ++ condition.wording ++ message)

def print : Parser Wording := do flatStatement (say "PRINT " ++ (← expr n).wording)

/-! ### The server -/

def pragmaValue : Parser Wording := do
  let left ← get
  let value ← literal
  match tokenAt 0 left with
  | .text .single _ | .text .double _ | .number .. | .placeholder _ | .sign _ => return value
  | .word _ (some _) _ => return value
  | _ => expectedAt "number or string or ? placeholder" left

def pragma : Parser Wording := do
  let label ← nameWording n false
  if ← sign "(" then
    let value ← pragmaValue
    needSign ")"
    flatStatement (say "PRAGMA " ++ label ++ say "(" ++ value ++ say ")")
  else if ← sign "=" then
    flatStatement (say "PRAGMA " ++ label ++ say " = " ++ (← pragmaValue))
  else flatStatement (say "PRAGMA " ++ label)

/-- Ends a connection or what it is doing. -/
def kill : Parser Wording := do
  let kind ← oneOf ["CONNECTION", "QUERY", "MUTATION"]
  let number ← wholeNumber
  if kind = some "MUTATION" && !(← dialectIn [.clickhouse, .generic]) then
    expected "Unsupported type for KILL, allowed: CONNECTION | QUERY"
  else flatStatement (say ("KILL " ++ kind.elim "" (· ++ " ") ++ number))

/-- The logs and counts that a server can be told to write out or to clear. -/
def flushable : List (List String) := [
  ["BINARY", "LOGS"], ["ENGINE", "LOGS"], ["ERROR", "LOGS"], ["GENERAL", "LOGS"], ["HOSTS"],
  ["PRIVILEGES"], ["LOGS"], ["OPTIMIZER_COSTS"], ["RELAY", "LOGS"], ["SLOW", "LOGS"], ["STATUS"],
  ["USER_RESOURCES"], ["TABLES"]]

/-- Tables that are written out. -/
structure FlushedTables where
  tables : Wording
  locked : Bool
  exported : Bool

/-- Words about the tables up to the first other token, which is taken as well. A word that tells
nothing is passed over, and the last of equal clauses counts. -/
def flushedTables : Nat → FlushedTables → Parser FlushedTables
  | 0, read => return read
  | fuel + 1, read => do
    match ← peek with
    | .word _ _ keyword =>
      if !isKnownWord keyword then
        let tables ← names n
        flushedTables fuel {read with tables := say " " ++ tables}
      else
        skip 1
        if keyword = "WITH" then
          let locked ← words ["READ", "LOCK"]
          flushedTables fuel {read with locked := locked}
        else if keyword = "FOR" then
          let exported ← word "EXPORT"
          flushedTables fuel {read with exported := exported}
        else flushedTables fuel read
    | _ =>
      skip 1
      return read

def flush : Parser Wording := do
  if !(← dialectIn [.mysql, .generic]) then failHere "Unsupported statement FLUSH"
  else
    let place ← optionalOneOf [["NO_WRITE_TO_BINLOG"], ["LOCAL"]]
    let title := "FLUSH" ++ place ++ " "
    match ← firstWords flushable with
    | some "RELAY LOGS" =>
      flatStatement (say (title ++ "RELAY LOGS")
        ++ (← optionalClause ["FOR", "CHANNEL"] (nameWording n false)))
    | some "TABLES" =>
      let read ← flushedTables n (← bound) ⟨[], false, false⟩
      let lock := if read.locked then " WITH READ LOCK" else ""
      let outward := if read.exported then " FOR EXPORT" else ""
      flatStatement (say (title ++ "TABLES") ++ read.tables ++ say (lock ++ outward))
    | some kind => flatStatement (say (title ++ kind))
    | none =>
      expected ("BINARY LOGS, ENGINE LOGS, ERROR LOGS, GENERAL LOGS, HOSTS, LOGS, PRIVILEGES, "
        ++ "OPTIMIZER_COSTS,RELAY LOGS [FOR CHANNEL channel], SLOW LOGS, STATUS, USER_RESOURCES")

/-! ### Other databases -/

/-- How another database is opened. -/
def attachOption : Parser Wording := do
  match ← oneOf ["READ_ONLY", "TYPE"] with
  | some "READ_ONLY" =>
    return say ("READ_ONLY" ++ (← oneOf ["TRUE", "FALSE"]).elim "" (" " ++ lower ·))
  | some _ => return say "TYPE " ++ (← identWording)
  | none => expected "expected one of: ), READ_ONLY, TYPE"

def attachOptions : Parser (List Wording) := do
  if ← sign "(" then
    let options ← separated attachOption (sign ",")
    if ← sign ")" then return options else expected "expected one of: ')', ','"
  else return []

def attach : Parser Wording := do
  let database ← optionalWords ["DATABASE"]
  if (← dialect) = .duckdb then
    let guard ← optionalWords ["IF", "NOT", "EXISTS"]
    let path ← identWording
    let label ← optionalClause ["AS"] identWording
    flatStatement (say ("ATTACH" ++ database ++ guard ++ " ") ++ path ++ label
      ++ titled " " (← attachOptions))
  else
    let file ← expr n
    needWord "AS"
    let label ← identWording
    flatStatement (say ("ATTACH" ++ database ++ " ") ++ file.wording ++ say " AS " ++ label)

def detach : Parser Wording := do
  let database ← optionalWords ["DATABASE"]
  let guard ← optionalWords ["IF", "EXISTS"]
  flatStatement (say ("DETACH" ++ database ++ guard ++ " ") ++ (← identWording))

def install : Parser Wording := do flatStatement (say "INSTALL " ++ (← identWording))

/-! ### Locks -/

/-- How a table is locked. -/
def lockKind : Parser String := do
  match ← firstWords [["READ", "LOCAL"], ["READ"], ["WRITE"], ["LOW_PRIORITY", "WRITE"]] with
  | some kind => return kind
  | none => expected "an lock type in LOCK TABLES"

def lockedTable : Parser Wording := do
  let table ← identWording
  let label ← secondName fun _ marked keyword _ =>
    marked || !(["READ", "WRITE", "LOW_PRIORITY"].contains keyword)
  return table ++ label.elim [] (fun (_, i) => say " AS " ++ i.wording) ++ say (" " ++ (← lockKind))

def lockTables : Parser Wording := do
  flatStatement (say "LOCK TABLES " ++ commas (← commaList lockedTable))

/-! ### Telling and hearing -/

def listen : Parser Wording := do flatStatement (say "LISTEN " ++ (← identWording))

def unlisten : Parser Wording := do
  if ← sign "*" then flatStatement (say "UNLISTEN *")
  else
    match ← attempt identWording with
    | some channel => flatStatement (say "UNLISTEN " ++ channel)
    | none => expected "wildcard or identifier"

def notify : Parser Wording := do
  let channel ← identWording
  let message ← if ← sign "," then pure (say ", " ++ (← enclosedText)) else pure []
  flatStatement (say "NOTIFY " ++ channel ++ message)

/-- The kind of what a remark is about. -/
def remarkKind : Parser String := do
  match ← oneOf ["COLUMN", "DATABASE", "DOMAIN", "EXTENSION", "FUNCTION", "INDEX", "MATERIALIZED",
      "PROCEDURE", "ROLE", "SCHEMA", "SEQUENCE", "TABLE", "TYPE", "USER", "VIEW"] with
  | some "MATERIALIZED" =>
    needWord "VIEW"
    return "MATERIALIZED VIEW"
  | some kind => return kind
  | none => expected "comment object_type"

/-- A remark about a thing. -/
def remark : Parser Wording := do
  let guard ← ifExists
  needWord "ON"
  let kind ← remarkKind
  let label ← nameWording n false
  needWord "IS"
  let text ← if ← word "NULL" then pure (say "NULL") else enclosedText
  flatStatement (say ("COMMENT " ++ guard ++ "ON " ++ kind ++ " ") ++ label ++ say " IS " ++ text)

end EmbeddedSql.Sql.Grammar
