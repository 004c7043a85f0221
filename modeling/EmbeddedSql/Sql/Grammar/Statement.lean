import EmbeddedSql.Sql.Grammar.Change
import EmbeddedSql.Sql.Grammar.Definition
import EmbeddedSql.Sql.Grammar.Information
import EmbeddedSql.Sql.Grammar.Right
import EmbeddedSql.Sql.Grammar.Session
import EmbeddedSql.Sql.Grammar.Transfer

/-! Statements, and texts that hold several of them.

A statement, a query, an expression and the definition of a column may hold each other.
`Nested.within` ties the readings together for a number of levels, of which each of them takes
one. -/
namespace EmbeddedSql.Sql.Grammar

open Text

section
variable (n : Nested)

/-- A change of rows in the place of a query, if one is ahead. -/
def change : Parser (Option Statement) := do
  if ← word "INSERT" then return some (← insert n "INSERT")
  else if ← word "UPDATE" then return some (← update n)
  else if ← word "DELETE" then return some (← delete n)
  else if ← word "MERGE" then return some (.other (← merge n))
  else return none

/-- A query, with the queries that it gives names to. -/
def query : Parser Query := do
  let (recursive, ctes) ←
    if ← word "WITH" then
      let recursive ← word "RECURSIVE"
      pure (recursive, ← commaList (cte n))
    else pure (false, [])
  match ← change n with
  | some s => return ⟨recursive, ctes, .change s, [], [], [], [], []⟩
  | none => withClauses n recursive ctes (← body n 2 0)

/-! ### Statements by their verbs -/

/-- Rows that take the place of others with the same key. -/
def replaceRows (left : List Lexeme) : Parser Statement := do
  match ← dialect with
  | .mysql | .generic => insert n "REPLACE"
  | .sqlite =>
    set left
    insert n "INSERT"
  | _ => failHere "Unsupported statement REPLACE"

/-- Statements about rows whose parts are nodes of their own; `left` starts with the verb. -/
def rowStatement (verb : String) (left : List Lexeme) : Option (Parser Statement) :=
  match verb with
  | "INSERT" => some (insert n "INSERT")
  | "REPLACE" => some (replaceRows n left)
  | "UPDATE" => some (update n)
  | "DELETE" => some (delete n)
  | _ => none

/-- Other statements about rows. -/
def transferStatement (verb : String) : Option (Parser Wording) :=
  match verb with
  | "MERGE" => some (merge n)
  | "TRUNCATE" => some (truncate n)
  | "COPY" => some (copy n)
  | "UNLOAD" => some (unload n)
  | "EXPORT" => some (exportData n)
  | "LOAD" => some (load n)
  | _ => none

/-- Statements about the things that hold rows, and about who may use them. -/
def thingStatement (verb : String) : Option (Parser Wording) :=
  match verb with
  | "CREATE" => some (create n)
  | "ALTER" => some (alter n)
  | "DROP" => some (drop n)
  | "RENAME" => some (renameTables n)
  | "COMMENT" => some (remark n)
  | "ANALYZE" => some (analyze n)
  | "VACUUM" => some (vacuum n)
  | "OPTIMIZE" => some (optimize n)
  | "MSCK" => some (repair n)
  | "CACHE" => some (cacheTable n)
  | "UNCACHE" => some (uncacheTable n)
  | "GRANT" => some (grant n)
  | "DENY" => some (deny n)
  | "REVOKE" => some (revoke n)
  | _ => none

/-- Statements that hold others, and those that stand beside them. The first word of some is kept
as `opening`, which is how it is written. -/
def scriptStatement (verb opening : String) : Option (Parser Wording) :=
  match verb with
  | "CASE" => some (distinguish n)
  | "IF" => some (conditional n opening)
  | "WHILE" => some (loop n opening)
  | "RAISE" => some (raise n)
  | "RAISERROR" => some (raiseError n)
  | "RETURN" => some (returnValue n)
  | "DECLARE" => some (declare n)
  | "FETCH" => some (fetchRows n)
  | "OPEN" => some openCursor
  | "CLOSE" => some closeCursor
  | "PRINT" => some (print n)
  | _ => none

/-- Statements about transactions. -/
def transactionStatement (verb : String) : Option (Parser Wording) :=
  match verb with
  | "START" => some startTransaction
  | "BEGIN" => some beginTransaction
  | "END" => some endTransaction
  | "SAVEPOINT" => some savepoint
  | "RELEASE" => some release
  | "COMMIT" => some commit
  | "ROLLBACK" => some rollback
  | _ => none

/-- Statements about a session. -/
def sessionStatement (verb : String) : Option (Parser Wording) :=
  match verb with
  | "SET" => some (setting n)
  | "RESET" => some (reset n)
  | "SHOW" => some (showing n)
  | "USE" => some (choosing n)
  | "EXPLAIN" | "DESCRIBE" | "DESC" => some (explain n verb)
  | "CALL" => some (callProcedure n)
  | "PREPARE" => some (prepare n)
  | "EXECUTE" | "EXEC" => some (execute n)
  | "DEALLOCATE" => some deallocate
  | "DISCARD" => some discarding
  | "ASSERT" => some (assertion n)
  | "PRAGMA" => some (pragma n)
  | "KILL" => some kill
  | "FLUSH" => some (flush n)
  | "ATTACH" => some (attach n)
  | "DETACH" => some detach
  | "INSTALL" => some install
  | "LISTEN" => some listen
  | "UNLISTEN" => some unlisten
  | "NOTIFY" => some notify
  | _ => none

/-- Whether a verb means anything in a dialect. -/
def knowsVerb (d : Dialect) : String → Bool
  | "COMMENT" => d.commentOn
  | "DETACH" | "INSTALL" => d.isOneOf [.duckdb, .generic]
  | "LISTEN" | "UNLISTEN" | "NOTIFY" => d = .postgres
  | "OPTIMIZE" => d.columnStoreClauses
  | _ => true

/-- A statement whose first keyword was `verb`; `left` is where it starts. -/
def statementOf (verb : String) (left : List Lexeme) : Parser Statement := do
  let wording := transferStatement n verb <|> thingStatement n verb
    <|> scriptStatement n verb (tokenAt 0 left).display <|> transactionStatement verb
    <|> sessionStatement n verb
  match rowStatement n verb left <|> wording.map (Statement.other <$> ·) with
  | some p => if knowsVerb (← dialect) verb then p else expectedAt "an SQL statement" left
  | none => expectedAt "an SQL statement" left

/-! ### Statements of some dialects -/

/-- Whether `BEGIN` opens a block, by what stands behind it. -/
def opensBlock (d : Dialect) (follows : Token) : Bool :=
  match d with
  | .snowflake => true
  | .bigquery => follows ≠ .sign ";" && follows ≠ .endOfInput && !isKeyword "TRANSACTION" follows
  | _ => false

/-- A statement that a dialect reads in its own way, if one is ahead. -/
def ownStatement : Parser (Option Wording) := do
  let left ← get
  match ← dialect, tokenAt 0 left with
  | d, .word _ _ "BEGIN" =>
    if opensBlock d (tokenAt 1 left) then
      skip 1
      return some (← block n)
    else return none
  | .mysql, .word .. =>
    if ← words ["LOCK", "TABLES"] then return some (← lockTables)
    else if ← words ["UNLOCK", "TABLES"] then return some (← flatStatement (say "UNLOCK TABLES"))
    else return none
  | .mssql, .word _ _ "IF" =>
    skip 1
    return some (← openConditional n (tokenAt 0 left).display)
  | .mssql, .word _ _ "CREATE" =>
    if ← words ["CREATE", "TRIGGER"] then return some (← createTableTrigger n "")
    else if ← words ["CREATE", "OR", "ALTER", "TRIGGER"] then
      return some (← createTableTrigger n "OR ALTER ")
    else return none
  | .snowflake, .word _ _ "ALTER" =>
    if ← words ["ALTER", "DYNAMIC", "TABLE"] then return some (← alterDynamicTable n)
    else if ← words ["ALTER", "SESSION"] then return some (← alterSession)
    else return none
  | .snowflake, .word _ _ "COPY" =>
    if ← words ["COPY", "INTO"] then return some (← copyInto n)
    else return none
  | .snowflake, .word _ _ "CREATE" =>
    skip 1
    givenBack left (createLoose n left)
  | .snowflake, .word _ _ "SHOW" =>
    skip 1
    givenBack left (showingObjects n)
  | .snowflake, .word .. =>
    if ← word "LIST" <||> word "LS" then return some (← stageFiles n "LIST")
    else if ← word "REMOVE" <||> word "RM" then return some (← stageFiles n "REMOVE")
    else return none
  | _, _ => return none
where
  /-- What `p` gives; if that is nothing, `left` is ahead again. -/
  givenBack (left : List Lexeme) (p : Parser (Option Wording)) : Parser (Option Wording) := do
    match ← p with
    | some w => return some w
    | none =>
      set left
      return none

/-- The words that start a query. -/
def queryWords : List String := ["SELECT", "WITH", "VALUES", "FROM"]

def statement : Parser Statement := do
  match ← ownStatement n with
  | some w => return .other w
  | none =>
    let left ← get
    match ← peek with
    | .word _ _ verb =>
      if queryWords.contains verb then return .query (← n.query)
      else
        skip 1
        statementOf n verb left
    | .sign "(" => return .query (← n.query)
    | _ => expected "an SQL statement"

end

/-- The readings inside `depth` levels. -/
def Nested.within : Nat → Nested
  | 0 => ⟨fun _ => throw .tooDeep, throw .tooDeep, throw .tooDeep, throw .tooDeep⟩
  | depth + 1 =>
    let n := Nested.within depth
    ⟨expression n, Grammar.query n, Grammar.statement n, columnDefinition n⟩

/-- The levels of readings inside each other that a text may have. -/
def depthLimit : Nat := 50

/-- Statements with semicolons between them. -/
def statements : Nat → Parser (List Statement)
  | 0 => return []
  | fuel + 1 => do
    if ← sign ";" then statements fuel
    else if (← peek) = .endOfInput then return []
    else
      let s ← (Nested.within depthLimit).statement
      if (← peekSign ";") || (← peek) = .endOfInput then return s :: (← statements fuel)
      else if ← peekIs "END" then return [s]
      else expected "end of statement"

end EmbeddedSql.Sql.Grammar

namespace EmbeddedSql.Sql

/-- The statements of a text. -/
def Statement.parseAll (d : Dialect) (text : String) : Except SyntaxError (List Statement) :=
  match lex d text with
  | .error e => .error (.lexical e)
  | .ok left =>
    match Grammar.statements (2 * left.length + 1) ⟨d, false, false⟩ left with
    | .ok (statements, _) => .ok statements
    | .error e => .error e

end EmbeddedSql.Sql
