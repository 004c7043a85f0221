import EmbeddedSql.Sql.Grammar.Query

/-! Statements that change rows: `INSERT`, `UPDATE`, `DELETE` and `MERGE`. -/
namespace EmbeddedSql.Sql.Grammar

open Text

variable (n : Nested)

/-- A list behind a keyword, one line for each member when laid out. -/
def listBlock (title : String) (members : List Wording) : Wording :=
  .gap :: say title ++ [.gap, .nest (lines members)]

/-- What is done about rows that are there already, behind the verb. `REPLACE` needs no `OR`
in front. -/
def conflictClause : Parser String := do
  match ← firstWords [["OR", "REPLACE"], ["OR", "ROLLBACK"], ["OR", "ABORT"], ["OR", "FAIL"],
      ["OR", "IGNORE"], ["REPLACE"]] with
  | some "REPLACE" => return "OR REPLACE"
  | some clause => return clause
  | none => return ""

def returning : Parser Wording := do
  if ← word "RETURNING" then
    return listBlock "RETURNING" ((← commaList (item n)).map Item.wording)
  else return []

/-- Columns in parentheses, if they are there. -/
def columnList (emptyAllowed : Bool) : Parser (List Ident) := do
  if ← sign "(" then
    if ← pure emptyAllowed <&&> sign ")" then return []
    else
      let columns ← commaList ident
      needSign ")"
      return columns
  else return []

/-! ### `INSERT` -/

def conflictTarget : Parser Wording := do
  if ← words ["ON", "CONSTRAINT"] then
    return say " ON CONSTRAINT " ++ (← nameWording n false)
  else if ← peekSign "(" then return identsWording (← identsInParens)
  else return []

/-- What is done about rows that are there already, behind the rows. -/
def onInsert : Parser Wording := do
  if ← word "ON" then
    if ← word "CONFLICT" then
      let target ← conflictTarget n
      needWord "DO"
      if ← word "NOTHING" then return [.flat (say " ON CONFLICT" ++ target ++ say " DO NOTHING")]
      else
        needWords ["UPDATE", "SET"]
        let changes ← assignments n
        let condition ← exprAfter n "WHERE"
        return [.flat (say " ON CONFLICT" ++ target ++ say " DO UPDATE SET "
          ++ commas (changes.map Assignment.wording) ++ condition)]
    else
      needWords ["DUPLICATE", "KEY", "UPDATE"]
      let changes ← assignments n
      return [.flat (say " ON DUPLICATE KEY UPDATE "
        ++ commas (changes.map Assignment.wording))]
  else return []

/-- The table that rows are put into. -/
def insertTarget : Parser Wording := do
  if ← allows Dialect.insertTableFunction <&&> word "FUNCTION" then
    let name ← name n false
    let c ← callOf n (operand n (← bound)) name
    return say "FUNCTION " ++ [.flat (Call.wording c)]
  else nameWording n false

def insertPartition : Parser Wording := do
  if ← word "PARTITION" then
    let members ← parens (exprs n)
    return .flat (say "PARTITION (" ++ members ++ say ")") :: [.gap]
  else return []

/-- The rows that are put in: a query, assignments, or nothing. -/
def insertSource : Parser Wording := do
  if ← peekIsOf ["FORMAT", "SETTINGS"] then return []
  else if ← allows Dialect.insertSet <&&> word "SET" then
    return say "SET" ++ [.gap, .nest (lines ((← assignments n).map Assignment.wording))]
  else return (← n.query).wording

/-- A second name for the new row. -/
def rowLabel : Parser Wording := do
  if ← dialectIn [.mysql, .generic] <&&> word "AS" then
    let label ← nameWording n false
    let columns ← columnList false
    return say " AS " ++ label ++ if columns.isEmpty then [] else say " " ++ identsWording columns
  else return []

/-- How rows are written to a file. -/
def fileFormat : Parser Wording := do
  match ← oneOf ["AVRO", "JSONFILE", "ORC", "PARQUET", "RCFILE", "SEQUENCEFILE", "TEXTFILE"] with
  | some k => return say k
  | none => expected "fileformat"

/-- A query whose rows go to files, behind `DIRECTORY`. -/
def intoDirectory (mark : String) : Parser Statement := do
  let path ← literalText
  let format ←
    if ← words ["STORED", "AS"] then pure (say " STORED AS " ++ (← fileFormat)) else pure []
  let q ← n.query
  return .other (say ("INSERT" ++ mark ++ " DIRECTORY '" ++ path ++ "'") ++ format
    ++ say " " ++ [.flat q.wording])

/-- Puts rows into a table, behind the verb. -/
def insert (verb : String) : Parser Statement := do
  let d ← dialect
  let conflict ← conflictClause
  let own := d.isOneOf [.mysql, .generic]
  let priority ←
    if own then pure ((← oneOf ["LOW_PRIORITY", "DELAYED", "HIGH_PRIORITY"]).elim "" (" " ++ ·))
    else pure ""
  let ignore := if ← pure own <&&> word "IGNORE" then " IGNORE" else ""
  let overwrite := if ← word "OVERWRITE" then " OVERWRITE" else ""
  let into := if ← word "INTO" then " INTO" else ""
  let «local» := if ← word "LOCAL" then " LOCAL" else ""
  if ← word "DIRECTORY" then intoDirectory n (overwrite ++ «local»)
  else
    let table := if ← word "TABLE" then " TABLE" else ""
    let target ← insertTarget n
    let label ←
      if ← pure (decide (d = .postgres)) <&&> word "AS" then pure (say " AS " ++ (← identWording))
      else pure []
    let title :=
      if conflict = "" then verb ++ priority ++ ignore ++ overwrite ++ into ++ table
      else "INSERT " ++ conflict ++ " INTO"
    let head := say (title ++ " ") ++ target ++ label ++ say " "
    if ← words ["DEFAULT", "VALUES"] then
      rest head [] [] (say "DEFAULT VALUES")
    else
      let nested := (← peekSign "(") && (← peekIsAt 1 "SELECT")
      let columns ← if nested then pure [] else columnList (d = .mysql)
      let partition ← if nested then pure [] else insertPartition n
      let after ← if !nested && d = .hive then columnList false else pure []
      let list (is : List Ident) : Wording :=
        if is.isEmpty then [] else identsWording is ++ [.gap]
      let source ← insertSource n
      rest head (list columns) (partition ++ list after) source
where
  rest (head columns partition source : Wording) : Parser Statement := do
    let chosen ←
      if ← allows Dialect.insertFormat then
        pure (((← settings n).elim [] fun w => [.flat w, .gap]))
      else pure []
    let format ←
      if ← allows Dialect.insertFormat <&&> word "FORMAT" then
        let name ← identWording
        let values := (← attempt (exprs n)).elim [] (say " " ++ ·)
        pure (say "FORMAT " ++ name ++ values)
      else pure []
    let source :=
      if !source.isEmpty then source
      else if !format.isEmpty then format
      else if columns.isEmpty then say "DEFAULT VALUES"
      else []
    let label ← rowLabel n
    let conflict ← onInsert n
    let returned ← returning n
    return .insert (head ++ columns) (partition ++ chosen) source (label ++ conflict ++ returned)

/-! ### `UPDATE` and `DELETE` -/

/-- Changes rows, behind the verb. -/
def update : Parser Statement := do
  let conflict ← conflictClause
  let target ← source n
  let before ← if ← word "FROM" then sources n else pure []
  needWord "SET"
  let changes ← assignments n
  let after ← if ← pure before.isEmpty <&&> word "FROM" then sources n else pure []
  let condition ← exprClause n "WHERE"
  let returned ← returning n
  let limit ←
    if ← word "LIMIT" then pure [.gap, .flat (say "LIMIT " ++ (← expr n).wording)] else pure []
  return .update (if conflict = "" then "UPDATE " else "UPDATE " ++ conflict ++ " ") target
    before changes after (condition ++ returned ++ limit)

/-- Removes rows, behind the verb. -/
def delete : Parser Statement := do
  let marked ← word "FROM"
  let (tables, withFrom) ←
    if marked then pure ([], true)
    else if ← dialectIn [.bigquery, .generic] then pure ([], false)
    else
      let tables ← commaList (name n false)
      needWord "FROM"
      pure (tables, true)
  let found ← commaList (source n)
  let others ←
    if ← word "USING" then
      pure (listBlock "USING" ((← commaList (source n)).map fun s => [.source s]))
    else pure []
  let condition ← exprClause n "WHERE"
  let returned ← returning n
  let order ←
    if ← words ["ORDER", "BY"] then pure (listBlock "ORDER BY" (← commaList (sortKey n)))
    else pure []
  let limit ←
    if ← word "LIMIT" then
      if ← word "ALL" then pure [] else pure (clause "LIMIT" (← expr n).wording)
    else pure []
  return .delete tables withFrom found (others ++ condition ++ returned ++ order ++ limit)

/-! ### `MERGE` -/

/-- When a branch of a merge applies. -/
def mergeCondition : Parser String := do
  if ← word "NOT" then
    needWord "MATCHED"
    if ← words ["BY", "SOURCE"] then return "NOT MATCHED BY SOURCE"
    else if ← words ["BY", "TARGET"] then return "NOT MATCHED BY TARGET"
    else return "NOT MATCHED"
  else
    needWord "MATCHED"
    return "MATCHED"

/-- What a branch of a merge does. -/
def mergeAction (kind : String) : Parser Wording := do
  let missing := kind = "NOT MATCHED" || kind = "NOT MATCHED BY TARGET"
  let place ← get
  let barred (verb : String) : Parser Wording :=
    throw (.other (verb ++ " is not allowed in a " ++ kind ++ " merge clause") (placeOf place))
  match ← oneOf ["UPDATE", "INSERT", "DELETE"] with
  | some "UPDATE" =>
    if missing then barred "UPDATE"
    else
      needWord "SET"
      let changes ← assignments n
      let condition ← mergePredicate "WHERE" []
      let removal ← mergePredicate "DELETE" ["WHERE"]
      return say "UPDATE SET " ++ commas (changes.map Assignment.wording) ++ condition ++ removal
  | some "DELETE" => if missing then barred "DELETE" else return say "DELETE"
  | some _ =>
    if !missing then barred "INSERT"
    else
      let emptyAllowed := (← dialect) = .mysql
      let columns ← columnList emptyAllowed
      let list := if columns.isEmpty then [] else identsWording columns ++ say " "
      if ← dialectIn [.bigquery, .generic] <&&> word "ROW" then
        return say "INSERT " ++ list ++ say "ROW" ++ (← mergePredicate "WHERE" [])
      else
        needWord "VALUES"
        let rows ← valueRows n "VALUES" emptyAllowed
        return say "INSERT " ++ list ++ rows ++ (← mergePredicate "WHERE" [])
  | none => failHere "expected UPDATE, DELETE or INSERT in merge clause"
where
  /-- Which of the rows a part of the action is about, behind `k` and the words `rest`, which have
  to follow it. -/
  mergePredicate (k : String) (rest : List String) : Parser Wording := do
    if ← dialectIn [.generic] <&&> word k then
      needWords rest
      return say (" " ++ " ".intercalate (k :: rest) ++ " ") ++ (← expr n).wording
    else return []

def mergeBranch : Parser (Option Wording) := do
  if ← word "WHEN" then
    let kind ← mergeCondition
    let condition ← exprAfter n "AND"
    needWord "THEN"
    let action ← mergeAction n kind
    return some (say ("WHEN " ++ kind) ++ condition ++ say " THEN " ++ action)
  else return none

/-- Brings one table in line with another, behind the verb. -/
def merge : Parser Wording := do
  let mark := if ← word "INTO" then " INTO " else " "
  let fuel := 4 * (← bound)
  let target := (← factor n fuel).relation
  needWord "USING"
  let other := (← factor n fuel).relation
  needWord "ON"
  let condition ← expr n
  let branches ← many (mergeBranch n)
  let output ←
    match ← oneOf ["OUTPUT", "RETURNING"] with
    | some k =>
      let columns := (← items n).map Item.wording
      let target ← if k = "OUTPUT" then into n else pure []
      pure (say (" " ++ k ++ " ") ++ commas columns ++ target)
    | none => pure []
  return [.flat (say ("MERGE" ++ mark) ++ embedded target ++ say " USING "
    ++ embedded other ++ say " ON " ++ condition.wording ++ say " "
    ++ (branches.intersperse (say " ")).flatten ++ output)]

end EmbeddedSql.Sql.Grammar
