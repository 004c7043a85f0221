import EmbeddedSql.Sql.Grammar.Definition.Column

/-! Views and indexes. -/
namespace EmbeddedSql.Sql.Grammar

open Text

variable (n : Nested)

/-! ### Views -/

/-- The name of a user, perhaps with a host behind it. -/
def userName : Parser Wording := do
  let user ← name n false
  let hosted := (← dialectIn [.mysql, .generic]) && user.length = 1 && !user.any NamePart.isMade
  if ← pure hosted <&&> sign "@" then return user.wording ++ say "@" ++ (← identWording)
  else return user.wording

/-- How the rows of a view are found, and with whose rights. -/
def viewParameters : Parser Wording := do
  let algorithm ←
    if ← word "ALGORITHM" then
      needSign "="
      pure (say ("ALGORITHM = " ++ (← needOneOf ["UNDEFINED", "MERGE", "TEMPTABLE"]) ++ " "))
    else pure []
  let definer ←
    if ← word "DEFINER" then
      needSign "="
      pure (say "DEFINER = " ++ (← userName n) ++ say " ")
    else pure []
  let security ←
    if ← words ["SQL", "SECURITY"] then
      pure (say ("SQL SECURITY " ++ (← needOneOf ["DEFINER", "INVOKER"]) ++ " "))
    else pure []
  return algorithm ++ definer ++ security

/-- A column of a view. -/
def viewColumn : Parser Wording := do
  let d ← dialect
  let column ← identWording
  let options ← plainColumnOptions n
  let type ← if d = .clickhouse then pure (say " " ++ (← typeWording n)) else pure []
  let joint := say (if d = .snowflake then " " else ", ")
  return column ++ type
    ++ if options.isEmpty then [] else say " " ++ (options.intersperse joint).flatten

def viewColumns : Parser Wording := do
  if ← sign "(" then
    if ← sign ")" then return []
    else
      let trailing ← allows Dialect.trailingCommasInColumns
      let columns ← separated (viewColumn n) (listGoesOn trailing fun keyword _ =>
        reservedForColumns.contains keyword)
      needSign ")"
      return say " " ++ wordingInParens columns
  else return []

/-- A view, from `VIEW` or the word in front of it on. -/
def createView (mark temporary : String) (parameters : Wording) : Parser Wording := do
  let d ← dialect
  let secure := if ← word "SECURE" then "SECURE " else ""
  let materialized := if ← word "MATERIALIZED" then "MATERIALIZED " else ""
  needWord "VIEW"
  let early ← ifNotExists
  let view ← nameWording n (d = .bigquery)
  let late ← if early = "" then optionalWords ["IF", "NOT", "EXISTS"] else pure ""
  let columns ← viewColumns n
  let given ← optionsAfter n "WITH"
  let clusters ← do
    if ← word "CLUSTER" then
      needWord "BY"
      let columns ← columnList false
      pure (if columns.isEmpty then [] else say " CLUSTER BY " ++ identsWording columns)
    else pure []
  let others ← if d.isOneOf [.bigquery, .generic] then optionsAfter n "OPTIONS" else pure []
  let target ←
    if d.isOneOf [.clickhouse, .generic] then optionalClause ["TO"] (nameWording n false)
    else pure []
  let remark ←
    if ← pure (d.isOneOf [.snowflake, .generic]) <&&> word "COMMENT" then
      needSign "="
      pure (say " COMMENT = " ++ singleQuoted (← remarkText))
    else pure []
  needWord "AS"
  let q ← n.query
  let binding ←
    if d.isOneOf [.redshift, .generic] then optionalWords ["WITH", "NO", "SCHEMA", "BINDING"]
    else pure ""
  let head := say ("CREATE " ++ mark) ++ parameters
    ++ say (secure ++ materialized ++ temporary ++ "VIEW " ++ early) ++ view ++ say late ++ target
    ++ columns ++ (if others.isEmpty then titled " WITH " given else []) ++ remark ++ clusters
    ++ titled " OPTIONS" others
  return (.flat head :: say " AS" ++ .gap :: q.wording ++ say binding)

/-! ### Indexes -/

/-- How the work on a table is done while it is changed, or who may use the table meanwhile. -/
def workMode : Parser (Option Wording) := do
  match ← oneOf ["ALGORITHM", "LOCK"] with
  | none => return none
  | some k =>
    let joint := if ← sign "=" then " = " else " "
    let (modes, message) :=
      if k = "LOCK" then
        (["DEFAULT", "EXCLUSIVE", "NONE", "SHARED"],
          "DEFAULT, EXCLUSIVE, NONE or SHARED after LOCK [=]")
      else
        (["DEFAULT", "INSTANT", "INPLACE", "COPY"],
          "DEFAULT, INSTANT, INPLACE, or COPY after ALGORITHM [=]")
    match ← oneOf modes with
    | some mode => return some (say (k ++ joint ++ mode))
    | none => expected message

/-- An index, behind `INDEX`. -/
def createIndex (unique : String) : Parser Wording := do
  let concurrently := if ← word "CONCURRENTLY" then "CONCURRENTLY " else ""
  let guard ← ifNotExists
  let (label, early) ←
    if ← pure (decide (guard = "")) <&&> word "ON" then pure ([], [])
    else do
      let index ← nameWording n false
      let method ← indexMethod
      needWord "ON"
      pure (index ++ say " ", method)
  let table ← nameWording n false
  let late ← indexMethod
  let method := if late.isEmpty then early else late
  let columns ← indexColumns n
  let others ←
    optionalClause ["INCLUDE"] do return wordingInParens (← parens (commaList identWording))
  let nulls ← nullsDistinct
  let parameters ←
    if ← dialectIn [.postgres, .generic] then
      optionalClause ["WITH"] (exprsInParens n)
    else pure []
  let condition ← exprAfter n "WHERE"
  let options ← indexOptions
  let modes ← many workMode
  flatStatement (say ("CREATE " ++ unique ++ "INDEX " ++ concurrently ++ guard) ++ label
    ++ say "ON " ++ table ++ method ++ (if method.isEmpty then [] else say " ") ++ columns ++ others
    ++ say nulls ++ parameters ++ condition ++ (options ++ modes).flatMap (say " " ++ ·))

end EmbeddedSql.Sql.Grammar
