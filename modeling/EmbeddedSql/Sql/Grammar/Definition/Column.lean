import EmbeddedSql.Sql.Grammar.Definition.Clause

/-! Columns of a table and the constraints on them. -/
namespace EmbeddedSql.Sql.Grammar

open Text

variable (n : Nested)

/-! ### Constraints -/

/-- When a constraint is checked, and whether it is. -/
def characteristics : Parser Wording := inAnyOrder false [
  kind [["NOT", "DEFERRABLE"], ["DEFERRABLE"]],
  do
    if ← word "INITIALLY" then
      match ← oneOf ["DEFERRED", "IMMEDIATE"] with
      | some k => return some (say (" INITIALLY " ++ k))
      | none => expected "one of DEFERRED or IMMEDIATE"
    else return none,
  kind [["ENFORCED"], ["NOT", "ENFORCED"]]]
where
  kind (runs : List (List String)) : Parser (Option Wording) := do
    return (← firstWords runs).map fun found => say (" " ++ found)

def referentialAction : Parser Wording := do
  match ← firstWords [["RESTRICT"], ["CASCADE"], ["SET", "NULL"], ["NO", "ACTION"],
      ["SET", "DEFAULT"]] with
  | some action => return say action
  | none => expected "one of RESTRICT, CASCADE, SET NULL, NO ACTION or SET DEFAULT"

/-- How the columns of a reference agree with their target, and what happens to a row whose
target is removed or changed. -/
def referenceClauses : Parser Wording := inAnyOrder false [
  clauseOf ["MATCH"] do
    match ← oneOf ["FULL", "PARTIAL", "SIMPLE"] with
    | some k => return say k
    | none => expected "one of FULL, PARTIAL or SIMPLE",
  clauseOf ["ON", "DELETE"] referentialAction,
  clauseOf ["ON", "UPDATE"] referentialAction]

def enforcement : Parser String := optionalOneOf [["ENFORCED"], ["NOT", "ENFORCED"]]

/-- A name in quotes or without, if one is there. -/
def optionalIdent : Parser Wording := do
  return (← attempt identWording).elim [] (say " " ++ ·)

/-- The columns of a key, with what stands around them. -/
def keyed (head : Wording) : Parser (Option Wording) := do
  let label ← optionalIdent
  let method ← indexMethod
  let columns ← indexColumns n
  let options ← indexOptions
  let behind ← characteristics
  return some (head ++ label ++ method ++ say " " ++ columns
    ++ options.flatMap (say " " ++ ·) ++ behind)

/-- A key that no two rows share, behind `UNIQUE`. -/
def uniqueKey (title : Wording) : Parser (Option Wording) := do
  let kind ← optionalOneOf [["KEY"], ["INDEX"]]
  if kind ≠ "" && !(← dialectIn [.generic, .mysql]) then
    expected "\x60index_name\x60 or \x60(column_name [, ...])\x60"
  else
    let nulls ← nullsDistinct
    keyed n (title ++ say ("UNIQUE" ++ nulls ++ kind))

/-- A key of another table, behind `FOREIGN KEY`. -/
def foreignKey (title : Wording) : Parser (Option Wording) := do
  let label ← optionalIdent
  let columns ← identsInParens
  needWord "REFERENCES"
  let target ← nameWording n false
  let referred ← columnList false
  let clauses ← referenceClauses
  let behind ← characteristics
  return some (title ++ say "FOREIGN KEY" ++ label ++ say " " ++ identsWording columns
    ++ say " REFERENCES " ++ target
    ++ (if referred.isEmpty then [] else identsWording referred) ++ clauses ++ behind)

/-- An index as a part of a table, behind its first keyword. -/
def tableIndex (title : String) : Parser (Option Wording) := do
  let label ← if ← peekIs "USING" then pure [] else optionalIdent
  let method ← indexMethod
  let columns ← indexColumns n
  let options ← indexOptions
  return some (say title ++ label ++ method ++ say " " ++ columns
    ++ if options.isEmpty then [] else say " " ++ commas options)

/-- An index of words or figures, behind its first keyword. -/
def searchIndex (title : String) : Parser (Option Wording) := do
  let kind ← optionalOneOf [["KEY"], ["INDEX"]]
  let label ← optionalIdent
  return some (say (title ++ kind) ++ label ++ say " " ++ (← indexColumns n))

/-- A constraint of a whole table, if one is ahead. -/
def tableConstraint : Parser (Option Wording) := do
  let label ← afterWord "CONSTRAINT" ident
  let title := label.elim [] fun i => say "CONSTRAINT " ++ i.wording ++ say " "
  let own ← dialectIn [.generic, .mysql]
  let left ← get
  match ← oneOf ["UNIQUE", "PRIMARY", "FOREIGN", "CHECK"] with
  | some "UNIQUE" => uniqueKey n title
  | some "PRIMARY" =>
    needWord "KEY"
    keyed n (title ++ say "PRIMARY KEY")
  | some "FOREIGN" =>
    needWord "KEY"
    foreignKey n title
  | some _ =>
    let condition ← exprInParens n
    return some (title ++ say "CHECK " ++ condition ++ say (← enforcement))
  | none =>
    match ← if own then oneOf ["FULLTEXT", "SPATIAL"] else pure none, label with
    | some k, none => searchIndex n k
    | some _, some i =>
      throw (.expected "FULLTEXT or SPATIAL option without constraint name"
        (.word (plain i.wording) none "") (placeOf left))
    | none, some _ => expected "PRIMARY, UNIQUE, FOREIGN, or CHECK"
    | none, none =>
      match ← if own then oneOf ["INDEX", "KEY"] else pure none with
      | some k => tableIndex n k
      | none => return none

/-! ### Values of a column that are made -/

/-- The numbers that a column counts through. -/
def identityRange : Parser Wording := parens do
  let seed ← signedLiteral
  needSign ","
  return say "(" ++ seed ++ say ", " ++ (← signedLiteral) ++ say ")"

/-- A column that counts its rows, behind the keyword. -/
def countedRows (title : String) : Parser Wording := do
  let range ← do
    if ← peekSign "(" then identityRange
    else if ← word "START" then
      let seed ← signedLiteral
      needWord "INCREMENT"
      pure (say " START " ++ seed ++ say " INCREMENT " ++ (← signedLiteral))
    else pure []
  return say title ++ range ++ say (← optionalOneOf [["ORDER"], ["NOORDER"]])

/-- Whether a made value is kept. -/
def keeping : Parser String := optionalOneOf [["STORED"], ["VIRTUAL"]]

/-- How a column gets its value, behind `GENERATED`. -/
def generated : Parser (Option Wording) := do
  match ← firstWords [["ALWAYS", "AS", "IDENTITY"], ["BY", "DEFAULT", "AS", "IDENTITY"]] with
  | some way =>
    let options ← if ← peekSign "(" then parens sequenceOptions else pure []
    return some (say ("GENERATED " ++ way)
      ++ if options.isEmpty then [] else say " (" ++ options ++ say " )")
  | none =>
    if ← words ["ALWAYS", "AS"] then
      if ← peekSign "(" then
        let value ← withReader ({· with definingColumn := false}) (exprInParens n)
        let stored ← optionalWords ["STORED"]
        if stored = "" && (← dialect) = .postgres then expected "STORED"
        else
          let kept ← if stored = "" then keeping else pure stored
          return some (say "GENERATED ALWAYS AS " ++ value ++ say kept)
      else return none
    else return none

/-! ### Options of a column -/

/-- What hides the values of a column, or which of them are shown. -/
def columnPolicy (title : String) : Parser Wording := do
  let policy ← nameWording n false
  let columns ← optionalClause ["USING"] do
    return wordingInParens (← parens (commaList identWording))
  return say title ++ policy ++ columns

/-- The options of a column that come before all others in the dialect that has them. -/
def guardOption : Parser (Option Wording) := do
  let left ← get
  let mark := if ← word "WITH" then "WITH " else ""
  match ← firstWords [["IDENTITY"], ["AUTOINCREMENT"], ["MASKING", "POLICY"],
      ["PROJECTION", "POLICY"], ["TAG"]] with
  | some "TAG" => return some (say (mark ++ "TAG ") ++ (← tagList n))
  | some "IDENTITY" => return some (← countedRows "IDENTITY")
  | some "AUTOINCREMENT" => return some (← countedRows "AUTOINCREMENT")
  | some kind => return some (← columnPolicy n (mark ++ kind ++ " "))
  | none =>
    set left
    return none

/-- Options that a dialect may not have, behind those that all have. A keyword is taken before
the dialect is asked, so that one of them that does not belong to the dialect is passed over
with what follows it. -/
def specialOption : Parser (Option Wording) := do
  let mine : Parser Bool := dialectIn [.mysql, .generic]
  if ← word "AUTO_INCREMENT" <&&> mine then return some (say "AUTO_INCREMENT")
  else if ← word "AUTOINCREMENT" <&&> dialectIn [.sqlite, .generic] then
    return some (say "AUTOINCREMENT")
  else if ← word "ASC" <&&> dialectIn [.sqlite, .generic] then return some (say "ASC")
  else if ← word "DESC" <&&> dialectIn [.sqlite, .generic] then return some (say "DESC")
  else if ← words ["ON", "UPDATE"] <&&> mine then
    return some (say "ON UPDATE " ++ (← expr n).wording)
  else if ← word "GENERATED" then generated n
  else if ← dialectIn [.bigquery, .generic] <&&> word "OPTIONS" then
    return some (say "OPTIONS" ++ wordingInParens (← optionList n))
  else if ← word "AS" <&&> dialectIn [.mysql, .sqlite, .duckdb, .generic] then
    let value ← exprInParens n
    return some (say "AS " ++ value ++ say (← keeping))
  else if ← word "SRID" <&&> mine then return some (say "SRID " ++ (← expr n).wording)
  else if ← word "IDENTITY" <&&> dialectIn [.mssql, .generic] then
    let range ← if ← peekSign "(" then identityRange else pure []
    return some (say "IDENTITY" ++ range)
  else if ← dialectIn [.sqlite, .generic] <&&> words ["ON", "CONFLICT"] then
    let action ← needOneOf ["ROLLBACK", "ABORT", "FAIL", "IGNORE", "REPLACE"]
    return some (say ("ON CONFLICT " ++ action))
  else if ← word "INVISIBLE" then return some (say "INVISIBLE")
  else return none

/-- A value that is made from the others of its row, in the dialects that keep columns apart. -/
def madeValue : Parser (Option Wording) := do
  if ← allows Dialect.columnStoreClauses then
    match ← oneOf ["MATERIALIZED", "ALIAS", "EPHEMERAL"] with
    | some k =>
      if k = "EPHEMERAL" && ((← peekSign ",") || (← peekSign ")")) then return some (say k)
      else return some (say (k ++ " ") ++ (← expr n).wording)
    | none => return none
  else return none

/-- An option of a column, if one is ahead. -/
def columnOption : Parser (Option Wording) := do
  let found (w : Wording) : Parser (Option Wording) := return some w
  if ← words ["CHARACTER", "SET"] then found (say "CHARACTER SET " ++ (← nameWording n false))
  else if ← word "COLLATE" then found (say "COLLATE " ++ (← nameWording n false))
  else if ← words ["NOT", "NULL"] then found (say "NOT NULL")
  else if ← word "COMMENT" then found (say "COMMENT " ++ singleQuoted (← remarkText))
  else if ← word "NULL" then found (say "NULL")
  else if ← word "DEFAULT" then found (say "DEFAULT " ++ (← expr n).wording)
  else
    match ← madeValue n with
    | some w => found w
    | none =>
      if ← words ["PRIMARY", "KEY"] then found (say "PRIMARY KEY" ++ (← characteristics))
      else if ← word "UNIQUE" then found (say "UNIQUE" ++ (← characteristics))
      else if ← word "REFERENCES" then
        let target ← nameWording n false
        let columns ← optionalColumns
        let clauses ← referenceClauses
        found (say "REFERENCES " ++ target ++ columns ++ clauses ++ (← characteristics))
      else if ← word "CHECK" then
        let condition ← withReader ({· with definingColumn := false}) (exprInParens n)
        found (say "CHECK " ++ condition ++ say (← enforcement))
      else specialOption n

/-- An option of a column in any dialect, if one is ahead. -/
def anyColumnOption : Parser (Option Wording) := do
  match ← if (← dialect) = .snowflake then guardOption n else pure none with
  | some w => return some w
  | none => withReader ({· with definingColumn := true}) (columnOption n)

/-- The options of a column, some of which may have names. -/
def columnOptions : Parser Wording := do
  let options ← many do
    if ← word "CONSTRAINT" then
      let label ← identWording
      match ← anyColumnOption n with
      | some w => return some (say " CONSTRAINT " ++ label ++ say " " ++ w)
      | none => expected "constraint details after CONSTRAINT <name>"
    else return (← anyColumnOption n).map (say " " ++ ·)
  return options.flatten

/-- The options of a column that have no names. -/
def plainColumnOptions : Parser (List Wording) := many (anyColumnOption n)

/-- Whether the type of a column is left out. -/
def untyped : Parser Bool := do
  if (← dialect) = .sqlite then
    match ← peek with
    | .word _ _ keyword =>
      return ["CONSTRAINT", "PRIMARY", "NOT", "UNIQUE", "CHECK", "DEFAULT", "COLLATE",
        "REFERENCES", "GENERATED", "AS"].contains keyword
    | _ => return true
  else return false

/-- A column. With `typeless`, what is no type behind its name stands for none. -/
def columnOf (typeless : Bool) : Parser Wording := do
  let column ← identWording
  let type ←
    if ← untyped then pure none
    else if typeless then attempt (typeWording n)
    else pure (some (← typeWording n))
  return column ++ type.elim [] (say " " ++ ·) ++ (← columnOptions n)

def columnDefinition : Parser Wording := columnOf n false

/-- The definitions of columns and constraints, up to the closing parenthesis. -/
def definitionsFrom : Nat → List Wording → List Wording → Parser (List Wording × List Wording)
  | 0, columns, constraints => return (columns, constraints)
  | fuel + 1, columns, constraints => do
    let (columns, constraints) ←
      match ← tableConstraint n with
      | some w => pure (columns, constraints ++ [w])
      | none =>
        match ← peek with
        | .word .. => pure (columns ++ [← columnDefinition n], constraints)
        | _ => expected "column name or constraint definition"
    let comma ← sign ","
    let closed ← peekSign ")"
    let trailing ← allows Dialect.trailingCommasInColumns
    if !comma && !closed then expected "',' or ')' after column definition"
    else if closed && (!comma || trailing) then
      skip 1
      return (columns, constraints)
    else definitionsFrom fuel columns constraints

/-- The columns and constraints of a table in parentheses, if they are there. -/
def definitions : Parser (List Wording × List Wording) := do
  if ← sign "(" then
    if ← sign ")" then return ([], []) else definitionsFrom n (← bound) [] []
  else return ([], [])

end EmbeddedSql.Sql.Grammar
