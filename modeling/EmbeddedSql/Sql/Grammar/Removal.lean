import EmbeddedSql.Sql.Grammar.Definition.Object

/-! Removals: of things, by `DROP`, and of all rows of a table, by `TRUNCATE`. -/
namespace EmbeddedSql.Sql.Grammar

open Text

variable (n : Nested)

/-! ### Things -/

/-- What is removed by its name alone, or by several. -/
def plainKinds : List (List String) := [
  ["TABLE"], ["VIEW"], ["MATERIALIZED", "VIEW"], ["INDEX"], ["ROLE"], ["SCHEMA"], ["DATABASE"],
  ["SEQUENCE"], ["STAGE"], ["TYPE"], ["USER"], ["STREAM"]]

def dropPlain (temporary kind : String) : Parser Wording := do
  let guard ← ifExists
  let labels ← names n
  let place ← get
  let cascade ← optionalWords ["CASCADE"]
  let restrict ← optionalWords ["RESTRICT"]
  let purge ← optionalWords ["PURGE"]
  if cascade ≠ "" && restrict ≠ "" then
    throw (.other "Cannot specify both CASCADE and RESTRICT in DROP" (placeOf place))
  else if kind = "ROLE" && cascade ++ restrict ++ purge ≠ "" then
    throw (.other "Cannot specify CASCADE, RESTRICT, or PURGE in DROP ROLE" (placeOf place))
  else
    let table ← optionalClause ["ON"] (nameWording n false)
    flatStatement (say ("DROP " ++ temporary ++ kind ++ " " ++ guard) ++ labels
      ++ say (cascade ++ restrict ++ purge) ++ table)

/-- An operator by the types of its operands. -/
def operatorSignature : Parser Wording := do
  let label ← operatorName
  needSign "("
  let left ← if ← word "NONE" then pure (say "NONE") else typeWording n
  needSign ","
  let right ← typeWording n
  needSign ")"
  return label ++ say " (" ++ left ++ say ", " ++ right ++ say ")"

/-- A way of writing operators down, by its name and the method that it is for. -/
def dropOperatorGroup (kind : String) : Parser Wording := do
  let guard ← ifExists
  let labels ← names n
  needWord "USING"
  let method ← identWording
  flatStatement (say ("DROP OPERATOR " ++ kind ++ " " ++ guard) ++ labels ++ say " USING " ++ method
    ++ say (← dropBehaviour))

def dropOperator : Parser Wording := do
  match ← oneOf ["FAMILY", "CLASS"] with
  | some kind => dropOperatorGroup n kind
  | none =>
    let guard ← ifExists
    let operators ← commaList (operatorSignature n)
    flatStatement (say ("DROP OPERATOR " ++ guard) ++ commas operators ++ say (← dropBehaviour))

def dropTrigger (left : List Lexeme) : Parser Wording := do
  if ← dialectIn [.postgres, .sqlite, .generic, .mysql, .mssql] then
    let guard ← ifExists
    let label ← nameWording n false
    let table ← optionalClause ["ON"] (nameWording n false)
    flatStatement (say ("DROP TRIGGER " ++ guard) ++ label ++ table ++ say (← dropBehaviour))
  else expectedAt "an object type after DROP" left

def dropSecret (temporary persistent : Bool) : Parser Wording := do
  let guard ← ifExists
  let label ← identWording
  let place ←
    if ← word "FROM" then pure ((← attempt identWording).elim [] (say " FROM " ++ ·)) else pure []
  if temporary && persistent then expected "TEMPORARY or PERSISTENT"
  else
    let reach := if temporary then "TEMPORARY " else if persistent then "PERSISTENT " else ""
    flatStatement (say ("DROP " ++ reach ++ "SECRET " ++ guard) ++ label ++ place)

/-- What is removed, behind the verb. -/
def drop : Parser Wording := do
  let temporary ←
    if ← dialectIn [.mysql, .generic, .duckdb] <&&> word "TEMPORARY" then pure "TEMPORARY "
    else pure ""
  let persistent ← pure (decide ((← dialect) = .duckdb)) <&&> word "PERSISTENT"
  match ← firstWords plainKinds with
  | some kind => dropPlain n temporary kind
  | none =>
    let left ← get
    match ← oneOf ["FUNCTION", "POLICY", "CONNECTOR", "DOMAIN", "PROCEDURE", "SECRET", "TRIGGER",
        "EXTENSION", "OPERATOR"] with
    | some "POLICY" =>
      let guard ← ifExists
      let label ← identWording
      needWord "ON"
      let table ← nameWording n false
      flatStatement (say ("DROP POLICY " ++ guard) ++ label ++ say " ON " ++ table
        ++ say (← dropBehaviour))
    | some "CONNECTOR" =>
      let guard ← ifExists
      flatStatement (say ("DROP CONNECTOR " ++ guard) ++ (← identWording))
    | some "DOMAIN" =>
      let guard ← ifExists
      let label ← nameWording n false
      flatStatement (say ("DROP DOMAIN " ++ guard) ++ label ++ say (← dropBehaviour))
    | some "SECRET" => dropSecret (temporary ≠ "") persistent
    | some "TRIGGER" => dropTrigger n left
    | some "EXTENSION" =>
      let guard ← ifExists
      let labels ← idents
      flatStatement (say ("DROP EXTENSION " ++ guard) ++ labels ++ say (← dropBehaviour))
    | some "OPERATOR" => dropOperator n
    | some kind =>
      let guard ← ifExists
      let routines ← commaList (routine n)
      flatStatement (say ("DROP " ++ kind ++ " " ++ guard) ++ commas routines
        ++ say (← dropBehaviour))
    | none =>
      expected ("CONNECTOR, DATABASE, EXTENSION, FUNCTION, INDEX, OPERATOR, POLICY, "
        ++ "PROCEDURE, ROLE, SCHEMA, SECRET, SEQUENCE, STAGE, TABLE, TRIGGER, TYPE, VIEW, "
        ++ "MATERIALIZED VIEW or USER after DROP")

/-! ### Rows -/

/-- Empties tables, behind the verb. -/
def truncate : Parser Wording := do
  let table := if ← word "TABLE" then "TABLE " else ""
  let only := if ← word "ONLY" then "ONLY " else ""
  let tables ← names n
  let partitions ← optionalClause ["PARTITION"] (exprsInParens n)
  let behind ←
    if ← dialectIn [.postgres, .generic] then
      let identity ← optionalOneOf [["RESTART", "IDENTITY"], ["CONTINUE", "IDENTITY"]]
      pure (identity ++ (← dropBehaviour))
    else pure ""
  let cluster ← onCluster
  flatStatement (say ("TRUNCATE " ++ table ++ only) ++ tables ++ say behind ++ partitions
    ++ cluster)

end EmbeddedSql.Sql.Grammar
