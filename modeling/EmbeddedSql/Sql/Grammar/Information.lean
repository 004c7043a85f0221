import EmbeddedSql.Sql.Grammar.Variable

/-! What a session tells about itself, about the things in a database and about how a statement
is carried out. -/
namespace EmbeddedSql.Sql.Grammar

open Text

variable (n : Nested)

/-! ### What is shown -/

/-- Which of the things that are shown are meant. -/
def shownFilter : Parser Wording := do
  if ← word "LIKE" then return say " LIKE " ++ (← quotedText)
  else if ← word "ILIKE" then return say (" ILIKE " ++ literalBody .single (← literalText))
  else if ← word "WHERE" then return say " WHERE " ++ (← expr n).wording
  else return (← attempt quotedText).elim [] (say " " ++ ·)

/-- A kind of thing that others belong to, perhaps with its name. -/
def shownParent (kind : String) : Parser Wording := do
  let unnamed ←
    pure (kind = "DATABASE" || kind = "SCHEMA") <&&>
      (peekWords ["STARTS", "WITH"] <||> peekIs "LIMIT")
  let label ← if unnamed then pure none else attempt (nameWording n false)
  return say (" " ++ kind) ++ label.elim [] (say " " ++ ·)

/-- What the things that are shown belong to. A second name stands in front of the first. -/
def shownPlace : Parser Wording := do
  match ← oneOf ["FROM", "IN"] with
  | none => return []
  | some k =>
    match ← oneOf ["ACCOUNT", "DATABASE", "SCHEMA", "TABLE", "VIEW"] with
    | some kind => return say (" " ++ k) ++ (← shownParent n kind)
    | none =>
      let label ← nameWording n false
      let owner ←
        if (← oneOf ["FROM", "IN"]).isSome then pure ((← identWording) ++ say ".") else pure []
      return say (" " ++ k ++ " ") ++ owner ++ label

/-- The most that is shown. -/
def shownLimit : Parser Wording := do
  if ← word "LIMIT" then
    if ← word "ALL" then return [] else return say " LIMIT " ++ (← expr n).wording
  else return []

/-- Which things are shown, and how many of them. -/
def shownOptions : Parser Wording := do
  let filterFirst ← allows Dialect.shownFilterFirst
  let early ← if filterFirst then shownFilter n else pure []
  let place ← shownPlace n
  let late ← if filterFirst then pure [] else shownFilter n
  let start ← optionalClause ["STARTS", "WITH"] literal
  let limit ← shownLimit n
  let after ← optionalClause ["FROM"] literal
  return early ++ place ++ start ++ limit ++ after ++ late

/-- Words in front of the kind of what is shown, in this order. -/
def shownFlags : List String := ["TERSE", "EXTENDED", "FULL", "SESSION", "GLOBAL", "EXTERNAL"]

def flagsFrom : List String → Parser (List String)
  | [] => return []
  | k :: ks => do
    let here ← word k
    let others ← flagsFrom ks
    return if here then k :: others else others

/-- What is shown, behind the verb. -/
def showing : Parser Wording := do
  let flags ← flagsFrom shownFlags
  let flagged (ks : List String) : String := String.join <| ks.map fun k =>
    if flags.contains k then k ++ " " else ""
  let done (title : String) (p : Parser Wording) : Parser Wording := do
    flatStatement (say ("SHOW " ++ title) ++ (← p))
  let unsupported := flags.contains "EXTENDED" || flags.contains "FULL"
  match ← firstWords [["COLUMNS"], ["FIELDS"], ["TABLES"], ["MATERIALIZED", "VIEWS"], ["VIEWS"],
      ["FUNCTIONS"]] with
  | some "FUNCTIONS" => done "FUNCTIONS" (shownFilter n)
  | some "TABLES" =>
    let history ← if flags.contains "EXTERNAL" then pure "" else optionalWords ["HISTORY"]
    done (flagged ["TERSE", "EXTENDED", "FULL", "EXTERNAL"] ++ "TABLES" ++ history)
      (shownOptions n)
  | some k =>
    if k = "COLUMNS" || k = "FIELDS" then
      done (flagged ["EXTENDED", "FULL"] ++ "COLUMNS") (shownOptions n)
    else done (flagged ["TERSE"] ++ k) (shownOptions n)
  | none =>
    if unsupported then
      throw (.other "EXTENDED/FULL are not supported with this type of SHOW query" none)
    else
      match ← oneOf ["CREATE", "COLLATION", "VARIABLES", "STATUS", "CHARACTER", "CHARSET",
          "DATABASES", "SCHEMAS"] with
      | some "CREATE" =>
        let kind ← needOneOf ["TABLE", "TRIGGER", "FUNCTION", "PROCEDURE", "EVENT", "VIEW"]
        done ("CREATE " ++ kind ++ " ") (nameWording n false)
      | some "COLLATION" => done "COLLATION" (shownFilter n)
      | some "CHARACTER" =>
        needWord "SET"
        done "CHARACTER SET" (shownFilter n)
      | some "CHARSET" => done "CHARSET" (shownFilter n)
      | some k =>
        if k = "VARIABLES" || k = "STATUS" then
          if ← dialectIn [.mysql, .generic] then
            done (flagged ["GLOBAL", "SESSION"] ++ k) (shownFilter n)
          else variableShown
        else
          let history ← optionalWords ["HISTORY"]
          done (flagged ["TERSE"] ++ k ++ history) (shownOptions n)
      | none => variableShown
where
  /-- The words of a variable's name. -/
  variableShown : Parser Wording := do
    let ws ← looseWords
    flatStatement (say "SHOW" ++ ws.flatMap (say " " ++ ·.wording))

/-- The things of any kind in a schema, if that is what is shown. -/
def showingObjects : Parser (Option Wording) := do
  let start ← get
  let terse := if ← word "TERSE" then "TERSE " else ""
  if ← word "OBJECTS" then
    return some (← flatStatement (say ("SHOW " ++ terse ++ "OBJECTS") ++ (← shownOptions n)))
  else
    set start
    return none

/-! ### What is used -/

/-- The roles that count besides the first one. -/
def secondaryRoles : Parser Wording := do
  discard (needOneOf ["ROLES", "ROLE"])
  match ← oneOf ["NONE", "ALL"] with
  | some k => return say ("SECONDARY ROLES " ++ k)
  | none => return say "SECONDARY ROLES " ++ (← idents)

/-- What names belong to from now on. -/
def choosing : Parser Wording := do
  let d ← dialect
  let kinds :=
    match d with
    | .databricks => ["CATALOG", "DATABASE", "SCHEMA"]
    | .snowflake => ["DATABASE", "SCHEMA", "WAREHOUSE", "ROLE", "SECONDARY"]
    | _ => []
  if ← pure (decide (d = .hive)) <&&> word "DEFAULT" then flatStatement (say "USE DEFAULT")
  else
    match ← oneOf kinds with
    | some "SECONDARY" => flatStatement (say "USE " ++ (← secondaryRoles))
    | some kind => flatStatement (say ("USE " ++ kind ++ " ") ++ (← nameWording n false))
    | none => flatStatement (say "USE " ++ (← nameWording n false))

/-! ### Plans -/

/-- An option of a plan: a word, and perhaps its value. -/
def planOption : Parser Wording := do
  let option ← identWording
  if (← peekSign ",") || (← peekSign ")") then return option
  else return option ++ say " " ++ (← expr n).wording

/-- The form in which a plan is written. -/
def planFormat : Parser String := do
  if ← word "FORMAT" then
    let joint := if ← sign "=" then "=" else " "
    match ← oneOf ["TEXT", "GRAPHVIZ", "JSON"] with
    | some k => return "FORMAT" ++ joint ++ k ++ " "
    | none => expected "fileformat"
  else return ""

/-- What is told of a plan, behind the verb. -/
def planDetails (verb : String) : Parser Wording := do
  if verb = "EXPLAIN" && (← allows Dialect.explainOptions) && (← peekSign "(") then
    return wordingInParens (← parens (commaList (planOption n))) ++ say " "
  else if ← words ["QUERY", "PLAN"] then return say "QUERY PLAN "
  else if ← word "ESTIMATE" then return say "ESTIMATE "
  else
    let analyze := if ← word "ANALYZE" then "ANALYZE " else ""
    let verbose := if ← word "VERBOSE" then "VERBOSE " else ""
    return say (analyze ++ verbose ++ (← planFormat))

/-- The plan of a statement, or what a table looks like. -/
def explain (verb : String) : Parser Wording := do
  let head ← planDetails n verb
  let again ← peekIsOf ["EXPLAIN", "DESCRIBE", "DESC"]
  match ← attempt n.statement with
  | some s =>
    if again then throw (.other "Explain must be root of the plan" none)
    else flatStatement (say (verb ++ " ") ++ head ++ [.statement s])
  | none =>
    let format := (← oneOf ["EXTENDED", "FORMATTED"]).elim "" (· ++ " ")
    let table := if ← allows Dialect.describeNeedsTable <&&> word "TABLE" then "TABLE " else ""
    flatStatement (say (verb ++ " " ++ format ++ table) ++ (← nameWording n false))

end EmbeddedSql.Sql.Grammar
