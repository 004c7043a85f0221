import EmbeddedSql.Sql.Grammar.Expression

/-! Functions that make tables and spell out their columns: of documents of pairs and lists, of
marked up ones, and of semantic views. -/
namespace EmbeddedSql.Sql.Grammar

open Text

variable (n : Nested)

/-- What a column is given where the document has nothing for it, or something wrong. -/
def columnFallback : Parser (Option Wording) := do
  let behind (w : Wording) : Parser (Option Wording) := do
    needWord "ON"
    return some w
  if ← word "NULL" then behind (say "NULL")
  else if ← word "ERROR" then behind (say "ERROR")
  else if ← word "DEFAULT" then behind (say "DEFAULT " ++ (← literal))
  else return none

/-- The fallbacks of a column: when the document has nothing, and when it has an error. -/
def columnFallbacks : Parser Wording := do
  let found ← many do
    match ← columnFallback with
    | none => return none
    | some w =>
      if ← word "EMPTY" then return some (true, w)
      else
        needWord "ERROR"
        return some (false, w)
  let part (empty : Bool) (title : String) : Wording :=
    match (found.filter fun f => f.1 = empty).getLast? with
    | some (_, w) => say " " ++ w ++ say title
    | none => []
  return part true " ON EMPTY" ++ part false " ON ERROR"

/-- A column of a document of pairs and lists, or a table inside it. -/
def documentColumn : Nat → Parser Wording
  | 0 => expected "identifier"
  | fuel + 1 => do
    if ← word "NESTED" then
      discard (word "PATH")
      let way ← literal
      needWord "COLUMNS"
      let columns ← parens (commaList (documentColumn fuel))
      return say "NESTED PATH " ++ way ++ say " COLUMNS " ++ wordingInParens columns
    else
      let column ← identWording
      if ← word "FOR" then
        needWord "ORDINALITY"
        return column ++ say " FOR ORDINALITY"
      else
        let type ← typeWording n
        let presence := if ← word "EXISTS" then " EXISTS" else ""
        needWord "PATH"
        let way ← literal
        return column ++ say " " ++ type ++ say (presence ++ " PATH ") ++ way
          ++ (← columnFallbacks)

/-- `JSON_TABLE`, behind its opening parenthesis. -/
def documentTable : Parser Wording := do
  let document ← expr n
  needSign ","
  let way ← literal
  needWord "COLUMNS"
  let columns ← parens (commaList (documentColumn n (← bound)))
  needSign ")"
  return say "JSON_TABLE(" ++ document.wording ++ say ", " ++ way ++ say " COLUMNS"
    ++ wordingInParens columns ++ say ")"

/-- A column of `OPENJSON`. -/
def openedColumn : Parser Wording := do
  let column ← identWording
  let type ← typeWording n
  let way ←
    match ← peek with
    | .text .single s => skip 1; pure (say " " ++ singleQuoted s)
    | _ => pure []
  let whole ←
    if ← word "AS" then
      needWord "JSON"
      pure " AS JSON"
    else pure ""
  return column ++ say " " ++ type ++ way ++ say whole

/-- `OPENJSON`, behind its opening parenthesis. -/
def openedDocument : Parser Wording := do
  let document ← expr n
  let way ← if ← sign "," then pure (say ", " ++ (← literal)) else pure []
  needSign ")"
  let columns ←
    if ← word "WITH" then
      pure (say " WITH " ++ wordingInParens (← parens (commaList (openedColumn n))))
    else pure []
  return say "OPENJSON(" ++ document.wording ++ way ++ say ")" ++ columns

/-- A value that is handed to `XMLTABLE`. -/
def passedValue : Parser Wording := do
  let mark ← if ← word "BY" <&&> word "VALUE" then pure (say "BY VALUE ") else pure []
  let value ← expr n
  let label ← if ← word "AS" then pure (say " AS " ++ (← identWording)) else pure []
  return mark ++ value.wording ++ label

/-- A column of `XMLTABLE`. -/
def markedUpColumn : Parser Wording := do
  let column ← identWording
  if ← word "FOR" then
    needWord "ORDINALITY"
    return column ++ say " FOR ORDINALITY"
  else
    let type ← typeWording n
    let way ← exprAfter n "PATH"
    let fallback ← exprAfter n "DEFAULT"
    let required ← words ["NOT", "NULL"]
    if !required then discard (word "NULL")
    return column ++ say " " ++ type ++ way ++ fallback
      ++ say (if required then " NOT NULL" else "")

/-- `XMLTABLE`, behind its opening parenthesis. -/
def markedUpTable : Parser Wording := do
  let spaces ←
    if ← word "XMLNAMESPACES" then
      let members ← parens (commaList do
        let address ← expr n
        needWord "AS"
        return address.wording ++ say " AS " ++ (← identWording))
      needSign ","
      pure (say "XMLNAMESPACES" ++ wordingInParens members ++ say ", ")
    else pure []
  let rows ← expr n
  let passed ←
    if ← word "PASSING" then
      pure (say " PASSING " ++ commas (← separated (passedValue n) (sign ",")))
    else pure []
  needWord "COLUMNS"
  let columns ← commaList (markedUpColumn n)
  needSign ")"
  return say "XMLTABLE(" ++ spaces ++ rows.wording ++ passed ++ say " COLUMNS " ++ commas columns
    ++ say ")"

/-- The clauses of a semantic view, up to the closing parenthesis: each of them at most once,
in any order. They are written in an order of their own. -/
def semanticClauses : Nat → List (String × Wording) → Parser (List (String × Wording))
  | 0, read => return read
  | fuel + 1, read => do
    if ← peekSign ")" then return read
    else
      match ← oneOf ["DIMENSIONS", "METRICS", "FACTS", "WHERE"] with
      | none =>
        let found ← peek
        failHere ("Expected one of DIMENSIONS, METRICS, FACTS or WHERE, got " ++ found.display)
      | some title =>
        if (read.lookup title).isSome then
          throw (.other (title ++ " clause can only be specified once") none)
        else
          let content ←
            if title = "WHERE" then pure (← expr n).wording
            else pure (commas ((← commaList (starred n)).map Starred.wording))
          semanticClauses fuel (read ++ [(title, content)])

/-- A semantic view, behind its opening parenthesis. -/
def semanticView : Parser Wording := do
  let view ← nameWording n true
  let found ← semanticClauses n (← bound) []
  needSign ")"
  let part (title : String) : Wording :=
    match found.lookup title with
    | some content => say (" " ++ title ++ " ") ++ content
    | none => []
  return say "SEMANTIC_VIEW(" ++ view ++ part "DIMENSIONS" ++ part "METRICS" ++ part "FACTS"
    ++ part "WHERE" ++ say ")"

/-- A table that a function of the language makes, if one is ahead. -/
def madeTable : Parser (Option Wording) := do
  if ← peekSignAt 1 "(" then
    let views := if ← allows Dialect.semanticViews then ["SEMANTIC_VIEW"] else []
    match ← oneOf (["JSON_TABLE", "OPENJSON", "XMLTABLE"] ++ views) with
    | some "JSON_TABLE" => skip 1; return some (← documentTable n)
    | some "OPENJSON" => skip 1; return some (← openedDocument n)
    | some "XMLTABLE" => skip 1; return some (← markedUpTable n)
    | some _ => skip 1; return some (← semanticView n)
    | none => return none
  else return none

end EmbeddedSql.Sql.Grammar
