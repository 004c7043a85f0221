import EmbeddedSql.Sql.Grammar.Definition.Column
import EmbeddedSql.Sql.Grammar.Script

/-! Functions, procedures and what sets them off. -/
namespace EmbeddedSql.Sql.Grammar

open Text

variable (n : Nested)

/-! ### Functions -/

/-- The text of a function, between quotes or dollar signs. -/
def codeText : Parser Wording := do
  match ← peek with
  | .dollarText .. => if ← dialectIn [.postgres, .generic] then literal else quotedText
  | _ => quotedText

/-- The text of a function, and perhaps the name that it has there. -/
def code : Parser Wording := do
  let body ← codeText
  if ← sign "," then return body ++ say ", " ++ (← codeText) else return body

/-- What a function may read and change, or nothing if something was said about it before. -/
structure FunctionClauses where
  language : Option Wording
  behaviour : Option String
  onNull : Option String
  parallel : Option String
  body : Option Wording

def functionClauses : Nat → FunctionClauses → Parser FunctionClauses
  | 0, c => return c
  | fuel + 1, c => do
    let once (present : Bool) (title : String) : Parser Unit := do
      if present then throw (.other (title ++ " specified more than once") none)
    if ← word "AS" then
      once c.body.isSome "AS"
      functionClauses fuel {c with body := some (say " AS " ++ (← code))}
    else if ← word "LANGUAGE" then
      once c.language.isSome "LANGUAGE"
      functionClauses fuel {c with language := some (say " LANGUAGE " ++ (← identWording))}
    else
      match ← oneOf ["IMMUTABLE", "STABLE", "VOLATILE"] with
      | some k =>
        once c.behaviour.isSome "IMMUTABLE | STABLE | VOLATILE"
        functionClauses fuel {c with behaviour := some k}
      | none =>
        match ← firstWords [["CALLED", "ON", "NULL", "INPUT"],
            ["RETURNS", "NULL", "ON", "NULL", "INPUT"], ["STRICT"]] with
        | some way =>
          once c.onNull.isSome "CALLED ON NULL INPUT | RETURNS NULL ON NULL INPUT | STRICT"
          functionClauses fuel {c with onNull := some way}
        | none =>
          if ← word "PARALLEL" then
            once c.parallel.isSome "PARALLEL \x7b UNSAFE | RESTRICTED | SAFE \x7d"
            match ← oneOf ["UNSAFE", "RESTRICTED", "SAFE"] with
            | some k => functionClauses fuel {c with parallel := some ("PARALLEL " ++ k)}
            | none => expected "one of UNSAFE | RESTRICTED | SAFE"
          else if ← word "RETURN" then
            once c.body.isSome "RETURN"
            functionClauses fuel {c with body := some (say " RETURN " ++ (← expr n).wording)}
          else return c

def FunctionClauses.wording (c : FunctionClauses) : Wording :=
  let part (o : Option String) : Wording := o.elim [] fun s => say (" " ++ s)
  c.language.getD [] ++ part c.behaviour ++ part c.onNull ++ part c.parallel ++ c.body.getD []

/-- A function with its clauses in any order. -/
def declaredFunction (mark : String) : Parser Wording := do
  let label ← nameWording n false
  let arguments ← parens do
    if ← peekSign ")" then return [] else commaList (routineArgument n)
  let result ← if ← word "RETURNS" then pure (say " RETURNS " ++ (← typeWording n)) else pure []
  let clauses ← functionClauses n (← bound) ⟨none, none, none, none, none⟩
  flatStatement (say ("CREATE " ++ mark ++ "FUNCTION ") ++ label ++ wordingInParens arguments
    ++ result ++ clauses.wording)

/-- A function that a file holds. -/
def loadedFunction (mark : String) : Parser Wording := do
  let label ← nameWording n false
  needWord "AS"
  let body ← code
  let file ← optionalClause ["USING"] do
    let kind ← needOneOf ["JAR", "FILE", "ARCHIVE"]
    return say (kind ++ " ") ++ (← enclosedText)
  flatStatement (say ("CREATE " ++ mark ++ "FUNCTION ") ++ label ++ say " AS " ++ body ++ file)

/-- The name of a function and its named arguments. -/
def signature : Parser Wording := do
  let label ← nameWording n false
  let arguments ← parens (commaListUntil ")" do
    let argument ← identWording
    let type ← typeWording n
    let value ← if ← sign "=" then pure (say " = " ++ (← expr n).wording) else pure []
    return argument ++ say " " ++ type ++ value)
  return label ++ wordingInParens arguments

/-- A function whose body is an expression, perhaps in another language. -/
def expressedFunction (mark : String) : Parser Wording := do
  let guard ← ifNotExists
  let head ← signature n
  let result ← if ← word "RETURNS" then pure (say " RETURNS " ++ (← typeWording n)) else pure []
  let determinism ← optionalOneOf [["DETERMINISTIC"], ["NOT", "DETERMINISTIC"]]
  let language ← optionalClause ["LANGUAGE"] identWording
  let remote ← optionalClause ["REMOTE", "WITH", "CONNECTION"] (nameWording n false)
  let early ← afterWord "OPTIONS" (optionList n)
  let options (o : Option (List Wording)) : Wording :=
    o.elim [] fun os => say " OPTIONS" ++ wordingInParens os
  let tail ←
    if remote.isEmpty then do
      needWord "AS"
      let body := say " AS " ++ (← expr n).wording
      if early.isSome then pure (options early ++ body)
      else pure (body ++ options (← afterWord "OPTIONS" (optionList n)))
    else pure (options early)
  flatStatement (say ("CREATE " ++ mark ++ "FUNCTION " ++ guard) ++ head ++ result
    ++ say determinism ++ language ++ remote ++ tail)

/-- A function whose body is a block, an expression or a query. -/
def programmedFunction (mark : String) : Parser Wording := do
  let head ← signature n
  needWord "RETURNS"
  let table ← attempt do
    let label ← identWording
    if !(← peekIs "TABLE") || !(← peekSignAt 1 "(") then expected "TABLE"
    else return label ++ say " " ++ (← typeWording n)
  let result ← match table with
    | some w => pure w
    | none => typeWording n
  discard (word "AS")
  let body ← do
    if ← peekIs "BEGIN" then pure (say " AS " ++ (← inner n ["END"]).wording)
    else if ← word "RETURN" then
      if ← peekSign "(" then pure (say " AS RETURN " ++ (← expr n).wording)
      else if ← peekIs "SELECT" then pure (say " AS RETURN " ++ (← n.query).wording)
      else failHere "Expected a subquery (or bare SELECT statement) after RETURN"
    else failHere "Unparsable function body"
  flatStatement (say ("CREATE " ++ mark ++ "FUNCTION ") ++ head ++ say " RETURNS " ++ result
    ++ body)

/-- A name for an expression or a table with arguments. -/
def createMacro (mark : String) : Parser Wording := do
  let label ← nameWording n false
  let arguments ← parens do
    if ← peekSign ")" then return []
    else
      return wordingInParens (← commaList do
        let argument ← identWording
        let value ← do
          if ← sign ":=" <||> sign "=>" then pure (say " := " ++ (← expr n).wording) else pure []
        return argument ++ value)
  needWord "AS"
  let body ← do
    if ← word "TABLE" then pure (say "TABLE " ++ (← n.query).wording)
    else pure (← expr n).wording
  flatStatement (say ("CREATE " ++ mark ++ "MACRO ") ++ label ++ arguments ++ say " AS " ++ body)

/-- A function, behind its keyword, which `left` starts with. -/
def createFunction (alter replace temporary : String) (left : List Lexeme) : Parser Wording := do
  match ← dialect with
  | .hive => loadedFunction n (replace ++ temporary)
  | .postgres | .generic => declaredFunction n (replace ++ temporary)
  | .duckdb => createMacro n (replace ++ temporary)
  | .bigquery => expressedFunction n (replace ++ temporary)
  | .mssql => programmedFunction n (alter ++ replace ++ temporary)
  | _ => expectedAt "an object type after CREATE" left

/-! ### Procedures -/

def procedureParameters : Nat → Parser (List Wording)
  | 0 => return []
  | fuel + 1 => do
    let parameters ←
      match ← peek with
      | .word .. =>
        let mode ← argumentMode
        let parameter ← identWording
        let type ← typeWording n
        let value ← if ← sign "=" then pure (say " = " ++ (← expr n).wording) else pure []
        pure [say mode ++ parameter ++ say " " ++ type ++ value]
      | _ => pure []
    let comma ← sign ","
    if ← sign ")" then return parameters
    else if comma then return parameters ++ (← procedureParameters fuel)
    else expected "',' or ')' after parameter definition"

/-- A procedure, behind its keyword. -/
def createProcedure (alter : String) : Parser Wording := do
  let label ← nameWording n false
  let parameters ← do
    if ← sign "(" then
      if ← sign ")" then pure [] else procedureParameters n (← bound)
    else pure []
  let language ← optionalClause ["LANGUAGE"] identWording
  needWord "AS"
  let body ← inner n ["END"]
  flatStatement (say ("CREATE " ++ alter ++ "PROCEDURE ") ++ label ++ titled " " parameters
    ++ language ++ say " AS " ++ body.wording)

/-! ### Triggers -/

/-- Whether a trigger is set off before, after or instead of a change. -/
def triggerPeriod : Parser String := do
  match ← needOneOf ["FOR", "BEFORE", "AFTER", "INSTEAD"] with
  | "INSTEAD" =>
    needWord "OF"
    return "INSTEAD OF"
  | k => return k

/-- The change that sets off a trigger. -/
def triggerEvent : Parser Wording := do
  match ← needOneOf ["INSERT", "UPDATE", "DELETE", "TRUNCATE"] with
  | "UPDATE" => if ← word "OF" then return say "UPDATE OF " ++ (← idents) else return say "UPDATE"
  | k => return say k

/-- A name for the rows before or after a change. -/
def triggerRows : Parser (Option Wording) := do
  match ← firstWords [["OLD", "TABLE"], ["NEW", "TABLE"]] with
  | some kind =>
    let mark ← optionalWords ["AS"]
    return some (say (" " ++ kind ++ mark ++ " ") ++ (← nameWording n false))
  | none =>
    discard (oneOf ["OLD", "NEW"])
    return none

/-- A trigger, behind its keyword, which `left` starts with. -/
def createTrigger (mark : String) (left : List Lexeme) : Parser Wording := do
  if ← dialectIn [.postgres, .sqlite, .generic, .mysql, .mssql] then
    let label ← nameWording n false
    let period := (← attempt triggerPeriod).elim "" (· ++ " ")
    let events ← separated triggerEvent (word "OR")
    needWord "ON"
    let table ← nameWording n false
    let referred ← optionalClause ["FROM"] (nameWording n true)
    let checked ← characteristics
    let rows ←
      if ← word "REFERENCING" then
        let rows ← many (triggerRows n)
        pure (if rows.isEmpty then [] else say " REFERENCING" ++ rows.flatten)
      else pure []
    let scope ← do
      if ← word "FOR" then
        let each ← optionalWords ["EACH"]
        pure (" FOR" ++ each ++ " " ++ (← needOneOf ["ROW", "STATEMENT"]))
      else pure ""
    let condition ← exprAfter n "WHEN"
    let action ← do
      if ← word "EXECUTE" then
        let kind ← needOneOf ["FUNCTION", "PROCEDURE"]
        pure (say (" EXECUTE " ++ kind ++ " ") ++ (← routine n))
      else pure (say " " ++ (← inner n ["END"]).wording)
    flatStatement (say ("CREATE " ++ mark ++ "TRIGGER ") ++ label ++ say (" " ++ period)
      ++ (events.intersperse (say " OR ")).flatten ++ say " ON " ++ table ++ referred ++ checked
      ++ rows ++ say scope ++ condition ++ action)
  else expectedAt "an object type after CREATE" left

/-- A trigger that is told its table first, behind its keyword. -/
def createTableTrigger (alter : String) : Parser Wording := do
  let label ← nameWording n false
  needWord "ON"
  let table ← nameWording n false
  let period ← triggerPeriod
  let events ← commaList triggerEvent
  needWord "AS"
  let body ← inner n ["END"]
  flatStatement (say ("CREATE " ++ alter ++ "TRIGGER ") ++ label ++ say " ON " ++ table
    ++ say (" " ++ period ++ " ") ++ commas events ++ say " AS " ++ body.wording)

end EmbeddedSql.Sql.Grammar
