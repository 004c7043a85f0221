import EmbeddedSql.Sql.Grammar.Definition.Object

/-! Rows on their way into a database, out of it, and between it and files. -/
namespace EmbeddedSql.Sql.Grammar

open Text

variable (n : Nested)

/-! ### Pieces of options -/

/-- A text of one character. -/
def literalChar : Parser Wording := do
  let left ← get
  let text ← literalText
  if text.utf8ByteSize = 1 then return say ("'" ++ text ++ "'")
  else throw (.other ("Expect a char, found \"" ++ text ++ "\"") (placeOf left))

/-- A switch that is on unless it is said to be off. -/
def switch (title : String) : Parser Wording := do
  match ← oneOf ["TRUE", "FALSE"] with
  | some "FALSE" => return say (title ++ " FALSE")
  | _ => return say title

/-- A switch that may be left open. -/
def openSwitch : Parser String := do
  match ← oneOf ["TRUE", "FALSE", "ON", "OFF"] with
  | some k => return if k = "TRUE" || k = "ON" then " TRUE" else " FALSE"
  | none => return ""

/-- The role in whose name files are read. -/
def fileRole : Parser Wording := do
  if ← word "DEFAULT" then return say "DEFAULT" else enclosedText

def fileSize : Parser Wording := do
  let size ← numberLiteral
  return size ++ say (← optionalOneOf [["MB"], ["GB"]])

/-- A text behind a word that may have `AS` behind it, if there is one. -/
def optionalText (joint : String) : Parser Wording := do
  discard (word "AS")
  match ← peek with
  | .text .single _ => return say joint ++ (← quotedText)
  | _ => return []

/-! ### Options of a copy -/

/-- An option in parentheses. -/
def copyOption : Parser Wording := do
  match ← oneOf ["FORMAT", "FREEZE", "DELIMITER", "NULL", "HEADER", "QUOTE", "ESCAPE",
      "FORCE_QUOTE", "FORCE_NOT_NULL", "FORCE_NULL", "ENCODING"] with
  | none => expected "option"
  | some k =>
    match k with
    | "FORMAT" => return say "FORMAT " ++ (← identWording)
    | "FREEZE" | "HEADER" => switch k
    | "DELIMITER" | "QUOTE" | "ESCAPE" => return say (k ++ " ") ++ (← literalChar)
    | "NULL" | "ENCODING" => return say (k ++ " ") ++ (← quotedText)
    | _ => return say (k ++ " ") ++ identsWording (← identsInParens)

/-- How the values of a line are told apart. -/
def lineOption : Parser (Option Wording) := attempt do
  match ← firstWords [["HEADER"], ["QUOTE"], ["ESCAPE"], ["FORCE", "NOT", "NULL"],
      ["FORCE", "QUOTE"]] with
  | none => expected "csv option"
  | some "HEADER" => return say " HEADER"
  | some k =>
    if k.startsWith "FORCE" then return say (" " ++ k ++ " ") ++ (← idents)
    else
      discard (word "AS")
      return say (" " ++ k ++ " ") ++ (← literalChar)

/-- Options that are one word. -/
def bareCopyOptions : List String := [
  "ACCEPTANYDATE", "ADDQUOTES", "ALLOWOVERWRITE", "BINARY", "BLANKSASNULL", "BZIP2", "CLEANPATH",
  "EMPTYASNULL", "ESCAPE", "GZIP", "HEADER", "PARQUET", "REMOVEQUOTES", "TRUNCATECOLUMNS", "ZSTD"]

/-- Options that have something behind the word. -/
def fullCopyOptions : List String := [
  "ACCEPTINVCHARS", "COMPUPDATE", "CREDENTIALS", "CSV", "DATEFORMAT", "DELIMITER", "ENCRYPTED",
  "EXTENSION", "FIXEDWIDTH", "IAM_ROLE", "IGNOREHEADER", "JSON", "MANIFEST", "MAXFILESIZE", "NULL",
  "PARALLEL", "PARTITION", "REGION", "ROWGROUPSIZE", "STATUPDATE", "TIMEFORMAT"]

/-- What stands behind the word of an option. -/
def copyOptionRest (k : String) : Parser Wording := do
  let as (p : Parser Wording) : Parser Wording := do
    discard (word "AS")
    return say (k ++ " ") ++ (← p)
  match k with
  | "ACCEPTINVCHARS" | "DATEFORMAT" | "TIMEFORMAT" => return say k ++ (← optionalText " ")
  | "JSON" => return say k ++ (← optionalText " AS ")
  | "COMPUPDATE" =>
    let preset ← optionalWords ["PRESET"]
    return say (k ++ preset ++ (← openSwitch))
  | "PARALLEL" | "STATUPDATE" => return say (k ++ (← openSwitch))
  | "CREDENTIALS" | "EXTENSION" => return say (k ++ " ") ++ (← quotedText)
  | "CSV" => return say k ++ (← many lineOption).flatten
  | "ENCRYPTED" => return say (k ++ (← optionalWords ["AUTO"]))
  | "MANIFEST" => return say (k ++ (← optionalWords ["VERBOSE"]))
  | "IAM_ROLE" => return say (k ++ " ") ++ (← fileRole)
  | "IGNOREHEADER" => as do return say (← wholeNumber)
  | "MAXFILESIZE" | "ROWGROUPSIZE" => as fileSize
  | "DELIMITER" => as literalChar
  | "PARTITION" =>
    needWord "BY"
    let columns ← identsInParens
    return say "PARTITION BY " ++ identsWording columns ++ say (← optionalWords ["INCLUDE"])
  | _ => as quotedText

/-- An option without parentheses. -/
def looseCopyOption : Parser (Option Wording) := attempt do
  if ← word "FORMAT" then discard (word "AS")
  match ← oneOf bareCopyOptions with
  | some k => return say (" " ++ k)
  | none =>
    match ← oneOf fullCopyOptions with
    | some k => return say " " ++ (← copyOptionRest k)
    | none => expected "option"

/-! ### Copies -/

/-- The end of a copy's name: a file, a program or a stream. -/
def copyTarget : Parser (Wording × Bool) := do
  match ← oneOf ["STDIN", "STDOUT", "PROGRAM"] with
  | some "STDIN" => return (say "STDIN", true)
  | some "STDOUT" => return (say "STDOUT", false)
  | some _ => return (say "PROGRAM " ++ (← quotedText), false)
  | none => return (← quotedText, false)

/-- The values that end in a run of blanks, of which the first one starts with `read`, and what
stands behind them. -/
def valuesInBlanks (read : String) : List String → List String × String
  | [] => ([], read)
  | blank :: blanks =>
    if blank = "\t" || blank = "\n" then
      let (values, rest) := valuesInBlanks "" blanks
      (read :: values, rest)
    else valuesInBlanks (read ++ blank) blanks

/-- Rows that are part of the text, value by value, up to a backslash and a dot, and what is left
behind them. A tab or a line feed ends a value, so one without them at the end is lost; a
backslash and `N` are a missing value. -/
def textRows (read : String) : List Lexeme → List String × List Lexeme
  | [] => ([], [])
  | ⟨.sign "\\", _, _, _⟩ :: l :: left =>
    if l.token = .sign "." then ([], left)
    else
      let missing := if let .word "N" _ _ := l.token then ["\\N"] else []
      let (values, read) := valuesInBlanks read l.blanks
      let (more, left) := textRows read left
      (missing ++ values ++ more, left)
  | l :: left =>
    let (values, read) := valuesInBlanks (read ++ l.token.display) l.blanks
    let (more, left) := textRows read left
    (values ++ more, left)

/-- The rows behind a semicolon, as they are written. -/
def rowsInText : Parser Wording := do
  let left ← get
  needSign ";"
  let (values, read) := valuesInBlanks "" (left.head?.elim [] Lexeme.blanks)
  let (more, left) := textRows read (← get)
  set left
  match values ++ more with
  | [] => return []
  | values => return say ";\n" ++ say ("\t".intercalate values) ++ say "\n\\."

/-- Rows that come from or go to a file or a stream. Behind `STDIN` they are part of the text. -/
def copy : Parser Wording := do
  let grouped ← peekSign "("
  let what ← do
    if grouped then
      let q ← parens n.query
      pure (say "(" ++ q.wording ++ say ")")
    else
      let table ← nameWording n false
      pure (table ++ (← optionalColumns))
  match ← oneOf ["FROM", "TO"] with
  | none => expected "FROM or TO"
  | some way =>
    if way = "FROM" && grouped then
      throw (.other "COPY ... FROM does not support query as a source" none)
    else
      let (target, streamed) ← copyTarget
      discard (word "WITH")
      let options ← if ← peekSign "(" then parens (commaList copyOption) else pure []
      let others ← many looseCopyOption
      let rows ← if streamed then rowsInText else pure []
      flatStatement (say "COPY " ++ what ++ say (" " ++ way ++ " ") ++ target
        ++ titled " " options ++ others.flatten ++ rows)

/-- The rows of a query that go to files, behind the verb. -/
def unload : Parser Wording := do
  needSign "("
  let rows ← do
    match ← peek with
    | .text .single _ => enclosedText
    | _ => pure (← n.query).wording
  needSign ")"
  needWord "TO"
  let target ← identWording
  let role ← optionalClause ["IAM_ROLE"] fileRole
  let given ← optionsAfter n "WITH"
  let others ← many looseCopyOption
  flatStatement (say "UNLOAD(" ++ rows ++ say ") TO " ++ target ++ role ++ titled " WITH " given
    ++ others.flatten)

/-- The rows of a query that go to a place outside. -/
def exportData : Parser Wording := do
  needWord "DATA"
  let connection ← optionalClause ["WITH", "CONNECTION"] (nameWording n false)
  needWord "OPTIONS"
  let options ← parens (commaList (storageOption n))
  needWord "AS"
  let q ← n.query
  flatStatement (say "EXPORT DATA" ++ connection ++ say " OPTIONS" ++ wordingInParens options
    ++ say " AS " ++ q.wording)

/-- An extension, or the files whose rows are put into a table. -/
def load : Parser Wording := do
  if ← dialectIn [.generic, .duckdb] then flatStatement (say "LOAD " ++ (← identWording))
  else if ← word "DATA" <&&> dialectIn [.hive] then
    let mark := if ← word "LOCAL" then "LOCAL " else ""
    needWord "INPATH"
    let place ← enclosedText
    let overwrite := if ← word "OVERWRITE" then "OVERWRITE " else ""
    needWords ["INTO", "TABLE"]
    let table ← nameWording n false
    let partitions ← optionalClause ["PARTITION"] (exprsInParens n)
    let format ←
      optionalClause ["INPUTFORMAT"] do
        let form ← expr n
        needWord "SERDE"
        return form.wording ++ say " SERDE " ++ (← expr n).wording
    flatStatement (say ("LOAD DATA " ++ mark ++ "INPATH ") ++ place
      ++ say (" " ++ overwrite ++ "INTO TABLE ") ++ table ++ partitions ++ format)
  else expected "\x60DATA\x60 or an extension name after \x60LOAD\x60"

/-! ### Upkeep of tables -/

/-- The partitions of a table are brought in line with its files. -/
def repair : Parser Wording := do
  let mark := if ← word "REPAIR" then "REPAIR " else ""
  needWord "TABLE"
  let table ← nameWording n false
  let action ← attempt do
    let k ← oneOf ["ADD", "DROP", "SYNC"]
    needWord "PARTITIONS"
    return k.elim "" fun k => " " ++ k ++ " PARTITIONS"
  flatStatement (say ("MSCK " ++ mark ++ "TABLE ") ++ table ++ say (action.getD ""))

/-- A table whose rows are kept at hand. -/
def cacheTable : Parser Wording := do
  let flag ← if ← peekIs "TABLE" then pure [] else pure (say " " ++ (← nameWording n false))
  if ← word "TABLE" then
    let table ← nameWording n false
    let options ← optionsAfter n "OPTIONS"
    let rows ← do
      match ← peek with
      | .endOfInput => pure []
      | .word .. =>
        let mark ← optionalWords ["AS"]
        pure (say (mark ++ " ") ++ (← n.query).wording)
      | _ => expected "a QUERY statement"
    flatStatement (say "CACHE" ++ flag ++ say " TABLE " ++ table ++ titled " OPTIONS" options
      ++ rows)
  else expected "a \x60TABLE\x60 keyword"

def uncacheTable : Parser Wording := do
  needWord "TABLE"
  let guard ← ifExists
  flatStatement (say ("UNCACHE TABLE " ++ guard) ++ (← nameWording n false))

/-- The parts of a table are put together. -/
def optimize : Parser Wording := do
  needWord "TABLE"
  let table ← nameWording n false
  let cluster ← onCluster
  let part ←
    optionalClause ["PARTITION"] do
      if ← word "ID" then return say "ID " ++ (← identWording) else return (← expr n).wording
  let final ← optionalWords ["FINAL"]
  let single ← do
    if ← word "DEDUPLICATE" then
      pure (say " DEDUPLICATE" ++ (← exprAfter n "BY"))
    else pure []
  flatStatement (say "OPTIMIZE TABLE " ++ table ++ cluster ++ part ++ say final ++ single)

/-- The room of removed rows is taken back. -/
def vacuum : Parser Wording := do
  let full ← optionalWords ["FULL"]
  let sort ← optionalWords ["SORT", "ONLY"]
  let delete ← optionalWords ["DELETE", "ONLY"]
  let index ← optionalWords ["REINDEX"]
  let cluster ← optionalWords ["RECLUSTER"]
  let table ← do
    match ← attempt (nameWording n false) with
    | none => pure []
    | some table =>
      let threshold ←
        optionalClause ["TO"] do
          let value ← literal
          needWord "PERCENT"
          return value ++ say " PERCENT"
      pure (say " " ++ table ++ threshold ++ say (← optionalWords ["BOOST"]))
  flatStatement (say ("VACUUM" ++ full ++ sort ++ delete ++ index ++ cluster) ++ table)

/-- Tables that get other names. -/
def renameTables : Parser Wording := do
  if ← word "TABLE" then
    let pairs ← commaList do
      let before ← nameWording n false
      needWord "TO"
      return before ++ say " TO " ++ (← nameWording n false)
    flatStatement (say "RENAME TABLE " ++ commas pairs)
  else expected "KEYWORD \x60TABLE\x60 after RENAME"

/-- Statistics of a table. -/
def analyze : Parser Wording := do
  let mark := if ← word "TABLE" then "TABLE " else ""
  let table ← nameWording n false
  let clauses ← inAnyOrder true [
    clauseOf ["PARTITION"] (exprsInParens n),
    afterWord "COMPUTE" do needWord "STATISTICS"; return say " COMPUTE STATISTICS",
    afterWord "NOSCAN" (return say " NOSCAN"),
    afterWord "CACHE" do needWord "METADATA"; return say " CACHE METADATA",
    afterWord "FOR" do
      needWord "COLUMNS"
      return say " FOR COLUMNS" ++ ((← attempt idents).elim [] (say " " ++ ·))]
  flatStatement (say ("ANALYZE " ++ mark) ++ table ++ clauses)

end EmbeddedSql.Sql.Grammar
