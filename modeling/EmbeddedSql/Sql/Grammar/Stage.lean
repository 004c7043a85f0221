import EmbeddedSql.Sql.Grammar.Definition.Table

/-! Stages: places for files, and the rows that go from their files into tables and back.

The name of a stage may hold signs that no other name holds, so it ends at the first blank. -/
namespace EmbeddedSql.Sql.Grammar

open Text

variable (n : Nested)

/-! ### Names -/

/-- What a token adds to the name of a stage, if it may stand in one. -/
def stageText? : Token → Option String
  | .sign s => if ["@", "~", "%", "/", "+", "-"].contains s then some s else none
  | .number digits _ => some digits
  | .word value quote keyword => some (Token.word value quote keyword).display
  | _ => none

/-- A part of the name of a stage, of which `read` is there already: what stands together up to
a dot or a parenthesis. A semicolon ends it as well, and is taken. -/
def stagePart : Nat → String → Parser String
  | 0, read => return read
  | fuel + 1, read => do
    match ← get with
    | [] => return read
    | l :: left =>
      if [".", "(", ")"].any fun s => l.token = .sign s then return read
      else
        set left
        if l.token = .sign ";" then return read
        else
          match stageText? l.token with
          | none => expected "stage name identifier"
          | some s => if l.blanks.isEmpty then stagePart fuel (read ++ s) else return read ++ s

/-- The parts of the name of a stage. With `apart`, a blank is in front, so the first one is
empty. -/
def stageParts : Nat → Bool → Parser String
  | 0, _ => return ""
  | fuel + 1, apart => do
    let part ← if apart then pure "" else stagePart (← bound) ""
    match ← get with
    | ⟨.sign ".", _, _, blanks⟩ :: left =>
      set left
      return part ++ "." ++ (← stageParts fuel (!blanks.isEmpty))
    | _ => return part

/-- A stage, or whatever else holds rows. -/
def stage : Parser Wording := do
  if ← peekSign "@" then return say (← stageParts (← bound) false) else nameWording n false

/-! ### Parameters -/

/-- An address between quotes. -/
def address (message : String) : Parser Wording := do
  match ← next with
  | .text .single s => return say ("'" ++ s ++ "'")
  | _ => expected message

/-- Options in parentheses behind a key, with blanks between them. No options are not written. -/
def optionSet (k : String) : Parser Wording := do
  if ← word k then
    needSign "="
    let options ← keyValueMembers true []
    return if options.isEmpty then [] else say (" " ++ k ++ "=(") ++ spaced options ++ say ")"
  else return []

/-- Where the files of a stage are, and who may read them. -/
def stageParameters : Parser Wording := do
  let place ← setClause "=" "URL" (address "a URL statement")
  let keeper ← setClause "=" "STORAGE_INTEGRATION" do return say (← next).display
  let endpoint ← setClause "=" "ENDPOINT" (address "an endpoint statement")
  let rights ← optionSet "CREDENTIALS"
  let cipher ← optionSet "ENCRYPTION"
  return ([place, keeper, endpoint].filterMap id).flatten ++ rights ++ cipher

/-- A place for files, behind `STAGE`. -/
def createStage (mark : String) : Parser Wording := do
  let guard ← ifNotExists
  let place ← nameWording n false
  let parameters ← stageParameters
  let directory ← optionSet "DIRECTORY"
  let format ← optionSet "FILE_FORMAT"
  let copying ← optionSet "COPY_OPTIONS"
  let remark := (← setClause "=" "COMMENT" do return say ("'" ++ (← remarkText) ++ "'")).getD []
  flatStatement (say ("CREATE " ++ mark ++ "STAGE " ++ guard) ++ place ++ parameters ++ directory
    ++ format ++ copying ++ remark)

/-- The files of a stage are listed or removed; `verb` says which. -/
def stageFiles (verb : String) : Parser Wording := do
  let place ← stage n
  let pattern ← setClause "=" "PATTERN" enclosedText
  flatStatement (say (verb ++ " ") ++ place ++ pattern.getD [])

/-! ### Copies -/

/-- A word without its quotes. -/
def bareWord (message : String) : Parser String := do
  match ← next with
  | .word value .. => return value
  | _ => expected message

/-- A column of a file by its number. -/
def columnNumber : Parser String := do
  let left ← get
  match ← next with
  | .placeholder mark =>
    let digits := (mark.drop 1).toString
    return "$" ++ toString (← numberOf "i32" (UInt32.size / 2) digits (placeOf left))
  | _ => expectedAt "file_col_num" left

/-- A value of a file: its column, perhaps with the alias of the stage in front, an element
inside it, and a name of its own. -/
def fileValue : Parser Wording := do
  let source ← do
    match ← peek with
    | .word value .. =>
      skip 1
      needSign "."
      pure (value ++ ".")
    | _ => pure ""
  let column ← columnNumber
  let element ← do
    if ← sign ":" then pure (":" ++ (← bareWord "file_col_num")) else pure ""
  let label ← do
    if ← word "AS" then pure (" AS " ++ (← bareWord "column item alias")) else pure ""
  return say (source ++ column ++ element ++ label)

/-- What is read of each line of a file: a value of it, or any other item. -/
def fileItem : Parser Wording := do
  match ← attempt fileValue with
  | some w => return w
  | none => return Item.wording (← item n)

/-- Where the rows of a copy come from. Only a table can take them by items out of files, and
only a stage by a query. -/
def copySource (intoTable : Bool) : Parser Wording := do
  if ← sign "(" then
    let rows ←
      if intoTable then
        needWord "SELECT"
        let items ← separated (fileItem n) (sign ",")
        needWord "FROM"
        let place ← stage n
        let parameters ← stageParameters
        let label := (← tableLabel n).elim [] fun a => say " AS " ++ a.name.wording
        pure (say "SELECT " ++ commas items ++ say " FROM " ++ place ++ parameters ++ label)
      else pure (← n.query).wording
    needSign ")"
    return say "(" ++ rows ++ say ")"
  else
    let place ← stage n
    let parameters ← stageParameters
    let label ← do
      if ← word "AS" then pure (" AS " ++ (← bareWord "stage alias")) else pure ""
    return place ++ parameters ++ say label

/-- What is said of a copy behind its source. -/
structure CopyClauses where
  files : List String
  pattern : Wording
  partition : Wording
  format : List Wording
  options : List Wording
  validation : Wording

/-- A text in single quotes. -/
def singleText (message : String) : Parser String := do
  let left ← get
  match ← next with
  | .text .single s => return s
  | _ => expectedAt message left

/-- Reads clauses of a copy up to a semicolon, which is taken, or the end. -/
def copyClauses : Nat → CopyClauses → Parser CopyClauses
  | 0, clauses => return clauses
  | fuel + 1, clauses => do
    match ← firstWords [["FILE_FORMAT"], ["PARTITION", "BY"], ["FILES"], ["PATTERN"],
        ["VALIDATION_MODE"], ["COPY_OPTIONS"]] with
    | some "PARTITION BY" =>
      let e ← expr n
      copyClauses fuel {clauses with partition := say " PARTITION BY " ++ e.wording}
    | some k =>
      needSign "="
      match k with
      | "FILE_FORMAT" =>
        let format ← keyValueMembers true []
        copyClauses fuel {clauses with format := format}
      | "FILES" =>
        let files ← parens (separated (singleText "file token") (sign ","))
        copyClauses fuel {clauses with files := clauses.files ++ files}
      | "PATTERN" =>
        let pattern ← singleText "pattern"
        copyClauses fuel {clauses with pattern := say (" PATTERN = '" ++ pattern ++ "'")}
      | "VALIDATION_MODE" =>
        let mode ← next
        copyClauses fuel {clauses with validation := say (" VALIDATION_MODE = " ++ mode.display)}
      | _ =>
        let options ← keyValueMembers true []
        copyClauses fuel {clauses with options := options}
    | none =>
      match ← next with
      | .endOfInput | .sign ";" => return clauses
      | .sign "," => copyClauses fuel clauses
      | .word key .. =>
        let option ← keyValue key
        copyClauses fuel {clauses with options := clauses.options ++ [option]}
      | _ => expected "another copy option, ; or EOF'"

/-- Rows go from files into a table, or from a table or a query into files. -/
def copyInto : Parser Wording := do
  let intoTable ← do
    match ← peek with
    | .sign "@" => pure false
    | .text .single s => pure !(s.contains "://")
    | _ => pure true
  let target ← stage n
  if !intoTable then discard stageParameters
  let columns ← do
    if ← peekSign "(" then pure (say " " ++ identsWording (← columnList true)) else pure []
  needWord "FROM"
  let source ← copySource n intoTable
  let clauses ← copyClauses n (← bound) ⟨[], [], [], [], [], []⟩
  let files :=
    if clauses.files.isEmpty then ""
    else " FILES = ('" ++ "', '".intercalate clauses.files ++ "')"
  let format :=
    if clauses.format.isEmpty then []
    else say " FILE_FORMAT=(" ++ spaced clauses.format ++ say ")"
  let options :=
    if clauses.options.isEmpty then []
    else if intoTable then say " COPY_OPTIONS=(" ++ spaced clauses.options ++ say ")"
    else say " " ++ spaced clauses.options
  flatStatement (say "COPY INTO " ++ target ++ columns ++ say " FROM " ++ source ++ say files
    ++ clauses.pattern ++ clauses.partition ++ format ++ options ++ clauses.validation)

end EmbeddedSql.Sql.Grammar
