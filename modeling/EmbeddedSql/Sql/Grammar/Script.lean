import EmbeddedSql.Sql.Grammar.Definition.Clause

/-! Statements that hold others: blocks, distinctions and loops; and those that stand only inside
such: declarations, cursors and faults. -/
namespace EmbeddedSql.Sql.Grammar

open Text

variable (n : Nested)

/-! ### Runs of statements -/

/-- Statements up to one of some words, each with a semicolon behind it. -/
def runUpTo (ends : List String) : Nat → Parser (List Statement)
  | 0 => return []
  | fuel + 1 => do
    let stops :=
      match ← peek with
      | .endOfInput => true
      | .word _ quote keyword => quote.isNone && ends.contains keyword
      | _ => false
    if stops then return []
    else
      let s ← n.statement
      needSign ";"
      return s :: (← runUpTo ends fuel)

/-- Statements, each with a semicolon behind it. -/
def runWording (ss : List Statement) : Wording :=
  if ss.isEmpty then []
  else (ss.map fun s => [Piece.statement s]).intersperse (say "; ") |>.flatten |> (· ++ say ";")

/-- Statements up to one of some words, as they are written behind others. -/
def run (ends : List String) : Parser Wording := do
  let ss ← runUpTo n ends (← bound)
  return if ss.isEmpty then [] else say " " ++ runWording ss

/-- The next word as it is written. -/
def writtenWord (k : String) : Parser String := do
  let t ← peek
  needWord k
  return t.display

/-- Statements, perhaps in a block: the words around them as they are written, or nothing. -/
structure Inner where
  opening : String
  statements : List Statement
  closing : String

def Inner.wording (i : Inner) : Wording :=
  (if i.opening = "" then [] else say (i.opening ++ " ")) ++ runWording i.statements
    ++ if i.closing = "" then [] else say (" " ++ i.closing)

/-- What a branch does: a block without statements is nothing. -/
def Inner.ofBranch (i : Inner) : Wording :=
  if i.statements.isEmpty then [] else say " " ++ i.wording

/-- A block, or statements up to one of some words. -/
def inner (ends : List String) : Parser Inner := do
  if ← peekIs "BEGIN" then
    let opening ← writtenWord "BEGIN"
    let ss ← runUpTo n ends (← bound)
    return ⟨opening, ss, ← writtenWord "END"⟩
  else return ⟨"", ← runUpTo n ends (← bound), ""⟩

/-- A block whose opening word has been read, perhaps with what is done about faults. -/
def block : Parser Wording := do
  let ss ← run n ["EXCEPTION", "END"]
  let faults ←
    if ← word "EXCEPTION" then
      let branches ← many do
        if ← peekIs "END" then return none
        else
          needWord "WHEN"
          let faults ← many do
            if ← word "THEN" then return none
            else
              let fault ← identWording
              discard (word "OR")
              return some fault
          let ss ← run n ["WHEN", "END"]
          let titles := (faults.intersperse (say " OR ")).flatten
          return some (say " WHEN " ++ titles ++ say " THEN" ++ ss)
      pure (say " EXCEPTION" ++ branches.flatten)
    else pure []
  needWord "END"
  flatStatement (say "BEGIN" ++ ss ++ faults ++ say " END")

/-! ### Distinctions and loops -/

/-- A condition and what is done if it holds. `ends` are the words that may stand behind. -/
def branch (ends : List String) : Parser Wording := do
  let condition ← expr n
  needWord "THEN"
  return say " " ++ condition.wording ++ say " THEN" ++ (← inner n ends).ofBranch

/-- The branches behind one, each with `k` in front. -/
def branches (k : String) (ends : List String) : Parser Wording := do
  let found ← many do
    match ← peek with
    | .word value _ keyword =>
      if keyword = k then
        skip 1
        return some (say (" " ++ value) ++ (← branch n ends))
      else return none
    | _ => return none
  return found.flatten

/-- What is done if no condition holds. -/
def otherwise : Parser Wording := do
  if ← peekIs "ELSE" then
    let opening ← writtenWord "ELSE"
    return say (" " ++ opening) ++ (← inner n ["END"]).ofBranch
  else return []

def distinguish : Parser Wording := do
  let subject ← if ← peekIs "WHEN" then pure [] else pure (say " " ++ (← expr n).wording)
  let opening ← writtenWord "WHEN"
  let first ← branch n ["WHEN", "ELSE", "END"]
  let others ← branches n "WHEN" ["WHEN", "ELSE", "END"]
  let last ← otherwise n
  needWord "END"
  let again ← optionalWords ["CASE"]
  flatStatement (say "CASE" ++ subject ++ say (" " ++ opening) ++ first ++ others ++ last
    ++ say (" END" ++ again))

/-- A distinction, behind its first word, which is written as `opening`. -/
def conditional (opening : String) : Parser Wording := do
  let first ← branch n ["ELSE", "ELSEIF", "END"]
  let others ← branches n "ELSEIF" ["ELSEIF", "ELSE", "END"]
  let last ← otherwise n
  needWord "END"
  let closing ← writtenWord "IF"
  flatStatement (say opening ++ first ++ others ++ last ++ say (" END " ++ closing))

/-- Passes over semicolons. -/
def semicolons : Nat → Parser Unit
  | 0 => return ()
  | fuel + 1 => do if ← sign ";" then semicolons fuel

/-- Statements that need no semicolons, up to the end of a block. -/
def freeRun : Nat → Parser (List Statement)
  | 0 => return []
  | fuel + 1 => do
    if (← peek) = .endOfInput || (← peekIs "END") then return []
    else
      let s ← n.statement
      semicolons (← bound)
      return s :: (← freeRun fuel)

/-- A block, or one statement. -/
def freeInner : Parser Inner := do
  if ← peekIs "BEGIN" then
    let opening ← writtenWord "BEGIN"
    let ss ← freeRun n (← bound)
    return ⟨opening, ss, ← writtenWord "END"⟩
  else return ⟨"", [← n.statement], ""⟩

/-- A distinction without an end of its own. A semicolon behind it is not a part of it. -/
def openConditional (opening : String) : Parser Wording := do
  let condition ← expr n
  let first := (← freeInner n).ofBranch
  let left ← get
  semicolons (← bound)
  let last ← do
    if ← peekIs "ELSE" then
      let otherwise ← writtenWord "ELSE"
      pure (say (" " ++ otherwise) ++ (← freeInner n).ofBranch)
    else
      set (left.drop (left.length - (← get).length - 1))
      pure []
  flatStatement (say (opening ++ " ") ++ condition.wording ++ first ++ last)

def loop (opening : String) : Parser Wording := do
  let condition ← expr n
  flatStatement (say (opening ++ " ") ++ condition.wording ++ (← inner n ["END"]).ofBranch)

/-! ### Faults and results -/

def raise : Parser Wording := do
  if ← words ["USING", "MESSAGE"] then
    needSign "="
    flatStatement (say "RAISE USING MESSAGE = " ++ (← expr n).wording)
  else
    let value := (← attempt (expr n)).elim [] fun e => say " " ++ e.wording
    flatStatement (say "RAISE" ++ value)

/-- A fault with its weight and its state. -/
def raiseError : Parser Wording := do
  needSign "("
  let message ← expr n
  needSign ","
  let severity ← expr n
  needSign ","
  let state ← expr n
  let arguments ← if ← sign "," then pure (say ", " ++ (← exprs n)) else pure []
  needSign ")"
  let options ←
    optionalClause ["WITH"] do
      return commas (← commaList do return say (← needOneOf ["LOG", "NOWAIT", "SETERROR"]))
  flatStatement (say "RAISERROR(" ++ message.wording ++ say ", " ++ severity.wording ++ say ", "
    ++ state.wording ++ arguments ++ say ")" ++ options)

def returnValue : Parser Wording := do
  let value := (← attempt (expr n)).elim [] fun e => say " " ++ e.wording
  flatStatement (say "RETURN" ++ value)

/-! ### Declarations -/

def queryAfterFor : Parser Wording := return say " FOR " ++ (← n.query).wording

/-- A cursor over the rows of a query. -/
def declareCursor : Parser Wording := do
  let label ← identWording
  let binary ← optionalWords ["BINARY"]
  let sensitivity ← optionalOneOf [["INSENSITIVE"], ["ASENSITIVE"]]
  let scroll ← optionalOneOf [["SCROLL"], ["NO", "SCROLL"]]
  needWord "CURSOR"
  let hold ← do
    match ← oneOf ["WITH", "WITHOUT"] with
    | some k =>
      needWord "HOLD"
      pure (" " ++ k ++ " HOLD")
    | none => pure ""
  needWord "FOR"
  return label ++ say (binary ++ sensitivity ++ scroll ++ " CURSOR" ++ hold) ++ (← queryAfterFor n)

/-- Variables of one type, or of the type of their first value. -/
def declareTyped : Parser Wording := do
  let labels ← idents
  if ← word "DEFAULT" then return labels ++ say " DEFAULT " ++ (← expr n).wording
  else
    let type ← typeWording n
    let value ← exprAfter n "DEFAULT"
    return labels ++ say " " ++ type ++ value

/-- The first value of a variable. -/
def firstValue : Parser Wording := do
  if ← word "DEFAULT" then return say " DEFAULT " ++ (← expr n).wording
  else if ← sign ":=" then return say " := " ++ (← expr n).wording
  else return []

/-- A variable, cursor, result or fault of a block. -/
def declareInBlock : Parser Wording := do
  let label ← identWording
  match ← oneOf ["CURSOR", "RESULTSET", "EXCEPTION"] with
  | some "CURSOR" =>
    needWord "FOR"
    let rows ← do
      if ← peekIs "SELECT" then pure (← n.query).wording else pure (← expr n).wording
    return label ++ say " CURSOR FOR " ++ rows
  | some "RESULTSET" => return label ++ say " RESULTSET" ++ (← firstValue n)
  | some _ =>
    let value ← if ← peekSign "(" then pure (say " " ++ (← expr n).wording) else pure []
    return label ++ say " EXCEPTION" ++ value
  | none =>
    let value ← firstValue n
    if !value.isEmpty then return label ++ value
    else
      match ← peek with
      | .word .. =>
        let type ← typeWording n
        return label ++ say " " ++ type ++ (← firstValue n)
      | _ => return label

/-- Declarations up to a semicolon in front of a word with a meaning of its own. -/
def declarationsInBlock : Nat → Parser (List Wording)
  | 0 => return []
  | fuel + 1 => do
    let first ← declareInBlock n
    match ← peek, ← peekAt 1 with
    | .sign ";", .word value .. =>
      if isKnownWord (upper value) then return [first]
      else
        skip 1
        return first :: (← declarationsInBlock fuel)
    | _, _ => return [first]

/-- A variable or cursor of a session. -/
def declareInSession : Parser Wording := do
  let i ← ident
  let cursor ← peekIs "CURSOR"
  if !i.value.startsWith "@" && !cursor then
    throw (.other "Invalid MsSql variable declaration." none)
  else
    let type ← do
      if cursor then
        skip 1
        pure (say " CURSOR")
      else
        discard (word "AS")
        pure (say " " ++ (← typeWording n))
    if ← word "FOR" then
      let q ← n.query
      return i.wording ++ if cursor then type ++ say " FOR " ++ q.wording
        else say " FOR " ++ q.wording ++ type
    else if ← sign "=" then
      return i.wording ++ type ++ say " = " ++ (← expr n).wording
    else return i.wording ++ type

def declare : Parser Wording := do
  let declarations ← do
    match ← dialect with
    | .bigquery => pure [← declareTyped n]
    | .snowflake => declarationsInBlock n (← bound)
    | .mssql => commaList (declareInSession n)
    | _ => pure [← declareCursor n]
  flatStatement (say "DECLARE " ++ (declarations.intersperse (say "; ")).flatten)

/-! ### Cursors -/

/-- Which rows a cursor gives. -/
def direction : Parser Wording := do
  match ← oneOf ["NEXT", "PRIOR", "FIRST", "LAST", "ABSOLUTE", "RELATIVE", "FORWARD", "BACKWARD",
      "ALL"] with
  | none => numberLiteral
  | some k =>
    match k with
    | "ABSOLUTE" | "RELATIVE" => return say (k ++ " ") ++ (← numberLiteral)
    | "FORWARD" | "BACKWARD" =>
      if ← word "ALL" then return say (k ++ " ALL")
      else return say (k ++ " ") ++ (← numberLiteral)
    | _ => return say k

def fetchRows : Parser Wording := do
  let rows ← direction
  match ← oneOf ["FROM", "IN"] with
  | none => failHere "Expected FROM or IN"
  | some k =>
    let cursor ← identWording
    let target ← optionalClause ["INTO"] (nameWording n false)
    flatStatement (say "FETCH " ++ rows ++ say (" " ++ k ++ " ") ++ cursor ++ target)

def openCursor : Parser Wording := do flatStatement (say "OPEN " ++ (← identWording))

def closeCursor : Parser Wording := do
  if ← word "ALL" then flatStatement (say "CLOSE ALL")
  else flatStatement (say "CLOSE " ++ (← identWording))

end EmbeddedSql.Sql.Grammar
