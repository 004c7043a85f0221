import EmbeddedSql.Sql.Grammar.Argument

/-! Names: of one word, of several with dots between them, and second names. -/
namespace EmbeddedSql.Sql.Grammar

open Text

variable (n : Nested)

/-! ### Names of several words -/

/-- A word that may be joined by dashes to the words behind it, and whether a dot ended it.
`apart` tells whether a blank stands behind the word, because a dash joins only without
blanks. -/
def dashed (i : Ident) (apart : Bool) : Nat → Parser (Ident × Bool)
  | 0 => return (i, false)
  | fuel + 1 => do
    let wrong (found : Token) (place : Option Position) : Parser (Ident × Bool) :=
      throw (.expected "continuation of hyphenated identifier" found place)
    let join (part : String) : Ident := {i with value := i.value ++ "-" ++ part}
    match ← get with
    | ⟨.sign "-", _, last, behindDash⟩ :: left =>
      if apart then return (i, false)
      else if let blank :: _ := behindDash then wrong (.customOperator blank) (some last)
      else
        match left with
        | ⟨.word value none _, _, _, blanks⟩ :: rest =>
          set rest
          dashed (join value) (!blanks.isEmpty) fuel
        | ⟨.number digits false, first, _, blanks⟩ :: rest =>
          match digits.toList.reverse with
          | '.' :: whole =>
            if whole.isEmpty || !whole.all Char.isDigit then wrong (.number digits false) first
            else
              set rest
              return (join (String.ofList whole.reverse), true)
          | _ =>
            set rest
            let follows := tokenAt 0 rest
            if follows = .endOfInput || follows = .sign "."
                || (follows = .sign "-" && blanks.isEmpty) then
              dashed (join digits) (!blanks.isEmpty) fuel
            else expectedAt "whitespace following hyphenated identifier" rest
        | _ => wrong (tokenAt 0 left) (placeOf left)
    | _ => return (i, false)

/-- Splits the words of a name at the dots inside them. -/
def splitAtDots (n : Name) : Name :=
  n.flatMap fun
    | .ident i => (i.value.splitOn ".").map fun v => .ident {i with value := v}
    | part => [part]

def NamePart.isMade : NamePart → Bool
  | .ident _ => false
  | .made .. => true

/-- Whether a word behind the parts `read` makes a name out of what stands in parentheses
behind it. A name has one part that is made. -/
def makesName (read : Name) (i : Ident) : Parser Bool := do
  return (← allows Dialect.identifierFunction) && i.quote.isNone && lower i.value = "identifier"
    && !read.any NamePart.isMade

def namePart (read : Name) : Parser NamePart := do
  let i ← ident
  if ← makesName read i then
    needSign "("
    let arguments ← commaWording ")" (argument n)
    needSign ")"
    return .made i arguments
  else return .ident i

/-- The parts of a name behind `read`. Some dialects let the second one out. -/
def nameParts : Nat → Name → Parser Name
  | 0, read => return read
  | fuel + 1, read => do
    let unnamed ← pure (decide (read.length = 1)) <&&> allows Dialect.doubleDotNames <&&> sign "."
    let read := if unnamed then read ++ [.ident ⟨"", none, none⟩] else read
    let part ← namePart n read
    if ← sign "." then nameParts fuel (read ++ [part]) else return read ++ [part]

def dashedParts : Nat → Parser Name
  | 0 => return []
  | fuel + 1 => do
    let left ← get
    let i ← ident
    let (i, dotted) ←
      match left with
      | ⟨.word _ none _, _, _, blanks⟩ :: _ => dashed i (!blanks.isEmpty) fuel
      | _ => pure (i, false)
    if ← pure dotted <||> sign "." then return .ident i :: (← dashedParts fuel)
    else return [.ident i]

/-- A name of one or more words. `ofTable` says that it is the name of a table in a query. -/
def name (ofTable : Bool) : Parser Name := do
  let fuel ← bound
  if ← allows Dialect.dashedNames then
    let parts ← if ofTable then dashedParts fuel else nameParts n fuel []
    return splitAtDots parts
  else nameParts n fuel []

def nameWording (ofTable : Bool) : Parser Wording := return (← name n ofTable).wording

/-! ### Second names -/

def reservedForTables : List String := [
  "WITH", "EXPLAIN", "ANALYZE", "SELECT", "WHERE", "GROUP", "SORT", "HAVING", "ORDER",
  "PIVOT", "UNPIVOT", "TOP", "LATERAL", "VIEW", "LIMIT", "OFFSET", "FETCH", "UNION",
  "EXCEPT", "INTERSECT", "MINUS", "ON", "JOIN", "INNER", "CROSS", "FULL", "LEFT", "RIGHT",
  "NATURAL", "USING", "CLUSTER", "DISTRIBUTE", "GLOBAL", "ANTI", "SEMI", "RETURNING",
  "ASOF", "MATCH_CONDITION", "OUTER", "SET", "QUALIFY", "WINDOW", "END", "FOR",
  "PARTITION", "PREWHERE", "SETTINGS", "FORMAT", "START", "CONNECT", "MATCH_RECOGNIZE",
  "SAMPLE", "TABLESAMPLE", "FROM", "OPEN"]

/-- Whether the token can follow the word that limits a query. -/
def limitsQuery : Token → Bool
  | .number .. | .placeholder _ => true
  | .text .single s => s = ""
  | .dollarText s _ => s = ""
  | t => isKeyword "NULL" t

/-- Whether a word is a second name of a column, without `AS` in front. `left` is what
follows the word. -/
def namesColumn (d : Dialect) (keyword : String) (left : List Lexeme) : Bool :=
  let follows := tokenAt 0 left
  match d with
  | .snowflake =>
    match keyword with
    | "EXCEPT" | "RETURNING" => follows = .sign "," || follows = .endOfInput
    | "LIMIT" | "OFFSET" => !limitsQuery follows
    | "FETCH" => !(isKeywordOf ["FIRST", "NEXT"] follows || limitsQuery follows)
    | k => !(["FROM", "GROUP", "HAVING", "INTERSECT", "INTO", "MINUS", "ORDER", "SELECT",
        "UNION", "WHERE", "WITH"].contains k)
  | .bigquery => !(["WITH", "SELECT", "WHERE", "GROUP", "HAVING", "ORDER", "LATERAL", "LIMIT",
      "FETCH", "UNION", "EXCEPT", "INTERSECT", "FROM", "INTO", "END"].contains keyword)
  | .mssql => !reservedForColumns.contains keyword && !(["IF", "ELSE"].contains keyword)
  | _ => !reservedForColumns.contains keyword

/-- Whether a word is a second name of a table, without `AS` in front. -/
def namesTable (d : Dialect) (keyword : String) (left : List Lexeme) : Bool :=
  let follows := tokenAt 0 left
  match d with
  | .snowflake =>
    match keyword with
    | "RETURNING" | "PIVOT" | "UNPIVOT" | "EXCEPT" | "MATCH_RECOGNIZE" =>
      follows = .sign ";" || follows = .endOfInput
    | "LIMIT" | "OFFSET" => !limitsQuery follows
    | "FETCH" => !(isKeywordOf ["FIRST", "NEXT"] follows || limitsQuery follows)
    | "SEMI" | "ANTI" => !isKeywordOf ["JOIN", "OUTER"] follows
    | "GLOBAL" => !isKeyword "FULL" follows
    | k => !(["WITH", "ORDER", "SELECT", "WHERE", "GROUP", "HAVING", "LATERAL", "UNION",
        "INTERSECT", "MINUS", "ON", "JOIN", "INNER", "CROSS", "FULL", "LEFT", "RIGHT", "NATURAL",
        "USING", "ASOF", "MATCH_CONDITION", "SET", "QUALIFY", "FOR", "START", "CONNECT", "SAMPLE",
        "TABLESAMPLE", "FROM"].contains k)
  | .mysql => !reservedForTables.contains keyword &&
      !(["USE", "IGNORE", "FORCE", "STRAIGHT_JOIN"].contains keyword)
  | _ => !reservedForTables.contains keyword

/-- Whether a word behind a comma ends a list of tables. `left` is what follows the word. -/
def endsTables (d : Dialect) (keyword : String) (left : List Lexeme) : Bool :=
  let follows := tokenAt 0 left
  match d, keyword with
  | .snowflake, "LIMIT" => limitsQuery follows
  | .snowflake, "TABLE" => follows ≠ .sign "("
  | .snowflake, k => [
      "ALL", "ALTER", "AND", "ANY", "AS", "BETWEEN", "BY", "CHECK", "COLUMN", "CONNECT", "CREATE",
      "CROSS", "CURRENT", "DELETE", "DISTINCT", "DROP", "ELSE", "EXISTS", "FOLLOWING", "FOR",
      "FROM", "FULL", "GRANT", "GROUP", "HAVING", "ILIKE", "IN", "INCREMENT", "INNER", "INSERT",
      "INTERSECT", "INTO", "IS", "JOIN", "LEFT", "LIKE", "MINUS", "NATURAL", "NOT", "NULL", "OF",
      "ON", "OR", "ORDER", "QUALIFY", "REGEXP", "REVOKE", "RIGHT", "RLIKE", "ROW", "ROWS",
      "SAMPLE", "SELECT", "SET", "SOME", "START", "TABLESAMPLE", "THEN", "TO", "TRIGGER",
      "UNION", "UNIQUE", "UPDATE", "USING", "VALUES", "WHEN", "WHENEVER", "WHERE", "WINDOW",
      "WITH"].contains k
  | _, _ => false

/-- A second name, and whether `AS` stands in front of it. `admits` decides about a word and
what follows it; it is also told whether `AS` is there. -/
def secondName (admits : Dialect → Bool → String → List Lexeme → Bool) :
    Parser (Option (Bool × Ident)) := do
  let marked ← word "AS"
  let d ← dialect
  let nothing : Parser (Option (Bool × Ident)) :=
    if marked then expected "an identifier after AS" else return none
  match ← get with
  | [] => nothing
  | l :: left =>
    let admitted :=
      match l.token with
      | .word _ _ keyword => admits d marked keyword left
      | _ => true
    match identOf? l with
    | some i => if admitted then set left; return some (marked, i) else nothing
    | none => nothing

/-- Admits every word behind `AS`, and those that `admits` does without it. -/
def freely (admits : Dialect → String → List Lexeme → Bool) (d : Dialect) (marked : Bool)
    (keyword : String) (left : List Lexeme) : Bool :=
  marked || admits d keyword left

def columnLabel : Parser (Option Ident) := do
  return (← secondName (freely namesColumn)).map Prod.snd

/-- Words up to an equals sign or the end of everything; all else between them is passed over,
semicolons too. -/
def looseWords : Parser (List Ident) := do
  let left ← get
  let own := left.takeWhile fun l => l.token ≠ .sign "="
  skip own.length
  return own.filterMap fun l =>
    match l.token with
    | .word .. => identOf? l
    | _ => none

end EmbeddedSql.Sql.Grammar
