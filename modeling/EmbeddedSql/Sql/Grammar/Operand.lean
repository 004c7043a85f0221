import EmbeddedSql.Sql.Grammar.Call

/-! What an expression starts with: literals, names, calls, parentheses, and the forms that
a word introduces. -/
namespace EmbeddedSql.Sql.Grammar

open Text

variable (n : Nested)

/-- An expression whose operators bind tighter than a class of them. -/
def tighter (s : Strength) : Parser Expr := do n.expr (power (← dialect) s)

/-! ### Forms with a word in front -/

/-- A query in parentheses behind `EXISTS`. -/
def existence (negated : Bool) : Parser Expr := do
  let q ← parens n.query
  return .phrase (say (if negated then "NOT EXISTS (" else "EXISTS (") ++ q.wording ++ say ")")

def negation : Parser Expr := do
  if ← word "EXISTS" then existence n true
  else return .phrase (say "NOT " ++ (← tighter n .not).wording)

/-- A branch of a case distinction, behind `WHEN`. -/
def caseBranch : Parser Wording := do
  let condition ← expr n
  needWord "THEN"
  let result ← expr n
  return [.gap, .nest (say "WHEN " ++ condition.wording ++ say " THEN"
    ++ [.gap, .nest result.wording])]

def caseDistinction : Parser Expr := do
  let operand ←
    if ← word "WHEN" then pure []
    else
      let e ← expr n
      needWord "WHEN"
      pure (say " " ++ e.wording)
  let branches ← separated (caseBranch n) (word "WHEN")
  let otherwise ←
    if ← word "ELSE" then
      let e ← expr n
      pure [Piece.gap, .nest (say "ELSE"), .gap, .nest [.nest e.wording]]
    else pure []
  needWord "END"
  return .block (say "CASE" ++ operand ++ branches.flatten ++ otherwise ++ .gap :: say "END")

def castFormat : Parser Wording := do
  if ← word "FORMAT" then
    let format ← literal
    let zone ←
      if ← words ["AT", "TIME", "ZONE"] then pure (say " AT TIME ZONE " ++ (← literal))
      else pure []
    return say " FORMAT " ++ format ++ zone
  else return []

def castTo (title : String) : Parser Expr := do
  needSign "("
  let e ← expr n
  needWord "AS"
  let type ← typeWording n
  let format ← castFormat
  needSign ")"
  return .phrase (say (title ++ "(") ++ e.wording ++ say " AS " ++ type ++ format ++ say ")")

def conversion (title : String) : Parser Expr := do
  needSign "("
  if ← allows Dialect.typeBeforeValue then
    let type ← typeWording n
    needSign ","
    let e ← expr n
    let styles ← if ← sign "," then pure (say ", " ++ (← exprs n)) else pure []
    needSign ")"
    return .phrase (say (title ++ "(") ++ type ++ say ", " ++ e.wording ++ styles ++ say ")")
  else
    let e ← expr n
    if ← word "USING" then
      let set ← nameWording n false
      needSign ")"
      return .phrase (say (title ++ "(") ++ e.wording ++ say " USING " ++ set ++ say ")")
    else
      needSign ","
      let type ← typeWording n
      let set ←
        if ← words ["CHARACTER", "SET"] then
          pure (say " CHARACTER SET " ++ (← nameWording n false))
        else pure []
      needSign ")"
      return .phrase (say (title ++ "(") ++ e.wording ++ say ", " ++ type ++ set ++ say ")")

def extraction : Parser Expr := do
  needSign "("
  let field ← timeField
  let joint ← do
    if ← word "FROM" then pure " FROM "
    else if ← allows Dialect.extractComma <&&> sign "," then pure ", "
    else throw (.other "Expected 'FROM' or ','" none)
  let e ← expr n
  needSign ")"
  return .phrase (say ("EXTRACT(" ++ field ++ joint) ++ e.wording ++ say ")")

/-- Rounding up or down. -/
def rounding (title : String) : Parser Expr := do
  needSign "("
  let e ← expr n
  let unit ← do
    if ← word "TO" then pure (say (" TO " ++ (← timeField)))
    else if ← sign "," then
      let isNumber :=
        match ← peek with
        | .number .. => true
        | _ => false
      let scale ← literal
      if isNumber then pure (say ", " ++ scale)
      else throw (.other "Scale field can only be of number type" none)
    else pure []
  needSign ")"
  return .phrase (say (title ++ "(") ++ e.wording ++ unit ++ say ")")

/-- The place of one text in another, if that is how the call is written. -/
def placeIn : Parser Expr := do
  needSign "("
  let e ← tighter n .between
  needWord "IN"
  let whole ← expr n
  needSign ")"
  return .phrase (say "POSITION(" ++ e.wording ++ say " IN " ++ whole.wording ++ say ")")

def partOfText (title : String) : Parser Expr := do
  needSign "("
  let e ← expr n
  let comma ← sign ","
  let start ← do
    if comma then pure (say ", " ++ (← expr n).wording)
    else if ← word "FROM" then pure (say " FROM " ++ (← expr n).wording)
    else pure []
  let length ←
    if ← word "FOR" <||> sign "," then
      pure (say (if comma then ", " else " FOR ") ++ (← expr n).wording)
    else pure []
  needSign ")"
  return .phrase (say (title ++ "(") ++ e.wording ++ start ++ length ++ say ")")

def overlay : Parser Expr := do
  needSign "("
  let e ← expr n
  needWord "PLACING"
  let what ← expr n
  needWord "FROM"
  let start ← expr n
  let length ←
    if ← word "FOR" then pure (say " FOR " ++ (← expr n).wording) else pure []
  needSign ")"
  return .phrase (say "OVERLAY(" ++ e.wording ++ say " PLACING " ++ what.wording
    ++ say " FROM " ++ start.wording ++ length ++ say ")")

def trimming : Parser Expr := do
  needSign "("
  let side :=
    match ← oneOf ["BOTH", "LEADING", "TRAILING"] with
    | some k => k ++ " "
    | none => ""
  let e ← expr n
  if ← word "FROM" then
    let subject ← expr n
    needSign ")"
    return .trim side (e.wording ++ say " FROM ") subject
  else if ← sign "," <&&> allows Dialect.commaTrim then
    let characters ← exprs n
    needSign ")"
    return .phrase (say "TRIM(" ++ e.wording ++ say ", " ++ characters ++ say ")")
  else
    needSign ")"
    return .phrase (say ("TRIM(" ++ side) ++ e.wording ++ say ")")

def arrayOf (title : String) : Parser Expr := do
  let members ← commaListUntil "]" (expr n)
  needSign "]"
  return .phrase (say (title ++ "[") ++ commas (members.map Expr.wording) ++ say "]")

def matchModifier : Parser String := do
  if ← words ["IN", "NATURAL", "LANGUAGE", "MODE"] then
    if ← words ["WITH", "QUERY", "EXPANSION"] then
      return " IN NATURAL LANGUAGE MODE WITH QUERY EXPANSION"
    else return " IN NATURAL LANGUAGE MODE"
  else if ← words ["IN", "BOOLEAN", "MODE"] then return " IN BOOLEAN MODE"
  else if ← words ["WITH", "QUERY", "EXPANSION"] then return " WITH QUERY EXPANSION"
  else return ""

/-- A search for words in columns. -/
def matching : Parser Expr := do
  let columns ← columnsInParens (nameWording n false)
  needWord "AGAINST"
  needSign "("
  let value ← literal
  let modifier ← matchModifier
  needSign ")"
  return .phrase (say "MATCH (" ++ commas columns ++ say ") AGAINST (" ++ value
    ++ say (modifier ++ ")"))

/-- A member of a record; a type in front excludes names. -/
def recordMember (typed : Bool) : Parser Wording := do
  let e ← expr n
  let place ← get
  if ← word "AS" then
    if typed then throw (.other "Typed syntax does not allow AS" (placeOf place))
    else return [.expr (.phrase (e.wording ++ say " AS " ++ (← identWording)))]
  else return e.wording

def record : Parser Expr := do
  let fields ←
    if ← sign "<" then
      let (fields, closed) ← structFields n (6 * (← bound))
      let closed ← closeAngle closed
      if closed then failHere "unmatched > in STRUCT literal"
      else pure fields
    else pure []
  needSign "("
  let members ← commaList (recordMember n (!fields.isEmpty))
  needSign ")"
  let types := if fields.isEmpty then [] else say "<" ++ commas fields ++ say ">"
  return .phrase (say "STRUCT" ++ types ++ say "(" ++ commas members ++ say ")")

/-- Keys and values in braces; `key` reads a key. -/
def pairs (key : Parser Wording) : Parser Wording := do
  needSign "\x7b"
  let members ← commaListUntil "\x7d" do
    let k ← key
    needSign ":"
    return k ++ say ": " ++ (← expr n).wording
  needSign "\x7d"
  return say "\x7b" ++ commas members ++ say "\x7d"

/-- What stands in braces: a call, a moment, or a dictionary. -/
def braced (value : Parser Expr) : Parser Expr := do
  let place ← get
  let call : Parser Expr := do
    needSign "\x7b"
    needWord "FN"
    let c ← callOf n value (← name n false)
    return .call {c with braced := true}
  let moment : Parser Expr := do
    needSign "\x7b"
    match ← next with
    | .word kind none _ =>
      if ["t", "d", "ts"].contains kind then
        return .phrase (say ("\x7b" ++ kind ++ " ") ++ (← literal) ++ say "\x7d")
      else expected "ODBC datetime keyword (t, d, or ts)"
    | _ => expected "ODBC datetime keyword (t, d, or ts)"
  match ← attempt moment with
  | some e => needSign "\x7d"; return e
  | none =>
    match ← attempt call with
    | some e => needSign "\x7d"; return e
    | none =>
      if ← allows Dialect.dictionaries then return .phrase (← pairs n identWording)
      else expectedAt "an expression" place

/-! ### Words -/

def outerJoinAhead : Parser Bool := do
  return (← allows Dialect.outerJoinOperator) && startsWithSigns ["(", "+", ")"] (← get)

/-- What a word is that has no meaning of its own: the name of a function, of a parameter or
of a column. -/
def plainWord (value : Parser Expr) (i : Ident) : Parser Expr := do
  match ← peek with
  | .sign "(" =>
    if ← outerJoinAhead then return .column [i] else return .call (← callOf n value [.ident i])
  | .text kind s =>
    if [.single, .double, .hex].contains kind && i.value.toList.head? = some '_' then
      skip 1
      return .phrase (i.wording ++ say " " ++ literalWording kind s)
    else return .column [i]
  | .sign "->" =>
    if ← allows Dialect.lambdas then
      skip 1
      return .phrase (i.wording ++ say " -> " ++ (← expr n).wording)
    else return .column [i]
  | _ => return .column [i]

/-- The form that a word introduces, if it introduces one. The word has been taken. -/
def wordForm (value : Parser Expr) (i : Ident) (keyword : String) : Parser (Option Expr) := do
  let d ← dialect
  let form (p : Parser Expr) : Parser (Option Expr) := return some (← p)
  match keyword with
  | "TRUE" | "FALSE" =>
    if d.booleanLiterals then return some (.literal (say (lower keyword))) else return none
  | "NULL" => return some (.literal (say "NULL"))
  | "CURRENT_CATALOG" | "CURRENT_USER" | "SESSION_USER" | "USER" =>
    if d.isOneOf [.postgres, .generic] then return some (.call (bareCall [.ident i] []))
    else return none
  | "CURRENT_TIMESTAMP" | "CURRENT_TIME" | "CURRENT_DATE" | "LOCALTIME" | "LOCALTIMESTAMP" =>
    return some (.call (← timeCall n [.ident i]))
  | "CASE" => form (caseDistinction n)
  | "CONVERT" => form (conversion n "CONVERT")
  | "TRY_CONVERT" => if d.tryConvert then form (conversion n "TRY_CONVERT") else return none
  | "CAST" | "TRY_CAST" | "SAFE_CAST" => form (castTo n keyword)
  | "EXISTS" =>
    if d ≠ .databricks || isKeywordOf queryStarts (← peekAt 1) then
      form (existence n false)
    else return none
  | "EXTRACT" => form (extraction n)
  | "CEIL" | "FLOOR" => form (rounding n keyword)
  | "POSITION" =>
    if ← peekSign "(" then
      match ← attempt (placeIn n) with
      | some e => return some e
      | none => return some (.call (← callOf n value [.ident i]))
    else return none
  | "SUBSTR" | "SUBSTRING" => form (partOfText n keyword)
  | "OVERLAY" => form (overlay n)
  | "TRIM" => form (trimming n)
  | "INTERVAL" => form (interval n value)
  | "ARRAY" =>
    if ← sign "[" then form (arrayOf n "ARRAY")
    else if (← peekSign "(") && !d.isOneOf [.clickhouse, .databricks] then
      let q ← parens n.query
      return some (.call (bareCall [.ident i] (say "(" ++ q.wording ++ say ")")))
    else return none
  | "NOT" => form (negation n)
  | "MATCH" => if d.matchAgainst then form (matching n) else return none
  | "STRUCT" => if d.structLiterals then form (record n) else return none
  | "PRIOR" =>
    if (← read).connecting then
      return some (.phrase (say "PRIOR " ++ (← tighter n .sum).wording))
    else return none
  | "MAP" =>
    if d.mapLiterals && (← peekSign "\x7b") then
      return some (.phrase (say "MAP " ++ (← pairs n do return (← expr n).wording)))
    else return none
  | "CIRCLE" | "BOX" | "PATH" | "LINE" | "LSEG" | "POINT" | "POLYGON" =>
    if d.geometricOperators then
      return some (.phrase (say (lower keyword ++ " ") ++ (← literal)))
    else return none
  | _ => return none

/-- Words that cannot be names in an expression once they fail to introduce a form. -/
def barredAsNames (d : Dialect) : List String :=
  if d.isOneOf [.postgres, .snowflake] then ["EXISTS", "STRUCT", "TRIM"]
  else ["EXISTS", "INTERVAL", "STRUCT", "TRIM"]

/-- An order of texts, behind what it is for. -/
def collation (e : Expr) : Parser Expr := do
  if ← (return !(← read).definingColumn) <&&> word "COLLATE" then
    return .phrase (e.wording ++ say " COLLATE " ++ (← nameWording n false))
  else return e

/-- What a word starts: the form it introduces, or else a plain name. If neither can be
read, the complaint is about the form. A name that could have introduced a form has no collation
behind it. -/
def wordOperand (value : Parser Expr) (i : Ident) (keyword : String) : Parser Expr :=
  fun setting left =>
    match wordForm n value i keyword setting left with
    | .ok (some e, rest) => collation n e setting rest
    | .ok (none, rest) => ((do collation n (← plainWord n value i)) : Parser Expr) setting rest
    | .error problem =>
      if (barredAsNames setting.dialect).contains keyword then .error problem
      else
        match plainWord n value i setting left with
        | .ok read => .ok read
        | .error _ => .error problem

/-! ### Operands -/

/-- A literal with its type in front. -/
def typedLiteral (value : Parser Expr) : Parser Expr := do
  match ← dataType n with
  | .interval _ => interval n value
  | .custom _ => failHere "no literal"
  | .known spelling => return .phrase (spelling ++ say " " ++ (← literal))

/-- A function of several parameters, if one is ahead. -/
def lambda : Parser (Option Expr) := do
  if (← allows Dialect.lambdas) && !isKeywordOf queryStarts (← peekAt 1) then
    attempt do
      let parameters ← parens (commaList ident)
      needSign "->"
      return .phrase (identsWording parameters ++ say " -> " ++ (← expr n).wording)
  else return none

/-- What stands in parentheses, behind the opening one. What is around the parentheses changes
the meaning of no word inside them. -/
def parenthesized : Parser Expr := do
  if ← startsQuery then
    let q ← n.query
    needSign ")"
    return .phrase (say "(" ++ q.wording ++ say ")")
  else
    let members ← withReader (fun s => ⟨s.dialect, false, false⟩) (exprs n)
    needSign ")"
    return .phrase (say "(" ++ members ++ say ")")

/-- An operator in front of its operand. -/
def signed (op : String) (s : Strength) : Parser Expr := do
  return .phrase (say op ++ (← tighter n s).wording)

/-- What a sign starts. -/
def signOperand (value : Parser Expr) (s : String) : Parser Expr := do
  let d ← dialect
  let plain : Parser Expr := return .literal (← literal)
  match s with
  | "[" => skip 1; arrayOf n ""
  | "-" | "+" => skip 1; signed n s .product
  | "~" => skip 1; signed n s .sum
  | "!" => if d.bangNot then skip 1; signed n s .not else expected "an expression"
  | "!!" | "|/" | "||/" =>
    if d = .postgres then skip 1; signed n s .sum else expected "an expression"
  | "@" => if d = .postgres then skip 1; signed n s .sum else plain
  | "#" | "@-@" | "@@" | "?-" | "?|" =>
    if d.geometricOperators then skip 1; signed n (s ++ " ") .sum
    else expected "an expression"
  | ":" => plain
  | "(" => skip 1; parenthesized n
  | "\x7b" => braced n value
  | _ => expected "an expression"

/-- What an expression starts with, by its first token. -/
def operandOf (value : Parser Expr) : Parser Expr := do
  let plain : Parser Expr := do collation n (.literal (← literal))
  match ← get with
  | [] => expected "an expression"
  | l :: left =>
    match l.token with
    | .word word quote keyword =>
      set left
      wordOperand n value ⟨word, quote, some (l.first, l.last)⟩ keyword
    | .text .escaped _ | .text .unicode _ =>
      if ← dialectIn [.postgres, .generic] then plain else expected "an expression"
    | .text .. | .dollarText .. | .number .. | .placeholder _ => plain
    | .sign s => collation n (← signOperand n value s)
    | _ => expected "an expression"

/-- An operand, where `value` reads the amount of an interval. No collation stands behind a
literal with its type or a function of several parameters. -/
def operandWith (value : Parser Expr) : Parser Expr := do
  match ← attempt (typedLiteral n value) with
  | some e => return e
  | none =>
    match ← lambda n with
    | some e => return e
    | none => operandOf n value

/-- An operand. Only intervals inside each other use up the fuel. -/
def operand : Nat → Parser Expr
  | 0 => throw .tooDeep
  | fuel + 1 => operandWith n (operand fuel)

end EmbeddedSql.Sql.Grammar
