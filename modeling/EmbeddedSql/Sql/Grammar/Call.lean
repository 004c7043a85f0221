import EmbeddedSql.Sql.Grammar.Precedence
import EmbeddedSql.Sql.Grammar.Type

/-! Calls: their arguments, the clauses between and behind them, and windows. -/
namespace EmbeddedSql.Sql.Grammar

open Text

variable (n : Nested)

/-! ### Ordering -/

def ascOrDesc : Parser String := do
  match ← oneOf ["ASC", "DESC"] with
  | some k => return " " ++ k
  | none => return ""

def nullsOrder : Parser String := do
  if ← words ["NULLS", "FIRST"] then return " NULLS FIRST"
  else if ← words ["NULLS", "LAST"] then return " NULLS LAST"
  else return ""

/-- A clause of a keyword and an expression, if the keyword is there. -/
def exprAfter (k : String) : Parser Wording := do
  if ← word k then return say (" " ++ k ++ " ") ++ (← expr n).wording else return []

def withFill : Parser Wording := do
  if ← allows Dialect.columnStoreClauses <&&> words ["WITH", "FILL"] then
    let lower ← exprAfter n "FROM"
    let upper ← exprAfter n "TO"
    let step ← exprAfter n "STEP"
    return say " WITH FILL" ++ lower ++ upper ++ step
  else return []

/-- An expression to sort by. -/
def sortKey : Parser Wording := do
  let e ← expr n
  let direction ← ascOrDesc
  let nulls ← nullsOrder
  let fill ← withFill n
  return e.wording ++ say (direction ++ nulls) ++ fill

def sortKeys : Parser Wording := return commas (← commaList (sortKey n))

def exprs : Parser Wording := return commas ((← commaList (expr n)).map Expr.wording)

/-! ### Literals of time -/

/-- The names of the parts of a moment. -/
def timeFields : List String := [
  "YEAR", "YEARS", "MONTH", "MONTHS", "WEEK", "WEEKS", "DAY", "DAYOFWEEK", "DAYOFYEAR",
  "DAYS", "DATE", "DATETIME", "HOUR", "HOURS", "MINUTE", "MINUTES", "SECOND", "SECONDS",
  "CENTURY", "DECADE", "DOY", "DOW", "EPOCH", "ISODOW", "ISOYEAR", "ISOWEEK", "JULIAN",
  "MICROSECOND", "MICROSECONDS", "MILLENIUM", "MILLENNIUM", "MILLISECOND", "MILLISECONDS",
  "NANOSECOND", "NANOSECONDS", "QUARTER", "TIME", "TIMEZONE", "TIMEZONE_ABBR",
  "TIMEZONE_HOUR", "TIMEZONE_MINUTE", "TIMEZONE_REGION"]

/-- Those that may be the unit of an interval. -/
def timeUnits : List String := [
  "YEAR", "YEARS", "MONTH", "MONTHS", "WEEK", "WEEKS", "DAY", "DAYS", "HOUR", "HOURS",
  "MINUTE", "MINUTES", "SECOND", "SECONDS", "CENTURY", "DECADE", "DOW", "DOY", "EPOCH",
  "ISODOW", "ISOYEAR", "JULIAN", "MICROSECOND", "MICROSECONDS", "MILLENIUM", "MILLENNIUM",
  "MILLISECOND", "MILLISECONDS", "NANOSECOND", "NANOSECONDS", "QUARTER", "TIMEZONE",
  "TIMEZONE_HOUR", "TIMEZONE_MINUTE"]

def timeField : Parser String := do
  match ← peek with
  | .word _ _ keyword =>
    if timeFields.contains keyword then
      skip 1
      if ← pure (decide (keyword = "WEEK")) <&&> dialectIn [.bigquery, .generic] <&&> sign "(" then
        let day ← identText
        needSign ")"
        return "WEEK(" ++ day ++ ")"
      else return keyword
    else if ← allows Dialect.customExtractFields then identText
    else expected "date/time field"
  | .text .single _ =>
    if ← allows Dialect.quotedExtractFields then identText
    else expected "date/time field"
  | _ => expected "date/time field"

/-- The rest of an interval, whose value is what `value` reads. -/
def interval (value : Parser Expr) : Parser Expr := do
  let amount ← if ← allows Dialect.intervalNeedsUnit then expr n else value
  let unit ← do
    if ← peekIsOf timeUnits then pure (some (← timeField))
    else if ← allows Dialect.intervalNeedsUnit then
      failHere "INTERVAL requires a unit after the literal value"
    else pure none
  let spaced (p : String) : String := if p = "" then "" else " " ++ p
  let behind ←
    if unit = some "SECOND" then
      if ← sign "(" then
        let leading ← wholeNumber
        let fraction ← if ← sign "," then pure (", " ++ (← wholeNumber)) else pure ""
        needSign ")"
        pure (" (" ++ leading ++ fraction ++ ")")
      else pure ""
    else
      let leading ← precision
      if ← word "TO" then
        let last ← timeField
        let fraction ← if last = "SECOND" then precision else pure ""
        pure (spaced leading ++ " TO " ++ last ++ spaced fraction)
      else pure (spaced leading)
  return .phrase (say "INTERVAL " ++ amount.wording
    ++ say ((unit.elim "" (" " ++ ·)) ++ behind))

/-! ### Windows -/

def frameBound (value : Parser Expr) : Parser Wording := do
  if ← words ["CURRENT", "ROW"] then return say "CURRENT ROW"
  else
    let rows ←
      if ← word "UNBOUNDED" then pure (say "UNBOUNDED")
      else
        match ← peek with
        | .text .single _ => pure (← interval n value).wording
        | _ => pure (← expr n).wording
    if ← word "PRECEDING" then return rows ++ say " PRECEDING"
    else if ← word "FOLLOWING" then return rows ++ say " FOLLOWING"
    else expected "PRECEDING or FOLLOWING"

def frame (value : Parser Expr) : Parser Wording := do
  match ← oneOf ["ROWS", "RANGE", "GROUPS"] with
  | none => expected "ROWS, RANGE, GROUPS"
  | some units =>
    if ← word "BETWEEN" then
      let first ← frameBound n value
      needWord "AND"
      let last ← frameBound n value
      return say (units ++ " BETWEEN ") ++ first ++ say " AND " ++ last
    else return say (units ++ " ") ++ (← frameBound n value)

/-- Wordings on lines of their own. -/
def stacked : List Wording → Wording
  | [] => []
  | [w] => w
  | w :: ws => w ++ .gap :: stacked ws

/-- A window up to its closing parenthesis. -/
def window (value : Parser Expr) : Parser Wording := do
  let base ←
    match ← peek with
    | .word _ quote keyword =>
      if quote.isSome || !isKnownWord keyword then pure [← identWording] else pure []
    | _ => pure []
  let partition ←
    if ← words ["PARTITION", "BY"] then pure [say "PARTITION BY " ++ (← exprs n)] else pure []
  let order ←
    if ← words ["ORDER", "BY"] then pure [say "ORDER BY " ++ (← sortKeys n)] else pure []
  let rows ←
    if ← sign ")" then pure []
    else
      let rows ← frame n value
      needSign ")"
      pure [rows]
  return stacked ((base :: partition :: order :: [rows]).flatten.map fun w => [.flat w])

/-- A window in parentheses. -/
def windowWording (w : Wording) : Wording := [.text "(", .fold, .nest w, .fold, .text ")"]

/-! ### Arguments -/

def nullTreatment : Parser String := do
  match ← oneOf ["RESPECT", "IGNORE"] with
  | some k => needWord "NULLS"; return k ++ " NULLS"
  | none => return ""

/-- What becomes of null values in a document. -/
def nullsInDocument : Parser (List Wording) := do
  if ← words ["ABSENT", "ON", "NULL"] then return [say "ABSENT ON NULL"]
  else if ← words ["NULL", "ON", "NULL"] then return [say "NULL ON NULL"]
  else return []

def returnedType : Parser (List Wording) := do
  if ← word "RETURNING" then return [say "RETURNING " ++ (← typeWording n)] else return []

def onOverflow : Parser (List Wording) := do
  if ← words ["ON", "OVERFLOW"] then
    if ← word "ERROR" then return [say "ON OVERFLOW ERROR"]
    else
      needWord "TRUNCATE"
      let filler ←
        match ← peek with
        | .word _ _ "WITH" | .word _ _ "WITHOUT" => pure []
        | .text .single _ | .text .escaped _ | .text .unicode _ | .text .national _
        | .text .hex _ => pure (say " " ++ (← expr n).wording)
        | _ => expected "either filler, WITH, or WITHOUT in LISTAGG"
      let count ← do
        if ← word "WITH" then pure " WITH COUNT"
        else if ← word "WITHOUT" then pure " WITHOUT COUNT"
        else expected "either WITH or WITHOUT in LISTAGG"
      needWord "COUNT"
      return [say "ON OVERFLOW TRUNCATE" ++ filler ++ say count]
  else return []

/-- What stands between the parentheses of a call, and whether it says how nulls are
treated. The closing parenthesis is taken. -/
structure Arguments where
  wording : Wording
  treatsNulls : Bool

def argumentList : Parser Arguments := do
  let before := (← nullsInDocument) ++ (← returnedType n)
  if ← sign ")" then return ⟨(before.intersperse (say " ")).flatten, false⟩
  else
    let place ← get
    let all ← word "ALL"
    let distinct ← word "DISTINCT"
    if all && distinct then
      throw (.other "Cannot specify both ALL and DISTINCT" (placeOf place))
    else
      let arguments ← commaList (argument n)
      let nulls ← if ← allows Dialect.nullTreatmentArgument then nullTreatment else pure ""
      let order ←
        if ← words ["ORDER", "BY"] then pure [say "ORDER BY " ++ (← sortKeys n)] else pure []
      let limit ←
        if ← word "LIMIT" then pure [say "LIMIT " ++ (← expr n).wording] else pure []
      let having ←
        if ← dialectIn [.generic, .bigquery] <&&> word "HAVING" then
          let extreme ← needOneOf ["MIN", "MAX"]
          pure [say ("HAVING " ++ extreme ++ " ") ++ (← expr n).wording]
        else pure []
      let separator ←
        if ← dialectIn [.generic, .mysql] <&&> word "SEPARATOR" then
          pure [say "SEPARATOR " ++ (← literal)]
        else pure []
      let overflow ← onOverflow n
      let after := (← nullsInDocument) ++ (← returnedType n)
      needSign ")"
      let clauses := before ++ (if nulls = "" then [] else [say nulls]) ++ order ++ limit
        ++ having ++ separator ++ overflow ++ after
      let treatment := if all then say "ALL " else if distinct then say "DISTINCT " else []
      return ⟨treatment ++ commas arguments ++ clauses.flatMap (say " " ++ ·), nulls ≠ ""⟩

/-! ### Calls -/

/-- The words that start a query inside parentheses. -/
def queryStarts : List String := ["SELECT", "WITH"]

def startsQuery : Parser Bool := peekIsOf queryStarts

/-- A call of a function without what may stand around its arguments. -/
def bareCall (name : Name) (arguments : Wording) : Call :=
  ⟨name, [], arguments, [], [], "", [], false⟩

/-- A call from its opening parenthesis on. -/
def callOf (value : Parser Expr) (name : Name) : Parser Call := do
  needSign "("
  if (← allows Dialect.subqueryArgument) && (← startsQuery) then
    let q ← n.query
    needSign ")"
    return bareCall name (say "(" ++ q.wording ++ say ")")
  else
    let inParens (a : Arguments) : Wording := say "(" ++ a.wording ++ say ")"
    let first ← argumentList n
    let second ←
      if ← allows Dialect.parametricCalls <&&> sign "(" then
        pure (some (← argumentList n))
      else pure none
    let parameters :=
      match second with
      | some _ => inParens first
      | none => []
    let arguments := second.getD first
    let within ←
      if ← words ["WITHIN", "GROUP"] then
        needSign "("
        needWords ["ORDER", "BY"]
        let keys ← sortKeys n
        needSign ")"
        pure (say " WITHIN GROUP (ORDER BY " ++ keys ++ say ")")
      else pure []
    let filter ← filterClause
    let nulls ← if arguments.treatsNulls then pure "" else nullTreatment
    let windowed ←
      if ← word "OVER" then
        if ← sign "(" then pure (say " OVER " ++ windowWording (← window n value))
        else pure (say " OVER " ++ (← identWording))
      else pure []
    return ⟨name, parameters, inParens arguments, within, filter,
      if nulls = "" then "" else " " ++ nulls, windowed, false⟩
where
  /-- The word alone, or with a parenthesis behind it, is passed over. -/
  filterClause : Parser Wording := do
    if ← allows Dialect.aggregateFilter <&&> word "FILTER" then
      if ← sign "(" then
        if ← word "WHERE" then
          let condition ← expr n
          needSign ")"
          return say " FILTER (WHERE " ++ condition.wording ++ say ")"
        else return []
      else return []
    else return []

/-- A call that is no expression itself, only what it holds is. -/
def Call.wording (c : Call) : Wording :=
  Name.wording c.name ++ c.parameters ++ c.arguments ++ c.within ++ c.filter ++ say c.nulls
    ++ c.windowed

/-- A function of time, which needs no parentheses. -/
def timeCall (name : Name) : Parser Call := do
  if ← sign "(" then
    let a ← argumentList n
    return bareCall name (say "(" ++ a.wording ++ say ")")
  else return bareCall name []

end EmbeddedSql.Sql.Grammar
