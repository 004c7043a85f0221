import EmbeddedSql.Sql.Grammar.Source

/-! Queries: `SELECT` and what may stand in its place, set operations, and the clauses around
them. -/
namespace EmbeddedSql.Sql.Grammar

open Text

variable (n : Nested)

/-- A clause of its own line, whose content is indented. -/
def clause (title : String) (content : Wording) : Wording :=
  .gap :: say title ++ [.gap, .nest content]

/-- A clause of a keyword and an expression, on lines of its own, if the keyword is there. -/
def exprClause (k : String) : Parser Wording := do
  if ← word k then return clause k (← expr n).wording else return []

/-! ### Items -/

def excluded : Parser Wording := do
  if ← word "EXCLUDE" then
    if ← peekSign "(" then return say " EXCLUDE " ++ identsWording (← identsInParens)
    else return say " EXCLUDE " ++ (← identWording)
  else return []

def renamedColumn : Parser Wording := do
  let column ← identWording
  needWord "AS"
  return column ++ say " AS " ++ (← identWording)

/-- A column whose value another expression replaces. -/
def replacedColumn : Parser Wording := do
  let e ← expr n
  let joint := if ← word "AS" then " AS " else " "
  return e.wording ++ say joint ++ (← identWording)

/-- What may stand behind a star. -/
def starOptions : Parser Wording := do
  let d ← dialect
  let pattern ←
    if ← pure (d.isOneOf [.generic, .snowflake]) <&&> word "ILIKE" then
      match ← peek with
      | .text .single s => skip 1; pure (say " ILIKE " ++ singleQuoted s)
      | _ => expected "ilike pattern"
    else pure []
  let exclude ← if pattern.isEmpty && d.wildcardExclude then excluded else pure []
  let except ←
    if ← pure d.wildcardExcept <&&> word "EXCEPT" then
      if ← peekSign "(" then pure (say " EXCEPT " ++ identsWording (← identsInParens))
      else pure (say " EXCEPT " ++ identsWording [← ident])
    else pure []
  let replace ←
    if ← pure (d.isOneOf [.generic, .bigquery, .clickhouse, .duckdb, .snowflake])
        <&&> word "REPLACE" then
      if ← sign "(" then
        let columns ← commaList (replacedColumn n)
        needSign ")"
        pure (say " REPLACE " ++ wordingInParens columns)
      else expected "( after REPLACE but"
    else pure []
  let rename ←
    if ← pure (d.isOneOf [.generic, .snowflake]) <&&> word "RENAME" then
      if ← peekSign "(" then
        pure (say " RENAME " ++ wordingInParens (← parens (commaList renamedColumn)))
      else pure (say " RENAME " ++ (← renamedColumn))
    else pure []
  return pattern ++ exclude ++ except ++ replace ++ rename

def item : Parser Item := do
  let d ← dialect
  let root ← pure (decide (d = .snowflake)) <&&> word "CONNECT_BY_ROOT"
  match ← starred n with
  | .star => return .star [] (← starOptions n)
  | .starOf q => return .star (q.wording ++ say ".") (← starOptions n)
  | .expr e =>
    match e with
    | .column [⟨value, none, _⟩] =>
      if lower value = "from" then failHere ("Expected an expression, found: " ++ value)
      else labelled root e
    | .binary (.column [i]) "=" right =>
      if d.aliasByEquals then return .expr right (some i) else labelled root e
    | _ =>
      if ← pure d.expressionStar <&&> signs [".", "*"] then
        return .star (e.wording ++ say ".") (← starOptions n)
      else labelled root e
where
  labelled (root : Bool) (e : Expr) : Parser Item := do
    let e := if root then .phrase (say "CONNECT_BY_ROOT " ++ e.wording) else e
    return .expr e (← columnLabel)

def items : Parser (List Item) := do
  let trailing :=
    (← allows Dialect.trailingCommas) || (← allows Dialect.trailingCommasInProjection)
  let d ← dialect
  separated (item n) (listGoesOn trailing fun keyword left => !namesColumn d keyword left)

/-- Items as wording, where a clause has them. -/
def Item.wording : Item → Wording
  | .expr e none => e.wording
  | .expr e (some i) => e.wording ++ say " AS " ++ i.wording
  | .star qualifier options => [.flat (qualifier ++ say "*" ++ options)]

/-! ### Grouping -/

/-- Expressions in parentheses; without them, one expression, if `lift` says so. -/
def tuple (lift : Bool) : Parser (List Wording) := do
  if lift && !(← peekSign "(") then return [(← expr n).wording]
  else
    needSign "("
    if ← sign ")" then return []
    else
      let members ← commaList (expr n)
      needSign ")"
      return members.map Expr.wording

def tupleWording : List Wording → Wording
  | [w] => w
  | ws => wordingInParens ws

def groupingKey : Parser Expr := do
  if !(← allows Dialect.groupingSets) then expr n
  else if ← words ["GROUPING", "SETS"] then
    let sets ← parens (commaList (tuple n false))
    return .phrase (say "GROUPING SETS " ++ wordingInParens (sets.map wordingInParens))
  else
    match ← oneOf ["CUBE", "ROLLUP"] with
    | some k =>
      let sets ← parens (commaList (tuple n true))
      return .phrase (say (k ++ " ") ++ wordingInParens (sets.map tupleWording))
    | none => if ← signs ["(", ")"] then return .phrase (say "()") else expr n

def groupingModifier : Parser (Option String) := do
  if ← allows Dialect.groupByModifiers <&&> word "WITH" then
    return some (" WITH " ++ (← needOneOf ["ROLLUP", "CUBE", "TOTALS"]))
  else return none

def groupBy : Parser Wording := do
  if ← words ["GROUP", "BY"] then
    let keys ←
      if ← word "ALL" then pure none else pure (some (← commaList (groupingKey n)))
    let modifiers ← many groupingModifier
    let sets ←
      if ← words ["GROUPING", "SETS"] then
        let sets ← parens (commaList (tuple n true))
        pure (say " GROUPING SETS " ++ wordingInParens (sets.map wordingInParens))
      else pure []
    let behind := say (String.join modifiers) ++ sets
    match keys with
    | none => return .gap :: say "GROUP BY ALL" ++ [.flat behind]
    | some es => return clause "GROUP BY" (commas (es.map Expr.wording)) ++ [.flat behind]
  else return []

/-! ### `SELECT` -/

def valueTableMode : Parser Wording := do
  if (← dialect) ≠ .bigquery then return []
  else
    match ← firstWords [["DISTINCT", "AS", "STRUCT"], ["DISTINCT", "AS", "VALUE"],
        ["ALL", "AS", "STRUCT"], ["ALL", "AS", "VALUE"]] with
    | some "ALL AS STRUCT" => return say " AS STRUCT"
    | some "ALL AS VALUE" => return say " AS VALUE"
    | some mode => return say (" " ++ mode)
    | none =>
      if ← word "AS" then
        match ← oneOf ["VALUE", "STRUCT"] with
        | some k => return say (" AS " ++ k)
        | none => expected "VALUE or STRUCT"
      else return []

/-- How many rows are kept, if they are counted in front of the items. -/
def top : Parser Wording := do
  if ← word "TOP" then
    let amount ←
      if ← sign "(" then
        let e ← expr n
        needSign ")"
        pure (say "(" ++ e.wording ++ say ")")
      else pure (say (← wholeNumber))
    let percent := if ← word "PERCENT" then " PERCENT" else ""
    let ties := if ← words ["WITH", "TIES"] then " WITH TIES" else ""
    return [.flat (say " TOP " ++ amount ++ say (percent ++ ties))]
  else return []

/-- Whether rows that are alike are dropped. That all are kept goes without saying. -/
def distinction : Parser Wording := do
  let place ← get
  let all ← word "ALL"
  if ← word "DISTINCT" then
    if all then throw (.other "Cannot specify both ALL and DISTINCT" (placeOf place))
    else if ← word "ON" then
      needSign "("
      let columns ← if ← peekSign ")" then pure [] else exprs n
      needSign ")"
      return [.flat (say " DISTINCT ON (" ++ columns ++ say ")")]
    else return say " DISTINCT"
  else return []

def into : Parser Wording := do
  if ← word "INTO" then
    let temporary := if (← oneOf ["TEMP", "TEMPORARY"]).isSome then " TEMPORARY" else ""
    let unlogged := if ← word "UNLOGGED" then " UNLOGGED" else ""
    let table := if ← word "TABLE" then " TABLE" else ""
    return say (" INTO" ++ temporary ++ unlogged ++ table ++ " ") ++ (← nameWording n false)
  else return []

def lateralViews : Parser Wording := do
  let views ← many do
    if ← words ["LATERAL", "VIEW"] then
      let outer := if ← word "OUTER" then " OUTER" else ""
      let e ← expr n
      let table ← nameWording n false
      let labels ← commaList do
        let barred := ["WHERE", "GROUP", "CLUSTER", "HAVING", "LATERAL"]
        secondName (freely fun _ keyword _ => !barred.contains keyword)
      let columns := labels.filterMap (·.map fun (_, i) => i.wording)
      return some [Piece.flat (say (" LATERAL VIEW" ++ outer ++ " ") ++ e.wording ++ say " "
        ++ table ++ if columns.isEmpty then [] else say " AS " ++ commas columns)]
    else return none
  return views.flatten

def namedWindow : Parser Wording := do
  let name ← identWording
  needWord "AS"
  if ← sign "(" then
    return [.flat (name ++ say " AS "
      ++ windowWording (← window n (operand n (← bound))))]
  else if ← allows Dialect.namedWindowReference then
    return [.flat (name ++ say " AS " ++ (← identWording))]
  else expected "("

def windows : Parser Wording := do
  if ← word "WINDOW" then
    return .gap :: say "WINDOW" ++ .gap :: commas (← commaList (namedWindow n))
  else return []

def qualification : Parser Wording := do
  if ← word "QUALIFY" then
    return .gap :: say "QUALIFY" ++ .gap :: (← expr n).wording
  else return []

/-- The steps of a walk through a hierarchy, and where it starts. -/
def connection : Parser Wording := do
  let steps : Parser Wording := do
    needWords ["CONNECT", "BY"]
    return commas ((← withReader ({· with connecting := true}) (commaList (expr n))).map
      Expr.wording)
  let start : Parser Expr := do
    needWords ["START", "WITH"]
    expr n
  if ← allows Dialect.connectBy then
    let wording (e : Expr) (w : Wording) : Wording :=
      [.gap, .flat (say "START WITH " ++ e.wording ++ say " CONNECT BY " ++ w)]
    if ← peekWords ["CONNECT", "BY"] then
      let w ← steps
      return wording (← start) w
    else if ← peekIsOf ["START", "CONNECT"] then
      let e ← start
      return wording e (← steps)
    else return []
  else return []

def listClause (ks : List String) (p : Parser Wording) : Parser Wording := do
  if ← words ks then return clause (" ".intercalate ks) (← p) else return []

/-- A `SELECT`, or sources in front of one. -/
def select : Parser Select := do
  let d ← dialect
  let early ←
    if ← pure d.fromFirst <&&> word "FROM" then pure (some (← sources n)) else pure none
  match early with
  | some ss =>
    if !(← peekIs "SELECT") then
      return ⟨[], [], [], ss, .sourcesOnly, [], [], [], false, []⟩
    else withItems early
  | none => withItems early
where
  withItems (early : Option (List Source)) : Parser Select := do
    let d ← dialect
    needWord "SELECT"
    let mode ← valueTableMode
    let first ← if d.topBeforeDistinct then top n else pure []
    let distinct ← distinction n
    let second ← if d.topBeforeDistinct then pure [] else top n
    let items ←
      if d.emptyProjection && (← peekIs "FROM") then pure [] else items n
    let exclude ← if d.selectExclude then excluded else pure []
    let target ← into n
    let found ←
      match early with
      | some ss => pure ss
      | none => if ← word "FROM" then sources n else pure []
    let views ← lateralViews n
    let prewhere ←
      if ← pure d.columnStoreClauses <&&> word "PREWHERE" then
        pure (say " PREWHERE " ++ (← expr n).wording)
      else pure []
    let condition ← exprClause n "WHERE"
    let groups ← groupBy n
    let cluster ← listClause ["CLUSTER", "BY"] (exprs n)
    let distribute ← listClause ["DISTRIBUTE", "BY"] (exprs n)
    let sort ← listClause ["SORT", "BY"] (sortKeys n)
    let having ← exprClause n "HAVING"
    let before ← windows n
    let qualify ← qualification n
    let after ← if before.isEmpty && !qualify.isEmpty then windows n else pure []
    let connect ← connection n
    return ⟨mode ++ first ++ distinct ++ second, items, exclude ++ target, found,
      if early.isSome then .sourcesFirst else .itemsFirst,
      views ++ prewhere ++ condition ++ groups ++ cluster ++ distribute ++ sort ++ having,
      before ++ after, qualify, !before.isEmpty, connect⟩

/-! ### Bodies -/

/-- The name of a table behind `TABLE`. Three tokens are taken, whatever they are. -/
def wholeTable : Parser Wording := do
  let left ← get
  let part (k : Nat) (what : String) : Parser String :=
    match tokenAt k left with
    | .word value _ _ => return value
    | _ => expectedAt what (left.drop k)
  let name ←
    if tokenAt 1 left = .sign "." then
      let schema ← part 0 "Schema name"
      pure (schema ++ "." ++ (← part 2 "Table name"))
    else part 0 "Table name"
  skip 3
  return say ("TABLE " ++ name)

def setOperators : List String := ["UNION", "EXCEPT", "INTERSECT", "MINUS"]

/-- How tightly a set operator binds. -/
def setPower (k : String) : Nat := if k = "INTERSECT" then 20 else 10

def setQuantifier : Parser String := do
  match ← firstWords [["DISTINCT", "BY", "NAME"], ["BY", "NAME"], ["ALL", "BY", "NAME"],
      ["ALL"], ["DISTINCT"]] with
  | some q => return " " ++ q
  | none => return ""

def bodyStart : Parser Body := do
  if (← peekIs "SELECT") || ((← allows Dialect.fromFirst) && (← peekIs "FROM")) then
    return .select (← select n)
  else if ← sign "(" then
    let q ← n.query
    needSign ")"
    return .parenthesized q
  else
    match ← oneOf ["VALUES", "VALUE"] with
    | some title => return .other (← valueRows n title ((← dialect) = .mysql))
    | none =>
      if ← word "TABLE" then return .other (← wholeTable)
      else expected "SELECT, VALUES, or a subquery in the query body"

/-- Set operations behind `left` that bind tighter than `least`. `tighter` reads the right
side of one. -/
def setOperations (least : Nat) (tighter : Nat → Parser Body) : Nat → Body → Parser Body
  | 0, left => return left
  | fuel + 1, left => do
    match ← peek with
    | .word _ _ k =>
      if setOperators.contains k && least < setPower k then
        skip 1
        let quantifier ← setQuantifier
        let right ← tighter (setPower k)
        setOperations least tighter fuel (.combined left (k ++ quantifier) right)
      else return left
    | _ => return left

/-- A body whose set operators bind tighter than `least`. Operators have two powers, so the
right side of a right side is no set operation. -/
def body : Nat → Nat → Parser Body
  | 0, _ => bodyStart n
  | depth + 1, least => do
    let start ← bodyStart n
    setOperations least (body depth) (← bound) start

/-! ### Clauses behind the body -/

def interpolation : Parser Wording := do
  let column ← identWording
  if ← word "AS" then return column ++ say " AS " ++ (← expr n).wording else return column

def orderClause : Parser Wording := do
  if ← words ["ORDER", "BY"] then
    if ← allows Dialect.orderByAll <&&> word "ALL" then
      let direction ← ascOrDesc
      return say (" ORDER BY ALL" ++ direction ++ (← nullsOrder))
    else
      let keys ← sortKeys n
      let fill ←
        if ← allows Dialect.columnStoreClauses <&&> word "INTERPOLATE" then
          if ← sign "(" then
            let columns ← commaListUntil ")" (interpolation n)
            needSign ")"
            pure (say " INTERPOLATE " ++ wordingInParens columns)
          else pure (say " INTERPOLATE")
        else pure []
      return [.flat (say " ORDER BY " ++ keys ++ fill)]
  else return []

/-- The number of rows passed over, behind `OFFSET`. -/
def offset : Parser Wording := do
  let e ← expr n
  let unit := ((← oneOf ["ROW", "ROWS"]).elim "" (" " ++ ·))
  return say " OFFSET " ++ e.wording ++ say unit

def limitClause : Parser Wording := do
  let before ← if ← word "OFFSET" then offset n else pure []
  if ← word "LIMIT" then
    let limit ← if ← word "ALL" then pure none else pure (some (← expr n))
    let comma ←
      allows Dialect.commaLimit <&&> pure (before.isEmpty && limit.isSome) <&&> sign ","
    let amount := limit.elim [] fun e => say " LIMIT " ++ e.wording
    if comma then return [.flat (amount ++ say ", " ++ (← expr n).wording)]
    else
      let columns ←
        if ← allows Dialect.columnStoreClauses <&&> word "BY" then
          pure (say " BY " ++ (← exprs n))
        else pure []
      let after ←
        if ← pure before.isEmpty <&&> word "OFFSET" then offset n else pure []
      return [.flat (amount ++ before ++ after ++ columns)]
  else return [.flat before]

def fetchClause : Parser Wording := do
  if ← word "FETCH" then
    discard (oneOf ["FIRST", "NEXT"])
    let amount ←
      if (← oneOf ["ROW", "ROWS"]).isSome then pure []
      else
        let value ← literal
        let percent := if ← word "PERCENT" then " PERCENT" else ""
        discard (oneOf ["ROW", "ROWS"])
        pure (value ++ say (percent ++ " "))
    let extent ← do
      if ← word "ONLY" then pure "ONLY"
      else if ← words ["WITH", "TIES"] then pure "WITH TIES"
      else pure "ONLY"
    return say " FETCH FIRST " ++ amount ++ say ("ROWS " ++ extent)
  else return []

/-- A text in parentheses. -/
def textInParens : Parser String := do return "('" ++ (← parens literalText) ++ "')"

/-- Options behind commas, a title and its content each: words alone, or `ROOT` and a text. An
option that is none of them is passed over. -/
def formOptions (titles : List String) : Parser (List (String × String)) := many do
  if ← sign "," then
    match ← oneOf ("ROOT" :: titles) with
    | some "ROOT" => return some ("ROOT", ← textInParens)
    | some "BINARY" => needWord "BASE64"; return some ("BINARY", " BASE64")
    | some title => return some (title, "")
    | none => return some ("", "")
  else return none

/-- Options in the order of `titles`, the last one of each title. -/
def orderedOptions (titles : List String) (options : List (String × String)) : String :=
  String.join (titles.map fun title =>
    match options.reverse.lookup title with
    | some content => ", " ++ title ++ content
    | none => "")

/-- The form in which a result is sent, behind `FOR`. -/
def resultForm : Parser (Option String) := do
  if ← word "XML" then
    let kind ←
      match ← oneOf ["RAW", "AUTO", "EXPLICIT", "PATH"] with
      | some k =>
        if (k = "RAW" || k = "PATH") && (← peekSign "(") then pure (k ++ (← textInParens))
        else pure k
      | none => throw (.other "Expected FOR XML [RAW | AUTO | EXPLICIT | PATH ]" none)
    let options ← formOptions ["ELEMENTS", "BINARY", "TYPE"]
    return some (" FOR XML " ++ kind
      ++ orderedOptions ["BINARY", "TYPE", "ROOT", "ELEMENTS"] options)
  else if ← word "JSON" then
    let kind ←
      match ← oneOf ["AUTO", "PATH"] with
      | some k => pure k
      | none => throw (.other "Expected FOR JSON [AUTO | PATH ]" none)
    let options ← formOptions ["INCLUDE_NULL_VALUES", "WITHOUT_ARRAY_WRAPPER"]
    return some (" FOR JSON " ++ kind
      ++ orderedOptions ["ROOT", "INCLUDE_NULL_VALUES", "WITHOUT_ARRAY_WRAPPER"] options)
  else if ← word "BROWSE" then return some " FOR BROWSE"
  else return none

/-- Rows that stay locked, behind `FOR`. -/
def lock : Parser Wording := do
  let kind ← needOneOf ["UPDATE", "SHARE"]
  let tables ← if ← word "OF" then pure (say " OF " ++ (← nameWording n false)) else pure []
  let wait ← do
    if ← word "NOWAIT" then pure " NOWAIT"
    else if ← words ["SKIP", "LOCKED"] then pure " SKIP LOCKED"
    else pure ""
  return say (" FOR " ++ kind) ++ tables ++ say wait

/-- Locks, and the form of the result behind them. -/
def forClauses : Nat → Parser Wording
  | 0 => return []
  | fuel + 1 => do
    if ← word "FOR" then
      match ← resultForm with
      | some s => return say s
      | none =>
        let first ← lock n
        return first ++ (← forClauses fuel)
    else return []

def formatClause : Parser Wording := do
  if ← allows Dialect.columnStoreClauses <&&> word "FORMAT" then
    if ← word "NULL" then return say " FORMAT NULL" else return say " FORMAT " ++ (← identWording)
  else return []

/-! ### Pipes -/

/-- Where a value is stored. -/
def assignment : Parser Assignment := do
  let (targets, grouped) ←
    if ← sign "(" then
      let names ← commaList (name n false)
      needSign ")"
      pure (names, true)
    else pure ([← name n false], false)
  needSign "="
  return ⟨targets, grouped, ← expr n⟩

def Assignment.wording (a : Assignment) : Wording :=
  let targets := a.targets.map Name.wording
  (if a.grouped then wordingInParens targets else commas targets) ++ say " = "
    ++ a.value.wording

def assignments : Parser (List Assignment) := commaList (assignment n)

/-- An expression of an aggregation, with a second name and an order. -/
def aggregateKey : Parser Wording := do
  let e ← expr n
  let label ← secondName (freely fun _ keyword _ => !(["ASC", "DESC", "GROUP"].contains keyword))
  return e.wording ++ (label.elim [] fun (_, i) => say " AS " ++ i.wording) ++ say (← ascOrDesc)

def aggregateKeys : Parser Wording := return commas (← commaList (aggregateKey n))

/-- A second name behind a step of a pipe. Any word is one. -/
def stepLabel : Parser Wording := do
  if ← word "AS" then return say " AS " ++ (← identWording)
  else
    match ← attempt identWording with
    | some w => return say " AS " ++ w
    | none => return []

/-- One step of a pipe, whose first keyword is `k`. -/
def pipeStep (k : String) : Parser Wording := do
  match k with
  | "SELECT" | "EXTEND" => return say (k ++ " ") ++ commas ((← commaList (item n)).map Item.wording)
  | "SET" => return say "SET " ++ commas ((← assignments n).map Assignment.wording)
  | "DROP" => return say "DROP " ++ commas ((← looseWords).map Ident.wording)
  | "AS" => return say "AS " ++ (← identWording)
  | "WHERE" => return say "WHERE " ++ (← expr n).wording
  | "LIMIT" => return say "LIMIT " ++ (← expr n).wording ++ (← exprAfter n "OFFSET")
  | "AGGREGATE" =>
    let whole ←
      if ← peekIs "GROUP" then pure [] else pure (say " " ++ (← aggregateKeys n))
    let groups ←
      if ← words ["GROUP", "BY"] then pure (say " GROUP BY " ++ (← aggregateKeys n))
      else pure []
    return say "AGGREGATE" ++ whole ++ groups
  | "ORDER" =>
    discard (needOneOf ["BY"])
    return say "ORDER BY " ++ (← sortKeys n)
  | "RENAME" =>
    return say "RENAME " ++ commas (← commaList do
      let column ← identWording
      discard (word "AS")
      return column ++ say " AS " ++ (← identWording))
  | "UNION" | "INTERSECT" | "EXCEPT" =>
    let quantifier ← setQuantifier
    if k ≠ "UNION" && !quantifier.startsWith " DISTINCT" then
      throw (.other (k ++ " pipe operator requires DISTINCT modifier") none)
    else
      let queries ← commaList do
        let q ← parens n.query
        return say "(" ++ q.wording ++ say ")"
      return say (k ++ quantifier ++ " ") ++ commas queries
  | "CALL" =>
    let c ← callOf n (operand n (← bound)) (← name n false)
    return say "CALL " ++ Call.wording c ++ (← stepLabel)
  | "TABLESAMPLE" => sampleOf n "TABLESAMPLE"
  | "PIVOT" =>
    needSign "("
    let aggregates ← commaList (pivotAggregate n)
    needWord "FOR"
    let column ← separated ident (sign ".")
    needWord "IN"
    let values ← pivotValues n
    needSign ")"
    return say "PIVOT(" ++ commas aggregates ++ say " FOR " ++ pathWording column ++ say " IN ("
      ++ values ++ say "))" ++ (← stepLabel)
  | "UNPIVOT" =>
    needSign "("
    let value ← identWording
    needWord "FOR"
    let column ← identWording
    needWord "IN"
    let columns ← parens (commaList identWording)
    needSign ")"
    return say "UNPIVOT(" ++ value ++ say " FOR " ++ column ++ say " IN (" ++ commas columns
      ++ say "))" ++ (← stepLabel)
  | _ => return []

def pipeWords : List String := [
  "SELECT", "EXTEND", "SET", "DROP", "AS", "WHERE", "LIMIT", "AGGREGATE", "ORDER",
  "TABLESAMPLE", "RENAME", "UNION", "INTERSECT", "EXCEPT", "CALL", "PIVOT", "UNPIVOT", "JOIN",
  "INNER", "LEFT", "RIGHT", "FULL", "CROSS"]

def pipes : Parser Wording := do
  if ← allows Dialect.pipeOperator then
    let steps ← many do
      if ← sign "|>" then
        if ← peekIsOf ["JOIN", "INNER", "LEFT", "RIGHT", "FULL", "CROSS"] then
          match ← joinsFrom n (4 * (← bound)) with
          | [j] =>
            let whole : Source := ⟨⟨[], [], none, []⟩, [j]⟩
            return some (say " |>" ++ [.flat [.source whole]])
          | _ => throw (.other "Join pipe operator must have a single join" none)
        else return some (say " |> " ++ [.flat (← pipeStep n (← needOneOf pipeWords))])
      else return none
    return steps.flatten
  else return []

/-! ### Queries -/

def materialization : Parser String := do
  if (← dialect) = .postgres then
    if ← word "MATERIALIZED" then return "MATERIALIZED "
    else if ← words ["NOT", "MATERIALIZED"] then return "NOT MATERIALIZED "
    else return ""
  else return ""

/-- A query with a name. -/
def cte : Parser Cte := do
  let label ← ident
  let columns ←
    if ← peekIs "AS" then pure []
    else if ← sign "(" then
      let columns ← commaList do
        let column ← ident
        let type := (← attempt (typeWording n)).getD []
        return (column, String.ofList (writePieces false 0 type))
      needSign ")"
      pure columns
    else pure []
  needWord "AS"
  let mode ← materialization
  let q ← parens n.query
  let origin ← afterWord "FROM" ident
  return ⟨⟨false, label, columns⟩, mode, q, origin⟩

/-- The clauses behind a body. -/
def withClauses (recursive : Bool) (ctes : List Cte) (b : Body) : Parser Query := do
  let order ← orderClause n
  let limit ← limitClause n
  let chosen ← settings n
  let fetch ← fetchClause
  let locks ← forClauses n (← bound)
  let format ← formatClause
  let pipes ← pipes n
  return ⟨recursive, ctes, b, order, limit, chosen.elim [] (say " " ++ ·), fetch,
    locks ++ format ++ pipes⟩

end EmbeddedSql.Sql.Grammar
