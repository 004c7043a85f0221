import EmbeddedSql.Sql.Grammar.RowPattern
import EmbeddedSql.Sql.Grammar.TableFunction

/-! Tables of a query: names, nested queries, functions that make tables, and joins. -/
namespace EmbeddedSql.Sql.Grammar

open Text

variable (n : Nested)

/-! ### Rows -/

/-- Rows in parentheses behind `title`, each on a line of its own when laid out; inside a row
no line is broken. -/
def valueRows (title : String) (emptyAllowed : Bool) : Parser Wording := do
  let rows ← commaList do
    let marked ← word "ROW"
    needSign "("
    if ← pure emptyAllowed <&&> sign ")" then return (marked, [])
    else
      let members ← exprs n
      needSign ")"
      return (marked, members)
  let mark := if rows.any Prod.fst then "ROW(" else "("
  let row (r : Bool × Wording) : Wording := [.gap, .nest (say mark ++ [.flat r.2] ++ say ")")]
  return say title ++ ((rows.map row).intersperse (say ",")).flatten

/-- A query that is nothing but a body. -/
def bareQuery (body : Body) : Query := ⟨false, [], body, [], [], [], [], []⟩

/-! ### Samples, pivots and versions -/

/-- A sample of a table, behind its first word. -/
def sampleOf (title : String) : Parser Wording := do
  let method := ((← oneOf ["BERNOULLI", "ROW", "SYSTEM", "BLOCK"]).elim "" (" " ++ ·))
  let grouped ← sign "("
  let (amount, bucket) ← do
    if ← pure grouped <&&> word "BUCKET" then
      let bucket ← numberLiteral
      needWords ["OUT", "OF"]
      let total ← numberLiteral
      let on ← exprAfter n "ON"
      pure ([], say " (BUCKET " ++ bucket ++ say " OUT OF " ++ total ++ on ++ say ")")
    else
      let value ←
        match ← attempt (expr n) with
        | some e => pure e.wording
        | none =>
          match ← next with
          | .word value _ _ => pure (say value)
          | _ => failHere "Expecting number or byte length e.g. 100M"
      let unit := ((← oneOf ["ROWS", "PERCENT"]).elim "" (" " ++ ·))
      pure (if grouped then say " (" ++ value ++ say (unit ++ ")")
        else say " " ++ value ++ say unit, [])
  if grouped then needSign ")"
  let seed ←
    match ← oneOf ["REPEATABLE", "SEED"] with
    | some k => pure (say (" " ++ k ++ " (") ++ (← parens numberLiteral) ++ say ")")
    | none => pure []
  let offset ← exprAfter n "OFFSET"
  return say (title ++ method) ++ amount ++ seed ++ bucket ++ offset

/-- A sample of a table, if one is ahead. -/
def sample : Parser Wording := do
  match ← oneOf ["TABLESAMPLE", "SAMPLE"] with
  | some title => return say " " ++ (← sampleOf n title)
  | none => return []

/-- A call whose name is known without its place. -/
def placelessCall : Parser Expr := do
  match ← peek with
  | .word value _ _ =>
    skip 1
    let c ← callOf n (operand n (← bound)) [.ident ⟨value, none, none⟩]
    return .call c
  | _ => skip 1; expected "a function identifier"

def maybeLabelled (e : Expr) : Parser Wording := do
  if ← word "AS" then return e.wording ++ say " AS " ++ (← identWording) else return e.wording

/-- A call of an aggregation, with a second name. The word behind the aggregations is none. -/
def pivotAggregate : Parser Wording := do
  let e ← placelessCall n
  let admits (d : Dialect) (marked : Bool) (keyword : String) (left : List Lexeme) : Bool :=
    keyword ≠ "FOR" && freely namesColumn d marked keyword left
  match ← secondName admits with
  | some (_, i) => return e.wording ++ say " AS " ++ i.wording
  | none => return e.wording

/-- The values that become columns, in parentheses. -/
def pivotValues : Parser Wording := parens do
  if ← word "ANY" then
    if ← words ["ORDER", "BY"] then return say "ANY ORDER BY " ++ (← sortKeys n)
    else return say "ANY"
  else if ← startsQuery then return (← n.query).wording
  else return commas (← commaList do maybeLabelled (← expr n))

/-- A list of readings, which may also stand without parentheses if it has one member. -/
def oneOrGroup (p : Parser Wording) : Parser Wording := do
  if ← peekSign "(" then
    let members ← parens (commaList p)
    match members with
    | [w] => return w
    | ws => return wordingInParens ws
  else p

/-- A table as part of another one. -/
def embedded (r : Relation) : Wording := [.flat [.source ⟨r, []⟩]]

def pivot (r : Relation) : Parser Relation := do
  needSign "("
  let aggregates ← commaList (pivotAggregate n)
  needWord "FOR"
  let column ← oneOrGroup do return (← tighter n .between).wording
  needWord "IN"
  let values ← pivotValues n
  let whenNull ←
    if ← words ["DEFAULT", "ON", "NULL"] then
      let e ← parens (expr n)
      pure (say " DEFAULT ON NULL (" ++ e.wording ++ say ")")
    else pure []
  needSign ")"
  return ⟨[], embedded r ++ say " PIVOT(" ++ commas aggregates ++ say " FOR " ++ column
    ++ say " IN (" ++ values ++ say ")" ++ whenNull ++ say ")", ← tableLabel n, []⟩

def unpivot (r : Relation) : Parser Relation := do
  let nulls ←
    match ← oneOf ["INCLUDE", "EXCLUDE"] with
    | some k => needWord "NULLS"; pure (" " ++ k ++ " NULLS ")
    | none => pure ""
  needSign "("
  let value ← expr n
  needWord "FOR"
  let column ← identWording
  needWord "IN"
  let columns ← columnsInParens do maybeLabelled (← expr n)
  needSign ")"
  return ⟨[], embedded r ++ say (" UNPIVOT" ++ nulls ++ "(") ++ value.wording ++ say " FOR "
    ++ column ++ say " IN (" ++ commas columns ++ say "))", ← tableLabel n, []⟩

/-- The pivots behind a table. -/
def pivots : Nat → Relation → Parser Relation
  | 0, r => return r
  | fuel + 1, r => do
    match ← oneOf ["PIVOT", "UNPIVOT"] with
    | some "PIVOT" => pivots fuel (← pivot n r)
    | some _ => pivots fuel (← unpivot n r)
    | none => return r

/-- The moment at which a table is read. -/
def version : Parser Wording := do
  if ← allows Dialect.tableVersions then
    if ← words ["FOR", "SYSTEM_TIME", "AS", "OF"] then
      return say " FOR SYSTEM_TIME AS OF " ++ (← expr n).wording
    else if ← peekIsOf ["AT", "BEFORE"] then
      let c ← callOf n (operand n (← bound)) (← name n true)
      return say " " ++ (Expr.call c).wording
    else return []
  else return []

/-! ### Named tables -/

/-- Settings in front of which the keyword stands. -/
def settings : Parser (Option Wording) := do
  if ← allows Dialect.columnStoreClauses then
    afterWord "SETTINGS" do return say "SETTINGS " ++ (← keyedValues n)
  else return none

/-- The arguments of a function that makes a table, up to the closing parenthesis. -/
def tableArguments : Nat → Parser (List Wording)
  | 0 => return []
  | fuel + 1 => do
    match ← settings n with
    | some w => return [w]
    | none =>
      let first ← argument n
      let trailing ← allows Dialect.trailingCommas
      if ← listGoesOn trailing fun keyword _ => reservedForColumns.contains keyword then
        return first :: (← tableArguments fuel)
      else return [first]

def indexHint : Parser (Option Wording) := do
  match ← oneOf ["USE", "IGNORE", "FORCE"] with
  | none => return none
  | some use =>
    let kind ← needOneOf ["INDEX", "KEY"]
    let purpose ←
      if ← word "FOR" then
        if ← word "JOIN" then pure "FOR JOIN "
        else
          let k ← needOneOf ["ORDER", "GROUP"]
          needWord "BY"
          pure ("FOR " ++ k ++ " BY ")
      else pure ""
    needSign "("
    let names ← commaListUntil ")" ident
    needSign ")"
    return some (say (" " ++ use ++ " " ++ kind ++ " " ++ purpose) ++ identsWording names)

/-- Hints in parentheses behind `WITH`, which may also start something else. -/
def hints : Parser Wording := do
  if (← peekIs "WITH") && (← peekSignAt 1 "(") then
    skip 1
    let hs ← parens (exprs n)
    return say " WITH (" ++ hs ++ say ")"
  else return []

def namedTable : Parser Relation := do
  let d ← dialect
  let table ← name n true
  let way ←
    if d.bracketPaths && (← peekSign "[") then path n (← bound) true else pure []
  let partitions ←
    if ← pure d.partitionSelection <&&> word "PARTITION" then
      pure (say "PARTITION " ++ identsWording (← identsInParens))
    else pure []
  let moment ← version n
  let arguments ←
    if ← sign "(" then
      let inside ←
        if ← peekSign ")" then pure [] else tableArguments n (← bound)
      needSign ")"
      pure (wordingInParens inside)
    else pure []
  let ordinality ←
    if ← words ["WITH", "ORDINALITY"] then pure (say " WITH ORDINALITY") else pure []
  let early ← if d.sampleBeforeAlias then sample n else pure []
  let label ← tableLabel n
  let indexes ←
    if d.tableHints then pure (((← attempt (many indexHint)).getD []).flatten) else pure []
  let hints ← hints n
  let late ← if d.sampleBeforeAlias then pure [] else sample n
  let turned ← pivots n (← bound) ⟨table, way ++ partitions ++ arguments ++ ordinality ++ early,
    label, indexes ++ hints ++ moment ++ late⟩
  if ← pure d.matchRecognize <&&> word "MATCH_RECOGNIZE" then
    needSign "("
    let inside ← recognition n
    return ⟨[], embedded turned ++ say " MATCH_RECOGNIZE(" ++ inside, ← tableLabel n, []⟩
  else return turned

/-! ### Other tables -/

/-- A nested query behind its opening parenthesis. -/
def derivedTable (mark : String) : Parser Relation := do
  let q ← n.query
  needSign ")"
  return ⟨[], say (mark ++ "(") ++ [.fold, .nest q.wording, .fold] ++ say ")", ← tableLabel n, []⟩

def unnested : Parser Relation := do
  let arrays ← parens (exprs n)
  let ordinality ←
    if ← words ["WITH", "ORDINALITY"] then pure (say " WITH ORDINALITY") else pure []
  let label ← tableLabel n
  let offset ←
    if ← word "WITH" <&&> word "OFFSET" then
      match ← secondName (freely fun _ keyword _ => !reservedForColumns.contains keyword) with
      | some (_, i) => pure (say " WITH OFFSET " ++ i.wording)
      | none => pure (say " WITH OFFSET")
    else pure []
  return ⟨[], say "UNNEST(" ++ arrays ++ say ")" ++ ordinality, label, offset⟩

/-- A table that a function makes from the tables in front of it. -/
def lateralCall : Parser Relation := do
  let name ← nameWording n false
  needSign "("
  let arguments ← if ← peekSign ")" then pure [] else commaList (argument n)
  needSign ")"
  return ⟨[], say "LATERAL " ++ name ++ wordingInParens arguments, ← tableLabel n, []⟩

/-! ### Joins -/

/-- What a join asks of its two sides. -/
def joinCondition : Parser Wording := do
  if ← word "ON" then return say " ON " ++ (← expr n).wording
  else if ← word "USING" then
    let columns ← columnsInParens (nameWording n false)
    return say " USING" ++ wordingInParens columns
  else return []

/-- The words of a join of two sides, if one is ahead. -/
def joinWords (natural : Bool) : Parser (Option String) := do
  let mark := if natural then "NATURAL " else ""
  let joinAfter (s : String) : Parser (Option String) := do
    needWord "JOIN"
    return some (mark ++ s ++ " JOIN ")
  match ← peek with
  | .word _ _ keyword =>
    match keyword with
    | "JOIN" => skip 1; return some (mark ++ "JOIN ")
    | "INNER" | "ANTI" | "SEMI" => skip 1; joinAfter keyword
    | "LEFT" | "RIGHT" =>
      skip 1
      match ← oneOf ["OUTER", "SEMI", "ANTI", "JOIN"] with
      | some "JOIN" => return some (mark ++ keyword ++ " JOIN ")
      | some k => joinAfter (keyword ++ " " ++ k)
      | none =>
        throw (.other ("expected OUTER, SEMI, ANTI or JOIN after " ++ keyword) none)
    | "FULL" =>
      skip 1
      discard (word "OUTER")
      joinAfter "FULL"
    | "OUTER" => expected "LEFT, RIGHT, or FULL"
    | "STRAIGHT_JOIN" => skip 1; return some "STRAIGHT_JOIN "
    | _ => if natural then expected "a join type after NATURAL" else return none
  | _ => if natural then expected "a join type after NATURAL" else return none

/-- A table, and whether it is a join in parentheses. -/
structure Factor where
  relation : Relation
  joined : Bool

def joinInParens (s : Source) (label : Option Alias) : Factor :=
  ⟨⟨[], say "(" ++ [.flat [.source s]] ++ say ")", label, []⟩, true⟩

mutual

/-- A table that is not a join, or a join in parentheses. -/
def factor : Nat → Parser Factor
  | 0 => throw .tooDeep
  | fuel + 1 => do
    let d ← dialect
    let lone (p : Parser Relation) : Parser Factor := return ⟨← p, false⟩
    if ← word "LATERAL" then
      if ← sign "(" then lone (derivedTable n "LATERAL ") else lone (lateralCall n)
    else if ← word "TABLE" then
      let e ← parens (expr n)
      lone (return ⟨[], say "TABLE(" ++ e.wording ++ say ")", ← tableLabel n, []⟩)
    else if ← sign "(" then
      match ← attempt (derivedTable n "") with
      | some r => lone (do pivots n (← bound) r)
      | none => grouped fuel
    else if d.valuesAsTable && (← peekIs "VALUES") && (← peekSignAt 1 "(") then
      skip 1
      let q := bareQuery (.other (← valueRows n "VALUES" false))
      lone (return ⟨[], say "(" ++ [.fold, .nest q.wording, .fold] ++ say ")",
        ← tableLabel n, []⟩)
    else if ← pure d.unnestTables <&&> word "UNNEST" then lone (unnested n)
    else if let some w ← madeTable n then lone (return ⟨[], w, ← tableLabel n, []⟩)
    else lone (namedTable n)

/-- A join or a table behind an opening parenthesis. -/
def grouped : Nat → Parser Factor
  | 0 => throw .tooDeep
  | fuel + 1 => do
    let (first, joins) ← joinedTables fuel
    let source : Source := ⟨first.relation, joins⟩
    if !joins.isEmpty || first.joined then
      needSign ")"
      return joinInParens source (← tableLabel n)
    else if ← allows Dialect.parenthesizedTables then
      needSign ")"
      match ← tableLabel n, first.relation.label with
      | some _, some inner =>
        throw (.other ("duplicate alias " ++ plain inner.wording) none)
      | some outer, none => return ⟨{first.relation with label := some outer}, false⟩
      | none, _ => return first
    else expected "joined table"

def joinedTables : Nat → Parser (Factor × List Join)
  | 0 => throw .tooDeep
  | fuel + 1 => do
    let first ← factor fuel
    return (first, ← joinsFrom fuel)

/-- The joins behind a table. -/
def joinsFrom : Nat → Parser (List Join)
  | 0 => throw .tooDeep
  | fuel + 1 => do
    let mark ← if ← word "GLOBAL" then pure "GLOBAL " else pure ""
    let side : Parser Relation := return (← factor fuel).relation
    if ← word "CROSS" then
      let title ← do
        if ← word "JOIN" then pure "CROSS JOIN "
        else if ← word "APPLY" then pure "CROSS APPLY "
        else expected "JOIN or APPLY after CROSS"
      let relation ← side
      let condition ←
        if title = "CROSS JOIN " && (← allows Dialect.crossJoinConstraint) then joinCondition n
        else pure []
      return ⟨say (mark ++ title), relation, condition⟩ :: (← joinsFrom fuel)
    else if ← word "OUTER" then
      needWord "APPLY"
      let relation ← side
      return ⟨say (mark ++ "OUTER APPLY "), relation, []⟩ :: (← joinsFrom fuel)
    else if ← word "ASOF" then
      needWord "JOIN"
      let relation ← side
      needWord "MATCH_CONDITION"
      let condition ← parens (expr n)
      let more ← joinCondition n
      return ⟨say (mark ++ "ASOF JOIN "), relation,
        say " MATCH_CONDITION (" ++ condition.wording ++ say ")" ++ more⟩ :: (← joinsFrom fuel)
    else
      let natural ← word "NATURAL"
      match ← joinWords natural with
      | none => return []
      | some title =>
        let relation ← rightSide fuel
        let condition ← if natural then pure [] else joinCondition n
        return ⟨say (mark ++ title), relation, condition⟩ :: (← joinsFrom fuel)

/-- The right side of a join. Where joins associate to the right, it takes those behind it. -/
def rightSide : Nat → Parser Relation
  | 0 => throw .tooDeep
  | fuel + 1 => do
    let relation := (← factor fuel).relation
    if !(← allows Dialect.leftAssociativeJoins)
        && (← peekIsOf ["JOIN", "INNER", "LEFT", "RIGHT", "FULL"]) then
      return (joinInParens ⟨relation, ← joinsFrom fuel⟩ none).relation
    else return relation

end

/-- A table with its joins. -/
def source : Parser Source := do
  let (first, joins) ← joinedTables n (4 * (← bound))
  return ⟨first.relation, joins⟩

/-- Tables with commas between them. -/
def sources : Parser (List Source) := do
  let trailing ← allows Dialect.trailingCommasInFrom
  let d ← dialect
  separated (source n) (listGoesOn trailing (endsTables d))

end EmbeddedSql.Sql.Grammar
