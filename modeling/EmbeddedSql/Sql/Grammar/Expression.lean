import EmbeddedSql.Sql.Grammar.Operand

/-! Expressions: operands, the way into them, and the operators between them. -/
namespace EmbeddedSql.Sql.Grammar

open Text

variable (n : Nested)

/-! ### Ways into a value -/

/-- A step into a value. -/
inductive Step
  | field (e : Expr)
  | subscript (inside : Wording)

def Step.wording : Step → Wording
  | field e => say "." ++ e.wording
  | subscript inside => say "[" ++ inside ++ say "]"

/-- The words of a value and steps into it, if they are nothing but words. -/
def wordsOf? (root : Expr) (steps : List Step) : Option (List Ident) := do
  let first ←
    match root with
    | .column [i] => some i
    | _ => none
  let rest ← steps.mapM fun
    | .field (.column [i]) => some i
    | _ => none
  some (first :: rest)

/-- The name of a call that the last of the steps makes, if all steps before it are words. -/
def calledThrough? (root : Expr) (steps : List Step) : Option Call := do
  match steps.reverse with
  | .field (.call c) :: before =>
    let path ← wordsOf? root before.reverse
    some {c with name := path.map .ident ++ c.name}
  | _ => none

/-- A value with the steps into it. Words alone are a column, and words in front of a call
belong to its name. -/
def stepInto (root : Expr) (steps : List Step) : Expr :=
  if steps.isEmpty then root
  else
    match wordsOf? root steps with
    | some path => .column path
    | none =>
      match calledThrough? root steps with
      | some c => .call c
      | none => .access root (steps.flatMap Step.wording)

/-- An index, or a range of them, up to the closing bracket. -/
def subscript : Parser Wording := do
  let lower ← if ← sign ":" then pure none else pure (some (← expr n))
  match lower with
  | some e =>
    if ← sign "]" then return e.wording
    else
      needSign ":"
      return e.wording ++ say ":" ++ (← upper)
  | none =>
    if ← sign "]" then return say ":" else return say ":" ++ (← upper)
where
  upper : Parser Wording := do
    if ← sign "]" then return []
    else
      let e ← expr n
      if ← sign "]" then return e.wording
      else
        needSign ":"
        if ← sign "]" then return e.wording
        else
          let stride ← expr n
          needSign "]"
          return e.wording ++ say ":" ++ stride.wording

/-- What stands behind a dot: a name in quotes, or an expression that no operator ends. -/
def fieldStep : Parser Step := do
  match ← get with
  | ⟨.text .single s, first, last, _⟩ :: left =>
    set left
    return .field (.column [⟨s, some '\'', some (first, last)⟩])
  | _ => return .field (← tighter n .period)

/-- The steps of a field that was read with steps of its own. -/
def spread : Step → List Step
  | .field (.column path) => path.map fun i => .field (.column [i])
  | s => [s]

/-- The steps into a value, and whether a star ended them. -/
def stepsFrom : Nat → List Step → Parser (List Step × Bool)
  | 0, read => return (read, false)
  | fuel + 1, read => do
    if ← peekSign "." then
      if ← peekSignAt 1 "*" then
        if (← dialect) = .postgres then skip 2; return (read, true)
        else return (read, false)
      else
        skip 1
        stepsFrom fuel (read ++ spread (← fieldStep n))
    else if ← (return !(← allows Dialect.bracketPaths)) <&&> sign "[" then
      stepsFrom fuel (read ++ [.subscript (← subscript n)])
    else return (read, false)

/-- The mark of the side of an outer join whose rows may be missing. -/
def outerJoined (path : List Ident) : Expr := .phrase [.expr (.column path), .text " (+)"]

def outerJoined? : Expr → Option (List Ident)
  | .phrase [.expr (.column path), .text " (+)"] => some path
  | _ => none

/-- A value with the steps into it, the last of which may be a marked column: the mark belongs
to the whole. The value starts where `start` does. -/
def steppedInto (start : List Lexeme) (root : Expr) (steps : List Step) : Parser Expr := do
  match steps with
  | [.field e] =>
    match outerJoined? e, root with
    | some path, .column [i] => return outerJoined (i :: path)
    | some _, _ =>
      let inside := start.dropWhile fun l => l.token = .sign "("
      throw (.other "column identifier before (+)" (placeOf inside))
    | none, _ => return stepInto root steps
  | _ => return stepInto root steps

/-- A value with the steps into it. The value starts where `start` does. -/
def withSteps (start : List Lexeme) (root : Expr) : Parser Expr := do
  let (steps, starry) ← stepsFrom n (← bound) []
  if starry then
    match wordsOf? root steps with
    | some path => return .phrase (pathWording path ++ say ".*")
    | none => expected "an identifier or a '*' after '.'"
  else if ← outerJoinAhead then
    let last := start.drop (start.length - (← get).length - 1)
    skip 3
    match wordsOf? root steps with
    | some path => return outerJoined path
    | none => expectedAt "column identifier before (+)" last
  else steppedInto start root steps

/-! ### Operators -/

/-- The first of some runs of keywords that is next, as one text. -/
def firstWords : List (List String) → Parser (Option String)
  | [] => return none
  | ks :: rest => do
    if ← words ks then return some (" ".intercalate ks) else firstWords rest

/-- A test behind `IS`. -/
def isTest (e : Expr) : Parser Expr := do
  let tests := [["NULL"], ["NOT", "NULL"], ["TRUE"], ["NOT", "TRUE"], ["FALSE"],
    ["NOT", "FALSE"], ["UNKNOWN"], ["NOT", "UNKNOWN"]]
  let comparisons := [["DISTINCT", "FROM"], ["NOT", "DISTINCT", "FROM"]]
  match ← firstWords tests with
  | some test => return .phrase (e.wording ++ say (" IS " ++ test))
  | none =>
    match ← firstWords comparisons with
    | some test =>
      return .phrase (e.wording ++ say (" IS " ++ test ++ " ") ++ (← expr n).wording)
    | none =>
      let negated ← word "NOT"
      let form ← oneOf ["NFC", "NFD", "NFKC", "NFKD"]
      if ← word "NORMALIZED" then
        return .phrase (e.wording ++ say (" IS " ++ (if negated then "NOT " else "")
          ++ form.elim "" (· ++ " ") ++ "NORMALIZED"))
      else expected "[NOT] NULL | TRUE | FALSE | DISTINCT | [form] NORMALIZED FROM after IS"

/-- A test for being a member, behind `IN`. -/
def isMember (e : Expr) (negated : Bool) : Parser Expr := do
  let joint := if negated then " NOT IN " else " IN "
  if ← word "UNNEST" then
    let array ← parens (expr n)
    return .phrase (e.wording ++ say (joint ++ "UNNEST(") ++ array.wording ++ say ")")
  else
    needSign "("
    let members ←
      match ← attempt n.query with
      | some q => pure q.wording
      | none =>
        let es ←
          if ← allows Dialect.emptyInList then commaListUntil ")" (expr n)
          else commaList (expr n)
        pure (commas (es.map Expr.wording))
    needSign ")"
    return .phrase (e.wording ++ say (joint ++ "(") ++ members ++ say ")")

def isBetween (e : Expr) (negated : Bool) : Parser Expr := do
  let low ← tighter n .between
  needWord "AND"
  let high ← tighter n .between
  return .phrase (e.wording ++ say (if negated then " NOT BETWEEN " else " BETWEEN ")
    ++ low.wording ++ say " AND " ++ high.wording)

/-- A pattern behind a word that compares with patterns. -/
def isLike (e : Expr) (joint : String) (anyAllowed : Bool) : Parser Expr := do
  let any ← if anyAllowed then word "ANY" else pure false
  let pattern ← tighter n .like
  let escape ← if ← word "ESCAPE" then pure (say " ESCAPE " ++ (← literal)) else pure []
  return .phrase (e.wording ++ say (" " ++ joint ++ (if any then " ANY " else " "))
    ++ pattern.wording ++ escape)

/-- The tests that `NOT` may negate. The words for patterns of a machine may stand together,
and with `NULL`, which says nothing there. -/
def negatable (e : Expr) : Parser Expr := do
  let negated ← word "NOT"
  let joint (s : String) : String := if negated then "NOT " ++ s else s
  let regexp ← word "REGEXP"
  let rlike ← word "RLIKE"
  let null ← if (← read).definingColumn then pure false else word "NULL"
  if regexp || rlike then
    let pattern ← tighter n .like
    return .phrase (e.wording ++ say (" " ++ joint (if regexp then "REGEXP" else "RLIKE") ++ " ")
      ++ pattern.wording)
  else if negated && null then return .phrase (e.wording ++ say " IS NOT NULL")
  else if ← word "IN" then isMember n e negated
  else if ← word "BETWEEN" then isBetween n e negated
  else if ← word "LIKE" then isLike n e (joint "LIKE") true
  else if ← word "ILIKE" then isLike n e (joint "ILIKE") true
  else if ← words ["SIMILAR", "TO"] then isLike n e (joint "SIMILAR TO") false
  else expected "IN or BETWEEN after NOT"

/-- A step of a path into a semi-structured value; `first` says that none came before. -/
def pathStep (first : Bool) : Parser (Option Wording) := do
  let key (joint : String) : Parser (Option Wording) := do
    skip 1
    match ← peek with
    | .word value none _ => skip 1; return some (say (joint ++ value))
    | .word value (some '"') _ | .text .double value =>
      skip 1
      return some (say joint ++ literalWording .double value)
    | _ => expected "variant object key name"
  match ← peek with
  | .sign ":" => if first then key ":" else return none
  | .sign "." => if first then return none else key "."
  | .sign "[" =>
    skip 1
    let e ← expr n
    needSign "]"
    return some (say "[" ++ e.wording ++ say "]")
  | _ => return none

/-- A path into a semi-structured value. -/
def path : Nat → Bool → Parser Wording
  | 0, _ => return []
  | fuel + 1, first => do
    match ← pathStep n first with
    | some w => return w ++ (← path fuel false)
    | none => return []

/-- The right side of a comparison with any or all of some values. -/
def quantified (power : Nat) (quantifier : String) : Parser Wording := do
  if (← peekSign "(") && isKeywordOf queryStarts (← peekAt 1) then
    match ← n.expr power with
    | e@(.phrase [.text "(", .query _, .text ")"]) => return say quantifier ++ e.wording
    | e => return say (quantifier ++ "(") ++ e.wording ++ say ")"
  else
    needSign "("
    let e ← n.expr power
    needSign ")"
    match e with
    | .phrase [.text "(", .query _, .text ")"] => return say quantifier ++ e.wording
    | e => return say (quantifier ++ "(") ++ e.wording ++ say ")"

/-- The operator of a user, spelled with its name. -/
def namedOperator : Parser String := do
  needSign "("
  let parts ← separated (return (← next).display) (sign ".")
  needSign ")"
  return "OPERATOR(" ++ ".".intercalate parts ++ ")"

/-- Joins an operand with the operator ahead, whose power is `power`, and what stands on the
other side of it. -/
def joined (left : Expr) (power : Nat) : Parser Expr := do
  let place ← get
  let d ← dialect
  let t ← next
  let unknown : Parser Expr :=
    throw (.other ("No infix parser for token " ++ t.title) (placeOf place))
  let binary (op : String) : Parser Expr := do
    match ← oneOf ["ANY", "ALL", "SOME"] with
    | some quantifier =>
      let right ← quantified n power quantifier
      if comparisons.contains op then
        return .phrase (left.wording ++ say (" " ++ op ++ " ") ++ right)
      else
        throw (.other ("Expected one of [=, >, <, =>, =<, !=, ~, ~*, !~, !~*, ~~, ~~*, !~~, "
          ++ "!~~*] as comparison operator, found: " ++ op) (placeOf place))
    | none => return .binary left op (← n.expr power)
  match plainOperator? d t with
  | some op => binary op
  | none =>
    match t with
    | .word _ _ k =>
      match k with
      | "DIV" =>
        if d = .mysql then return .binary left k (← expr n) else unknown
      | "REGEXP" | "MATCH" =>
        if d = .sqlite then return .binary left k (← expr n)
        else if k = "REGEXP" then set place; negatable n left
        else unknown
      | "OPERATOR" =>
        if d.isOneOf [.postgres, .generic] then binary (← namedOperator) else unknown
      | "IS" => isTest n left
      | "AT" =>
        needWords ["TIME", "ZONE"]
        return .phrase (left.wording ++ say " AT TIME ZONE " ++ (← n.expr power).wording)
      | "NOT" | "IN" | "BETWEEN" | "LIKE" | "ILIKE" | "SIMILAR" | "RLIKE" =>
        set place
        negatable n left
      | "NOTNULL" =>
        if d.notNullOperator then return .phrase (left.wording ++ say " IS NOT NULL")
        else unknown
      | "MEMBER" =>
        if ← word "OF" then
          let array ← parens (expr n)
          return .phrase (left.wording ++ say " MEMBER OF(" ++ array.wording ++ say ")")
        else expected "OF after MEMBER"
      | _ => unknown
    | .sign "::" => return .phrase (left.wording ++ say "::" ++ (← typeWording n))
    | .sign "!" =>
      if d.factorial then return .phrase (left.wording ++ say "!") else unknown
    | .sign "[" =>
      if d.bracketPaths then pathFrom place else unknown
    | .sign ":" =>
      if d.colonPaths then pathFrom place else unknown
    | _ => unknown
where
  pathFrom (place : List Lexeme) : Parser Expr := do
    set place
    return .phrase (left.wording ++ (← path n (place.length + 1) true))

/-- Joins operators to an operand as long as they bind tighter than `least`. -/
def joinAll (least : Nat) : Nat → Expr → Parser Expr
  | 0, e => return e
  | fuel + 1, e => do
    let power ← powerAhead
    if power ≤ least || (← peekSign ".") then return e
    else joinAll least fuel (← joined n e power)

/-- An expression whose operators bind tighter than `least`. -/
def expression (least : Nat) : Parser Expr := do
  let start ← get
  let fuel := start.length + 1
  let first ← withSteps n start (← operand n fuel)
  joinAll n least fuel first

end EmbeddedSql.Sql.Grammar
