import EmbeddedSql.Sql.Grammar.Basic

/-! How tightly operators bind.

A `Power` is a number only so that two can be compared. `powerAhead` is the power of the
operator that the next token is or starts, and zero if it is none. -/
namespace EmbeddedSql.Sql.Grammar

inductive Strength
  | period | doubleColon | collate | atTimeZone | product | sum | exclusiveOr | ampersand
  | caret | pipe | between | comparison | like | is | other | not | and | or
deriving DecidableEq, Repr

/-- The power of a class of operators. -/
def power (d : Dialect) (s : Strength) : Nat :=
  if d = .postgres then
    match s with
    | .period => 200 | .doubleColon => 140 | .collate => 120 | .atTimeZone => 110
    | .caret => 100 | .product => 90 | .sum => 80 | .exclusiveOr => 75
    | .ampersand => 70 | .pipe => 70 | .other => 70 | .between => 60 | .like => 60
    | .comparison => 50 | .is => 40 | .not => 30 | .and => 20 | .or => 10
  else
    match s with
    | .period => 100 | .doubleColon => 50 | .collate => 42 | .atTimeZone => 41
    | .product => 40 | .sum => 30 | .exclusiveOr => 24 | .ampersand => 23 | .caret => 22
    | .pipe => 21 | .between => 20 | .comparison => 20 | .like => 19 | .is => 17
    | .other => 16 | .not => 15 | .and => 10 | .or => 5

/-- The class of a word as an operator. -/
def wordStrength? (k : String) : Option Strength :=
  match k with
  | "OR" => some .or
  | "AND" => some .and
  | "XOR" => some .exclusiveOr
  | "IS" => some .is
  | "IN" | "BETWEEN" | "OVERLAPS" | "OPERATOR" => some .between
  | "LIKE" | "ILIKE" | "RLIKE" | "REGEXP" | "MATCH" | "SIMILAR" | "MEMBER" => some .like
  | "DIV" => some .product
  | _ => none

/-- The class of what a `NOT` behind an operand belongs to. -/
def negatedStrength? (k : String) : Option Strength :=
  match k with
  | "IN" | "BETWEEN" => some .between
  | "LIKE" | "ILIKE" | "RLIKE" | "REGEXP" | "MATCH" | "SIMILAR" | "MEMBER" => some .like
  | _ => none

def signStrength? (s : String) : Option Strength :=
  match s with
  | "." => some .period
  | ":=" | "=" | "==" | "<" | "<=" | "<>" | ">" | ">=" | "~" | "~*" | "!~" | "!~*" | "~~"
  | "~~*" | "!~~" | "!~~*" | "<=>" => some .comparison
  | "|" | "<->" | "##" | "&&" | "@" | "&<" | "&>" | "<<|" | ">>|" | "|>>" | "|&>" | "&<|"
  | "<^" | ">^" | "?#" | "?-" | "?-|" | "?||" | "?|" | "~=" => some .pipe
  | "^" | "#" | ">>" | "<<" => some .caret
  | "&" => some .ampersand
  | "+" | "-" => some .sum
  | "*" | "/" | "//" | "%" | "||" => some .product
  | "::" | "!" | "[" | "^@" => some .doubleColon
  | "->" | "->>" | "#>" | "#>>" | "@>" | "<@" | "#-" | "@?" | "@@" | "?" | "?&" => some .other
  | _ => none

/-- In Postgres more operators are of the common class, and the caret is a power. -/
def postgresSign? (s : String) : Option Strength :=
  match s with
  | "->" | "->>" | "#" | "<<" | ">>" | "||" | "!" | "&&" | "^@" | "&" | "|" | "#>" | "#>>"
  | "@>" | "<@" | "#-" | "@?" | "@@" | "?" | "?&" | "?|" | "##" | "<->" | "@" | "&<" | "&>"
  | "<<|" | "|>>" | "|&>" | "&<|" | "<^" | ">^" | "?#" | "?-" | "?-|" | "?||" | "~=" =>
    some .other
  | "[" => none
  | s => signStrength? s

/-- The power of the operator ahead. -/
def powerOf (setting : Setting) (left : List Lexeme) : Nat :=
  let d := setting.dialect
  let of (s : Option Strength) : Nat :=
    match s with
    | some s => power d s
    | none => 0
  match tokenAt 0 left with
  | .word _ _ k =>
    match k with
    | "AT" => if startsWith ["TIME", "ZONE"] (left.drop 1) then power d .atTimeZone else 0
    | "NOT" =>
      match tokenAt 1 left with
      | .word _ _ "NULL" => if setting.definingColumn then 0 else power d .is
      | .word _ _ follows => of (negatedStrength? follows)
      | _ => 0
    | "COLLATE" => if d = .postgres && !setting.definingColumn then power d .collate else 0
    | "NOTNULL" =>
      if d.notNullOperator && !setting.definingColumn then power d .is else 0
    | k => of (wordStrength? k)
  | .customOperator _ => power d .other
  | .sign s =>
    if d = .postgres then if s = "[" then 130 else of (postgresSign? s)
    else if s = ":" && d.colonPaths then power d .doubleColon
    else of (signStrength? s)
  | _ => 0

def powerAhead : Parser Nat := fun setting left => .ok (powerOf setting left, left)

/-- The operators between two operands that need no reading of their own. -/
def plainOperator? (d : Dialect) : Token → Option String
  | .customOperator s => some s
  | .word _ _ k =>
    match k with
    | "AND" | "OR" | "XOR" | "OVERLAPS" => some k
    | _ => none
  | .sign s =>
    match s with
    | "<=>" | ":=" | "=" | "<>" | ">" | ">=" | "<" | "<=" | "+" | "-" | "*" | "%" | "||" | "|"
    | "^" | "&" | "/" | "~" | "~*" | "!~" | "!~*" | "~~" | "~~*" | "!~~" | "!~~*" | "->"
    | "->>" | "#>" | "#>>" | "@>" | "<@" | "#-" | "@?" | "@@" | "?" | "?&" | "?|" => some s
    | "==" => some "="
    | "//" => if d.integerDivision then some s else none
    | "<<" | ">>" => if d.shiftOperators then some s else none
    | "#" => if d.isOneOf [.postgres, .redshift] then some s else none
    | "&&" =>
      if d.isOneOf [.postgres, .redshift, .generic] then some s
      else if d.doubleAmpersand then some "AND"
      else none
    | "^@" => if d.isOneOf [.postgres, .generic] then some s else none
    | "@" | "##" | "<->" | "&<" | "&>" | "<<|" | "|>>" | "|&>" | "&<|" | "<^" | ">^" | "?#"
    | "?-" | "?-|" | "?||" | "~=" => if d.geometricOperators then some s else none
    | _ => none
  | _ => none

/-- Comparisons, which may stand before `ANY` and `ALL`. -/
def comparisons : List String := [
  ">", "<", ">=", "<=", "=", "<>", "~", "~*", "!~", "!~*", "~~", "~~*", "!~~", "!~~*"]

end EmbeddedSql.Sql.Grammar
