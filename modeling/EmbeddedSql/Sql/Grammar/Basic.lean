import EmbeddedSql.Sql.Lexer
import EmbeddedSql.Sql.Syntax

/-! Reading a list of tokens.

A `Parser` looks at the tokens that are left and takes some of them. Nothing is taken by a
parser that fails, so a choice between two readings is `attempt` and then the other one.
Every loop is bounded by the number of tokens left, and the three readings that nest
without bound, statement, query and expression, are bounded by the depth that is left. -/
namespace EmbeddedSql.Sql

open Text

/-- Why a text is not a statement. -/
inductive SyntaxError
  | lexical (e : LexicalError)
  | expected (what : String) (found : Token) (place : Option Position)
  | other (text : String) (place : Option Position)
  /-- Too many statements, queries and expressions inside each other. -/
  | tooDeep
deriving Repr

def placeText : Option Position → String
  | some p => " at Line: " ++ toString p.line ++ ", Column: " ++ toString p.column
  | none => ""

def SyntaxError.message : SyntaxError → String
  | lexical e => e.fault.message ++ placeText (some e.place)
  | expected what found place =>
    "Expected: " ++ what ++ ", found: " ++ found.display ++ placeText place
  | other text place => text ++ placeText place
  | tooDeep => "recursion limit exceeded"

namespace Grammar

/-- What a reading depends on besides the tokens. -/
structure Setting where
  dialect : Dialect
  /-- Inside `CONNECT BY`, where `PRIOR` is an operator. -/
  connecting : Bool
  /-- Inside the definition of a column, where `NOT NULL` is no operator. -/
  definingColumn : Bool

abbrev Parser := ReaderT Setting (StateT (List Lexeme) (Except SyntaxError))

/-- The readings that nest: an expression whose operators bind tighter than a power, a
query, a statement, and the definition of a column. -/
structure Nested where
  expr : Nat → Parser Expr
  query : Parser Query
  statement : Parser Statement
  column : Parser Wording

def dialect : Parser Dialect := return (← read).dialect

/-- Whether a construct belongs to the dialect. -/
def allows (feature : Dialect → Bool) : Parser Bool := return feature (← read).dialect

def dialectIn (ds : List Dialect) : Parser Bool := return ds.contains (← read).dialect

/-! ### Tokens -/

def tokenAt (n : Nat) (left : List Lexeme) : Token :=
  match left[n]? with
  | some l => l.token
  | none => .endOfInput

/-- The token `n` places ahead. -/
def peekAt (n : Nat) : Parser Token := return tokenAt n (← get)

def peek : Parser Token := peekAt 0

/-- Takes the next token. -/
def next : Parser Token := do
  match ← get with
  | [] => return .endOfInput
  | l :: left => set left; return l.token

def skip (n : Nat) : Parser Unit := modify (List.drop n)

def placeOf : List Lexeme → Option Position
  | [] => none
  | l :: _ => some l.first

/-- Fails because something else was needed where the next token stands. -/
def expected {α : Type} (what : String) : Parser α := do
  let left ← get
  throw (.expected what (tokenAt 0 left) (placeOf left))

/-- Fails because something else was needed where `left` starts. -/
def expectedAt {α : Type} (what : String) (left : List Lexeme) : Parser α :=
  throw (.expected what (tokenAt 0 left) (placeOf left))

/-- Fails with a text and the place of the next token. -/
def failHere {α : Type} (text : String) : Parser α := do throw (.other text (placeOf (← get)))

/-- Tries a reading. One that nests too deep is not tried again in another way. -/
def attempt {α : Type} (p : Parser α) : Parser (Option α) := fun setting left =>
  match p setting left with
  | .ok (a, rest) => .ok (some a, rest)
  | .error .tooDeep => .error .tooDeep
  | .error _ => .ok (none, left)

/-- What a reading is told to have needed when it had taken the token that was no such thing. -/
def needsOfTaken : List String := [
  "an expression", "identifier", "a value", "a concrete value", "a data type name",
  "literal string", "literal int", "date/time field"]

/-- What is left of `left` where a reading of it failed. -/
def leftAtFault (left : List Lexeme) : SyntaxError → List Lexeme
  | .expected what _ (some place) =>
    let behind := left.dropWhile fun l => l.first ≠ place
    if needsOfTaken.contains what then behind.drop 1 else behind
  | .other _ (some place) => left.dropWhile fun l => l.first ≠ place
  | _ => []

/-- Looks ahead without taking anything. -/
def ahead {α : Type} (p : Parser α) : Parser α := do
  let left ← get
  let a ← p
  set left
  return a

/-! ### Words -/

def isKeyword (k : String) : Token → Bool
  | .word _ _ keyword => keyword = k
  | _ => false

def isKeywordOf (ks : List String) : Token → Bool
  | .word _ _ keyword => ks.contains keyword
  | _ => false

def peekIs (k : String) : Parser Bool := return isKeyword k (← peek)

def peekIsOf (ks : List String) : Parser Bool := return isKeywordOf ks (← peek)

def peekIsAt (n : Nat) (k : String) : Parser Bool := return isKeyword k (← peekAt n)

/-- Takes a keyword if it is next. -/
def word (k : String) : Parser Bool := do
  if ← peekIs k then skip 1; return true
  else return false

def startsWith (ks : List String) (left : List Lexeme) : Bool :=
  match ks, left with
  | [], _ => true
  | k :: ks, l :: left => isKeyword k l.token && startsWith ks left
  | _ :: _, [] => false

/-- Takes keywords if all of them are next. -/
def words (ks : List String) : Parser Bool := do
  if startsWith ks (← get) then skip ks.length; return true
  else return false

def peekWords (ks : List String) : Parser Bool := return startsWith ks (← get)

/-- Takes one of some keywords. -/
def oneOf (ks : List String) : Parser (Option String) := do
  match ← peek with
  | .word _ _ keyword =>
    if ks.contains keyword then skip 1; return some keyword
    else return none
  | _ => return none

def needWord (k : String) : Parser Unit := do
  if ← word k then return () else expected k

def needWords : List String → Parser Unit
  | [] => return ()
  | k :: ks => do needWord k; needWords ks

def needOneOf (ks : List String) : Parser String := do
  match ← oneOf ks with
  | some k => return k
  | none => expected ("one of " ++ " or ".intercalate ks)

/-! ### Signs -/

def peekSign (s : String) : Parser Bool := return decide ((← peek) = .sign s)

def peekSignAt (n : Nat) (s : String) : Parser Bool := return decide ((← peekAt n) = .sign s)

/-- Takes a sign if it is next. -/
def sign (s : String) : Parser Bool := do
  if ← peekSign s then skip 1; return true
  else return false

def needSign (s : String) : Parser Unit := do
  if ← sign s then return () else expected s

def startsWithSigns (signs : List String) (left : List Lexeme) : Bool :=
  match signs, left with
  | [], _ => true
  | s :: signs, l :: left => l.token = .sign s && startsWithSigns signs left
  | _ :: _, [] => false

/-- Takes signs if all of them are next. -/
def signs (ss : List String) : Parser Bool := do
  if startsWithSigns ss (← get) then skip ss.length; return true
  else return false

/-! ### Lists -/

/-- Repeats a reading, at most `fuel` times, as long as `more` says so. -/
def repeatWhile {α : Type} (p : Parser α) (more : Parser Bool) : Nat → Parser (List α)
  | 0 => return []
  | fuel + 1 => do
    let a ← p
    if ← more then return a :: (← repeatWhile p more fuel)
    else return [a]

/-- A bound for loops that take at least one token each time. -/
def bound : Parser Nat := return (← get).length + 1

def separated {α : Type} (p : Parser α) (more : Parser Bool) : Parser (List α) := do
  repeatWhile p more (← bound)

/-- Repeats a reading until it gives nothing. -/
def repeatSome {α : Type} (p : Parser (Option α)) : Nat → Parser (List α)
  | 0 => return []
  | fuel + 1 => do
    match ← p with
    | some a => return a :: (← repeatSome p fuel)
    | none => return []

def many {α : Type} (p : Parser (Option α)) : Parser (List α) := do
  repeatSome p (← bound)

/-- Words that end a list with a comma behind its last member, as no name of a column may
be one of them. -/
def reservedForColumns : List String := [
  "WITH", "EXPLAIN", "ANALYZE", "SELECT", "WHERE", "GROUP", "SORT", "HAVING", "ORDER", "TOP",
  "LATERAL", "VIEW", "LIMIT", "OFFSET", "FETCH", "UNION", "EXCEPT", "EXCLUDE", "INTERSECT",
  "MINUS", "CLUSTER", "DISTRIBUTE", "RETURNING", "VALUES", "FROM", "INTO", "END"]

/-- Takes a comma and tells whether the list goes on behind it. With `trailing`, a comma may
stand behind the last member: in front of the end of something, or of a keyword of which `ends`
says so, which also sees what follows it. -/
def listGoesOn (trailing : Bool) (ends : String → List Lexeme → Bool) : Parser Bool := do
  if ← sign "," then
    if trailing then
      match ← get with
      | [] => return false
      | l :: left =>
        match l.token with
        | .sign s => return !([")", ";", "]", "\x7d"].contains s)
        | .word _ _ keyword => return !ends keyword left
        | _ => return true
    else return true
  else return false

def commaList {α : Type} (p : Parser α) : Parser (List α) := do
  let trailing ← allows Dialect.trailingCommas
  separated p (listGoesOn trailing fun keyword _ => reservedForColumns.contains keyword)

/-- A list that may be empty; `stop` is the sign behind it. -/
def commaListUntil {α : Type} (stop : String) (p : Parser α) : Parser (List α) := do
  if ← peekSign stop then return []
  else if (← allows Dialect.trailingCommas) && (← peekSign ",") && (← peekSignAt 1 stop) then
    skip 1
    return []
  else commaList p

def parens {α : Type} (p : Parser α) : Parser α := do
  needSign "("
  let a ← p
  needSign ")"
  return a

/-- What stands in parentheses; of its fault nothing is said if the closing parenthesis is missing
where it shows. -/
def parensFirst {α : Type} (p : Parser α) : Parser α := do
  needSign "("
  fun setting left =>
    match p setting left with
    | .ok (a, rest) => ((do needSign ")"; return a) : Parser α) setting rest
    | .error .tooDeep => .error .tooDeep
    | .error e =>
      match needSign ")" setting (leftAtFault left e) with
      | .ok _ => .error e
      | .error missing => .error missing

/-- A list of columns in parentheses. -/
def columnsInParens {α : Type} (p : Parser α) : Parser (List α) := do
  if ← sign "(" then
    let columns ← commaList p
    needSign ")"
    return columns
  else expected "a list of columns in parentheses"

/-- A reading behind a keyword, if the keyword is there. -/
def afterWord {α : Type} (k : String) (p : Parser α) : Parser (Option α) := do
  if ← word k then return some (← p) else return none

def afterWords {α : Type} (ks : List String) (p : Parser α) : Parser (Option α) := do
  if ← words ks then return some (← p) else return none

end Grammar

end EmbeddedSql.Sql
