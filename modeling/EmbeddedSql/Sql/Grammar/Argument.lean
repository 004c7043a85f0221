import EmbeddedSql.Sql.Grammar.Literal

/-! Words as names, and the arguments of a function. -/
namespace EmbeddedSql.Sql.Grammar

open Text

/-- A word as a name. -/
def identOf? (l : Lexeme) : Option Ident :=
  match l.token with
  | .word value quote _ => some ⟨value, quote, some (l.first, l.last)⟩
  | .text .single s => some ⟨s, some '\'', none⟩
  | .text .double s => some ⟨s, some '"', none⟩
  | _ => none

def ident : Parser Ident := do
  match ← get with
  | [] => expected "identifier"
  | l :: left =>
    match identOf? l with
    | some i => set left; return i
    | none => expected "identifier"

def identWording : Parser Wording := return (← ident).wording

def identText : Parser String := return plain (← ident).wording

/-- Names in parentheses. -/
def identsInParens : Parser (List Ident) := columnsInParens ident

def wordingInParens (ws : List Wording) : Wording := .text "(" :: commas ws ++ [.text ")"]

def identsWording (is : List Ident) : Wording := wordingInParens (is.map Ident.wording)

/-! ### Arguments -/

variable (n : Nested)

/-- An expression that ends where nothing binds it any more. -/
def expr : Parser Expr := n.expr 0

/-- A key and its value. -/
def keyedValue : Parser Wording := do
  let key ← identWording
  needSign "="
  return key ++ say " = " ++ (← expr n).wording

def keyedValues : Parser Wording := return commas (← commaList (keyedValue n))

/-- An expression or a star, as arguments and items have them. -/
inductive Starred
  | star
  | starOf (qualifier : Name)
  | expr (e : Expr)

def Starred.wording : Starred → Wording
  | star => say "*"
  | starOf q => q.wording ++ say ".*"
  | expr e => e.wording

/-- The words of a name behind its first one, up to a star. -/
def qualifiedStar : Nat → Name → Parser (Option Name)
  | 0, _ => return none
  | fuel + 1, read => do
    if ← sign "." then
      match ← get with
      | l :: left =>
        if l.token = .sign "*" then
          set left
          return some read
        else
          match l.token with
          | .word .. | .text .single _ =>
            set left
            match identOf? l with
            | some i => qualifiedStar fuel (read ++ [.ident i])
            | none => return none
          | _ => expected "an identifier or a '*' after '.'"
      | [] => expected "an identifier or a '*' after '.'"
    else return none

def starred : Parser Starred := do
  let left ← get
  match left with
  | ⟨.sign "*", _, _, _⟩ :: rest => set rest; return .star
  | l :: rest =>
    let begins :=
      match l.token with
      | .word .. | .text .single _ => true
      | _ => false
    match identOf? l with
    | some i =>
      if begins && tokenAt 0 rest = .sign "." then
        set rest
        match ← qualifiedStar (rest.length + 1) [.ident i] with
        | some q => return .starOf q
        | none => set left; return .expr (← expr n)
      else return .expr (← expr n)
    | none => return .expr (← expr n)
  | [] => return .expr (← expr n)

def nameSign : Parser String := do
  if ← word "VALUE" then return "VALUE"
  else
    match ← peek with
    | .sign s =>
      if (← dialect).namesArgument s then skip 1; return s
      else expected "argument operator"
    | _ => expected "argument operator"

def argument : Parser Wording := do
  let byExpr ← allows Dialect.namedArgumentsByExpression
  let named : Parser Wording := do
    let name ← if byExpr then pure (← expr n).wording else identWording
    let joint ← nameSign
    return name ++ say (" " ++ joint ++ " ") ++ (← starred n).wording
  match ← attempt named with
  | some w => return w
  | none => return (← starred n).wording

def commaWording (stop : String) (p : Parser Wording) : Parser Wording :=
  return commas (← commaListUntil stop p)

end EmbeddedSql.Sql.Grammar
