import EmbeddedSql.Sql.Grammar.Basic
import EmbeddedSql.Sql.Keyword
import EmbeddedSql.Sql.Layout

/-! Literal values and their canonical spelling. -/
namespace EmbeddedSql.Sql.Grammar

open Text

/-- A number in hexadecimal, with at least `width` digits, in capitals. -/
def hexUpper (width n : Nat) : List Char :=
  let digits := (hexDigits n).map Char.toUpper
  List.replicate (width - digits.length) '0' ++ digits

/-- How an escaped literal spells a character. -/
def escapeChar : Char → List Char
  | '\'' => ['\\', '\'']
  | '\\' => ['\\', '\\']
  | '\n' => ['\\', 'n']
  | '\t' => ['\\', 't']
  | '\r' => ['\\', 'r']
  | c => [c]

/-- How a literal of code points spells a character. -/
def escapeCodePoint : Char → List Char
  | '\'' => ['\'', '\'']
  | '\\' => ['\\', '\\']
  | c =>
    if c.toNat < 128 then [c]
    else if c.toNat ≤ 0xffff then '\\' :: hexUpper 4 c.toNat
    else '\\' :: '+' :: hexUpper 6 c.toNat

/-- What stands between the quotes of a literal. -/
def literalBody (kind : TextKind) (value : String) : String :=
  match kind with
  | .single => String.ofList (doubleQuotes '\'' false value.toList)
  | .double => String.ofList (doubleQuotes '"' false value.toList)
  | .escaped => String.ofList (value.toList.flatMap escapeChar)
  | .unicode => String.ofList (value.toList.flatMap escapeCodePoint)
  | _ => value

def literalWording (kind : TextKind) (value : String) : Wording :=
  [.text (kind.marker ++ kind.quotes), .text (literalBody kind value), .text kind.quotes]

/-- A text in single quotes. -/
def singleQuoted (value : String) : Wording := literalWording .single value

/-- The text of a wording that holds no node. -/
def plain (w : Wording) : String := String.ofList (plainText 0 w)

/-- The literals that follow another one directly and belong to it. -/
def adjacentText : Parser String := do
  if ← allows Dialect.adjacentStrings then
    let more ← many do
      match ← peek with
      | .text .single s | .text .double s => skip 1; return some s
      | _ => return none
    return String.join more
  else return ""

def literal : Parser Wording := do
  let left ← get
  match ← next with
  | .word value quote keyword =>
    if quote = some '"' then return literalWording .double value
    else if quote = some '\'' then return literalWording .single value
    else if quote.isSome then expectedAt "A value?" left
    else
      match keyword with
      | "TRUE" =>
        if ← allows Dialect.booleanLiterals then return [.text "true"]
        else expectedAt "a concrete value" left
      | "FALSE" =>
        if ← allows Dialect.booleanLiterals then return [.text "false"]
        else expectedAt "a concrete value" left
      | "NULL" => return [.text "NULL"]
      | _ => expectedAt "a concrete value" left
  | .number digits long => return [.text (digits ++ if long then "L" else "")]
  | .text .single s => return literalWording .single (s ++ (← adjacentText))
  | .text .double s => return literalWording .double (s ++ (← adjacentText))
  | .text kind s => return literalWording kind s
  | t@(.dollarText ..) => return [.text t.display]
  | .placeholder s => return [.text s]
  | .sign s => if s = ":" || s = "@" then placeholder s left else expectedAt "a value" left
  | _ => expectedAt "a value" left
where
  /-- A name or a number directly behind a sign, which `left` starts with. -/
  placeholder (s : String) (left : List Lexeme) : Parser Wording := do
    let behind ← get
    match left with
    | ⟨_, _, last, blank :: _⟩ :: _ =>
      throw (.expected "placeholder" (.customOperator blank) (some last))
    | _ :: _ =>
      match tokenAt 0 behind with
      | .word value .. => skip 1; return [.text (s ++ value)]
      | .number digits false => skip 1; return [.text (s ++ digits)]
      | _ => expectedAt "placeholder" behind
    | [] => expectedAt "placeholder" behind

/-! ### Numbers -/

/-- Why digits do not write a number of some width. -/
inductive NumberFault
  | invalidDigit | tooLarge

def NumberFault.message : NumberFault → String
  | invalidDigit => "invalid digit found in string"
  | tooLarge => "number too large to fit in target type"

/-- The number below `limit` that digits write behind those of `read`. Of two faults the first
one counts. -/
def numberBelow (limit read : Nat) : List Char → Except NumberFault Nat
  | [] => .ok read
  | c :: cs =>
    if c.isDigit then
      let read := read * 10 + (c.toNat - '0'.toNat)
      if read < limit then numberBelow limit read cs else .error .tooLarge
    else .error .invalidDigit

/-- The number below `limit` that digits write; `width` is the name of the numbers below it. -/
def numberOf (width : String) (limit : Nat) (digits : String) (place : Option Position) :
    Parser Nat :=
  match numberBelow limit 0 digits.toList with
  | .ok value => return value
  | .error fault =>
    throw (.other ("Could not parse '" ++ digits ++ "' as " ++ width ++ ": " ++ fault.message)
      place)

/-- A whole number without a sign. -/
def wholeNumber : Parser String := do
  match ← get with
  | ⟨.number digits _, first, _, _⟩ :: left =>
    set left
    return toString (← numberOf "u64" UInt64.size digits first)
  | _ => expected "literal int"

/-- A whole number with a sign. -/
def signedNumber : Parser String := do
  let negative ← sign "-"
  if !negative then discard (sign "+")
  match ← get with
  | ⟨.number digits _, first, _, _⟩ :: left =>
    set left
    let value ← numberOf "i64" (UInt64.size / 2) digits first
    return if negative && value ≠ 0 then "-" ++ toString value else toString value
  | _ => expected "number"

/-- A number as it is written, or what stands for one. -/
def numberLiteral : Parser Wording := do
  let left ← get
  let value ← literal
  match tokenAt 0 left with
  | .number .. | .placeholder _ | .sign _ => return value
  | _ => expectedAt "literal number" left

/-- A number as it is written, with its sign. -/
def signedLiteral : Parser Wording := do
  if ← sign "+" then return say "+" ++ (← numberLiteral)
  else if ← sign "-" then return say "-" ++ (← numberLiteral)
  else numberLiteral

/-! ### Texts -/

/-- A text in quotes, or a word without a meaning of its own. -/
def literalText : Parser String := do
  match ← peek with
  | .text .single s | .text .double s | .text .unicode s => skip 1; return s
  | .text .escaped s =>
    if ← dialectIn [.postgres, .generic] then skip 1; return s
    else expected "literal string"
  | .word value _ keyword =>
    if isKnownWord keyword then expected "literal string" else skip 1; return value
  | _ => expected "literal string"

end EmbeddedSql.Sql.Grammar
