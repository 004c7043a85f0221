import EmbeddedSql.Text.Position
import EmbeddedSql.Text.Quoted

/-! Tokens of SQL: words, literals and signs, each with the place it was read from. -/
namespace EmbeddedSql.Sql

open Text

/-- How a literal text is delimited. -/
inductive TextKind
  | single | double | tripleSingle | tripleDouble
  | national | escaped | unicode | hex
  | byteSingle | byteDouble | tripleByteSingle | tripleByteDouble
  | rawSingle | rawDouble | tripleRawSingle | tripleRawDouble
deriving DecidableEq, Repr

namespace TextKind

/-- The letters in front of the opening quote. -/
def marker : TextKind → String
  | national => "N"
  | escaped => "E"
  | unicode => "U&"
  | hex => "X"
  | byteSingle | byteDouble | tripleByteSingle | tripleByteDouble => "B"
  | rawSingle | rawDouble | tripleRawSingle | tripleRawDouble => "R"
  | _ => ""

def quotes : TextKind → String
  | double | byteDouble | rawDouble => "\""
  | tripleSingle | tripleByteSingle | tripleRawSingle => "'''"
  | tripleDouble | tripleByteDouble | tripleRawDouble => "\"\"\""
  | _ => "'"

end TextKind

inductive Token
  /-- A word, and what it reads in capitals: empty if the word was quoted, because a quoted
  word is never a keyword. -/
  | word (value : String) (quote : Option Char) (keyword : String)
  | number (digits : String) (long : Bool)
  | text (kind : TextKind) (value : String)
  | dollarText (value : String) (tag : Option String)
  | placeholder (name : String)
  | sign (spelling : String)
  /-- An operator that only its users know. -/
  | customOperator (spelling : String)
  /-- A character that starts no token. -/
  | stray (c : Char)
  | endOfInput
deriving DecidableEq, Repr

/-- The quote that ends what this one began. -/
def closingQuote (c : Char) : Char := if c = '[' then ']' else c

namespace Token

/-- A token as a message shows it. -/
def display : Token → String
  | word value (some q) _ => q.toString ++ value ++ (closingQuote q).toString
  | word value none _ => value
  | number digits long => digits ++ (if long then "L" else "")
  | text kind value => kind.marker ++ kind.quotes ++ value ++ kind.quotes
  | dollarText value (some tag) => "$" ++ tag ++ "$" ++ value ++ "$" ++ tag ++ "$"
  | dollarText value none => "$$" ++ value ++ "$$"
  | placeholder name => name
  | sign spelling => spelling
  | customOperator spelling => spelling
  | stray c => c.toString
  | endOfInput => "EOF"

/-- The names that messages give to signs. -/
def signTitle : String → String
  | "=" => "Eq" | "==" => "DoubleEq" | "<>" => "Neq" | "<" => "Lt" | ">" => "Gt"
  | "<=" => "LtEq" | ">=" => "GtEq" | "<=>" => "Spaceship"
  | "+" => "Plus" | "-" => "Minus" | "*" => "Mul" | "/" => "Div" | "//" => "DuckIntDiv"
  | "%" => "Mod" | "||" => "StringConcat" | "(" => "LParen" | ")" => "RParen"
  | "." => "Period" | ":" => "Colon" | "::" => "DoubleColon" | ":=" => "Assignment"
  | ";" => "SemiColon" | "\\" => "Backslash" | "[" => "LBracket" | "]" => "RBracket"
  | "&" => "Ampersand" | "|" => "Pipe" | "^" => "Caret"
  | "\x7b" => "LBrace" | "\x7d" => "RBrace" | "=>" => "RArrow" | "#" => "Sharp"
  | "~" => "Tilde" | "~*" => "TildeAsterisk" | "!~" => "ExclamationMarkTilde"
  | "!~*" => "ExclamationMarkTildeAsterisk" | "~~" => "DoubleTilde"
  | "~~*" => "DoubleTildeAsterisk" | "!~~" => "ExclamationMarkDoubleTilde"
  | "!~~*" => "ExclamationMarkDoubleTildeAsterisk" | "<<" => "ShiftLeft"
  | ">>" => "ShiftRight" | "&&" => "Overlap" | "!" => "ExclamationMark"
  | "!!" => "DoubleExclamationMark" | "@" => "AtSign" | "^@" => "CaretAt"
  | "|/" => "PGSquareRoot" | "||/" => "PGCubeRoot" | "->" => "Arrow" | "->>" => "LongArrow"
  | "#>" => "HashArrow" | "#>>" => "HashLongArrow" | "@>" => "AtArrow" | "<@" => "ArrowAt"
  | "#-" => "HashMinus" | "@?" => "AtQuestion" | "@@" => "AtAt" | "?" => "Question"
  | "?&" => "QuestionAnd" | "?|" => "QuestionPipe" | "|>" => "VerticalBarRightAngleBracket"
  | s => s

/-- A token as a message about its kind shows it. -/
def title : Token → String
  | word value quote keyword =>
    "Word(Word \x7b value: " ++ quoted value ++ ", quote_style: "
      ++ (match quote with
        | some q => "Some('" ++ q.toString ++ "')"
        | none => "None")
      ++ ", keyword: " ++ (if keyword = "" then "NoKeyword" else keyword) ++ " \x7d)"
  | sign spelling => signTitle spelling
  | customOperator spelling => "CustomBinaryOperator(" ++ quoted spelling ++ ")"
  | t => t.display

end Token

/-- A token and where it stands: its first place and the place behind it. -/
structure Lexeme where
  token : Token
  first : Position
  last : Position
  /-- The blanks and comments between it and the next token. -/
  blanks : List String
deriving DecidableEq, Repr

end EmbeddedSql.Sql
