/-! Cutting a text at a character, and its lines. -/
namespace EmbeddedSql.Text

/-- The parts of a text between the occurrences of a character: one more than there are
occurrences. -/
def cut (separator : Char) : List Char → List (List Char)
  | [] => [[]]
  | c :: cs =>
    if c = separator then [] :: cut separator cs
    else
      match cut separator cs with
      | first :: rest => (c :: first) :: rest
      | [] => [[c]]

/-- Parts with a character between them. -/
def join (between : List Char) (parts : List (List Char)) : List Char :=
  between.intercalate parts

/-- A text without this character at its end. -/
def dropLast? (c : Char) (cs : List Char) : Option (List Char) :=
  if cs.getLast? = some c then some cs.dropLast else none

/-- The lines that line feeds end, without the carriage return in front of the line feed. What
stands behind the last line feed is a line if it is not empty. -/
def linesOf (cs : List Char) : List (List Char) :=
  let parts := cut '\n' cs
  let ended := parts.dropLast.map fun line => (dropLast? '\r' line).getD line
  match parts.getLast? with
  | some (c :: rest) => ended ++ [c :: rest]
  | _ => ended

end EmbeddedSql.Text
